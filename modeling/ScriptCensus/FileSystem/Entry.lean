/-!
# Entries of a file system

A file system is a tree of directories. An `Entry` is one of its nodes; a location is the list of
names that leads to it from the top. A file may have several names. Then what it holds does not stand
in the tree, where it would have to stand several times, but is kept under a number.
-/

namespace ScriptCensus

/-- What a name in a directory stands for. -/
inductive Entry where
  /-- A file that has no other name. -/
  | file (content : ByteArray)
  /-- One of the names of a file that has several. All names of a file have its number. -/
  | shared (number : Nat)
  | directory (entries : List (String × Entry))
  /-- Another path to look at instead. -/
  | link (target : String)
  /-- Something that is neither file nor directory. -/
  | device
deriving Inhabited

namespace Entry

/-- Whether an entry is a file. -/
def isFile : Entry → Bool
  | file _ => true
  | shared _ => true
  | _ => false

/-- Whether two entries are names of one file. -/
def isSameFile : Entry → Entry → Bool
  | shared m, shared n => m == n
  | _, _ => false

/-- Whether an entry is a directory. -/
def isDirectory : Entry → Bool
  | directory _ => true
  | _ => false

/-- The entry of a name in an entry that is a directory. -/
def child? (name : String) : Entry → Option Entry
  | directory entries => entries.lookup name
  | _ => none

/-- The entry at a location below an entry. -/
def at? (e : Entry) : List String → Option Entry
  | [] => some e
  | name :: rest =>
    match e.child? name with
    | some c => c.at? rest
    | none => none

/-- Puts an entry under a name, in place of the one that is there. -/
def put (name : String) (e : Entry) : List (String × Entry) → List (String × Entry)
  | [] => [(name, e)]
  | (n, old) :: rest => if n = name then (name, e) :: rest else (n, old) :: put name e rest

/-- Takes away the entry of a name. -/
def drop (name : String) (entries : List (String × Entry)) : List (String × Entry) :=
  entries.filter (·.1 != name)

/-- Changes the entries of the directory at a location. -/
def alter (change : List (String × Entry) → List (String × Entry)) : List String → Entry → Entry
  | [], directory entries => directory (change entries)
  | name :: rest, directory entries =>
    match entries.lookup name with
    | some c => directory (put name (alter change rest c) entries)
    | none => directory entries
  | _, e => e

end Entry

end ScriptCensus
