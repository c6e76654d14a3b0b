import ScriptCensus.FileSystem.Entry
import ScriptCensus.FileSystem.Path

/-!
# File systems

A `FileSystem` is a tree of entries, with what the files of several names hold, and the location from
which relative paths start. `FileSystem.walk` finds what a path names, following links as it goes; the
operations below it read and change the tree.
-/

namespace ScriptCensus

/-- Why a file operation fails. -/
inductive FileError where
  | notFound
  | notADirectory
  | isADirectory
  | alreadyExists
  | nameTooLong
  | linkLoop
  | busy
  | nulInName
  | notText
  | invalidArgument
  /-- An error that does not follow from the tree of entries, as it is worded. -/
  | other (wording : String)
deriving Repr, BEq, DecidableEq, Inhabited

/-- The wording of an error. -/
def FileError.message : FileError → String
  | notFound => "No such file or directory (os error 2)"
  | notADirectory => "Not a directory (os error 20)"
  | isADirectory => "Is a directory (os error 21)"
  | alreadyExists => "File exists (os error 17)"
  | nameTooLong => "File name too long (os error 36)"
  | linkLoop => "Too many levels of symbolic links (os error 40)"
  | busy => "Device or resource busy (os error 16)"
  | nulInName => "file name contained an unexpected NUL byte"
  | notText => "stream did not contain valid UTF-8"
  | invalidArgument => "Invalid argument (os error 22)"
  | other wording => wording

/-- The outcome of an operation that may be refused although the tree of entries allows it. -/
def FileError.unlessRefused {α : Type} (refused? : Option FileError) :
    Except FileError α → Except FileError α
  | .error e => .error e
  | .ok a =>
    match refused? with
    | some e => .error e
    | none => .ok a

/-- A tree of entries and a place in it. -/
structure FileSystem where
  top : Entry
  /-- The location from which relative paths start. -/
  here : List String
  /-- What the files that have several names hold, by their numbers. -/
  sharedContent : Nat → ByteArray := fun _ => .empty
deriving Inhabited

/-- What a path leads to. -/
inductive Destination where
  /-- The entry at a location. -/
  | existing (location : List String)
  /-- A name that is free in the directory at a location; the path may end in a slash. -/
  | free (directory : List String) (name : String) (slashed : Bool)
deriving Repr, BEq, DecidableEq, Inhabited

namespace FileSystem

/-- The most bytes that a name may have. -/
def maxName : Nat := 255

/-- The most bytes that a path may have. -/
def maxPath : Nat := 4095

/-- The most links that are followed on the way. -/
def maxLinks : Nat := 40

/-- The pieces of a path between its slashes, behind a slash at its front. -/
def piecesOf (text : String) : List String :=
  match splitAt '/' text.toList with
  | [] :: rest => if rest.isEmpty then [""] else rest.map String.ofList
  | pieces => pieces.map String.ofList

/-- Where a path starts. -/
def startOf (fs : FileSystem) (text : String) : List String :=
  if (⟨text⟩ : Path).isAbsolute then [] else fs.here

/-- Follows pieces of a path from a location. A link at the end is followed only if `follow` says so.
At most `links` links are followed. -/
def walk (fs : FileSystem) (follow : Bool) (links : Nat) (location : List String)
    (pieces : List String) : Except FileError Destination :=
  match pieces with
  | [] => .ok (.existing location)
  | piece :: rest =>
    match fs.top.at? location with
    | some (.directory entries) =>
      if piece = "" || piece = "." then walk fs follow links location rest
      else if piece = ".." then walk fs follow links location.dropLast rest
      else if piece.utf8ByteSize > maxName then .error .nameTooLong
      else
        match entries.lookup piece with
        | none =>
          if rest.all (· = "") then .ok (.free location piece (!rest.isEmpty)) else .error .notFound
        | some (.link target) =>
          if rest.isEmpty && !follow then .ok (.existing (location ++ [piece]))
          else
            match links with
            | 0 => .error .linkLoop
            | fewer + 1 =>
              let start := if (⟨target⟩ : Path).isAbsolute then [] else location
              walk fs follow fewer start (piecesOf target ++ rest)
        | some _ => walk fs follow links (location ++ [piece]) rest
    | _ => .error .notADirectory
termination_by (links, pieces.length)

/-- Finds what a path names. -/
def find (fs : FileSystem) (follow : Bool) (p : Path) : Except FileError Destination :=
  if p.text.toList.contains '\x00' then .error .nulInName
  else if p.text.isEmpty then .error .notFound
  else if p.text.utf8ByteSize > maxPath then .error .nameTooLong
  else fs.walk follow maxLinks (fs.startOf p.text) (piecesOf p.text)

/-! ## Looking -/

/-- The entry that a path leads to. -/
def entry (fs : FileSystem) (p : Path) : Except FileError Entry :=
  match fs.find true p with
  | .error e => .error e
  | .ok (.free ..) => .error .notFound
  | .ok (.existing location) =>
    match fs.top.at? location with
    | some e => .ok e
    | none => .error .notFound

/-- Whether a path leads to a file. -/
def isFile (fs : FileSystem) (p : Path) : Bool :=
  match fs.entry p with
  | .ok e => e.isFile
  | .error _ => false

/-- Whether a path leads to a directory. -/
def isDirectory (fs : FileSystem) (p : Path) : Bool :=
  match fs.entry p with
  | .ok e => e.isDirectory
  | .error _ => false

/-- Whether a path leads to anything. -/
def leadsSomewhere (fs : FileSystem) (p : Path) : Bool :=
  match fs.entry p with
  | .ok _ => true
  | .error _ => false

/-- The content of a file. -/
def read (fs : FileSystem) (p : Path) : Except FileError ByteArray :=
  match fs.entry p with
  | .error e => .error e
  | .ok (.file content) => .ok content
  | .ok (.shared number) => .ok (fs.sharedContent number)
  | .ok (.directory _) => .error .isADirectory
  | .ok _ => .ok ByteArray.empty

/-- The content of a file as text, which it has to be. -/
def readText (fs : FileSystem) (p : Path) : Except FileError String :=
  match fs.read p with
  | .error e => .error e
  | .ok content =>
    match String.fromUTF8? content with
    | some s => .ok s
    | none => .error .notText

/-- The absolute path of a location. -/
def pathOf (location : List String) : Path :=
  ⟨"/" ++ "/".intercalate location⟩

/-- The absolute path of what a path leads to, without links. -/
def canonical (fs : FileSystem) (p : Path) : Except FileError Path :=
  match fs.find true p with
  | .error e => .error e
  | .ok (.free ..) => .error .notFound
  | .ok (.existing location) =>
    if (pathOf location).text.utf8ByteSize > maxPath then .error .nameTooLong
    else .ok (pathOf location)

/-! ## Changing -/

/-- Changes the entries of the directory at a location. -/
def alter (fs : FileSystem) (location : List String)
    (change : List (String × Entry) → List (String × Entry)) : FileSystem :=
  { fs with top := fs.top.alter change location }

/-- Puts an entry at a location. -/
def putAt (fs : FileSystem) (location : List String) (e : Entry) : FileSystem :=
  match location.getLast? with
  | some name => fs.alter location.dropLast (Entry.put name e)
  | none => fs

/-- Takes away the entry at a location. -/
def dropAt (fs : FileSystem) (location : List String) : FileSystem :=
  match location.getLast? with
  | some name => fs.alter location.dropLast (Entry.drop name)
  | none => fs

/-- Changes what a file of several names holds, whichever name it is asked by. -/
def setShared (fs : FileSystem) (number : Nat) (content : ByteArray) : FileSystem :=
  { fs with sharedContent := fun n => if n = number then content else fs.sharedContent n }

/-- Makes a directory. -/
def makeDirectory (fs : FileSystem) (p : Path) : Except FileError FileSystem :=
  match fs.find false p with
  | .error e => .error e
  | .ok (.existing _) => .error .alreadyExists
  | .ok (.free directory name _) => .ok (fs.alter directory (Entry.put name (.directory [])))

/-- Makes a directory unless it is there already. -/
def ensureDirectory (fs : FileSystem) (p : Path) (refused? : Path → Option FileError) :
    Except FileError FileSystem :=
  match FileError.unlessRefused (refused? p) (fs.makeDirectory p) with
  | .ok changed => .ok changed
  | .error e => if fs.isDirectory p then .ok fs else .error e

/-- Makes the directories of a list that are missing, the last one first. Those that were made stay if
a later one cannot be made. -/
def makeMissing (refused? : Path → Option FileError) (fs : FileSystem) :
    List Path → Except FileError Unit × FileSystem
  | [] => (.ok (), fs)
  | p :: above =>
    match fs.ensureDirectory p refused? with
    | .ok changed => (.ok (), changed)
    | .error .notFound =>
      match makeMissing refused? fs above with
      | (.error e, changed) => (.error e, changed)
      | (.ok (), changed) =>
        match changed.ensureDirectory p refused? with
        | .ok more => (.ok (), more)
        | .error e => (.error e, changed)
    | .error e => (.error e, fs)

/-- Makes a directory and all missing ones above it. Some may be refused. -/
def makeDirectories (fs : FileSystem) (p : Path)
    (refused? : Path → Option FileError := fun _ => none) : Except FileError Unit × FileSystem :=
  makeMissing refused? fs p.ancestors

/-- Writes a file, in place of the one that is there. -/
def write (fs : FileSystem) (p : Path) (content : ByteArray) : Except FileError FileSystem :=
  match fs.find true p with
  | .error e => .error e
  | .ok (.free directory name slashed) =>
    if slashed then .error .isADirectory
    else .ok (fs.alter directory (Entry.put name (.file content)))
  | .ok (.existing location) =>
    match fs.top.at? location with
    | some (.directory _) => .error .isADirectory
    | some (.file _) => .ok (fs.putAt location (.file content))
    | some (.shared number) => .ok (fs.setShared number content)
    | _ => .ok fs

/-- Makes sure of what was written, which only files and directories are capable of. -/
def sync (fs : FileSystem) (p : Path) : Except FileError Unit :=
  match fs.entry p with
  | .error e => .error e
  | .ok .device => .error .invalidArgument
  | .ok _ => .ok ()

/-- Takes away a file. -/
def remove (fs : FileSystem) (p : Path) : Except FileError FileSystem :=
  match fs.find false p with
  | .error e => .error e
  | .ok (.free ..) => .error .notFound
  | .ok (.existing location) =>
    match fs.top.at? location with
    | some (.directory _) => .error .isADirectory
    | _ => .ok (fs.dropAt location)

/-- Whether a path ends in a slash. -/
def endsInSlash (p : Path) : Bool :=
  p.text.toList.getLast? == some '/'

/-- Whether the last piece of a path is dots. -/
def endsInDots (p : Path) : Bool :=
  match ((splitAt '/' p.text.toList).reverse.dropWhile (·.isEmpty)).head? with
  | some piece => piece == ['.'] || piece == ['.', '.']
  | none => true

/-- Gives a file another path; what is there is replaced, unless it is a directory. Nothing happens if
it is the same file by another name. -/
def rename (fs : FileSystem) (source target : Path) : Except FileError FileSystem :=
  match fs.find false source, fs.find false target with
  | .error e, _ => .error e
  | _, .error e => .error e
  | .ok (.free ..), _ => .error .notFound
  | .ok (.existing location), .ok destination =>
    match fs.top.at? location with
    | none => .error .notFound
    | some e =>
      if endsInDots target then .error .busy
      else if endsInSlash target then .error .notADirectory
      else
        match destination with
        | .free directory name _ =>
          .ok ((fs.dropAt location).alter directory (Entry.put name e))
        | .existing place =>
          match fs.top.at? place with
          | some (.directory _) => .error .isADirectory
          | old? =>
            if place = location || old?.any e.isSameFile then .ok fs
            else .ok ((fs.dropAt location).putAt place e)

end FileSystem

end ScriptCensus
