import ScriptCensus.FileSystem.Path
import ScriptCensus.Glob.Match
import ScriptCensus.Glob.Parse
import ScriptCensus.Text.Blank

/-!
# Entries of ignore files

A line of an ignore file is a glob with a few marks around it: `!` takes paths back in, a slash at the
end restricts the entry to directories, and a glob without any other slash may match at any depth.
`IgnoreList` asks a list of such entries about a path; the last one that matches decides.
-/

namespace ScriptCensus

/-- A line of an ignore file that carries a rule. -/
structure IgnoreEntry where
  glob : List GlobToken
  /-- Paths that match are taken back in. -/
  negated : Bool
  /-- Only directories match. -/
  onlyDirectories : Bool
deriving Repr, Inhabited

namespace IgnoreEntry

/-- Whether characters start with others. -/
def startsWith (start cs : List Char) : Bool :=
  start.isPrefixOf cs

/-- Whether characters end with others. -/
def endsWith (suffix cs : List Char) : Bool :=
  suffix.isSuffixOf cs

/-- The marks at the front of a line: whether it is negated, whether it is bound to the top, and the
rest. -/
def readFront (cs : List Char) : Bool × Bool × List Char :=
  match cs with
  | '\\' :: '!' :: rest => (false, false, '!' :: rest)
  | '\\' :: '#' :: rest => (false, false, '#' :: rest)
  | '!' :: '/' :: rest => (true, true, rest)
  | '!' :: rest => (true, false, rest)
  | '/' :: rest => (false, true, rest)
  | cs => (false, false, cs)

/-- The mark at the end of a line: whether only directories match, and what is before it. -/
def readEnd (cs : List Char) : Bool × List Char :=
  match cs.reverse with
  | '/' :: '\\' :: before => (true, before.reverse)
  | '/' :: before => (true, before.reverse)
  | _ => (false, cs)

/-- The glob of a line: without a slash it matches at any depth, and two stars at the end match what
is inside a directory but not the directory. -/
def globText (bound : Bool) (cs : List Char) : List Char :=
  let anyDepth := "**/".toList
  let deep := if !bound && !cs.contains '/' && !startsWith anyDepth cs && cs != "**".toList
    then anyDepth ++ cs else cs
  if endsWith "/**".toList deep then deep ++ "/*".toList else deep

/-- Reads a line. Comments and empty lines carry no rule. -/
def ofLine? (line : String) : Except GlobError (Option IgnoreEntry) :=
  let cs := line.toList
  if startsWith ['#'] cs then .ok none
  else
    let cs := if endsWith ['\\', ' '] cs then cs else dropEndWhile isBlank cs
    if cs.isEmpty then .ok none
    else
      let (negated, bound, cs) := readFront cs
      let (onlyDirectories, cs) := readEnd cs
      match Glob.parseChars true (globText bound cs) with
      | .error e => .error e
      | .ok glob => .ok (some ⟨glob, negated, onlyDirectories⟩)

end IgnoreEntry

/-- What an ignore list says about a path. -/
inductive Verdict where
  | silent
  | ignored
  | included
deriving Repr, BEq, DecidableEq, Inhabited

/-- The entries of ignore files, for the paths below a root. -/
structure IgnoreList where
  root : Path
  entries : List IgnoreEntry
deriving Repr, Inhabited

namespace IgnoreList

/-- A path without some characters at its front. -/
def dropFront? (front : String) (p : Path) : Option Path :=
  if front.toList.isPrefixOf p.text.toList
  then some ⟨String.ofList (p.text.toList.drop front.toList.length)⟩ else none

/-- A list for the paths below a root. -/
def ofEntries (root : Path) (entries : List IgnoreEntry) : IgnoreList :=
  ⟨(dropFront? "./" root).getD root, entries⟩

/-- The part of a path that is matched: without the root at its front, unless the path is a bare
name. -/
def strip (l : IgnoreList) (p : Path) : Path :=
  let p := (dropFront? "./" p).getD p
  if l.root.components == [.current] || !p.text.toList.contains '/' then p
  else
    match dropFront? l.root.text p with
    | some rest => (dropFront? "/" rest).getD rest
    | none => p

/-- What the last entry that matches says about a path. -/
def verdictOf (p : Path) (isDirectory : Bool) (entries : List IgnoreEntry) : Verdict :=
  let applies (e : IgnoreEntry) : Bool :=
    (!e.onlyDirectories || isDirectory) && Glob.isMatch e.glob p.text
  match entries.reverse.find? applies with
  | some e => if e.negated then .included else .ignored
  | none => .silent

/-- What a list says about a path itself. -/
def verdict (l : IgnoreList) (p : Path) (isDirectory : Bool) : Verdict :=
  if l.entries.isEmpty then .silent else verdictOf (l.strip p) isDirectory l.entries

/-- What a list says about a path or, if it is silent, about the nearest directory above of which it
says something. -/
def verdictAbove (entries : List IgnoreEntry) : Nat → Path → Bool → Verdict
  | 0, _, _ => .silent
  | fuel + 1, p, isDirectory =>
    match verdictOf p isDirectory entries with
    | .silent =>
      match p.parent? with
      | some q => verdictAbove entries fuel q true
      | none => .silent
    | v => v

/-- What a list says about a file, also through the directories above it; none if the file is not
below the root. -/
def fileVerdict? (l : IgnoreList) (p : Path) : Option Verdict :=
  if l.entries.isEmpty then some .silent
  else
    let p := l.strip p
    if p.isAbsolute then none else some (verdictAbove l.entries (p.text.length + 2) p false)

end IgnoreList

end ScriptCensus
