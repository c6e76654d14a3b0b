/-!
# Paths

A `Path` is kept as it was spelled. What it names is read off its components: repeated and trailing
slashes do not count, nor does a dot except at the front.
-/

namespace ScriptCensus

/-- A part of a path. -/
inductive Component where
  /-- The slash at the front of an absolute path. -/
  | root
  /-- A dot at the front of a relative path. -/
  | current
  /-- Two dots. -/
  | parent
  | normal (name : String)
deriving Repr, BEq, DecidableEq, Inhabited

/-- A path as it was spelled. -/
structure Path where
  text : String
deriving Repr, BEq, DecidableEq, Inhabited

/-- Splits a text at a character; there is one piece more than there are such characters. -/
def splitAt (separator : Char) : List Char → List (List Char)
  | [] => [[]]
  | c :: rest =>
    match splitAt separator rest with
    | [] => [[]]
    | piece :: pieces => if c = separator then [] :: piece :: pieces else (c :: piece) :: pieces

namespace Component

/-- How a component is spelled. -/
def text : Component → String
  | root => "/"
  | current => "."
  | parent => ".."
  | normal name => name

/-- The component that a piece between slashes stands for; empty pieces and dots stand for none. -/
def ofPiece? : List Char → Option Component
  | [] => none
  | ['.'] => none
  | ['.', '.'] => some parent
  | piece => some (normal (String.ofList piece))

end Component

namespace Path

/-- The components of a path. -/
def components (p : Path) : List Component :=
  let pieces := splitAt '/' p.text.toList
  let rest := pieces.filterMap Component.ofPiece?
  match p.text.toList, pieces with
  | '/' :: _, _ => .root :: rest
  | _, ['.'] :: _ => .current :: rest
  | _, _ => rest

/-- Whether a path starts with a slash. -/
def isAbsolute (p : Path) : Bool :=
  p.text.toList.head? == some '/'

/-- The last component of a path, if it is a name. -/
def fileName? (p : Path) : Option String :=
  match p.components.getLast? with
  | some (.normal name) => some name
  | _ => none

/-- Splits a file name at its last dot, unless that is the first character. -/
def splitName (name : String) : String × Option String :=
  let reversed := name.toList.reverse
  match reversed.span (· != '.') with
  | (after, '.' :: before) =>
    if before.isEmpty then (name, none)
    else (String.ofList before.reverse, some (String.ofList after.reverse))
  | _ => (name, none)

/-- The part of the file name after its last dot; a dot at the front does not count. -/
def extension? (p : Path) : Option String :=
  p.fileName?.bind fun name => (splitName name).2

/-- Whether a piece between slashes stands for nothing. -/
def isSilentPiece (piece : List Char) : Bool :=
  piece = [] || piece = ['.']

/-- Drops the pieces at the end that stand for nothing. A dot at the front counts, and so it is kept
if `front` says that the pieces start there. -/
def dropSilentEnd (front : Bool) (pieces : List (List Char)) : List (List Char) :=
  match (pieces.reverse.dropWhile isSilentPiece).reverse with
  | [] => if front && pieces.head? == some ['.'] then [['.']] else []
  | kept => kept

/-- Pieces with slashes between them. -/
def joinPieces (pieces : List (List Char)) : String :=
  String.ofList (['/'].intercalate pieces)

/-- The path without its last component; none if there is none to take away. -/
def parent? (p : Path) : Option Path :=
  match splitAt '/' p.text.toList with
  | [] :: first :: rest =>
    match dropSilentEnd false (first :: rest) with
    | [] => none
    | pieces => some ⟨"/" ++ joinPieces (dropSilentEnd false pieces.dropLast)⟩
  | pieces =>
    match dropSilentEnd true pieces with
    | [] => none
    | kept => some ⟨joinPieces (dropSilentEnd true kept.dropLast)⟩

/-- The path with another extension, which takes the place of the one it has. A path without a file
name stays as it is. -/
def withExtension (p : Path) (extension : String) : Path :=
  match p.fileName? with
  | none => p
  | some name =>
    let pieces := dropSilentEnd true (splitAt '/' p.text.toList)
    let renamed := (splitName name).1 ++ "." ++ extension
    ⟨joinPieces (pieces.dropLast ++ [renamed.toList])⟩

/-- The path and those above it, up to the last that is not empty. -/
def ancestors (p : Path) : List Path :=
  upFrom (p.text.length + 1) p
where
  /-- Takes away one component after another. -/
  upFrom : Nat → Path → List Path
    | 0, _ => []
    | fuel + 1, p =>
      match p.parent? with
      | none => []
      | some q => if p.text.isEmpty then [] else p :: upFrom fuel q

/-- A path below another one. An absolute path stays itself. -/
def join (base p : Path) : Path :=
  if p.isAbsolute then p
  else if base.text.isEmpty then p
  else if base.text.toList.getLast? == some '/' then ⟨base.text ++ p.text⟩
  else ⟨base.text ++ "/" ++ p.text⟩

end Path

end ScriptCensus
