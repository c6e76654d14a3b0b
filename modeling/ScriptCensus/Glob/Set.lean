import ScriptCensus.Glob.Match

/-!
# Sets of globs

The globs of some rules are asked together. For that they are compiled: each glob becomes an
expression of bytes, classes, repetitions and groups, and all expressions become automata. An
expression may not be nested deeper than `maxNesting`, and the automata may not become too large, which
`SizeLimit` tells. If one glob is nested too deeply, or all together are too large, none of the set is
asked (`Glob.asked`).
-/

namespace ScriptCensus.Glob

/-! ## Levels of an expression -/

/-- How many bytes and ranges of bytes a range of characters is. A character of several bytes counts with
each of them; between two characters, the last byte of the first and the first byte of the last are the
ends of one range. -/
def rangeSize (first last : Char) : Nat :=
  if first = last then (bytesOfChar first).length
  else (bytesOfChar first).length + (bytesOfChar last).length - 1

/-- How many bytes and ranges of bytes a class has. -/
def classSize : List (Char × Char) → Nat
  | [] => 0
  | (first, last) :: rest => rangeSize first last + classSize rest

/-- How many expressions stand one after another for a token. -/
def tokenSize : GlobToken → Nat
  | .literal c => (bytesOfChar c).length
  -- a slash, and anything
  | .depthAfter => 2
  | .either branches => if areSilent branches then 0 else 1
  | _ => 1

/-- How many expressions stand one after another for some tokens. -/
def size : List GlobToken → Nat
  | [] => 0
  | t :: rest => tokenSize t + size rest

/-- One more level, if there are several parts to be held together. -/
def grouped (parts levels : Nat) : Nat :=
  if parts ≤ 1 then levels else levels + 1

/-- How many of some patterns have something to match. -/
def audible (branches : List (List GlobToken)) : Nat :=
  branches.countP (!isSilent ·)

mutual

/-- The levels of the deepest of the expressions for some tokens. -/
def levels : List GlobToken → Nat
  | [] => 0
  | t :: rest => max (tokenLevels t) (levels rest)

/-- The levels of the deepest of the expressions for a token. -/
def tokenLevels : GlobToken → Nat
  | .literal _ => 0
  | .any => 1
  -- a class that is repeated
  | .many => 2
  -- a group of two ways, one of them a sequence in which anything is repeated
  | .depthBefore => 4
  | .depthAfter => 1
  | .depthBetween => 4
  | .oneOf _ ranges => grouped (classSize ranges) 1
  | .either branches =>
    if areSilent branches then 0 else grouped (audible branches) (branchLevels branches) + 1

/-- The levels of the deepest of several patterns. -/
def branchLevels : List (List GlobToken) → Nat
  | [] => 0
  | b :: rest => max (grouped (size b) (levels b)) (branchLevels rest)

end

/-- How deeply the expression of a glob is nested. It stands between marks for the start and the end,
so that it is always a sequence. A glob of two stars alone repeats anything. -/
def nesting : List GlobToken → Nat
  | [.depthBefore] => 2
  | tokens => levels tokens + 1

/-- The deepest nesting with which expressions are compiled. -/
def maxNesting : Nat := 250

/-! ## Sets -/

/-- How large automata may become. -/
structure SizeLimit where
  /-- Whether those of some globs are too large together. -/
  exceededBy : List (List GlobToken) → Bool := fun _ => false

/-- Whether some globs can be compiled together. -/
def compiles (limit : SizeLimit) (globs : List (List GlobToken)) : Bool :=
  globs.all (nesting · ≤ maxNesting) && (globs.isEmpty || !limit.exceededBy globs)

/-- The globs of a set that are asked: all of them, or none if they cannot be compiled. -/
def asked (limit : SizeLimit) (globs : List (List GlobToken)) : List (List GlobToken) :=
  if compiles limit globs then globs else []

end ScriptCensus.Glob
