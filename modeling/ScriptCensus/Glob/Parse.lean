import ScriptCensus.Glob.Basic

/-!
# Reading globs

`Glob.parse` reads the text of a glob from left to right. What a star means depends on its
neighbours: two stars that fill the place between slashes stand for any directories.
-/

namespace ScriptCensus.Glob

/-! ## Character classes -/

/-- What was read of a character class: its ranges, last first, and whether the next character ends a
range. -/
structure ClassState where
  ranges : List (Char × Char)
  first : Bool
  inRange : Bool

/-- What became of a character class. -/
inductive ClassScan where
  /-- It was closed after some characters, the closing bracket included. -/
  | closed (ranges : List (Char × Char)) (size : Nat)
  | unclosed
  | invalid (first last : Char)

/-- Ends the last range with a character. -/
def endRange (c : Char) : List (Char × Char) → Except (Char × Char) (List (Char × Char))
  | (a, _) :: rest => if c < a then .error (a, c) else .ok ((a, c) :: rest)
  | [] => .ok [(c, c)]

/-- Reads the characters of a class. A closing bracket counts as a member if it is the first. -/
def scanClass (size : Nat) (s : ClassState) : List Char → ClassScan
  | [] => .unclosed
  | c :: rest =>
    if c = ']' && !s.first then
      let ranges := if s.inRange then ('-', '-') :: s.ranges else s.ranges
      .closed ranges.reverse (size + 1)
    else if c = '-' && !s.first && !s.inRange then
      scanClass (size + 1) { s with first := false, inRange := true } rest
    else if s.inRange then
      match endRange c s.ranges with
      | .error (a, b) => .invalid a b
      | .ok ranges => scanClass (size + 1) ⟨ranges, false, false⟩ rest
    else scanClass (size + 1) ⟨(c, c) :: s.ranges, false, false⟩ rest

/-- Reads a class, from behind its opening bracket on. -/
def classAt (cs : List Char) : Bool × ClassScan :=
  match cs with
  | '!' :: rest => (true, scanClass 1 ⟨[], true, false⟩ rest)
  | '^' :: rest => (true, scanClass 1 ⟨[], true, false⟩ rest)
  | rest => (false, scanClass 0 ⟨[], true, false⟩ rest)

/-! ## Whole globs -/

/-- A group of alternatives that is still open: its finished branches, last first, and the tokens
before it, last first. -/
structure OpenGroup where
  branches : List (List GlobToken)
  before : List GlobToken

/-- What was read of a glob. Tokens come last first. -/
structure State where
  tokens : List GlobToken
  groups : List OpenGroup
  /-- Brackets no longer open a class. -/
  plainBrackets : Bool

/-- Adds a token. -/
def State.push (s : State) (t : GlobToken) : State :=
  { s with tokens := t :: s.tokens }

/-- Replaces the last token by one for any depth, unless that is already there. -/
def State.pushDepth (s : State) (t : GlobToken) : State :=
  match s.tokens with
  | .depthBefore :: _ => s
  | .depthAfter :: _ => s
  | _ :: rest => { s with tokens := t :: rest }
  | [] => { s with tokens := [t] }

/-- Reads two stars, of which the character before and those behind are given. Gives also how many
characters behind the first star belong to the token. -/
def doubleStar (previous : Option Char) (s : State) (behind : List Char) : State × Nat :=
  let plain := ((s.push .many).push .many, 1)
  if s.tokens.isEmpty then
    match behind with
    | [] => (s.push .depthBefore, 1)
    | '/' :: _ => (s.push .depthBefore, 2)
    | _ => plain
  else if previous != some '/' &&
      (s.groups.isEmpty || (previous != some ',' && previous != some '\x7b')) then plain
  else
    match behind with
    | [] => (s.pushDepth .depthAfter, 1)
    | '/' :: _ => (s.pushDepth .depthBetween, 2)
    | c :: _ =>
      if (c = ',' || c = '\x7d') && !s.groups.isEmpty then (s.pushDepth .depthAfter, 1) else plain

/-- Closes the innermost group. -/
def State.closeGroup (s : State) : Except GlobError State :=
  match s.groups with
  | [] => .error .unopenedAlternates
  | g :: outer =>
    .ok { s with
      tokens := .either ((s.tokens.reverse :: g.branches).reverse) :: g.before
      groups := outer }

/-- Starts the next branch of the innermost group; outside of groups a comma is a character. -/
def State.comma (s : State) : State :=
  match s.groups with
  | [] => s.push (.literal ',')
  | g :: outer => { s with tokens := [], groups := { g with branches := s.tokens.reverse :: g.branches } :: outer }

/-- Reads one character, with the one before it and those behind it. Gives also how many of the
characters behind it are read with it. If `lenient`, a class that is not closed is plain text. -/
def step (lenient : Bool) (previous : Option Char) (s : State) (c : Char) (rest : List Char) :
    Except GlobError (State × Nat) :=
  match c with
  | '?' => .ok (s.push .any, 0)
  | '*' =>
    match rest with
    | '*' :: behind => .ok (doubleStar previous s behind)
    | _ => .ok (s.push .many, 0)
  | '[' =>
    if s.plainBrackets then .ok (s.push (.literal '['), 0)
    else
      match classAt rest with
      | (negated, .closed ranges size) => .ok (s.push (.oneOf negated ranges), size)
      | (_, .unclosed) =>
        if lenient then .ok ({ s.push (.literal '[') with plainBrackets := true }, 0)
        else .error .unclosedClass
      | (_, .invalid a b) => .error (.invalidRange a b)
  | '\x7b' => .ok ({ s with tokens := [], groups := ⟨[], s.tokens⟩ :: s.groups }, 0)
  | '\x7d' => s.closeGroup.map (·, 0)
  | ',' => .ok (s.comma, 0)
  | '\\' =>
    match rest with
    | [] => .error .danglingEscape
    | e :: _ => .ok (s.push (.literal e), 1)
  | c => .ok (s.push (.literal c), 0)

/-- Reads characters; the first ones are skipped because they were read with the one before. -/
def parseFrom (lenient : Bool) : Nat → Option Char → State → List Char → Except GlobError State
  | _, _, s, [] => .ok s
  | skip + 1, _, s, c :: rest => parseFrom lenient skip (some c) s rest
  | 0, previous, s, c :: rest =>
    match step lenient previous s c rest with
    | .error e => .error e
    | .ok (s, skip) => parseFrom lenient skip (some c) s rest

/-- Reads the text of a glob. -/
def parseChars (lenient : Bool) (cs : List Char) : Except GlobError (List GlobToken) :=
  match parseFrom lenient 0 none ⟨[], [], false⟩ cs with
  | .error e => .error e
  | .ok s => if s.groups.isEmpty then .ok s.tokens.reverse else .error .unclosedAlternates

/-- Reads the text of a glob. -/
def parse (pattern : String) : Except GlobError (List GlobToken) :=
  parseChars false pattern.toList

end ScriptCensus.Glob
