import ScriptCensus.Text.Blank

/-!
# Ignore rules

An `IgnoreRuleSet` holds globs, whose order does not matter, and lines of ignore files, whose order
does. Neither holds anything twice.
-/

namespace ScriptCensus

/-- Adds a text to a sorted list of distinct texts. -/
def insertSorted (s : String) : List String → List String
  | [] => [s]
  | t :: rest => if s < t then s :: t :: rest else if s = t then t :: rest else t :: insertSorted s rest

/-- The rules for what is not scanned. -/
structure IgnoreRuleSet where
  /-- Globs, sorted. -/
  patterns : List String
  /-- Lines of ignore files, in the order in which they were first seen. -/
  lines : List String
  /-- The same lines, sorted. -/
  seenLines : List String
deriving Repr, BEq, DecidableEq, Inhabited

/-- The lines of a text, without their line ends. -/
def linesOf (text : String) : List String :=
  let rec pieces : List Char → List (List Char)
    | [] => [[]]
    | '\r' :: '\n' :: rest => [] :: pieces rest
    | '\n' :: rest => [] :: pieces rest
    | c :: rest =>
      match pieces rest with
      | [] => [[c]]
      | p :: ps => (c :: p) :: ps
  let all := pieces text.toList
  (if all.getLast? == some [] then all.dropLast else all).map String.ofList

/-- The part of a line that carries a rule: all but the line end. Blank lines and comments carry
none. -/
def significantLine? (line : String) : Option String :=
  let kept := dropEndWhile (fun c => c == '\r' || c == '\n') line.toList
  if kept.all isBlank || kept.head? == some '#' then none else some (String.ofList kept)

namespace IgnoreRuleSet

/-- No rules. -/
def empty : IgnoreRuleSet := ⟨[], [], []⟩

/-- Adds a glob without the blanks around it. A blank one is not added. -/
def insert (r : IgnoreRuleSet) (pattern : String) : IgnoreRuleSet :=
  let trimmed := trimBlanks pattern
  if trimmed.isEmpty then r else { r with patterns := insertSorted trimmed r.patterns }

/-- Whether adding a glob changes the rules. -/
def isNewPattern (r : IgnoreRuleSet) (pattern : String) : Bool :=
  let trimmed := trimBlanks pattern
  !trimmed.isEmpty && !r.patterns.contains trimmed

/-- Adds a line of an ignore file, unless it carries no rule or was seen before. -/
def insertLine (r : IgnoreRuleSet) (line : String) : IgnoreRuleSet :=
  match significantLine? line with
  | none => r
  | some line =>
    if r.seenLines.contains line then r
    else { r with lines := r.lines ++ [line], seenLines := insertSorted line r.seenLines }

/-- Whether adding a line changes the rules. -/
def isNewLine (r : IgnoreRuleSet) (line : String) : Bool :=
  match significantLine? line with
  | none => false
  | some line => !r.seenLines.contains line

/-- The number of rules. -/
def size (r : IgnoreRuleSet) : Nat :=
  r.patterns.length + r.lines.length

/-- Whether there are no rules. -/
def isEmpty (r : IgnoreRuleSet) : Bool :=
  r.patterns.isEmpty && r.lines.isEmpty

/-- Adds the lines of an ignore file. -/
def extend (r : IgnoreRuleSet) (text : String) : IgnoreRuleSet :=
  (linesOf text).foldl insertLine r

/-- The number of lines of an ignore file that are new, each counted once. -/
def newLines (r : IgnoreRuleSet) (text : String) : Nat :=
  count r (linesOf text)
where
  /-- Counts the lines that change the rules, one after another. -/
  count (r : IgnoreRuleSet) : List String → Nat
    | [] => 0
    | line :: rest => (if r.isNewLine line then 1 else 0) + count (r.insertLine line) rest

/-- The rules of both sets; the lines of the first come first. -/
def union (r s : IgnoreRuleSet) : IgnoreRuleSet :=
  s.lines.foldl insertLine { r with patterns := s.patterns.foldl (fun ps p => insertSorted p ps) r.patterns }

/-- Whether a glob is among the rules. -/
def containsPattern (r : IgnoreRuleSet) (pattern : String) : Bool :=
  r.patterns.contains pattern

/-- Whether a line is among the rules. -/
def containsLine (r : IgnoreRuleSet) (line : String) : Bool :=
  r.seenLines.contains line

/-- The globs that hold for every scan: dependencies, build results, documents, samples and tests. -/
def builtinPatterns : List String :=
  ["**/node_modules/**", "**/bower_components/**", "**/vendor/**", "**/java/**", "**/min/**",
   "**/dist/**", "**/build/**", "**/doc/**", "**/docs/**", "**/assets/**", "**/static/**",
   "**/spec/**", "**/*demo*/**", "**/*sample*/**", "**/*test*/**", "**/*.min.js", "**/demo.*",
   "**/*test*.*", "**/*jquery*.*"]

/-- The rules that hold for every scan. -/
def builtin : IgnoreRuleSet :=
  builtinPatterns.foldl insert empty

end IgnoreRuleSet

end ScriptCensus
