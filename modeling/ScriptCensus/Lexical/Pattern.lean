/-!
# Token patterns

Tokens are described by patterns: regular expressions over characters. A pattern is matched one
character at a time through its residuals: `Pattern.residuals c p` lists what may still follow
after `p` has read `c`, and `Pattern.isNullable p` says that nothing more has to follow.
-/

namespace ScriptCensus

/-- An inclusive range of characters. -/
structure CharRange where
  first : Char
  last : Char
deriving Repr, BEq, DecidableEq, Inhabited

/-- Whether a range holds a character. -/
def CharRange.contains (r : CharRange) (c : Char) : Bool :=
  r.first ≤ c && c ≤ r.last

/-- A class of characters: those of some ranges, or all but those. The null character belongs to no
class. -/
structure CharClass where
  ranges : List CharRange
  negated : Bool := false
deriving Repr, BEq, DecidableEq, Inhabited

namespace CharClass

/-- Whether a class holds a character. -/
def contains (k : CharClass) (c : Char) : Bool :=
  c.val != 0 && (k.ranges.any (·.contains c) != k.negated)

/-- The class of the listed characters. -/
def of (s : String) : CharClass :=
  ⟨s.toList.map fun c => ⟨c, c⟩, false⟩

/-- The class of the characters of any of the classes, none of them negated. -/
def union (ks : List CharClass) : CharClass :=
  ⟨ks.flatMap (·.ranges), false⟩

/-- All characters outside a class. -/
def complement (k : CharClass) : CharClass :=
  ⟨k.ranges, !k.negated⟩

/-- The decimal digits. -/
def digit : CharClass := ⟨[⟨'0', '9'⟩], false⟩

/-- The octal digits. -/
def octalDigit : CharClass := ⟨[⟨'0', '7'⟩], false⟩

/-- The hexadecimal digits. -/
def hexDigit : CharClass := ⟨[⟨'0', '9'⟩, ⟨'a', 'f'⟩, ⟨'A', 'F'⟩], false⟩

/-- The letters of the Latin alphabet. -/
def latinLetter : CharClass := ⟨[⟨'a', 'z'⟩, ⟨'A', 'Z'⟩], false⟩

/-- Tab, line breaks, vertical tab, form feed and the space. -/
def asciiBlank : CharClass := ⟨[⟨'\t', '\r'⟩, ⟨' ', ' '⟩], false⟩

/-- Unicode's space separators. -/
def spaceSeparator : CharClass :=
  ⟨[⟨' ', ' '⟩, ⟨'\u00a0', '\u00a0'⟩, ⟨'\u1680', '\u1680'⟩, ⟨'\u2000', '\u200a'⟩,
    ⟨'\u202f', '\u202f'⟩, ⟨'\u205f', '\u205f'⟩, ⟨'\u3000', '\u3000'⟩], false⟩

end CharClass

/-- A regular expression over characters. -/
inductive Pattern where
  /-- Exactly these characters. -/
  | literal (text : List Char)
  /-- One character of a class. -/
  | one (kind : CharClass)
  /-- One pattern after another. -/
  | seq (p q : Pattern)
  /-- Either of two patterns. -/
  | alt (p q : Pattern)
  /-- Any number of repetitions, none included. -/
  | star (p : Pattern)
deriving Repr, BEq, DecidableEq, Inhabited

namespace Pattern

/-- Exactly the characters of a string. -/
def text (s : String) : Pattern :=
  .literal s.toList

/-- One of the listed characters. -/
def oneOf (s : String) : Pattern :=
  .one (.of s)

/-- One character that is not listed. -/
def noneOf (s : String) : Pattern :=
  .one (CharClass.of s).complement

/-- Nothing at all. -/
def empty : Pattern :=
  .literal []

/-- All patterns of a list in turn. -/
def all : List Pattern → Pattern
  | [] => empty
  | [p] => p
  | p :: ps => .seq p (all ps)

/-- Any of a nonempty list of patterns. -/
def any : List Pattern → Pattern
  | [] => empty
  | [p] => p
  | p :: ps => .alt p (any ps)

/-- At least one repetition. -/
def plus (p : Pattern) : Pattern :=
  .seq p (.star p)

/-- A pattern that may be absent. -/
def optional (p : Pattern) : Pattern :=
  .alt p empty

/-- At most the given number of repetitions. -/
def atMost (p : Pattern) : Nat → Pattern
  | 0 => empty
  | n + 1 => optional (.seq p (atMost p n))

/-- Exactly the given number of repetitions. -/
def times (p : Pattern) (n : Nat) : Pattern :=
  all (List.replicate n p)

/-- Whether a pattern matches the empty text. -/
def isNullable : Pattern → Bool
  | .literal cs => cs.isEmpty
  | .one _ => false
  | .seq p q => p.isNullable && q.isNullable
  | .alt p q => p.isNullable || q.isNullable
  | .star _ => true

/-- One pattern after another, where nothing is left of the first once it is empty. -/
def andThen (p q : Pattern) : Pattern :=
  match p with
  | .literal [] => q
  | p => .seq p q

/-- What may still follow after a pattern has read a character. -/
def residuals (c : Char) : Pattern → List Pattern
  | .literal [] => []
  | .literal (d :: ds) => if c = d then [.literal ds] else []
  | .one k => if k.contains c then [empty] else []
  | .seq p q =>
    let first := (residuals c p).map (·.andThen q)
    if p.isNullable then first ++ residuals c q else first
  | .alt p q => residuals c p ++ residuals c q
  | .star p => (residuals c p).map (·.andThen (.star p))

end Pattern

end ScriptCensus
