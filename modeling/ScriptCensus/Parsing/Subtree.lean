import ScriptCensus.Automaton.Basic
import ScriptCensus.Source.Text

/-!
# Subtrees and their costs

While a text is being parsed its tree exists in pieces. A `Subtree` keeps with each piece what the
parser needs to choose between rival readings of the text: the cost of the errors in it, and the
precedence its productions ask for.
-/

namespace ScriptCensus.Parsing

open Automaton

/-- The cost of starting to recover from an error. -/
def recoveryCost : Nat := 500

/-- The cost of a token that has to be imagined. -/
def missingCost : Nat := 110

/-- The cost of a subtree that is skipped. -/
def skippedTreeCost : Nat := 100

/-- The cost of a byte that is skipped. -/
def skippedByteCost : Nat := 1

/-- The cost of a line that is skipped. -/
def skippedLineCost : Nat := 30

/-- What the parser knows about a subtree, its children apart. -/
structure SubtreeData where
  symbol : Nat
  /-- Position where the blanks before the subtree start. -/
  begins : Nat
  /-- Position of the first character. -/
  starts : Nat
  /-- Position after the last character. -/
  stops : Nat
  production : Nat := 0
  visible : Bool
  /-- It may stand anywhere, as a comment does. -/
  extra : Bool := false
  /-- It is a token that is not in the text. -/
  missing : Bool := false
  /-- It is a token whose text is that of a keyword. -/
  keyword : Bool := false
  /-- The state in which the token was read. -/
  state : Nat := 0
  /-- The cost of the errors inside. -/
  innerCost : Nat := 0
  precedence : Int := 0
  childCount : Nat := 0
  visibleChildren : Nat := 0
  visibleDescendants : Nat := 0
deriving Inhabited

/-- A piece of a syntax tree. -/
inductive Subtree where
  | node (data : SubtreeData) (children : List Subtree)
deriving Inhabited

namespace Subtree

/-- What is known about a subtree. -/
def data : Subtree → SubtreeData
  | node d _ => d

/-- The children of a subtree. -/
def children : Subtree → List Subtree
  | node _ cs => cs

/-- Replaces what is known about a subtree. -/
def withData (t : Subtree) (d : SubtreeData) : Subtree :=
  node d t.children

/-- The symbol of a subtree. -/
def symbol (t : Subtree) : Nat := t.data.symbol

/-- Whether a subtree may stand anywhere. -/
def extra (t : Subtree) : Bool := t.data.extra

/-- Marks whether a subtree stands where it may stand anywhere. -/
def setExtra (t : Subtree) (extra : Bool) : Subtree :=
  t.withData { t.data with extra }

/-- The precedence that the productions in a subtree ask for. -/
def precedence (t : Subtree) : Int := t.data.precedence

/-- Whether a subtree is an error. -/
def isError (t : Subtree) : Bool := t.symbol == errorSymbol

/-- Whether a subtree is an error or part of one. -/
def isSkipped (symbol : Nat) : Bool :=
  symbol == errorSymbol || symbol == errorRepeatSymbol

/-- The cost of the errors in a subtree. -/
def cost (t : Subtree) : Nat :=
  if t.data.missing then missingCost + recoveryCost else t.data.innerCost

/-- The number of visible nodes of a subtree; a run of skipped tokens counts as one. -/
def nodeCount (t : Subtree) : Nat :=
  t.data.visibleDescendants + (if t.data.visible then 1 else 0) +
    (if t.symbol == errorRepeatSymbol then 1 else 0)

/-- Whether a symbol shows in the tree. -/
def isVisible (a : Automaton) (symbol : Nat) : Bool :=
  a.visibility symbol != .hidden

/-- A token. The end of the text may stand anywhere. -/
def leaf (a : Automaton) (symbol begins starts stops state : Nat) (keyword : Bool) : Subtree :=
  node { symbol, begins, starts, stops, state, keyword,
         visible := isVisible a symbol, extra := symbol == 0 } []

/-- A token that is not in the text. -/
def missingLeaf (a : Automaton) (symbol position : Nat) : Subtree :=
  node { symbol, begins := position, starts := position, stops := position,
         visible := isVisible a symbol, missing := true } []

/-- The cost that a child adds to an error around it. -/
def skippedCost (child : Subtree) : Nat :=
  if child.extra || (child.isError && child.data.childCount == 0) then 0
  else if child.data.visible then skippedTreeCost
  else skippedTreeCost * child.data.visibleChildren

/-- Adds a child to a node. -/
def addChild (aliases : List Nat) (place : Nat) (d : SubtreeData) (child : Subtree) : SubtreeData :=
  let c := child.data
  let renamed := !c.extra && c.symbol != 0 && aliases.getD place 0 != 0
  let shows := renamed || c.visible
  { d with
    starts := if d.childCount == 0 then c.starts else d.starts
    begins := if d.childCount == 0 then c.begins else d.begins
    stops := c.stops
    childCount := d.childCount + 1
    innerCost := d.innerCost + (if c.symbol == errorRepeatSymbol then 0 else child.cost) +
      (if isSkipped d.symbol then child.skippedCost else 0)
    precedence := d.precedence + c.precedence
    visibleDescendants := d.visibleDescendants + c.visibleDescendants + (if shows then 1 else 0)
    visibleChildren := d.visibleChildren + (if shows then 1 else c.visibleChildren) }

/-- Adds all children to a node; only those that do not stand anywhere count for their place. -/
def addChildren (aliases : List Nat) : Nat → SubtreeData → List Subtree → SubtreeData
  | _, d, [] => d
  | place, d, child :: rest =>
    addChildren aliases (if child.extra then place else place + 1)
      (addChild aliases place d child) rest

/-- A node over some children. Without children it stands at the given position. -/
def branch (a : Automaton) (text : SourceText) (symbol production position : Nat)
    (children : List Subtree) : Subtree :=
  let d := addChildren (a.production production).aliases 0
    { symbol, production, visible := isVisible a symbol,
      begins := position, starts := position, stops := position } children
  let skipped := if isSkipped symbol then
      recoveryCost + skippedByteCost * text.bytesBetween d.starts d.stops +
        skippedLineCost * text.rowsBetween d.starts d.stops
    else 0
  node { d with innerCost := d.innerCost + skipped } children

/-- Splits off the subtrees at the end that may stand anywhere. -/
def splitExtras (ts : List Subtree) : List Subtree × List Subtree :=
  let (extras, rest) := ts.reverse.span extra
  (rest.reverse, extras.reverse)

mutual

/-- Compares two subtrees by their symbols and numbers of children, from the top. -/
def compare : Subtree → Subtree → Ordering
  | node a as, node b bs =>
    match Ord.compare a.symbol b.symbol with
    | .eq =>
      match Ord.compare a.childCount b.childCount with
      | .eq => compareAll as bs
      | o => o
    | o => o

/-- Compares two lists of subtrees at the first difference. -/
def compareAll : List Subtree → List Subtree → Ordering
  | a :: as, b :: bs =>
    match compare a b with
    | .eq => compareAll as bs
    | o => o
  | _, _ => .eq

end

/-- Whether the second of two readings of the same text is to be preferred: the one of lower cost,
then the one of higher precedence, then the one whose symbols come first. -/
def prefersSecond (left right : Subtree) : Bool :=
  if right.cost < left.cost then true
  else if left.cost < right.cost then false
  else if right.precedence > left.precedence then true
  else if left.precedence > right.precedence then false
  else if left.cost > 0 then true
  else compare left right == .gt

/-- Whether two subtrees in one place need not both be kept. -/
def isEquivalent (left right : Subtree) : Bool :=
  left.symbol == right.symbol &&
    ((left.cost > 0 && right.cost > 0) ||
      (left.data.begins == right.data.begins && left.data.starts == right.data.starts &&
        left.data.stops == right.data.stops && left.data.childCount == right.data.childCount &&
        left.extra == right.extra))

end Subtree

end ScriptCensus.Parsing
