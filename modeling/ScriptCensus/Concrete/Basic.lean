import ScriptCensus.Source.Span

/-!
# Concrete syntax trees

A `ConcreteTree` is what a grammar makes of a text: every token is in it, what does not fit is inside
error nodes, and tokens that were expected and not found are marked as missing.
-/

namespace ScriptCensus

/-- A node of a concrete tree, its children apart. -/
structure ConcreteInfo where
  /-- The name of the node in the grammar. -/
  kind : String
  /-- Whether the node is named after a rule and not after its own text. -/
  named : Bool
  /-- Whether the node holds what does not fit the grammar. -/
  isError : Bool
  /-- Whether the node is a token that is not in the text. -/
  isMissing : Bool
  startByte : Nat
  endByte : Nat
  /-- Lines and columns of a concrete tree count from zero. -/
  startRow : Nat
  endRow : Nat
  startColumn : Nat
deriving Repr, BEq, DecidableEq, Inhabited

/-- A concrete syntax tree; each child may fill a field of its parent. -/
inductive ConcreteTree where
  | node (info : ConcreteInfo) (children : List (Option String × ConcreteTree))
deriving Inhabited

/-- Where a node lies. -/
def ConcreteInfo.span (i : ConcreteInfo) : SourceSpan :=
  ⟨i.startByte, i.endByte, i.startRow + 1, i.endRow + 1, i.startColumn + 1⟩

namespace ConcreteTree

/-- What is known about the root of a tree. -/
def info : ConcreteTree → ConcreteInfo
  | node i _ => i

/-- The children of the root, with the fields that they fill. -/
def children : ConcreteTree → List (Option String × ConcreteTree)
  | node _ cs => cs

mutual

/-- The number of nodes of a tree. -/
def size : ConcreteTree → Nat
  | node _ cs => sizeAll cs + 1

/-- The number of nodes of some trees. -/
def sizeAll : List (Option String × ConcreteTree) → Nat
  | [] => 0
  | (_, t) :: rest => t.size + sizeAll rest

end

end ConcreteTree

end ScriptCensus
