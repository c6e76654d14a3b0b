import ScriptCensus.Source.Span
import ScriptCensus.Tree.FunctionKind

/-!
# Generic syntax trees

A `SyntaxNode` has an optional tag and named fields; the values of the fields are nodes, sequences,
leaves, or absent. Nothing else about a grammar shows: what is a function is said by the tags alone.
-/

namespace ScriptCensus

/-- What a node is: its name in the grammar, and the kind of function it stands for, if any. -/
structure NodeTag where
  kind : String
  function? : Option FunctionKind
deriving Repr, BEq, DecidableEq, Inhabited

/-- An end of the tree. -/
inductive Leaf where
  /-- A token of the text. -/
  | token (kind text : String) (span : SourceSpan)
  /-- A token that was expected and not found. If it is not named, its kind is its text. -/
  | missing (kind : String) (named : Bool) (span : SourceSpan)
deriving Repr, BEq, DecidableEq, Inhabited

namespace Leaf

/-- Where a leaf lies. -/
def span : Leaf → SourceSpan
  | token _ _ s => s
  | missing _ _ s => s

end Leaf

mutual

/-- A node with fields in the order of the text. A node without a tag stands for what could not be
understood. -/
inductive SyntaxNode where
  | mk (tag? : Option NodeTag) (span? : Option SourceSpan) (fields : List (String × SyntaxValue))

/-- Anything that can be the value of a field. -/
inductive SyntaxValue where
  | node (node : SyntaxNode)
  | sequence (items : List SyntaxValue)
  | leaf (leaf : Leaf)
  | absent

end

instance : Inhabited SyntaxValue := ⟨.absent⟩

namespace SyntaxNode

/-- The tag of a node. -/
def tag? : SyntaxNode → Option NodeTag
  | mk t _ _ => t

/-- Where a node lies. -/
def span? : SyntaxNode → Option SourceSpan
  | mk _ s _ => s

/-- The fields of a node. -/
def fields : SyntaxNode → List (String × SyntaxValue)
  | mk _ _ fs => fs

/-- The name of the field that holds children without a field of their own. -/
def childrenField : String := "children"

/-- Stands for a tree that could not be built. -/
def placeholder : SyntaxNode :=
  mk none none [(childrenField, .absent)]

instance : Inhabited SyntaxNode := ⟨placeholder⟩

/-- The kind of function that a node stands for. -/
def functionKind? (n : SyntaxNode) : Option FunctionKind :=
  n.tag?.bind (·.function?)

/-- Whether a node stands for what could not be understood. -/
def isPlaceholder (n : SyntaxNode) : Bool :=
  n.tag?.isNone

/-- The first value of a field. -/
def field? (n : SyntaxNode) (name : String) : Option SyntaxValue :=
  n.fields.lookup name

end SyntaxNode

mutual

/-- Whether two nodes are the same tree, spans included. -/
def SyntaxNode.isSame : SyntaxNode → SyntaxNode → Bool
  | .mk t s fs, .mk t' s' fs' => t == t' && s == s' && SyntaxNode.areSameFields fs fs'

/-- Whether two lists of fields are the same. -/
def SyntaxNode.areSameFields : List (String × SyntaxValue) → List (String × SyntaxValue) → Bool
  | [], [] => true
  | (n, v) :: fs, (n', v') :: fs' => n == n' && v.isSame v' && SyntaxNode.areSameFields fs fs'
  | _, _ => false

/-- Whether two values are the same tree, spans included. -/
def SyntaxValue.isSame : SyntaxValue → SyntaxValue → Bool
  | .node n, .node n' => n.isSame n'
  | .sequence vs, .sequence vs' => SyntaxValue.areSame vs vs'
  | .leaf l, .leaf l' => l == l'
  | .absent, .absent => true
  | _, _ => false

/-- Whether two lists of values are the same. -/
def SyntaxValue.areSame : List SyntaxValue → List SyntaxValue → Bool
  | [], [] => true
  | v :: vs, v' :: vs' => v.isSame v' && SyntaxValue.areSame vs vs'
  | _, _ => false

end

instance : BEq SyntaxNode := ⟨SyntaxNode.isSame⟩

instance : BEq SyntaxValue := ⟨SyntaxValue.isSame⟩

end ScriptCensus
