import ScriptCensus.Concrete.Cursor
import ScriptCensus.Source.Utf8
import ScriptCensus.Tree.Basic
import ScriptCensus.Warning

/-!
# From concrete to generic trees

`ConcreteTree.toSyntax` keeps the nodes of a concrete tree with their fields, marks those that stand
for functions, and leaves error nodes without a tag. Below a depth of `maxNesting` only the tokens are
kept.
-/

namespace ScriptCensus

/-- The depth below which only tokens are kept. -/
def maxNesting : Nat := 512

/-- The text between two offsets; none if there is no such piece. -/
def textBetween (source : ByteArray) (start stop : Nat) : String :=
  if start ≤ stop && stop ≤ source.size then textOfBytes (source.extract start stop) else ""

/-- Adds a child under a field name; children of one field that follow each other form a
sequence. -/
def pushField (fields : List (String × SyntaxValue)) (child : String × SyntaxValue) :
    List (String × SyntaxValue) :=
  match fields with
  | [] => [child]
  | [(name, value)] =>
    if name = child.1 then
      match value with
      | .sequence items => [(name, .sequence (items ++ [child.2]))]
      | single => [(name, .sequence [single, child.2])]
    else [(name, value), child]
  | first :: second :: rest => first :: pushField (second :: rest) child

/-- Adds children one after another. -/
def foldFields (children : List (String × SyntaxValue)) : List (String × SyntaxValue) :=
  children.foldl pushField []

namespace ConcreteTree

/-- Whether a token that is named after its own text is a child of the root. -/
def hasToken (t : ConcreteTree) (text : String) : Bool :=
  t.children.any fun (_, c) => !c.info.named && c.info.kind == text

/-- The tag of the root. A method with a star is a generator, and a function with the word `async` is
asynchronous. -/
def tag (t : ConcreteTree) : NodeTag :=
  let function? := (FunctionKind.ofTag? t.info.kind).map fun kind =>
    let kind := if kind == .method && t.hasToken "*" then .generator else kind
    if t.hasToken "async" then kind.toAsync else kind
  ⟨t.info.kind, function?⟩

/-- The leaf that a tree without children, or a missing token, stands for. -/
def leaf? (source : ByteArray) (t : ConcreteTree) : Option Leaf :=
  if t.info.isMissing then some (.missing t.info.kind t.info.named t.info.span)
  else if t.children.isEmpty then
    some (.token t.info.kind (textBetween source t.info.startByte t.info.endByte) t.info.span)
  else none

/-- The tokens of a tree, without its structure. -/
def flatten (source : ByteArray) (t : ConcreteTree) : SyntaxNode :=
  .mk none (some t.info.span)
    [(SyntaxNode.childrenField, .sequence ((TreeCursor.gather (leaf? source) t).map .leaf))]

mutual

/-- A tree whose root stays a node; below the limit only tokens are kept. -/
def convertNode (limit : Nat) (source : ByteArray) (depth : Nat) : ConcreteTree → SyntaxNode
  | node i cs =>
    .mk (if i.isError then none else some (node i cs).tag) (some i.span)
      (foldFields (convertChildren limit source (depth + 1) cs))

/-- The children of a node under their field names. -/
def convertChildren (limit : Nat) (source : ByteArray) (depth : Nat) :
    List (Option String × ConcreteTree) → List (String × SyntaxValue)
  | [] => []
  | (field?, t) :: rest =>
    (field?.getD SyntaxNode.childrenField, convertValue limit source depth t) ::
      convertChildren limit source depth rest

/-- A tree as a leaf or a node, whichever it is. -/
def convertValue (limit : Nat) (source : ByteArray) (depth : Nat) : ConcreteTree → SyntaxValue
  | node i cs =>
    match leaf? source (node i cs) with
    | some l => .leaf l
    | none =>
      if limit ≤ depth then .node (flatten source (node i cs))
      else .node (convertNode limit source depth (node i cs))

end

mutual

/-- The number of subtrees of which only tokens are kept. -/
def flattenedBelow (limit : Nat) (depth : Nat) : ConcreteTree → Nat
  | node i cs =>
    if i.isMissing || cs.isEmpty then 0
    else if limit ≤ depth then 1
    else flattenedInAll limit (depth + 1) cs

/-- The number of subtrees, below some trees, of which only tokens are kept. -/
def flattenedInAll (limit : Nat) (depth : Nat) : List (Option String × ConcreteTree) → Nat
  | [] => 0
  | (_, t) :: rest => flattenedBelow limit depth t + flattenedInAll limit depth rest

end

/-- The generic tree of a concrete tree; each subtree of which only tokens are kept is warned of. -/
def toSyntax (source : ByteArray) (t : ConcreteTree) : Logged SyntaxNode :=
  ⟨convertNode maxNesting source 0 t,
   List.replicate (flattenedInAll maxNesting 1 t.children) .flattened⟩

end ConcreteTree

end ScriptCensus
