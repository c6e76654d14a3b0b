import ScriptCensus.Tree.Printer
import ScriptCensus.Warning

/-!
# The functions of a tree

`SyntaxNode.walk` visits every node that stands for a function, also inside other functions, and
prints it. A function that cannot be printed is skipped, but what is inside it is still visited.
`SyntaxNode.functions` lists the printed ones.
-/

namespace ScriptCensus

/-- A function as it appears in a report. -/
structure FunctionRecord where
  body : String
  startLine : Nat
  endLine : Nat
  kind : FunctionKind
deriving Repr, BEq, DecidableEq, Inhabited

/-- A function that could not be printed. -/
structure SkippedFunction where
  kind : FunctionKind
  /-- First and last line, if the place of the function is known. -/
  lines? : Option (Nat × Nat)
  error : PrintError
deriving Repr, BEq, DecidableEq, Inhabited

/-- What came of a function. -/
inductive Outcome where
  | captured (function : FunctionRecord)
  | skipped (function : SkippedFunction)
deriving Repr, BEq, DecidableEq, Inhabited

namespace Outcome

/-- The record of a function, if it was captured. -/
def record? : Outcome → Option FunctionRecord
  | captured f => some f
  | skipped _ => none

/-- The function that was skipped, if it was. -/
def skipped? : Outcome → Option SkippedFunction
  | captured _ => none
  | skipped f => some f

end Outcome

/-- The order of the functions of a file. -/
inductive FunctionOrder where
  /-- By first line; functions that start on one line as they are met. -/
  | sourceLine
  /-- As they are met, each one before those inside it. -/
  | traversal
deriving Repr, BEq, DecidableEq, Inhabited

/-- Prints a node as a function of a kind. -/
def SyntaxNode.capture (n : SyntaxNode) (kind : FunctionKind) : Outcome :=
  match n.print with
  | .ok printed =>
    let (startLine, endLine) := (n.span?.getD printed.span).lines
    .captured ⟨printed.text, startLine, endLine, kind⟩
  | .error error => .skipped ⟨kind, n.span?.map (·.lines), error⟩

/-- What came of a node itself, without what is inside. -/
def SyntaxNode.ownOutcome (n : SyntaxNode) : List Outcome :=
  match n.functionKind? with
  | some kind => [n.capture kind]
  | none => []

mutual

/-- What came of the functions of a tree, each one before those inside it. -/
def SyntaxNode.walk : SyntaxNode → List Outcome
  | .mk tag? span? fields =>
    (SyntaxNode.mk tag? span? fields).ownOutcome ++ SyntaxNode.walkFields fields

/-- What came of the functions in some fields. -/
def SyntaxNode.walkFields : List (String × SyntaxValue) → List Outcome
  | [] => []
  | (_, value) :: rest => value.walk ++ SyntaxNode.walkFields rest

/-- What came of the functions in a value. -/
def SyntaxValue.walk : SyntaxValue → List Outcome
  | .node n => n.walk
  | .sequence items => SyntaxValue.walkItems items
  | .leaf _ => []
  | .absent => []

/-- What came of the functions in some values. -/
def SyntaxValue.walkItems : List SyntaxValue → List Outcome
  | [] => []
  | value :: rest => value.walk ++ SyntaxValue.walkItems rest

end

/-- Puts functions in order. -/
def FunctionOrder.arrange (order : FunctionOrder) (fs : List FunctionRecord) :
    List FunctionRecord :=
  match order with
  | .sourceLine => fs.mergeSort (fun f g => f.startLine ≤ g.startLine)
  | .traversal => fs

/-- The functions of a tree that can be printed; each of the others is warned of. -/
def SyntaxNode.functions (order : FunctionOrder) (n : SyntaxNode) : Logged (List FunctionRecord) :=
  let outcomes := n.walk
  ⟨order.arrange (outcomes.filterMap Outcome.record?),
   (outcomes.filterMap Outcome.skipped?).map fun _ => .unprintableFunction⟩

end ScriptCensus
