/-!
# Kinds of functions

The closed set of function-like constructs that a census reports, with the names they bear there.
-/

namespace ScriptCensus

/-- A kind of function-like construct. -/
inductive FunctionKind where
  | declaration
  | asyncDeclaration
  | expression
  | asyncExpression
  | arrow
  | asyncArrow
  | generator
  | asyncGenerator
  | method
  | asyncMethod
  | signature
deriving Repr, BEq, DecidableEq, Inhabited

namespace FunctionKind

/-- All kinds, in the order in which messages list them. -/
def all : List FunctionKind :=
  [declaration, asyncDeclaration, expression, asyncExpression, arrow, asyncArrow, generator,
   asyncGenerator, method, asyncMethod, signature]

/-- The name of a kind in a report. -/
def name : FunctionKind → String
  | declaration => "FunctionDeclaration"
  | asyncDeclaration => "AsyncFunctionDeclaration"
  | expression => "FunctionExpression"
  | asyncExpression => "AsyncFunctionExpression"
  | arrow => "ArrowFunctionExpression"
  | asyncArrow => "AsyncArrowFunctionExpression"
  | generator => "GeneratorFunction"
  | asyncGenerator => "AsyncGeneratorFunction"
  | method => "MethodDefinition"
  | asyncMethod => "AsyncMethodDefinition"
  | signature => "FunctionSignature"

/-- The kind of a given name. -/
def ofName? (name : String) : Option FunctionKind :=
  all.find? (·.name == name)

/-- The asynchronous counterpart of a kind; a kind without one is its own. -/
def toAsync : FunctionKind → FunctionKind
  | declaration => asyncDeclaration
  | expression => asyncExpression
  | arrow => asyncArrow
  | generator => asyncGenerator
  | method => asyncMethod
  | other => other

/-- Whether a kind is asynchronous. -/
def isAsync : FunctionKind → Bool
  | asyncDeclaration | asyncExpression | asyncArrow | asyncGenerator | asyncMethod => true
  | _ => false

/-- The kind that a grammar tag stands for. Tags that describe the type of a function stand for
none. -/
def ofTag? : String → Option FunctionKind
  | "function_declaration" => some declaration
  | "function_expression" => some expression
  | "function" => some expression
  | "arrow_function" => some arrow
  | "generator_function_declaration" => some generator
  | "generator_function" => some generator
  | "method_definition" => some method
  | "function_signature" => some signature
  | _ => none

end FunctionKind

end ScriptCensus
