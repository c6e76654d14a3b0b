import ScriptCensus.Concrete.Conversion
import ScriptCensus.Concrete.OfSubtree
import ScriptCensus.Grammar.JavaScript
import ScriptCensus.Grammar.TypeScript
import ScriptCensus.Parsing.Engine
import ScriptCensus.Source.Language
import ScriptCensus.Tree.Functions

/-!
# Reading source text

`Language.parse` reads any text as a generic tree; it does not fail. `Language.functionsOf` lists the
functions in a text.
-/

namespace ScriptCensus.Language

/-- The automaton that reads a language. -/
def automaton : Language → Automaton
  | javaScript => Grammar.javaScript
  | typeScript => Grammar.typeScript

/-- The concrete tree of a text. -/
def concreteTree (language : Language) (source : String) : ConcreteTree :=
  let text := SourceText.ofString source
  ConcreteTree.ofSubtree language.automaton text (Parsing.parseText language.automaton text)

/-- The generic tree of a text. -/
def parse (language : Language) (source : String) : Logged SyntaxNode :=
  (language.concreteTree source).toSyntax source.toUTF8

/-- The functions in a text. -/
def functionsOf (language : Language) (order : FunctionOrder) (source : String) :
    Logged (List FunctionRecord) := do
  let tree ← language.parse source
  tree.functions order

end ScriptCensus.Language
