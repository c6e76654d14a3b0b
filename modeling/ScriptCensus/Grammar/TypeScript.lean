import ScriptCensus.Automaton.Table
import ScriptCensus.Grammar.TypeScript.Entries
import ScriptCensus.Grammar.TypeScript.GotoRows
import ScriptCensus.Grammar.TypeScript.Lexicon
import ScriptCensus.Grammar.TypeScript.Productions
import ScriptCensus.Grammar.TypeScript.States
import ScriptCensus.Grammar.TypeScript.Symbols
import ScriptCensus.Grammar.TypeScript.TokenRows

/-!
# The TypeScript automaton

The parsing automaton of TypeScript, put together from its lexicon, symbols, productions and tables.
-/

namespace ScriptCensus.Grammar

open TypeScript in
/-- The automaton that parses TypeScript. -/
def typeScript : Automaton :=
  PackedTable.install ⟨entries, groups, tokenRows, gotoRows, states⟩
    { dialect := .typed
      lexicon, tokenCount, keywords, contextSymbols
      symbols := symbols.toArray
      lexModes := lexModes.toArray
      contextModes := contextModes.toArray
      productions := productions.toArray
      entries := #[], tokenRows := #[], gotoRows := #[], states := #[] }

end ScriptCensus.Grammar
