import ScriptCensus.Automaton.Table
import ScriptCensus.Grammar.JavaScript.Entries
import ScriptCensus.Grammar.JavaScript.GotoRows
import ScriptCensus.Grammar.JavaScript.Lexicon
import ScriptCensus.Grammar.JavaScript.Productions
import ScriptCensus.Grammar.JavaScript.States
import ScriptCensus.Grammar.JavaScript.Symbols
import ScriptCensus.Grammar.JavaScript.TokenRows

/-!
# The JavaScript automaton

The parsing automaton of JavaScript, put together from its lexicon, symbols, productions and tables.
-/

namespace ScriptCensus.Grammar

open JavaScript in
/-- The automaton that parses JavaScript. -/
def javaScript : Automaton :=
  PackedTable.install ⟨entries, groups, tokenRows, gotoRows, states⟩
    { dialect := .plain
      lexicon, tokenCount, keywords, contextSymbols
      symbols := symbols.toArray
      lexModes := lexModes.toArray
      contextModes := contextModes.toArray
      productions := productions.toArray
      entries := #[], tokenRows := #[], gotoRows := #[], states := #[] }

end ScriptCensus.Grammar
