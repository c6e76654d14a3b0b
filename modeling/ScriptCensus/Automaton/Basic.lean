import ScriptCensus.Text.Packed
import ScriptCensus.Lexical.Contextual
import ScriptCensus.Lexical.Lexicon

/-!
# Parsing automata

An `Automaton` is the table of a shift-reduce parser, together with what it needs to read tokens:
which tokens to look for in a state, and how the symbols are named. A state may have several
actions for one token; the parser then follows all of them.
-/

namespace ScriptCensus

/-- How a grammar symbol shows in a syntax tree. -/
inductive Visibility where
  /-- It shows as a node that is named after a rule of the grammar. -/
  | named
  /-- It shows as a token that is named after its own text. -/
  | anonymous
  /-- It does not show; its children take its place. -/
  | hidden
deriving Repr, BEq, DecidableEq, Inhabited

/-- A symbol of the grammar. -/
structure GrammarSymbol where
  name : String
  visibility : Visibility
deriving Repr, Inhabited

namespace GrammarSymbol

/-- A symbol that shows under the name of its rule. -/
def ruled (name : String) : GrammarSymbol := ⟨name, .named⟩

/-- A symbol that shows as its own text. -/
def verbatim (name : String) : GrammarSymbol := ⟨name, .anonymous⟩

/-- A symbol that does not show. -/
def silent (name : String) : GrammarSymbol := ⟨name, .hidden⟩

end GrammarSymbol

/-- How the children of a reduction are renamed and which fields they fill. -/
structure Production where
  /-- For each child the symbol that it shows as, or zero for its own. -/
  aliases : List Nat
  /-- Child positions and the fields that they fill. -/
  fields : List (Nat × String)
deriving Repr, Inhabited

/-- One action of the parser. -/
inductive ParseAction where
  /-- Take the token and go to a state. -/
  | shift (state : Nat)
  /-- As `shift`, but only one half of a repetition, which a reduction already covers. -/
  | shiftRepetition (state : Nat)
  /-- Take the token without leaving the state. -/
  | shiftExtra
  /-- Replace the last `count` subtrees by one. -/
  | reduce (symbol count : Nat) (precedence : Int) (production : Nat)
  /-- The text is complete. -/
  | accept
  /-- Deal with the token as part of an error. -/
  | recover
deriving Repr, BEq, DecidableEq, Inhabited

/-- The actions of a state for a token. -/
structure ActionEntry where
  actions : List ParseAction
  /-- No other token of the state could be read at the same place. -/
  reusable : Bool
deriving Repr, Inhabited

/-- A state of the automaton: rows of the two tables, and what to look for in the text. -/
structure ParseState where
  tokenRow : Nat
  gotoRow : Nat
  lexMode : Nat
  contextMode : Nat
deriving Repr, Inhabited

/-- The table of a shift-reduce parser. Symbol zero is the end of the text and symbol one the word
token; tokens come before all other symbols. State zero is the error state and state one the
initial state. -/
structure Automaton where
  dialect : Dialect
  lexicon : Lexicon
  /-- Symbols, and after them the names that only renamed children bear. -/
  symbols : Array GrammarSymbol
  tokenCount : Nat
  /-- Tokens whose text is also a word. -/
  keywords : List Nat
  lexModes : Array (List Nat)
  contextModes : Array (List ContextToken)
  /-- The symbols of the tokens that are decided from their context. -/
  contextSymbols : List (ContextToken × Nat)
  productions : Array Production
  entries : Array ActionEntry
  /-- For each row and token, one more than the index of the entry. -/
  tokenRows : Array (Array Nat)
  /-- For each row and symbol behind the tokens, the next state. -/
  gotoRows : Array (Array Nat)
  states : Array ParseState
deriving Inhabited

namespace Automaton

/-- The symbol of an error node. -/
def errorSymbol : Nat := 65535

/-- The symbol of the tokens skipped so far in an error. -/
def errorRepeatSymbol : Nat := 65534

/-- The token that keywords fall back to. -/
def wordToken : Nat := 1

/-- The state in which any token is skipped. -/
def errorState : Nat := 0

/-- The state before any token. -/
def initialState : Nat := 1

variable (a : Automaton)

/-- A state of the automaton. -/
def state (s : Nat) : ParseState :=
  a.states.getD s default

/-- The entry of a state for a token, if there is one. -/
def entry? (s token : Nat) : Option ActionEntry :=
  match (a.tokenRows.getD (a.state s).tokenRow #[]).getD token 0 with
  | 0 => none
  | i + 1 => a.entries[i]?

/-- The actions of a state for a token. -/
def actions (s token : Nat) : List ParseAction :=
  match a.entry? s token with
  | some e => e.actions
  | none => []

/-- Whether a state has an action for a token. -/
def hasActions (s token : Nat) : Bool :=
  (a.entry? s token).isSome

/-- Whether the first action of a state for a token is a reduction. -/
def startsWithReduce (s token : Nat) : Bool :=
  match a.actions s token with
  | .reduce .. :: _ => true
  | _ => false

/-- The state after a symbol; zero if there is none. -/
def nextState (s symbol : Nat) : Nat :=
  if symbol < a.tokenCount then
    match (a.actions s symbol).getLast? with
    | some (.shift t) | some (.shiftRepetition t) => t
    | some .shiftExtra => s
    | _ => 0
  else if symbol ≥ errorRepeatSymbol then 0
  else (a.gotoRows.getD (a.state s).gotoRow #[]).getD (symbol - a.tokenCount) 0

/-- How a symbol shows. -/
def visibility (symbol : Nat) : Visibility :=
  if symbol = errorSymbol then .named
  else match a.symbols[symbol]? with
    | some s => s.visibility
    | none => .hidden

/-- The name of a symbol. -/
def name (symbol : Nat) : String :=
  if symbol = errorSymbol then "ERROR"
  else match a.symbols[symbol]? with
    | some s => s.name
    | none => ""

/-- The production of a reduction. -/
def production (p : Nat) : Production :=
  a.productions.getD p ⟨[], []⟩

/-- The symbol of a context-dependent token. -/
def contextSymbol (t : ContextToken) : Nat :=
  (a.contextSymbols.lookup t).getD 0

/-- The context-dependent tokens that a state expects. -/
def expectedContext (s : ParseState) : List ContextToken :=
  a.contextModes.getD s.contextMode []

end Automaton

end ScriptCensus
