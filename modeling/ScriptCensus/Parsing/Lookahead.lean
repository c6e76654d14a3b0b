import ScriptCensus.Parsing.Stack

/-!
# Reading the next token

What the next token is depends on the state that asks for it. `readToken` first looks for the
tokens that the state expects, then for any token at all, and if there is none it skips text until
there is one; the skipped text becomes an error.
-/

namespace ScriptCensus.Parsing

open Automaton

/-- A token found at a position. -/
structure Found where
  symbol : Nat
  starts : Nat
  stops : Nat
  /-- The token was decided from its context. -/
  contextual : Bool

/-- The position from which tokens are looked for: a byte order mark at the start is passed. -/
def enter (text : SourceText) (position : Nat) : Nat :=
  if position = 0 && (text.rest 0).head? == some '\uFEFF' then 1 else position

/-- Looks for a context-dependent token. A token without text is refused where it could be found
over and over: in an error, before anything was read after an error, and where it would not change
the state. -/
def findContextual (a : Automaton) (text : SourceText) (mode : ParseState)
    (state position : Nat) (refuseEmpty : Bool) : Option Found :=
  let expected := a.expectedContext mode
  if expected.isEmpty then none
  else
    let start := enter text position
    match ContextToken.scan a.dialect expected.contains text.size (text.rest start) start with
    | none => none
    | some m =>
      let symbol := a.contextSymbol m.token
      let starts := min m.start m.stop
      if m.stop ≤ position && (refuseEmpty || a.nextState state symbol == state) then none
      else some ⟨symbol, starts, m.stop, true⟩

/-- Looks for a token in a mode; if none is found, says where one would start and how far the text
was read. -/
def findToken (a : Automaton) (text : SourceText) (mode : ParseState) (state position : Nat)
    (refuseEmpty : Bool) : Found ⊕ Scanned :=
  match findContextual a text mode state position refuseEmpty with
  | some found => .inl found
  | none =>
    let start := enter text position
    let scanned := a.lexicon.scan (a.lexModes.getD mode.lexMode []) (text.rest start) start
    match scanned.token? with
    | some symbol => .inl ⟨symbol, scanned.start, scanned.stop, false⟩
    | none => .inr scanned

/-- What is left after skipping text: a token, or the skipped text. -/
inductive SkipResult where
  | found (token : Found)
  | skipped (starts stops : Nat)

/-- Looks for any token, from a position on. The skipped text so far runs between two positions. -/
def skipToToken (a : Automaton) (text : SourceText) (state : Nat) :
    Nat → Nat → Option (Nat × Nat) → SkipResult
  | 0, position, _ => .skipped position position
  | fuel + 1, position, skipped? =>
    match findToken a text (a.state errorState) state position true with
    | .inl found =>
      match skipped? with
      | none => .found found
      | some (starts, stops) => .skipped starts stops
    | .inr scanned =>
      let (starts, stops) := skipped?.getD (scanned.start, scanned.start)
      if scanned.reached = stops then
        if stops ≥ text.size then .skipped starts stops
        else skipToToken a text state fuel (stops + 1) (some (starts, stops + 1))
      else skipToToken a text state fuel scanned.reached (some (starts, scanned.reached))

/-- Makes a leaf of a token. A word that is a keyword becomes that keyword where the state has an
action for it. -/
def makeLeaf (a : Automaton) (text : SourceText) (state begins : Nat) (found : Found) : Subtree :=
  if !found.contextual && found.symbol == wordToken then
    let scanned := a.lexicon.scan a.keywords (text.rest found.starts) found.starts
    let symbol := match scanned.token? with
      | some k => if scanned.stop == found.stops && a.hasActions state k then k else wordToken
      | none => wordToken
    .leaf a symbol begins found.starts found.stops state scanned.token?.isSome
  else .leaf a found.symbol begins found.starts found.stops state false

/-- Reads the next token of a version for a state. -/
def readToken (a : Automaton) (text : SourceText) (s : Stack) (version state : Nat) : Subtree :=
  let begins := s.position version
  let expected := if state = errorState then none
    else match findToken a text (a.state state) state begins (!s.hasAdvanced version) with
      | .inl found => some found
      | .inr _ => none
  match expected with
  | some found => makeLeaf a text state begins found
  | none =>
    match skipToToken a text state (text.size + 2) begins none with
    | .found found => makeLeaf a text state begins found
    | .skipped starts stops => .leaf a errorSymbol begins starts stops state false

/-- Whether a token that was read for another state can be taken for this one: both look for the
same tokens, or nothing else could be read in its place. -/
def canReuse (a : Automaton) (state : Nat) (t : Subtree) : Bool :=
  let here := a.state state
  let there := a.state t.data.state
  match a.entry? state t.symbol with
  | none => false
  | some entry =>
    (here.lexMode == there.lexMode && here.contextMode == there.contextMode &&
      (t.symbol != wordToken || (!t.data.keyword && t.data.state == state))) ||
    ((t.symbol == 0 || t.data.starts != t.data.stops) && here.contextMode == 0 && entry.reusable)

end ScriptCensus.Parsing
