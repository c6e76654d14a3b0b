import ScriptCensus.Parsing.Recovery

/-!
# The parser

`parseText` reads a whole text. The versions of the stack take turns: each one reads a token and does
what the automaton says (`Run.advance`), then the versions are ranked, and if the best one is stuck it
recovers (`Run.condense`). Every text yields a tree; what does not fit is in error nodes.
-/

namespace ScriptCensus.Parsing

open Automaton

namespace Run

variable (a : Automaton) (text : SourceText)

/-- What came of the actions for a token. -/
inductive Progress where
  /-- The version has dealt with the token. -/
  | done
  /-- Reductions were made; the last version that came out is given, if any was left. -/
  | reduced (version? : Option Nat)
  /-- There was nothing to do. -/
  | stuck

/-- Does the actions of a list in turn. A shift ends the list; reductions make new versions. -/
def act (version state : Nat) (lookahead : Subtree) :
    List ParseAction → Progress → Run → Progress × Run
  | [], progress, r => (progress, r)
  | action :: rest, progress, r =>
    match action with
    | .shift next =>
      (.done, { r with stack := r.stack.push version (some (lookahead.setExtra false)) next })
    | .shiftRepetition _ => act version state lookahead rest progress r
    | .shiftExtra =>
      (.done, { r with stack := r.stack.push version (some (lookahead.setExtra true)) state })
    | .reduce symbol count precedence production =>
      let (stack, made) := reduce a text r.stack version symbol count precedence production
      let last := match made, progress with
        | some v, _ => some v
        | none, .reduced v => v
        | none, _ => none
      act version state lookahead rest (.reduced last) { r with stack }
    | .accept => (.done, accept a text r version lookahead)
    | .recover => (.done, recover a text r version lookahead)

/-- Deals with a token on a version, reducing as often as the automaton says. -/
def consume (version : Nat) : Nat → Subtree → List ParseAction → Run → Run
  | 0, lookahead, _, r => { r with stack := r.stack.pause version lookahead }
  | fuel + 1, lookahead, actions, r =>
    let state := r.stack.state version
    match act a text version state lookahead actions .stuck r with
    | (.done, r) => r
    | (.reduced (some v), r) =>
      let r := { r with stack := r.stack.renumber v version }
      consume version fuel lookahead
        (a.actions (r.stack.state version) (firstSymbol lookahead)) r
    | (.reduced none, r) => { r with stack := r.stack.halt version }
    | (.stuck, r) =>
      let asWord := a.actions state wordToken
      if lookahead.data.keyword && lookahead.symbol != wordToken && !asWord.isEmpty then
        let word := lookahead.withData
          { lookahead.data with symbol := wordToken, visible := Subtree.isVisible a wordToken }
        consume version fuel word asWord r
      else if state = errorState then recover a text r version lookahead
      else { r with stack := r.stack.pause version lookahead }

/-- Reads the next token of a version and deals with it. -/
def advance (version : Nat) (r : Run) : Run :=
  let state := r.stack.state version
  let position := r.stack.position version
  let cached? := match r.cached? with
    | some (p, t) => if p == position && canReuse a state t then some t else none
    | none => none
  let (lookahead, r) := match cached? with
    | some t => (t, r)
    | none =>
      let t := readToken a text r.stack version state
      (t, { r with cached? := some (position, t) })
  consume a text version (r.stack.nodes.size + 1000) lookahead (a.actions state lookahead.symbol) r

/-- Ranks the versions, and starts a recovery if the best one is stuck. Gives the least cost of a
version that goes on. -/
def condense (r : Run) : Run × Option Nat :=
  let (s, least) := rankAll (2 * r.stack.versionCount + 2) r.stack 0 none
  resume (s.versionCount) 0 false { r with stack := dropExcess s } least
where
  /-- Lets the first paused version recover if none before it goes on, and drops the others. -/
  resume : Nat → Nat → Bool → Run → Option Nat → Run × Option Nat
    | 0, _, _, r, least => (r, least)
    | count + 1, i, goesOn, r, least =>
      match (r.stack.head i).status with
      | .paused lookahead =>
        if !goesOn && r.accepted < maxVersions then
          let cost := r.stack.cost i
          let stack := r.stack.modifyHead i ({ · with status := .active })
          resume count (i + 1) true (handleError a text { r with stack } i lookahead) (some cost)
        else resume count i goesOn { r with stack := r.stack.remove i } least
      | _ => resume count (i + 1) true r least

/-- Lets a version advance until it has passed the last position. -/
def advanceVersion (version : Nat) : Nat → Nat → Run → Nat × Run
  | 0, last, r => (last, r)
  | fuel + 1, last, r =>
    if (r.stack.head version).status.isActive && version < r.stack.versionCount then
      let r := advance a text version r
      let position := r.stack.position version
      if position > last || (version > 0 && position == last) then (position, r)
      else advanceVersion version fuel last r
    else (last, r)

/-- Lets all versions advance, from a version on. -/
def advanceAll (limit : Nat) : Nat → Nat → Nat → Run → Nat × Run
  | 0, _, last, r => (last, r)
  | fuel + 1, version, last, r =>
    if version < r.stack.versionCount then
      let (last, r) := advanceVersion a text version limit last r
      advanceAll limit fuel (version + 1) last r
    else (last, r)

/-- Takes turns until no version is left, or the finished tree is better than any that could still
come. -/
def turns (limit : Nat) : Nat → Nat → Run → Run
  | 0, _, r => r
  | fuel + 1, last, r =>
    let count := r.stack.versionCount
    let (last, r) := advanceAll a text limit (count + 1000) 0 last r
    let alive := r.stack.versionCount != 0
    let (r, least) := condense a text r
    let settled := match r.finished?, least with
      | some t, some c => t.cost < c
      | some _, none => true
      | none, _ => false
    if alive && !settled then turns limit fuel last r else r

end Run

/-- Parses a text. -/
def parseText (a : Automaton) (text : SourceText) : Subtree :=
  let limit := 100 * (text.size + 100)
  match (Run.turns a text limit limit 0 { stack := .initial }).finished? with
  | some t => t
  | none => Subtree.branch a text errorSymbol 0 0 []

end ScriptCensus.Parsing
