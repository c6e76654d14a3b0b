import ScriptCensus.Parsing.Reduction

/-!
# Recovery from errors

When no version can go on, the parser recovers: it tries to imagine one missing token
(`Run.insertMissing`), to return to an earlier state in which the next token is welcome
(`Run.returnToRefuge`), and to skip the token (`Run.skipToken`). The rival versions that come out are
left to compete.
-/

namespace ScriptCensus.Parsing

open Automaton

namespace Run

variable (a : Automaton) (text : SourceText)

/-- Completes a tree: the end of the text is pushed, and everything on the stack becomes the root. -/
def accept (r : Run) (version : Nat) (lookahead : Subtree) : Run :=
  let (s, slices) := (r.stack.push version (some lookahead) initialState).popAll version
  let roots := slices.toList.filterMap fun slice =>
    let (before, rest) := (slice.subtrees.reverse.span Subtree.extra)
    match rest with
    | [] => none
    | top :: below =>
      some (Subtree.branch a text top.symbol top.data.production top.data.begins
        (below.reverse ++ top.children ++ before.reverse))
  let finished? := roots.foldl (fun best root =>
    match best with
    | none => some root
    | some b => if b.prefersSecond root then some root else best) r.finished?
  let s := match slices[0]? with
    | some slice => s.remove slice.version
    | none => s
  { r with stack := s.halt version, finished?, accepted := r.accepted + roots.length }

/-- Turns popped slices into errors on top of a state. Slices that lead to another state are
dropped. Says whether a version came out. -/
def returnAll (goal : Nat) : List Slice → Option Nat → Stack → Bool × Stack
  | [], previous, s => (previous.isSome, s)
  | x :: rest, previous, s =>
    if previous == some x.version then returnAll goal rest previous s
    else if s.state x.version != goal then returnAll goal rest previous (s.halt x.version)
    else
      let (s, popped) := s.popError x.version
      let inner := match popped with
        | e :: _ => e.children
        | [] => []
      let (skipped, extras) := Subtree.splitExtras (inner ++ x.subtrees)
      let s := if skipped.isEmpty then s
        else
          let e := Subtree.branch a text errorSymbol 0 (s.position x.version) skipped
          s.push x.version (some (e.setExtra true)) goal
      let s := extras.foldl (fun s t => s.push x.version (some t) goal) s
      returnAll goal rest (some x.version) s

/-- Returns to the first refuge that has an action for the token. Says whether there was one. -/
def returnToRefuge (version token cost sinceError : Nat) (lookahead : Subtree) :
    List Refuge → Run → Bool × Run
  | [], r => (false, r)
  | e :: rest, r =>
    let position := r.stack.position version
    let occupied := (List.range r.stack.versionCount).any fun j =>
      r.stack.state j == e.state && r.stack.position j == position
    if e.state == errorState || e.position == position || occupied then
      returnToRefuge version token cost sinceError lookahead rest r
    else
      let newCost := cost + e.depth * skippedTreeCost +
        text.bytesBetween e.position position * skippedByteCost +
        text.rowsBetween e.position position * skippedLineCost
      let (better, r) := r.betterExists version newCost
      if better then (false, r)
      else if a.hasActions e.state token then
        let depth := if sinceError > 0 then e.depth + 1 else e.depth
        let (s, slices) := r.stack.popCount version depth
        let (returned, s) := returnAll a text e.state slices.toList none s
        let r := { r with stack := s }
        if returned then (true, r)
        else returnToRefuge version token cost sinceError lookahead rest r
      else returnToRefuge version token cost sinceError lookahead rest r

/-- Drops the versions from an index on that are not active. -/
def dropInactive (s : Stack) (start : Nat) : Stack :=
  { s with heads := s.heads.take start ++ (s.heads.drop start).filter (·.status.isActive) }

/-- Wraps a token in an error, together with the tokens that were skipped before it. -/
def skipToken (r : Run) (version sinceError : Nat) (lookahead : Subtree) : Run :=
  let isExtra := (a.actions initialState lookahead.symbol).getLast? == some .shiftExtra
  let lookahead := if isExtra then lookahead.setExtra true else lookahead
  let make := Subtree.branch a text errorRepeatSymbol 0 lookahead.data.begins
  let skipped := make [lookahead]
  if sinceError > 0 then
    let (s, slices) := r.stack.popCount version 1
    match slices[0]? with
    | none => { r with stack := s.push version (some skipped) errorState }
    | some slice =>
      let s := { s with heads := s.heads.take (slice.version + 1) }
      let s := s.renumber slice.version version
      let all := make (slice.subtrees ++ [skipped])
      { r with stack := s.push version (some all) errorState }
  else { r with stack := r.stack.push version (some skipped) errorState }

/-- Deals with a token in the error state. -/
def recover (r : Run) (version : Nat) (lookahead : Subtree) : Run :=
  let previousCount := r.stack.versionCount
  let r := { r with stack := r.stack.settle version }
  let sinceError := r.stack.nodesSinceError version
  let cost := r.stack.cost version
  let refuges := (r.stack.head version).refuges?.getD []
  let (returned, r) := if lookahead.isError then (false, r)
    else returnToRefuge a text version lookahead.symbol cost sinceError lookahead refuges r
  let r := { r with stack := dropInactive r.stack previousCount }
  if lookahead.symbol = 0 then
    let all := Subtree.branch a text errorSymbol 0 (r.stack.position version) []
    accept a text { r with stack := r.stack.push version (some all) initialState } version lookahead
  else if returned && r.stack.versionCount > maxVersions then
    { r with stack := r.stack.halt version }
  else
    let d := lookahead.data
    let newCost := cost + skippedTreeCost +
      text.bytesBetween d.begins d.stops * skippedByteCost +
      text.rowsBetween d.begins d.stops * skippedLineCost
    let (better, r) := r.betterExists version newCost
    if better then { r with stack := r.stack.halt version }
    else skipToken a text r version sinceError lookahead

/-- The first leaf's symbol of a subtree. -/
def firstSymbol : Subtree → Nat
  | .node _ (c :: _) => firstSymbol c
  | .node d [] => d.symbol

/-- Imagines a missing token on a version: the first one after which the lookahead can be shifted. -/
def insertMissing (s : Stack) (version token : Nat) : List Nat → Bool × Stack
  | [] => (false, s)
  | missing :: rest =>
    let state := s.state version
    let next := a.nextState state missing
    if next = 0 || next = state || !a.startsWithReduce next token then
      insertMissing s version token rest
    else
      let copy := s.versionCount
      let leaf := Subtree.missingLeaf a missing (s.position version)
      let s := (s.copy version).push copy (some leaf) next
      let (can, s) := reduceFor a text s copy token
      if can then (true, s) else insertMissing s version token rest

/-- Marks the error on some versions, after trying to imagine a missing token on the first ones. -/
def markErrors (token : Nat) : List Nat → Bool → Stack → Stack
  | [], _, s => s
  | v :: rest, inserted, s =>
    let (now, s) := if inserted then (false, s)
      else insertMissing a text s v token ((List.range a.tokenCount).drop 1)
    markErrors token rest (inserted || now) (s.push v none errorState)

/-- Starts the recovery of a version from a token that fits nowhere. -/
def handleError (r : Run) (version : Nat) (lookahead : Subtree) : Run :=
  let previousCount := r.stack.versionCount
  let s := reduceForAny a text r.stack version
  let count := s.versionCount
  let made := (List.range count).drop previousCount
  let s := markErrors a text (firstSymbol lookahead) (version :: made) false s
  let s := made.foldl (fun s _ => (s.merge? version previousCount).getD s) s
  let s := s.recordRefuges version maxRefugeDepth
  recover a text { r with stack := s } version lookahead

end Run

end ScriptCensus.Parsing
