import ScriptCensus.Parsing.Versions

/-!
# Reductions

A reduction replaces the last subtrees of a version by one node. On a branching stack there may be
several paths to pop: paths that end in the same place yield one node, made of the better children
(`Run.reduce`), and paths that end in different places yield new versions.
-/

namespace ScriptCensus.Parsing

open Automaton

namespace Run

variable (a : Automaton) (text : SourceText)

/-- Of the slices of one version, the node with the better children, and the subtrees behind it
that may stand anywhere. -/
def chooseChildren (symbol production position : Nat) (first : List Subtree)
    (others : List (List Subtree)) : Subtree × List Subtree :=
  let make (production : Nat) (ts : List Subtree) : Subtree × List Subtree :=
    let (children, extras) := Subtree.splitExtras ts
    (.branch a text symbol production position children, extras)
  others.foldl (fun best ts =>
    if best.1.prefersSecond (make 0 ts).1 then make production ts else best)
    (make production first)

/-- Pushes the node of a reduction onto a version, and behind it the subtrees that may stand
anywhere. -/
def pushNode (s : Stack) (version symbol : Nat) (precedence : Int) (node : Subtree)
    (extras : List Subtree) : Stack :=
  let next := a.nextState (s.state version) symbol
  let node := node.withData
    { node.data with precedence := node.data.precedence + precedence }
  extras.foldl (fun s t => s.push version (some t) next) (s.push version (some node) next)

/-- Merges a version into the first version before it that it can be merged with, the given one
apart. -/
def mergeBefore (s : Stack) (except version : Nat) : Option Stack :=
  (List.range version).findSome? fun j => if j == except then none else s.merge? j version

/-- Takes slices of the same version together. -/
def groupSlices : List Slice → List (Nat × List Subtree × List (List Subtree))
  | [] => []
  | x :: rest =>
    match groupSlices rest with
    | (v, first, others) :: more =>
      if v = x.version then (v, x.subtrees, first :: others) :: more
      else (x.version, x.subtrees, []) :: (v, first, others) :: more
    | [] => [(x.version, x.subtrees, [])]

/-- Makes the reductions of a list of popped versions. The numbers of the later versions go down by
the number of versions that were removed. -/
def reduceAll (version symbol production : Nat) (precedence : Int) (limit : Nat) :
    List (Nat × List Subtree × List (List Subtree)) → Nat → Stack → Stack
  | [], _, s => s
  | (v, first, others) :: rest, removed, s =>
    let v := v - removed
    if v > limit then
      reduceAll version symbol production precedence limit rest (removed + 1) (s.remove v)
    else
      let (node, extras) := chooseChildren a text symbol production (s.position v) first others
      let s := pushNode a s v symbol precedence node extras
      match mergeBefore s version v with
      | some s => reduceAll version symbol production precedence limit rest (removed + 1) s
      | none => reduceAll version symbol production precedence limit rest removed s

/-- Reduces the last subtrees of a version to a node. The versions that come out are added behind
the others; the number of the first one is returned, unless all were merged into others. -/
def reduce (s : Stack) (version symbol count : Nat) (precedence : Int) (production : Nat) :
    Stack × Option Nat :=
  let before := s.versionCount
  let halted := (s.heads.filter (·.status.isHalted)).size
  let (s, slices) := s.popCount version count
  let s := reduceAll a text version symbol production precedence
    (maxVersions + maxOverflow + halted) (groupSlices slices.toList) 0 s
  (s, if s.versionCount > before then some before else none)

/-- The reductions among the actions of a state for some tokens, each symbol and count once, and
whether a token can be shifted. -/
def collectReductions (state : Nat) (tokens : List Nat) :
    Bool × Array (Nat × Nat × Int × Nat) :=
  tokens.foldl (fun found token =>
    (a.actions state token).foldl (fun (shifts, reductions) action =>
      match action with
      | .shift _ | .recover => (true, reductions)
      | .reduce symbol count precedence production =>
        if count > 0 && !reductions.any (fun (s, c, _) => s == symbol && c == count) then
          (shifts, reductions.push (symbol, count, precedence, production))
        else (shifts, reductions)
      | _ => (shifts, reductions)) found) (false, #[])

/-- Makes all reductions that are possible for some tokens, on a version and on those that come out
of it. With `strict`, versions that cannot shift any of the tokens in the end are removed. Says
whether one can. -/
def reduceFully (tokens : List Nat) (strict : Bool) (start initialCount : Nat) :
    Nat → Nat → Nat → Bool → Stack → Bool × Stack
  | 0, _, _, can, s => (can, s)
  | fuel + 1, round, version, can, s =>
    let count := s.versionCount
    if version ≥ count then (can, s)
    else
      let merged := (List.range version).findSome? fun j =>
        if j < initialCount then none else s.merge? j version
      match merged with
      | some s => reduceFully tokens strict start initialCount fuel (round + 1) version can s
      | none =>
        let (shifts, reductions) := collectReductions a (s.state version) tokens
        let (s, made) := reductions.foldl (fun (s, _) (symbol, n, precedence, production) =>
          reduce a text s version symbol n precedence production) (s, none)
        let onward := if version = start then count else version + 1
        if shifts then
          reduceFully tokens strict start initialCount fuel (round + 1) onward true s
        else
          match made with
          | some v =>
            if round < maxVersions then
              reduceFully tokens strict start initialCount fuel (round + 1) version can
                (s.renumber v version)
            else
              let s := if strict then s.remove version else s
              reduceFully tokens strict start initialCount fuel (round + 1) onward can s
          | none =>
            let s := if strict then s.remove version else s
            reduceFully tokens strict start initialCount fuel (round + 1) onward can s

/-- The number of rounds that a full reduction may take. -/
def reductionRounds : Nat := 1000

/-- Makes all reductions that some token would allow. -/
def reduceForAny (s : Stack) (version : Nat) : Stack :=
  (reduceFully a text ((List.range a.tokenCount).drop 1) false version s.versionCount
    reductionRounds 0 version false s).2

/-- Makes all reductions that a token allows, and says whether it can be shifted then. The end of
the text stands for any token. -/
def reduceFor (s : Stack) (version token : Nat) : Bool × Stack :=
  if token = 0 then
    reduceFully a text ((List.range a.tokenCount).drop 1) false version s.versionCount
      reductionRounds 0 version false s
  else
    reduceFully a text [token] true version s.versionCount reductionRounds 0 version false s

end Run

end ScriptCensus.Parsing
