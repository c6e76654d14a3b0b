import ScriptCensus.Parsing.Lookahead

/-!
# Rival versions

When a text has several readings, or an error several ways out of it, the versions of the stack are
rivals. `Standing.compare` says which of two is the better one and whether the other one is worth
keeping; `Run.condense` orders the versions and drops the hopeless ones.
-/

namespace ScriptCensus.Parsing

open Automaton

/-- The greatest number of versions that are kept. -/
def maxVersions : Nat := 6

/-- How far the number of versions may go beyond that while reductions are made. -/
def maxOverflow : Nat := 4

/-- How much more a version may cost than another one, per node that the other one has read. -/
def maxCostDifference : Nat := 18 * skippedTreeCost

/-- How deep the stack is searched for a state to return to. -/
def maxRefugeDepth : Nat := 16

/-- The state of a parse. -/
structure Run where
  stack : Stack
  /-- The best tree of the whole text so far. -/
  finished? : Option Subtree := none
  /-- How many trees of the whole text were made. -/
  accepted : Nat := 0
  /-- The last token read, and the position before it. -/
  cached? : Option (Nat × Subtree) := none
deriving Inhabited

/-- What decides between versions. -/
structure Standing where
  cost : Nat
  nodeCount : Nat
  precedence : Int
  inError : Bool

/-- The outcome of a comparison: keep only one, keep both with one first, or no difference. -/
inductive Preference where
  | takeLeft
  | preferLeft
  | none
  | preferRight
  | takeRight
deriving BEq

/-- Compares two versions. -/
def Standing.compare (a b : Standing) : Preference :=
  if !a.inError && b.inError then if a.cost < b.cost then .takeLeft else .preferLeft
  else if a.inError && !b.inError then if b.cost < a.cost then .takeRight else .preferRight
  else if a.cost < b.cost then
    if (b.cost - a.cost) * (1 + a.nodeCount) > maxCostDifference then .takeLeft else .preferLeft
  else if b.cost < a.cost then
    if (a.cost - b.cost) * (1 + b.nodeCount) > maxCostDifference then .takeRight else .preferRight
  else if a.precedence > b.precedence then .preferLeft
  else if b.precedence > a.precedence then .preferRight
  else .none

/-- What decides about a version. -/
def Stack.standing (s : Stack) (v : Nat) : Standing :=
  let paused := (s.head v).status.isPaused
  { cost := s.cost v + (if paused then skippedTreeCost else 0)
    nodeCount := s.nodesSinceError v
    precedence := (s.top v).precedence
    inError := paused || s.state v == errorState }

namespace Run

/-- Whether another version, or a finished tree, is better than a version would be at some cost.
The stack is returned with the node counts of the versions that were looked at settled. -/
def betterExists (r : Run) (v cost : Nat) : Bool × Run :=
  if r.finished?.any (·.cost ≤ cost) then (true, r)
  else
    let stack := r.stack.settle v
    let mine : Standing :=
      ⟨cost, stack.nodesSinceError v, (stack.top v).precedence, false⟩
    let position := stack.position v
    let (found, stack) := (List.range stack.versionCount).foldl (fun (found, stack) i =>
      if found || i == v || !(stack.head i).status.isActive || stack.position i < position then
        (found, stack)
      else
        let stack := stack.settle i
        match mine.compare (stack.standing i) with
        | .takeRight => (true, stack)
        | .preferRight => (stack.canMerge i v, stack)
        | _ => (false, stack)) (false, stack)
    (found, { r with stack })

/-- Compares the version at `i`, whose standing was taken before, with those before it, from `j` on.
Returns the stack and the index of the version after all changes. -/
def rankFrom (standing : Standing) : Nat → Stack → Nat → Nat → Stack × Nat
  | 0, s, _, i => (s, i + 1)
  | fuel + 1, s, j, i =>
    if j ≥ i then (s, i + 1)
    else
      match (s.standing j).compare standing with
      | .takeLeft => (s.remove i, i)
      | .preferLeft | .none =>
        match s.merge? j i with
        | some s => (s, i)
        | none => rankFrom standing fuel s (j + 1) i
      | .preferRight =>
        match s.merge? j i with
        | some s => (s, i)
        | none => rankFrom standing fuel (s.swap i j) (j + 1) i
      | .takeRight => rankFrom standing fuel (s.remove j) j (i - 1)

/-- Ranks all versions from `i` on; also gives the least cost of a version without an open error. -/
def rankAll : Nat → Stack → Nat → Option Nat → Stack × Option Nat
  | 0, s, _, least => (s, least)
  | fuel + 1, s, i, least =>
    if i ≥ s.versionCount then (s, least)
    else if (s.head i).status.isHalted then rankAll fuel (s.remove i) i least
    else
      let s := s.settle i
      let standing := s.standing i
      let least := if standing.inError then least
        else some (match least with
          | some c => min c standing.cost
          | none => standing.cost)
      let (s, i) := rankFrom standing (s.versionCount + 1) s 0 i
      rankAll fuel s i least

/-- Drops the versions beyond the greatest number. -/
def dropExcess (s : Stack) : Stack :=
  { s with heads := s.heads.take maxVersions }

end Run

end ScriptCensus.Parsing
