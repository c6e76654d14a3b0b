import ScriptCensus.Parsing.Subtree

/-!
# The branching parse stack

A text may have several readings at once, so the parse stack is a graph. A `StackNode` is a state
the parser was in, with links to the states before it; each link bears the subtree that was read in
between. A `Head` is a node from which parsing goes on, and the list of heads is the list of
versions, most promising first. Versions that reach the same state at the same position are merged
(`Stack.merge?`), and popping subtrees from a merged version yields one slice for every path
(`Stack.popCount`).
-/

namespace ScriptCensus.Parsing

open Automaton

/-- The step from one state back to the one before, with what was read in between. A link without a
subtree marks the place where an error was detected. -/
structure Link where
  node : Nat
  subtree? : Option Subtree
deriving Inhabited

/-- A state that the parser was in. -/
structure StackNode where
  state : Nat
  links : List Link
  position : Nat
  /-- The cost of all errors up to here. -/
  cost : Nat
  precedence : Int
  nodeCount : Nat
deriving Inhabited

/-- Whether parsing goes on from a head. -/
inductive HeadStatus where
  | active
  /-- The token that follows fits nowhere. -/
  | paused (lookahead : Subtree)
  | halted
deriving Inhabited

namespace HeadStatus

/-- Whether parsing goes on. -/
def isActive : HeadStatus → Bool
  | active => true
  | _ => false

/-- Whether parsing waits for a decision about an error. -/
def isPaused : HeadStatus → Bool
  | paused _ => true
  | _ => false

/-- Whether parsing has ended. -/
def isHalted : HeadStatus → Bool
  | halted => true
  | _ => false

end HeadStatus

/-- A state before an error, to which the parser might return. -/
structure Refuge where
  position : Nat
  depth : Nat
  state : Nat
deriving Inhabited

/-- A node from which parsing goes on. -/
structure Head where
  node : Nat
  nodeCountAtError : Nat := 0
  status : HeadStatus := .active
  /-- The states to return to, recorded when an error was detected. -/
  refuges? : Option (List Refuge) := none
deriving Inhabited

/-- The parse stack: all nodes ever made, and the current versions. -/
structure Stack where
  nodes : Array StackNode
  heads : Array Head
deriving Inhabited

/-- What was popped from a version, and the version that is left below it. -/
structure Slice where
  version : Nat
  subtrees : List Subtree
deriving Inhabited

/-- The greatest number of links of a node. -/
def maxLinks : Nat := 8

/-- The greatest number of paths that are followed at once. -/
def maxWalkers : Nat := 64

namespace Stack

/-- The stack before any token. -/
def initial : Stack :=
  ⟨#[⟨initialState, [], 0, 0, 0, 0⟩], #[{ node := 0 }]⟩

variable (s : Stack)

/-- A node of the stack. -/
def node (n : Nat) : StackNode :=
  s.nodes.getD n default

/-- The head of a version. -/
def head (v : Nat) : Head :=
  s.heads.getD v default

/-- The topmost node of a version. -/
def top (v : Nat) : StackNode :=
  s.node (s.head v).node

/-- The state of a version. -/
def state (v : Nat) : Nat :=
  (s.top v).state

/-- The position of a version. -/
def position (v : Nat) : Nat :=
  (s.top v).position

/-- The number of versions. -/
def versionCount : Nat :=
  s.heads.size

/-- Changes the head of a version. -/
def modifyHead (v : Nat) (f : Head → Head) : Stack :=
  { s with heads := s.heads.modify v f }

/-- Drops a version. -/
def remove (v : Nat) : Stack :=
  { s with heads := s.heads.eraseIdxIfInBounds v }

/-- Ends a version. -/
def halt (v : Nat) : Stack :=
  s.modifyHead v ({ · with status := .halted })

/-- Lets a version wait until it is known whether another one fares better. -/
def pause (v : Nat) (lookahead : Subtree) : Stack :=
  let count := (s.top v).nodeCount
  s.modifyHead v ({ · with status := .paused lookahead, nodeCountAtError := count })

/-- Exchanges two versions. -/
def swap (v w : Nat) : Stack :=
  let a := s.head v
  let b := s.head w
  { s with heads := (s.heads.setIfInBounds v b).setIfInBounds w a }

/-- Puts a version in the place of an earlier one; the refuges of the earlier one are kept if the
new one has none. -/
def renumber (v w : Nat) : Stack :=
  if v = w then s
  else
    let source := s.head v
    let target := s.head w
    let source := match source.refuges? with
      | some _ => source
      | none => { source with refuges? := target.refuges? }
    { s with heads := (s.heads.setIfInBounds w source).eraseIdxIfInBounds v }

/-- Adds a copy of a version, without its refuges. -/
def copy (v : Nat) : Stack :=
  let h := s.head v
  { s with heads := s.heads.push { h with refuges? := none } }

/-- Pushes a subtree, or the mark of an error, onto a version. -/
def push (v : Nat) (t : Option Subtree) (state : Nat) : Stack :=
  let below := (s.head v).node
  let b := s.node below
  let n : StackNode := match t with
    | none => { b with state, links := [⟨below, none⟩] }
    | some t =>
      { state, links := [⟨below, some t⟩], position := t.data.stops
        cost := b.cost + t.cost
        precedence := b.precedence + t.precedence
        nodeCount := b.nodeCount + t.nodeCount }
  let index := s.nodes.size
  let s := { s with nodes := s.nodes.push n }
  s.modifyHead v fun h =>
    { h with node := index,
             nodeCountAtError := if t.isNone then n.nodeCount else h.nodeCountAtError }

/-- Whether two links bear the same reading as far as the parser can tell. -/
def sameReading (a b : Option Subtree) : Bool :=
  match a, b with
  | none, none => true
  | some a, some b => a.isEquivalent b
  | _, _ => false

/-- The precedence of a link's subtree. -/
def linkPrecedence (l : Link) : Int :=
  match l.subtree? with
  | some t => t.precedence
  | none => 0

/-- Adds a link to a node. A link with the same reading as another one is merged with it, together
with everything below it. -/
def addLink : Nat → Stack → Nat → Link → Stack
  | 0, s, _, _ => s
  | fuel + 1, s, n, link =>
    if link.node = n then s
    else
      let self := s.node n
      let below := s.node link.node
      let rival? := self.links.zipIdx.find? fun (old, _) =>
        sameReading old.subtree? link.subtree? &&
          (old.node == link.node ||
            (let o := s.node old.node
             o.state == below.state && o.position == below.position && o.cost == below.cost))
      match rival? with
      | some (old, i) =>
        if old.node = link.node then
          if linkPrecedence link > linkPrecedence old then
            let self := { self with links := self.links.set i link,
                                    precedence := below.precedence + linkPrecedence link }
            { s with nodes := s.nodes.setIfInBounds n self }
          else s
        else
          let s := below.links.foldl (fun s l => addLink fuel s old.node l) s
          let precedence := below.precedence + linkPrecedence link
          { s with nodes := s.nodes.modify n fun self =>
              { self with precedence := max precedence self.precedence } }
      | none =>
        if self.links.length ≥ maxLinks then s
        else
          let count := match link.subtree? with
            | some t => t.nodeCount
            | none => 0
          let self := { self with
            links := self.links ++ [link]
            nodeCount := max self.nodeCount (below.nodeCount + count)
            precedence := max self.precedence (below.precedence + linkPrecedence link) }
          { s with nodes := s.nodes.setIfInBounds n self }

/-- Whether two versions are in the same state at the same position with the same cost. -/
def canMerge (v w : Nat) : Bool :=
  let a := s.top v
  let b := s.top w
  (s.head v).status.isActive && (s.head w).status.isActive &&
    a.state == b.state && a.position == b.position && a.cost == b.cost

/-- Merges a version into another one, if they can be merged. -/
def merge? (v w : Nat) : Option Stack :=
  if s.canMerge v w then
    let target := (s.head v).node
    let s := (s.top w).links.foldl (fun s l => addLink s.nodes.size s target l) s
    let merged := s.node target
    let s := if merged.state = errorState then
        s.modifyHead v ({ · with nodeCountAtError := merged.nodeCount })
      else s
    some (s.remove w)
  else none

/-- A path from the top of a version downwards. -/
structure Walker where
  node : Nat
  /-- The subtrees passed, in the order of the text. -/
  subtrees : List Subtree
  /-- The number of subtrees passed that do not stand anywhere. -/
  count : Nat
deriving Inhabited

/-- What to do at the end of a path: record the path, and follow it no further. -/
structure Verdict where
  pop : Bool
  stop : Bool

/-- Adds the version that a popped path leads to, unless a slice already has it. -/
def addSlice (version : Nat) (slices : Array Slice) (w : Walker) : Stack × Array Slice :=
  match slices.toList.reverse.zipIdx.find? fun (x, _) => (s.head x.version).node == w.node with
  | some (x, i) => (s, slices.insertIdxIfInBounds (slices.size - i) ⟨x.version, w.subtrees⟩)
  | none =>
    let h : Head := { node := w.node, nodeCountAtError := (s.head version).nodeCountAtError }
    ({ s with heads := s.heads.push h }, slices.push ⟨s.heads.size, w.subtrees⟩)

/-- Goes one link down. -/
def Walker.follow (w : Walker) (l : Link) : Walker :=
  match l.subtree? with
  | none => { w with node := l.node, count := w.count + 1 }
  | some t =>
    { node := l.node, subtrees := t :: w.subtrees
      count := if t.extra then w.count else w.count + 1 }

/-- The state of a walk through the stack: the slices so far, the paths that go on, the paths that
branched off, and what the visitor keeps. -/
structure Walk (σ : Type) where
  stack : Stack
  slices : Array Slice
  onward : Array Walker
  branched : Array Walker
  memory : σ

/-- One step along every path. -/
def stepAll {σ : Type} (version : Nat) (visit : Stack → σ → Walker → Verdict × σ) :
    List Walker → Walk σ → Walk σ
  | [], k => k
  | w :: rest, k =>
    let n := k.stack.node w.node
    let (verdict, memory) := visit k.stack k.memory w
    let k := { k with memory }
    let k := if verdict.pop then
        let (stack, slices) := k.stack.addSlice version k.slices w
        { k with stack, slices }
      else k
    match n.links with
    | [] => stepAll version visit rest k
    | first :: others =>
      if verdict.stop then stepAll version visit rest k
      else
        let room := maxWalkers - (k.onward.size + 1 + rest.length + k.branched.size)
        let branched := (others.take room).foldl (fun b l => b.push (w.follow l)) k.branched
        stepAll version visit rest { k with onward := k.onward.push (w.follow first), branched }

/-- Steps along all paths until none is left. -/
def walkFrom {σ : Type} (version : Nat) (visit : Stack → σ → Walker → Verdict × σ) :
    Nat → List Walker → Walk σ → Walk σ
  | 0, _, k => k
  | _, [], k => k
  | fuel + 1, ws, k =>
    let k := stepAll version visit ws { k with onward := #[], branched := #[] }
    walkFrom version visit fuel (k.onward ++ k.branched).toList k

/-- Walks down from the top of a version. -/
def walk {σ : Type} (version : Nat) (memory : σ)
    (visit : Stack → σ → Walker → Verdict × σ) : Stack × Array Slice × σ :=
  let k := walkFrom version visit (s.nodes.size + 1) [⟨(s.head version).node, [], 0⟩]
    ⟨s, #[], #[], #[], memory⟩
  (k.stack, k.slices, k.memory)

/-- Pops a number of subtrees from a version, along every path. -/
def popCount (version count : Nat) : Stack × Array Slice :=
  let (s, slices, _) := s.walk version () fun _ _ w =>
    (⟨w.count == count, w.count == count⟩, ())
  (s, slices)

/-- Pops everything from a version, along every path. -/
def popAll (version : Nat) : Stack × Array Slice :=
  let (s, slices, _) := s.walk version () fun s _ w =>
    let isBottom := (s.node w.node).links.isEmpty
    (⟨isBottom, isBottom⟩, ())
  (s, slices)

/-- Pops the error on top of a version, if there is one. -/
def popError (version : Nat) : Stack × List Subtree :=
  let hasError := (s.top version).links.any fun l => l.subtree?.any (·.isError)
  if hasError then
    let (t, slices, _) := s.walk version false fun _ found w =>
      match w.subtrees with
      | [] => (⟨false, false⟩, found)
      | t :: _ => if !found && t.isError then (⟨true, true⟩, true) else (⟨false, true⟩, found)
    match slices[0]? with
    | some slice => (t.renumber slice.version version, slice.subtrees)
    | none => (t, [])
  else (s, [])

/-- Whether a state at a depth is already among the refuges, which are listed last first. -/
def isKnownRefuge (depth state : Nat) : List Refuge → Bool
  | [] => false
  | r :: rs =>
    if r.depth < depth then false
    else (r.depth == depth && r.state == state) || isKnownRefuge depth state rs

/-- Records the states of a version down to a depth. -/
def recordRefuges (version maxDepth : Nat) : Stack :=
  let (s, _, found) := s.walk version ([] : List Refuge) fun s found w =>
    let n := s.node w.node
    if w.count > maxDepth then (⟨false, true⟩, found)
    else if isKnownRefuge w.count n.state found then (⟨false, false⟩, found)
    else (⟨false, false⟩, ⟨n.position, w.count, n.state⟩ :: found)
  s.modifyHead version ({ · with refuges? := some found.reverse })

/-- The cost of a version; an error that was just detected is counted as a recovery. -/
def cost (v : Nat) : Nat :=
  let h := s.head v
  let n := s.node h.node
  let isFresh := n.state == errorState && (match n.links with
    | l :: _ => l.subtree?.isNone
    | [] => false)
  n.cost + (if h.status.isPaused || isFresh then recoveryCost else 0)

/-- Counts from what is left where nodes were taken back since the last error. -/
def settle (v : Nat) : Stack :=
  let count := (s.top v).nodeCount
  s.modifyHead v fun h => { h with nodeCountAtError := min h.nodeCountAtError count }

/-- The number of nodes read since the last error. -/
def nodesSinceError (v : Nat) : Nat :=
  (s.top v).nodeCount - (s.head v).nodeCountAtError

/-- Whether anything was read since the last error, from a node downwards. -/
def readSince (nodeCountAtError : Nat) : Nat → Nat → Bool
  | 0, _ => false
  | fuel + 1, n =>
    let node := s.node n
    match node.links with
    | ⟨below, some t⟩ :: _ =>
      if t.data.begins < t.data.stops then true
      else if node.nodeCount > nodeCountAtError && t.cost == 0 then
        readSince nodeCountAtError fuel below
      else false
    | _ => false

/-- Whether a version has read anything since its last error. -/
def hasAdvanced (v : Nat) : Bool :=
  let h := s.head v
  (s.node h.node).cost == 0 || s.readSince h.nodeCountAtError s.nodes.size h.node

end Stack

end ScriptCensus.Parsing
