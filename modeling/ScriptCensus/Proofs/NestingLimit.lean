import ScriptCensus.Proofs.Fields
import ScriptCensus.Proofs.Gather

/-!
# What the nesting limit changes

`ConcreteTree.convertNode` keeps the structure of a tree down to a limit and only the tokens below it.
`ConcreteTree.whole` is the conversion without a limit; it is what `convertNode` gives under any limit
that the tree does not reach (`convertNode_eq_whole`).

The leaves of a converted tree depend neither on the limit nor on the depth where the conversion starts
(`leaves_convertNode`), and so neither does what comes of a function (`ownOutcome_convertNode`). What
is left to the limit is which functions are met at all: those at positions shorter than it
(`walk_convertNode`). Positions count children from zero, so that their lexicographic order is the
order in which the nodes of a tree are met, each one before those inside it.
-/

namespace ScriptCensus.ConcreteTree

/-! ## Conversion without a limit -/

mutual

/-- A tree whose root stays a node, with all its structure. -/
def whole (source : ByteArray) : ConcreteTree → SyntaxNode
  | node i cs =>
    .mk (if i.isError then none else some (node i cs).tag) (some i.span)
      (foldFields (wholeChildren source cs))

/-- The children of a node under their field names, with all their structure. -/
def wholeChildren (source : ByteArray) :
    List (Option String × ConcreteTree) → List (String × SyntaxValue)
  | [] => []
  | (field?, t) :: rest =>
    (field?.getD SyntaxNode.childrenField, wholeValue source t) :: wholeChildren source rest

/-- A tree as a leaf or a node, whichever it is, with all its structure. -/
def wholeValue (source : ByteArray) : ConcreteTree → SyntaxValue
  | node i cs =>
    match leaf? source (node i cs) with
    | some l => .leaf l
    | none => .node (whole source (node i cs))

end

theorem size_pos : ∀ t : ConcreteTree, 0 < t.size
  | node _ cs => by simp [size]

mutual

/-- Under a limit that is not reached all structure is kept. -/
theorem convertNode_eq_whole (limit : Nat) (source : ByteArray) (depth : Nat) :
    ∀ t : ConcreteTree, depth + t.size ≤ limit → convertNode limit source depth t = t.whole source
  | node i cs, h => by
    rw [size] at h
    rw [convertNode, whole, convertChildren_eq_wholeChildren limit source (depth + 1) cs (by omega)]

theorem convertChildren_eq_wholeChildren (limit : Nat) (source : ByteArray) (depth : Nat) :
    ∀ cs : List (Option String × ConcreteTree), depth + sizeAll cs ≤ limit →
      convertChildren limit source depth cs = wholeChildren source cs
  | [], _ => by rw [convertChildren, wholeChildren]
  | (f, t) :: rest, h => by
    rw [sizeAll] at h
    rw [convertChildren, wholeChildren, convertValue_eq_wholeValue limit source depth t (by omega),
      convertChildren_eq_wholeChildren limit source depth rest (by omega)]

theorem convertValue_eq_wholeValue (limit : Nat) (source : ByteArray) (depth : Nat) :
    ∀ t : ConcreteTree, depth + t.size ≤ limit →
      convertValue limit source depth t = t.wholeValue source
  | node i cs, h => by
    have hlt : ¬limit ≤ depth := by
      have := size_pos (node i cs)
      omega
    rw [convertValue, wholeValue]
    cases leaf? source (node i cs) with
    | some l => rfl
    | none =>
      rw [size] at h
      simp only [if_neg hlt, convertNode, whole,
        convertChildren_eq_wholeChildren limit source (depth + 1) cs (by omega)]

end

/-! ## Leaves -/

/-- The leaves of a tree below its root, in the order of the text. -/
def leavesBelow (source : ByteArray) (t : ConcreteTree) : List Leaf :=
  pickedAll (leaf? source) t.children

theorem leavesBefore_flatten (source : ByteArray) (further : List Leaf) (t : ConcreteTree) :
    (flatten source t).leavesBefore further = t.picked (leaf? source) ++ further := by
  simp only [flatten, SyntaxNode.leavesBefore, SyntaxNode.fieldLeavesBefore,
    SyntaxValue.leavesBefore, SyntaxValue.itemLeavesBefore_leaves, TreeCursor.gather_eq_picked]

mutual

theorem fieldLeavesBefore_convertChildren (limit : Nat) (source : ByteArray) (depth : Nat)
    (further : List Leaf) :
    ∀ cs : List (Option String × ConcreteTree),
      SyntaxNode.fieldLeavesBefore further (convertChildren limit source depth cs) =
        pickedAll (leaf? source) cs ++ further
  | [] => by rw [convertChildren, SyntaxNode.fieldLeavesBefore, pickedAll, List.nil_append]
  | (f, t) :: rest => by
    rw [convertChildren, SyntaxNode.fieldLeavesBefore,
      fieldLeavesBefore_convertChildren limit source depth further rest,
      leavesBefore_convertValue limit source depth _ t, pickedAll, List.append_assoc]

/-- The leaves of a converted tree are those of the tree, whether its structure is kept or not. -/
theorem leavesBefore_convertValue (limit : Nat) (source : ByteArray) (depth : Nat)
    (further : List Leaf) :
    ∀ t : ConcreteTree, (convertValue limit source depth t).leavesBefore further =
      t.picked (leaf? source) ++ further
  | node i cs => by
    rw [convertValue]
    cases h : leaf? source (node i cs) with
    | some l => rw [picked_of_some h, SyntaxValue.leavesBefore, List.singleton_append]
    | none =>
      dsimp only
      by_cases hl : limit ≤ depth
      · rw [if_pos hl, SyntaxValue.leavesBefore, leavesBefore_flatten]
      · rw [if_neg hl, SyntaxValue.leavesBefore, convertNode, SyntaxNode.leavesBefore,
          SyntaxNode.fieldLeavesBefore_foldFields,
          fieldLeavesBefore_convertChildren limit source (depth + 1) further cs, picked_of_none h,
          children]

end

/-- The leaves of a converted tree do not depend on the limit. -/
theorem leaves_convertNode (limit : Nat) (source : ByteArray) (depth : Nat) (t : ConcreteTree) :
    (convertNode limit source depth t).leaves = t.leavesBelow source := by
  obtain ⟨i, cs⟩ := t
  rw [SyntaxNode.leaves, convertNode, SyntaxNode.leavesBefore,
    SyntaxNode.fieldLeavesBefore_foldFields, fieldLeavesBefore_convertChildren, List.append_nil,
    leavesBelow, children]

theorem leaves_whole (source : ByteArray) (t : ConcreteTree) :
    (t.whole source).leaves = t.leavesBelow source := by
  rw [← convertNode_eq_whole t.size source 0 t (by omega), leaves_convertNode]

/-- What comes of a function does not depend on the limit. -/
theorem ownOutcome_convertNode (limit : Nat) (source : ByteArray) (depth : Nat)
    (t : ConcreteTree) :
    (convertNode limit source depth t).ownOutcome = (t.whole source).ownOutcome := by
  refine SyntaxNode.ownOutcome_congr ?_ ?_ ((leaves_convertNode ..).trans (leaves_whole ..).symm)
  · obtain ⟨i, cs⟩ := t
    rw [convertNode, whole, SyntaxNode.tag?, SyntaxNode.tag?]
  · obtain ⟨i, cs⟩ := t
    rw [convertNode, whole, SyntaxNode.span?, SyntaxNode.span?]

/-! ## Functions and their positions -/

/-- Whether a tree stands for a leaf wherever it is not the root: a missing token does, whatever is
below it. -/
def isLeaf (t : ConcreteTree) : Bool :=
  t.info.isMissing || t.children.isEmpty

/-- Whether the root of a tree stands for a function. -/
def isFunction (t : ConcreteTree) : Bool :=
  !t.info.isError && (FunctionKind.ofTag? t.info.kind).isSome

/-- What comes of the root as a function if all structure is kept. -/
def outcome? (source : ByteArray) (t : ConcreteTree) : Option Outcome :=
  t.tag.function?.map (t.whole source).capture

/-- Which child to go to, level by level. -/
abbrev Position := List Nat

/-- The node at a position: the root, or a node further down that is no leaf. -/
def nodeAt? (t : ConcreteTree) : Position → Option ConcreteTree
  | [] => some t
  | k :: p =>
    match t.children[k]? with
    | some (_, c) => if c.isLeaf then none else c.nodeAt? p
    | none => none

mutual

/-- The nodes that stand for functions with their positions, each one before those inside it. -/
def functionNodes : ConcreteTree → List (Position × ConcreteTree)
  | node i cs =>
    (if (node i cs).isFunction then [([], node i cs)] else []) ++ functionNodesIn 0 cs

/-- The nodes of some children that stand for functions; the first child has the given number. -/
def functionNodesIn (k : Nat) :
    List (Option String × ConcreteTree) → List (Position × ConcreteTree)
  | [] => []
  | (_, t) :: rest =>
    (if t.isLeaf then [] else t.functionNodes.map fun x => (k :: x.1, x.2)) ++
      functionNodesIn (k + 1) rest

end

theorem leaf?_isSome (source : ByteArray) (t : ConcreteTree) :
    (leaf? source t).isSome = t.isLeaf := by
  unfold leaf? isLeaf
  cases t.info.isMissing <;> cases t.children.isEmpty <;> rfl

mutual

theorem mem_functionNodes (u : ConcreteTree) :
    ∀ (t : ConcreteTree) (p : Position),
      (p, u) ∈ t.functionNodes ↔ t.nodeAt? p = some u ∧ u.isFunction = true
  | node i cs, [] => by
    have hin : ([], u) ∉ functionNodesIn 0 cs := fun h => by
      obtain ⟨j, f, c, p, -, hp, -⟩ := (mem_functionNodesIn u cs 0 []).1 h
      simp at hp
    rw [functionNodes, List.mem_append, or_iff_left hin, nodeAt?]
    by_cases h : (node i cs).isFunction
    · rw [if_pos h, List.mem_singleton]
      constructor
      · rintro ⟨-, rfl⟩
        exact ⟨rfl, h⟩
      · rintro ⟨⟨⟩, -⟩
        rfl
    · rw [if_neg h]
      refine ⟨fun hm => by simp at hm, ?_⟩
      rintro ⟨⟨⟩, hf⟩
      exact absurd hf h
  | node i cs, k :: p => by
    have hown : (k :: p, u) ∉ (if (node i cs).isFunction then [([], node i cs)] else []) := by
      by_cases h : (node i cs).isFunction <;> simp [h]
    rw [functionNodes, List.mem_append, or_iff_right hown, mem_functionNodesIn u cs 0 (k :: p),
      nodeAt?, children]
    constructor
    · rintro ⟨j, f, c, q, hj, hq, hc, hn, hu⟩
      obtain ⟨rfl, rfl⟩ : k = j ∧ p = q := by simpa using hq
      simp [hj, hc, hn, hu]
    · rintro ⟨hn, hu⟩
      cases hk : cs[k]? with
      | none => simp [hk] at hn
      | some x =>
        obtain ⟨f, c⟩ := x
        by_cases hc : c.isLeaf
        · simp [hk, hc] at hn
        · exact ⟨k, f, c, p, hk, by simp, by simpa using hc, by simpa [hk, hc] using hn, hu⟩

theorem mem_functionNodesIn (u : ConcreteTree) :
    ∀ (cs : List (Option String × ConcreteTree)) (k : Nat) (p : Position),
      (p, u) ∈ functionNodesIn k cs ↔ ∃ j f c q, cs[j]? = some (f, c) ∧ p = (k + j) :: q ∧
        c.isLeaf = false ∧ c.nodeAt? q = some u ∧ u.isFunction = true
  | [], k, p => by simp [functionNodesIn]
  | (f, t) :: rest, k, p => by
    have hfirst : (p, u) ∈ (if t.isLeaf then [] else t.functionNodes.map fun x => (k :: x.1, x.2)) ↔
        ∃ q, p = k :: q ∧ t.isLeaf = false ∧ t.nodeAt? q = some u ∧ u.isFunction = true := by
      by_cases h : t.isLeaf
      · simp [h]
      · simp only [h, Bool.false_eq_true, if_false, List.mem_map, Prod.mk.injEq, Prod.exists]
        constructor
        · rintro ⟨q, v, hm, rfl, rfl⟩
          exact ⟨q, rfl, trivial, (mem_functionNodes v t q).1 hm⟩
        · rintro ⟨q, rfl, -, hm⟩
          exact ⟨q, u, (mem_functionNodes u t q).2 hm, rfl, rfl⟩
    rw [functionNodesIn, List.mem_append, hfirst, mem_functionNodesIn u rest (k + 1) p]
    constructor
    · rintro (⟨q, rfl, h⟩ | ⟨j, f', c, q, hj, rfl, h⟩)
      · exact ⟨0, f, t, q, rfl, rfl, h⟩
      · exact ⟨j + 1, f', c, q, by simpa using hj, by rw [Nat.add_right_comm, Nat.add_assoc], h⟩
    · rintro ⟨j, f', c, q, hj, rfl, h⟩
      cases j with
      | zero =>
        obtain ⟨rfl, rfl⟩ : f = f' ∧ t = c := by simpa using hj
        exact Or.inl ⟨q, rfl, h⟩
      | succ j =>
        exact Or.inr ⟨j, f', c, q, by simpa using hj, by rw [Nat.add_right_comm, Nat.add_assoc], h⟩

end

/-- The positions in some children start with the number of a child. -/
theorem position_of_mem_functionNodesIn {cs : List (Option String × ConcreteTree)} {k : Nat}
    {x : Position × ConcreteTree} (h : x ∈ functionNodesIn k cs) :
    ∃ j q, k ≤ j ∧ x.1 = j :: q := by
  obtain ⟨j, f, c, q, -, hp, -⟩ := (mem_functionNodesIn x.2 cs k x.1).1 h
  exact ⟨k + j, q, by omega, hp⟩

mutual

/-- The functions of a tree are listed in the lexicographic order of their positions. -/
theorem pairwise_functionNodes :
    ∀ t : ConcreteTree, t.functionNodes.Pairwise fun x y => x.1 < y.1
  | node i cs => by
    rw [functionNodes, List.pairwise_append]
    refine ⟨?_, pairwise_functionNodesIn 0 cs, ?_⟩
    · by_cases h : (node i cs).isFunction <;> simp [h]
    · intro x hx y hy
      obtain rfl : x = ([], node i cs) := by
        by_cases h : (node i cs).isFunction <;> simp_all
      obtain ⟨j, q, -, hq⟩ := position_of_mem_functionNodesIn hy
      rw [hq]
      exact List.nil_lt_cons j q

theorem pairwise_functionNodesIn (k : Nat) :
    ∀ cs : List (Option String × ConcreteTree),
      (functionNodesIn k cs).Pairwise fun x y => x.1 < y.1
  | [] => by simp [functionNodesIn]
  | (f, t) :: rest => by
    rw [functionNodesIn, List.pairwise_append]
    refine ⟨?_, pairwise_functionNodesIn (k + 1) rest, ?_⟩
    · by_cases h : t.isLeaf
      · simp [h]
      · rw [if_neg h, List.pairwise_map]
        exact (pairwise_functionNodes t).imp fun hlt => List.cons_lt_cons_self.2 hlt
    · intro x hx y hy
      obtain ⟨p, hp⟩ : ∃ p, x.1 = k :: p := by
        by_cases h : t.isLeaf
        · simp [h] at hx
        · rw [if_neg h] at hx
          obtain ⟨z, -, rfl⟩ := List.mem_map.1 hx
          exact ⟨z.1, rfl⟩
      obtain ⟨j, q, hj, hq⟩ := position_of_mem_functionNodesIn hy
      rw [hp, hq]
      exact List.Lex.rel (by omega)

end

/-! ## What comes of the functions -/

theorem functionKind?_whole (source : ByteArray) (t : ConcreteTree) :
    (t.whole source).functionKind? = if t.info.isError then none else t.tag.function? := by
  obtain ⟨i, cs⟩ := t
  rw [whole, SyntaxNode.functionKind?, SyntaxNode.tag?, info]
  cases i.isError <;> rfl

theorem tag_function?_isSome (t : ConcreteTree) :
    t.tag.function?.isSome = (FunctionKind.ofTag? t.info.kind).isSome := by
  simp [tag]

/-- A node that stands for a function has one outcome, any other node none. -/
theorem ownOutcome_whole (source : ByteArray) (t : ConcreteTree) :
    (t.whole source).ownOutcome.map some = if t.isFunction then [t.outcome? source] else [] := by
  rw [SyntaxNode.ownOutcome, functionKind?_whole, isFunction, ← tag_function?_isSome, outcome?]
  cases t.info.isError <;> cases t.tag.function? <;> rfl

theorem walk_flatten (source : ByteArray) (t : ConcreteTree) : (flatten source t).walk = [] := by
  simp [flatten, SyntaxNode.walk, SyntaxNode.ownOutcome, SyntaxNode.functionKind?, SyntaxNode.tag?,
    SyntaxNode.walkFields, SyntaxValue.walk, SyntaxValue.walkItems_leaves]

/-- What comes of those functions of a list that lie less deep than a limit, counted from a depth. -/
def outcomesWithin (source : ByteArray) (limit depth : Nat)
    (functions : List (Position × ConcreteTree)) : List (Option Outcome) :=
  (functions.filter fun x => x.1.length + depth < limit).map fun x => x.2.outcome? source

section outcomesWithin

variable (source : ByteArray) (limit depth : Nat)

theorem outcomesWithin_append (xs ys : List (Position × ConcreteTree)) :
    outcomesWithin source limit depth (xs ++ ys) =
      outcomesWithin source limit depth xs ++ outcomesWithin source limit depth ys := by
  simp [outcomesWithin]

/-- One step down in all positions counts as a start one deeper. -/
theorem outcomesWithin_cons (k : Nat) (xs : List (Position × ConcreteTree)) :
    outcomesWithin source limit depth (xs.map fun x => (k :: x.1, x.2)) =
      outcomesWithin source limit (depth + 1) xs := by
  simp only [outcomesWithin, List.filter_map, List.map_map, Function.comp_def, List.length_cons]
  simp only [Nat.add_right_comm _ 1 depth, Nat.add_assoc]

theorem outcomesWithin_of_le (h : limit ≤ depth) (xs : List (Position × ConcreteTree)) :
    outcomesWithin source limit depth xs = [] := by
  simp only [outcomesWithin, List.map_eq_nil_iff, List.filter_eq_nil_iff, decide_eq_true_eq]
  intro x _
  omega

mutual

/-- The walk over a converted tree meets the functions that lie less deep than the limit, and what
comes of each is what would come of it without a limit. -/
theorem walk_convertNode :
    ∀ (depth : Nat) (t : ConcreteTree), depth < limit →
      (convertNode limit source depth t).walk.map some =
        outcomesWithin source limit depth t.functionNodes
  | depth, node i cs, h => by
    have hown : (convertNode limit source depth (node i cs)).ownOutcome.map some =
        outcomesWithin source limit depth
          (if (node i cs).isFunction then [([], node i cs)] else []) := by
      rw [ownOutcome_convertNode, ownOutcome_whole]
      by_cases hf : (node i cs).isFunction
      · simp [outcomesWithin, hf, h]
      · simp [outcomesWithin, hf]
    rw [functionNodes, outcomesWithin_append, ← hown, ← walkFields_convertChildren depth 0 cs,
      ← List.map_append, ← SyntaxNode.walkFields_foldFields, convertNode, SyntaxNode.walk]

theorem walkFields_convertChildren :
    ∀ (depth k : Nat) (cs : List (Option String × ConcreteTree)),
      (SyntaxNode.walkFields (convertChildren limit source (depth + 1) cs)).map some =
        outcomesWithin source limit depth (functionNodesIn k cs)
  | depth, k, [] => by
    rw [convertChildren, SyntaxNode.walkFields, functionNodesIn]
    rfl
  | depth, k, (f, t) :: rest => by
    rw [convertChildren, SyntaxNode.walkFields, functionNodesIn, List.map_append,
      outcomesWithin_append, walkFields_convertChildren depth (k + 1) rest,
      walk_convertValue depth k t]

theorem walk_convertValue :
    ∀ (depth k : Nat) (t : ConcreteTree),
      (convertValue limit source (depth + 1) t).walk.map some =
        outcomesWithin source limit depth
          (if t.isLeaf then [] else t.functionNodes.map fun x => (k :: x.1, x.2))
  | depth, k, node i cs => by
    rw [convertValue, ← leaf?_isSome source]
    cases leaf? source (node i cs) with
    | some l => rfl
    | none =>
      simp only [Option.isSome_none, Bool.false_eq_true, if_false, outcomesWithin_cons]
      by_cases hl : limit ≤ depth + 1
      · rw [if_pos hl, SyntaxValue.walk, walk_flatten, outcomesWithin_of_le source limit _ hl]
        rfl
      · rw [if_neg hl, SyntaxValue.walk]
        exact walk_convertNode (depth + 1) (node i cs) (by omega)

end

end outcomesWithin

theorem size_le_sizeAll {f : Option String} {c : ConcreteTree} :
    ∀ {cs : List (Option String × ConcreteTree)}, (f, c) ∈ cs → c.size ≤ sizeAll cs
  | x :: rest, h => by
    obtain ⟨g, t⟩ := x
    rw [sizeAll]
    rcases List.mem_cons.1 h with h | h
    · obtain ⟨rfl, rfl⟩ := Prod.mk.inj h
      omega
    · have := size_le_sizeAll h
      omega

/-- No position is as long as the tree is large. -/
theorem length_lt_size {u : ConcreteTree} :
    ∀ {p : Position} {t : ConcreteTree}, t.nodeAt? p = some u → p.length < t.size
  | [], t, _ => size_pos t
  | k :: p, node i cs, h => by
    rw [nodeAt?, children] at h
    cases hk : cs[k]? with
    | none => simp [hk] at h
    | some x =>
      obtain ⟨f, c⟩ := x
      have hc : c.nodeAt? p = some u := by
        by_cases hl : c.isLeaf
        · simp [hk, hl] at h
        · simpa [hk, hl] using h
      have hp := length_lt_size hc
      have hs := size_le_sizeAll (List.mem_of_getElem? hk)
      rw [List.length_cons, size]
      omega

/-- Without a limit the walk meets all functions. -/
theorem walk_whole (source : ByteArray) (t : ConcreteTree) :
    (t.whole source).walk.map some = t.functionNodes.map fun x => x.2.outcome? source := by
  have hall : ∀ x ∈ t.functionNodes, x.1.length + 0 < t.size := fun x hx =>
    length_lt_size ((mem_functionNodes x.2 t x.1).1 hx).1
  rw [← convertNode_eq_whole t.size source 0 t (by omega),
    walk_convertNode source t.size 0 t (size_pos t), outcomesWithin,
    List.filter_eq_self.2 fun x hx => decide_eq_true (hall x hx)]

/-- The nesting limit drops functions and changes none. A converted tree has the leaves of the tree
below its root. The functions that it yields are those at positions shorter than the limit, in order of
position, out of all that the conversion without a limit yields, and what comes of each is the same. -/
theorem nestingLimit_only_drops (source : ByteArray) (t : ConcreteTree) :
    (t.toSyntax source).value.leaves = t.leavesBelow source ∧
    (t.toSyntax source).value.walk.map some =
      (t.functionNodes.filter fun x => x.1.length < maxNesting).map
        (fun x => x.2.outcome? source) ∧
    (t.whole source).walk.map some = t.functionNodes.map (fun x => x.2.outcome? source) ∧
    (∀ limit, t.size ≤ limit → convertNode limit source 0 t = t.whole source) ∧
    (∀ p u, (p, u) ∈ t.functionNodes ↔ t.nodeAt? p = some u ∧ u.isFunction = true) ∧
    t.functionNodes.Pairwise fun x y => x.1 < y.1 := by
  refine ⟨leaves_convertNode .., ?_, walk_whole source t, fun limit h => ?_,
    fun p u => mem_functionNodes u t p, pairwise_functionNodes t⟩
  · exact walk_convertNode source maxNesting 0 t (by decide)
  · exact convertNode_eq_whole limit source 0 t (by omega)

end ScriptCensus.ConcreteTree
