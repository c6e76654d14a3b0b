import Mathlib.Data.List.Forall2
import ScriptCensus.Tree.Functions

/-!
# Functions and their positions

A position in a value tells which field or item to go to, level by level (`SyntaxValue.at?`).
`SyntaxValue.placed` lists the nodes of a value with their positions. Every node stands there at its
own position and nowhere else (`mem_placed`), and the lexicographic order of positions is the order
of the list (`pairwise_placed`). The walk over a value goes through this list and takes from each
node what comes of it alone (`walk_eq_flatMap`), so that nothing which comes of one node has a part
in whether another one is visited.

All proofs go by `SyntaxValue.inside_induction`: what holds of a value if it holds of the values
directly inside holds of all values.
-/

namespace ScriptCensus

namespace SyntaxValue

/-- Which field or item to go to, level by level. -/
abbrev Position := List Nat

/-- The values directly inside a value: those of a node's fields, or the items of a sequence. -/
def inside : SyntaxValue → List SyntaxValue
  | .node n => n.fields.map (·.2)
  | .sequence items => items
  | .leaf _ => []
  | .absent => []

/-- The value at a position. -/
def at? (v : SyntaxValue) : Position → Option SyntaxValue
  | [] => some v
  | k :: p =>
    match v.inside[k]? with
    | some w => w.at? p
    | none => none

/-- A value that is a node, at the position where it starts. -/
def self : SyntaxValue → List (Position × SyntaxNode)
  | .node n => [([], n)]
  | _ => []

/-- Places as seen from one level further up, where the value has the given number. -/
def placedBelow (k : Nat) (xs : List (Position × SyntaxNode)) : List (Position × SyntaxNode) :=
  xs.map fun x => (k :: x.1, x.2)

end SyntaxValue

mutual

/-- The nodes of a tree with their positions, each one before those inside it. -/
def SyntaxNode.placed : SyntaxNode → List (SyntaxValue.Position × SyntaxNode)
  | .mk tag? span? fields =>
    ([], .mk tag? span? fields) :: SyntaxNode.placedFields 0 fields

/-- The nodes in some fields with their positions; the first field has the given number. -/
def SyntaxNode.placedFields (k : Nat) :
    List (String × SyntaxValue) → List (SyntaxValue.Position × SyntaxNode)
  | [] => []
  | (_, value) :: rest =>
    SyntaxValue.placedBelow k value.placed ++ SyntaxNode.placedFields (k + 1) rest

/-- The nodes of a value with their positions, each one before those inside it. -/
def SyntaxValue.placed : SyntaxValue → List (SyntaxValue.Position × SyntaxNode)
  | .node n => n.placed
  | .sequence items => SyntaxValue.placedItems 0 items
  | .leaf _ => []
  | .absent => []

/-- The nodes in some values with their positions; the first value has the given number. -/
def SyntaxValue.placedItems (k : Nat) :
    List SyntaxValue → List (SyntaxValue.Position × SyntaxNode)
  | [] => []
  | value :: rest =>
    SyntaxValue.placedBelow k value.placed ++ SyntaxValue.placedItems (k + 1) rest

end

namespace SyntaxValue

/-! ## Values by what is inside -/

mutual

theorem motive_node {motive : SyntaxValue → Prop}
    (step : ∀ v, (∀ w ∈ v.inside, motive w) → motive v) : ∀ n : SyntaxNode, motive (.node n)
  | .mk _ _ fields => step _ (by
      rw [inside, SyntaxNode.fields, List.forall_mem_map]
      exact motive_fields step fields)

theorem motive_fields {motive : SyntaxValue → Prop}
    (step : ∀ v, (∀ w ∈ v.inside, motive w) → motive v) :
    ∀ (fields : List (String × SyntaxValue)), ∀ f ∈ fields, motive f.2
  | [] => by simp
  | (_, value) :: rest =>
    List.forall_mem_cons.2 ⟨inside_induction step value, motive_fields step rest⟩

/-- What holds of a value if it holds of the values directly inside holds of all values. -/
theorem inside_induction {motive : SyntaxValue → Prop}
    (step : ∀ v, (∀ w ∈ v.inside, motive w) → motive v) : ∀ v : SyntaxValue, motive v
  | .node n => motive_node step n
  | .sequence items => step _ (motive_items step items)
  | .leaf _ => step _ (by simp [inside])
  | .absent => step _ (by simp [inside])

theorem motive_items {motive : SyntaxValue → Prop}
    (step : ∀ v, (∀ w ∈ v.inside, motive w) → motive v) :
    ∀ (items : List SyntaxValue), ∀ v ∈ items, motive v
  | [] => by simp
  | value :: rest => List.forall_mem_cons.2 ⟨inside_induction step value, motive_items step rest⟩

end

theorem placedFields_eq (k : Nat) (fields : List (String × SyntaxValue)) :
    SyntaxNode.placedFields k fields = placedItems k (fields.map (·.2)) := by
  induction fields generalizing k with
  | nil => rfl
  | cons f rest ih => rw [SyntaxNode.placedFields, List.map_cons, placedItems, ih]

theorem placed_eq (v : SyntaxValue) : v.placed = v.self ++ placedItems 0 v.inside := by
  cases v with
  | node n =>
    obtain ⟨tag?, span?, fields⟩ := n
    rw [placed, SyntaxNode.placed, placedFields_eq]
    rfl
  | sequence items => rw [placed]; rfl
  | leaf l => rw [placed]; rfl
  | absent => rw [placed]; rfl

theorem walkItems_eq_flatMap (items : List SyntaxValue) :
    walkItems items = items.flatMap walk := by
  induction items with
  | nil => rfl
  | cons w rest ih => rw [walkItems, List.flatMap_cons, ih]

theorem walkFields_eq_flatMap (fields : List (String × SyntaxValue)) :
    SyntaxNode.walkFields fields = fields.flatMap fun f => f.2.walk := by
  induction fields with
  | nil => rfl
  | cons f rest ih => rw [SyntaxNode.walkFields, List.flatMap_cons, ih]

/-- What comes of a value itself, without what is inside. -/
theorem walk_eq (v : SyntaxValue) :
    v.walk = (v.self.flatMap fun x => x.2.ownOutcome) ++ v.inside.flatMap walk := by
  cases v with
  | node n =>
    obtain ⟨tag?, span?, fields⟩ := n
    rw [walk, SyntaxNode.walk, walkFields_eq_flatMap, inside, List.flatMap_map]
    simp [self, SyntaxNode.fields]
  | sequence items => rw [walk, walkItems_eq_flatMap]; rfl
  | leaf l => rw [walk]; rfl
  | absent => rw [walk]; rfl

/-! ## Positions -/

theorem mem_placedItems {x : Position × SyntaxNode} :
    ∀ {items : List SyntaxValue} {k : Nat}, x ∈ placedItems k items ↔
      ∃ j w p, items[j]? = some w ∧ x.1 = (k + j) :: p ∧ (p, x.2) ∈ w.placed
  | [], k => by simp [placedItems]
  | v :: rest, k => by
    rw [placedItems, List.mem_append, mem_placedItems, placedBelow, List.mem_map]
    constructor
    · rintro (⟨⟨p, n⟩, hp, rfl⟩ | ⟨j, w, p, hj, hx, hp⟩)
      · exact ⟨0, v, p, rfl, rfl, hp⟩
      · exact ⟨j + 1, w, p, by simpa using hj, by rw [hx, Nat.add_right_comm, Nat.add_assoc], hp⟩
    · rintro ⟨j, w, p, hj, hx, hp⟩
      cases j with
      | zero =>
        obtain rfl : v = w := by simpa using hj
        exact Or.inl ⟨(p, x.2), hp, by rw [← Nat.add_zero k, ← hx]⟩
      | succ j =>
        exact Or.inr ⟨j, w, p, by simpa using hj, by rw [hx, Nat.add_right_comm, Nat.add_assoc], hp⟩

theorem mem_self {x : Position × SyntaxNode} {v : SyntaxValue} :
    x ∈ v.self ↔ x.1 = [] ∧ v = .node x.2 := by
  obtain ⟨p, n⟩ := x
  cases v <;> simp [self, eq_comm]

/-- A node is listed at each position where it stands, and only there. -/
theorem mem_placed {n : SyntaxNode} (v : SyntaxValue) :
    ∀ p : Position, (p, n) ∈ v.placed ↔ v.at? p = some (.node n) := by
  induction v using inside_induction with
  | step v ih =>
    intro p
    rw [placed_eq, List.mem_append, mem_self, mem_placedItems]
    cases p with
    | nil => simp [at?]
    | cons k p =>
      rw [at?]
      cases hk : v.inside[k]? with
      | none =>
        simp only [List.cons_ne_nil, false_and, false_or, reduceCtorEq, iff_false]
        rintro ⟨j, w, q, hj, hq, -⟩
        obtain ⟨rfl, -⟩ : k = j ∧ p = q := by simpa using hq
        simp [hk] at hj
      | some w =>
        have hw := ih w (List.mem_of_getElem? hk) p
        simp only [List.cons_ne_nil, false_and, false_or]
        rw [← hw]
        constructor
        · rintro ⟨j, u, q, hj, hq, hmem⟩
          obtain ⟨rfl, rfl⟩ : k = j ∧ p = q := by simpa using hq
          obtain rfl : w = u := Option.some.inj (hk.symm.trans hj)
          exact hmem
        · exact fun hmem => ⟨k, w, p, hk, by simp, hmem⟩

theorem pairwise_placedItems {items : List SyntaxValue}
    (heach : ∀ w ∈ items, w.placed.Pairwise fun x y => x.1 < y.1) (k : Nat) :
    (placedItems k items).Pairwise fun x y => x.1 < y.1 := by
  induction items generalizing k with
  | nil => exact List.Pairwise.nil
  | cons w rest ih =>
    obtain ⟨hw, hrest⟩ := List.forall_mem_cons.1 heach
    rw [placedItems, List.pairwise_append]
    refine ⟨?_, ih hrest (k + 1), ?_⟩
    · rw [placedBelow, List.pairwise_map]
      exact hw.imp fun hlt => List.cons_lt_cons_self.2 hlt
    · intro x hx y hy
      obtain ⟨z, -, rfl⟩ := List.mem_map.1 hx
      obtain ⟨j, u, q, -, hq, -⟩ := mem_placedItems.1 hy
      rw [hq]
      exact List.Lex.rel (by omega)

/-- The nodes are listed in the lexicographic order of their positions. -/
theorem pairwise_placed (v : SyntaxValue) : v.placed.Pairwise fun x y => x.1 < y.1 := by
  induction v using inside_induction with
  | step v ih =>
    rw [placed_eq, List.pairwise_append]
    refine ⟨?_, pairwise_placedItems ih 0, ?_⟩
    · cases v <;> simp [self]
    · intro x hx y hy
      obtain ⟨j, w, q, -, hq, -⟩ := mem_placedItems.1 hy
      rw [(mem_self.1 hx).1, hq]
      exact List.nil_lt_cons _ _

/-! ## What comes of the functions -/

theorem flatMap_placedItems (f : SyntaxNode → List Outcome) (items : List SyntaxValue) (k : Nat) :
    ((placedItems k items).flatMap fun x => f x.2) =
      items.flatMap fun w => w.placed.flatMap fun x => f x.2 := by
  induction items generalizing k with
  | nil => rfl
  | cons w rest ih =>
    rw [placedItems, List.flatMap_append, ih, List.flatMap_cons, placedBelow, List.flatMap_map]

/-- The walk takes from each node what comes of it alone. -/
theorem walk_eq_flatMap (v : SyntaxValue) :
    v.walk = v.placed.flatMap fun x => x.2.ownOutcome := by
  induction v using inside_induction with
  | step v ih =>
    rw [walk_eq, placed_eq, List.flatMap_append, flatMap_placedItems]
    congr 1
    rw [List.flatMap_def, List.flatMap_def, List.map_congr_left ih]

/-- The nodes that stand for functions with their positions, each one before those inside it. -/
def functionNodes (v : SyntaxValue) : List (Position × SyntaxNode) :=
  v.placed.filter fun x => x.2.functionKind?.isSome

end SyntaxValue

/-- What is to come of a node that stands for a function: it is captured with the text that printing
gives, or skipped with the error that printing gives. The lines are those of the node or, if it has
no place of its own, those of what was printed. -/
def Outcome.Reports (n : SyntaxNode) : Outcome → Prop
  | captured f => n.functionKind? = some f.kind ∧ ∃ printed, n.print = .ok printed ∧
      f.body = printed.text ∧ (f.startLine, f.endLine) = (n.span?.getD printed.span).lines
  | skipped f => n.functionKind? = some f.kind ∧ n.print = .error f.error ∧
      f.lines? = n.span?.map (·.lines)

theorem SyntaxNode.reports_capture {n : SyntaxNode} {kind : FunctionKind}
    (h : n.functionKind? = some kind) : (n.capture kind).Reports n := by
  rw [capture]
  cases hp : n.print with
  | ok printed => exact ⟨h, printed, hp, rfl, rfl⟩
  | error e => exact ⟨h, hp, rfl⟩

/-- Of some nodes, those that stand for functions have one outcome each. -/
theorem forall₂_reports_ownOutcome :
    ∀ xs : List (SyntaxValue.Position × SyntaxNode),
      List.Forall₂ (fun x o => Outcome.Reports x.2 o)
        (xs.filter fun x => x.2.functionKind?.isSome) (xs.flatMap fun x => x.2.ownOutcome)
  | [] => List.Forall₂.nil
  | x :: rest => by
    have hrest := forall₂_reports_ownOutcome rest
    rw [List.flatMap_cons, SyntaxNode.ownOutcome]
    cases hk : x.2.functionKind? with
    | none => simpa [hk] using hrest
    | some kind =>
      rw [List.filter_cons_of_pos (by simp [hk])]
      exact List.Forall₂.cons (SyntaxNode.reports_capture hk) hrest

/-- Whether a function was captured. -/
def Outcome.isCaptured (o : Outcome) : Bool :=
  o.record?.isSome

theorem map_captured_filterMap_record? (os : List Outcome) :
    (os.filterMap Outcome.record?).map Outcome.captured = os.filter Outcome.isCaptured := by
  induction os with
  | nil => rfl
  | cons o rest ih =>
    cases o with
    | captured f =>
      simp only [List.filterMap_cons, List.filter_cons, Outcome.record?, Outcome.isCaptured,
        Option.isSome_some, if_true, List.map_cons, List.cons.injEq, true_and]
      exact ih
    | skipped f =>
      simp only [List.filterMap_cons, List.filter_cons, Outcome.record?, Outcome.isCaptured,
        Option.isSome_none, Bool.false_eq_true, if_false]
      exact ih

/-- Every function of a tree is visited exactly once. The functions stand at the positions where
there is a node with a kind of function, and at no other ones, in the lexicographic order of
positions. To each of them, in this order, belongs one outcome of the walk, whether or not others
could be printed. The functions of a tree in the order of the walk are those that were captured. -/
theorem SyntaxValue.walk_exactlyOnce (v : SyntaxValue) :
    (∀ p n, (p, n) ∈ v.functionNodes ↔
      v.at? p = some (.node n) ∧ ∃ kind, n.functionKind? = some kind) ∧
    v.functionNodes.Pairwise (fun x y => x.1 < y.1) ∧
    List.Forall₂ (fun x o => Outcome.Reports x.2 o) v.functionNodes v.walk ∧
    ∀ n : SyntaxNode, (n.functions .traversal).value.map Outcome.captured =
      (SyntaxValue.node n).walk.filter Outcome.isCaptured := by
  refine ⟨fun p n => ?_, (pairwise_placed v).filter _, ?_, ?_⟩
  · rw [functionNodes, List.mem_filter, mem_placed, Option.isSome_iff_exists]
  · rw [walk_eq_flatMap]
    exact forall₂_reports_ownOutcome v.placed
  · intro n
    rw [walk]
    exact map_captured_filterMap_record? n.walk

end ScriptCensus
