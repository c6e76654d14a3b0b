import ScriptCensus.Proofs.Gather
import ScriptCensus.Proofs.TextOrder

/-!
# Places in a concrete tree

`ConcreteTree.descendant?` follows child numbers from the root, leaves included. Two lists of places
are in the lexicographic order of positions, each position once: `pickedPlaces` has what a function
gives for the nodes of a tree, as the plain recursion `picked` finds it (`map_snd_pickedPlaces`,
`mem_pickedPlaces`), and `nodesDownTo` has the nodes down to a depth (`mem_nodesDownTo`).

Both put together what they find for each child of a node (`placesIn`), and all proofs go by
`children_induction`, or by the depth where there is one.
-/

namespace ScriptCensus.ConcreteTree

/-! ## Trees by their children -/

mutual

/-- What holds of a tree if it holds of its children holds of all trees. -/
theorem children_induction {motive : ConcreteTree → Prop}
    (step : ∀ t, (∀ c ∈ t.children, motive c.2) → motive t) : ∀ t, motive t
  | node _ cs => step _ (motive_children step cs)

theorem motive_children {motive : ConcreteTree → Prop}
    (step : ∀ t, (∀ c ∈ t.children, motive c.2) → motive t) :
    ∀ cs : List (Option String × ConcreteTree), ∀ c ∈ cs, motive c.2
  | [] => by simp
  | (_, t) :: rest => List.forall_mem_cons.2 ⟨children_induction step t, motive_children step rest⟩

end

theorem mem_subtreesOf {u : ConcreteTree} {cs : List (Option String × ConcreteTree)} :
    u ∈ subtreesOf cs ↔ ∃ c ∈ cs, u ∈ c.2.subtrees := by
  induction cs with
  | nil => simp [subtreesOf]
  | cons c rest ih => rw [subtreesOf, List.mem_append, ih, List.exists_mem_cons_iff]

/-- A tree inside another one is this tree or inside one of the children. -/
theorem mem_subtrees {u t : ConcreteTree} :
    u ∈ t.subtrees ↔ u = t ∨ ∃ c ∈ t.children, u ∈ c.2.subtrees := by
  obtain ⟨i, cs⟩ := t
  rw [subtrees, List.mem_cons, mem_subtreesOf, children]

/-- The tree at a position, whatever stands there. -/
def descendant? (t : ConcreteTree) : Position → Option ConcreteTree
  | [] => some t
  | k :: p =>
    match t.children[k]? with
    | some (_, c) => c.descendant? p
    | none => none

theorem descendant?_append (t : ConcreteTree) (p q : Position) :
    t.descendant? (p ++ q) = (t.descendant? p).bind (·.descendant? q) := by
  induction p generalizing t with
  | nil => rfl
  | cons k p ih =>
    rw [List.cons_append, descendant?, descendant?]
    cases t.children[k]? with
    | none => rfl
    | some c => exact ih c.2

/-! ## Places among children -/

section placesIn

variable {α : Type} {cs : List (Option String × ConcreteTree)}
  {places : ConcreteTree → List (Position × α)}

/-- The places in some children as seen from their parent: a position starts with the number of the
child. -/
def placesIn (cs : List (Option String × ConcreteTree))
    (places : ConcreteTree → List (Position × α)) : List (Position × α) :=
  cs.zipIdx.flatMap fun c => (places c.1.2).map fun x => (c.2 :: x.1, x.2)

theorem mem_placesIn {p : Position} {a : α} :
    (p, a) ∈ placesIn cs places ↔
      ∃ k q f c, p = k :: q ∧ cs[k]? = some (f, c) ∧ (q, a) ∈ places c := by
  simp only [placesIn, List.mem_flatMap, List.mem_map, Prod.exists, List.mem_zipIdx_iff_getElem?,
    Prod.mk.injEq]
  constructor
  · rintro ⟨f, c, k, hk, q, b, hb, rfl, rfl⟩
    exact ⟨k, q, f, c, rfl, hk, hb⟩
  · rintro ⟨k, q, f, c, rfl, hk, hb⟩
    exact ⟨f, c, k, hk, q, a, hb, rfl, rfl⟩

theorem nil_not_mem_placesIn {a : α} : ([], a) ∉ placesIn cs places := by
  simp [mem_placesIn]

theorem cons_mem_placesIn {k : Nat} {q : Position} {a : α} :
    (k :: q, a) ∈ placesIn cs places ↔ ∃ f c, cs[k]? = some (f, c) ∧ (q, a) ∈ places c := by
  simp [mem_placesIn]

theorem pairwise_zipIdx {β : Type} :
    ∀ (xs : List β) (k : Nat), (xs.zipIdx k).Pairwise fun x y => x.2 < y.2
  | [], _ => List.Pairwise.nil
  | _ :: xs, k =>
    List.pairwise_cons.2 ⟨fun _ hy => List.le_snd_of_mem_zipIdx hy, pairwise_zipIdx xs (k + 1)⟩

/-- If the places in each child are in order, so are the places in all children. -/
theorem pairwise_placesIn (h : ∀ c ∈ cs, (places c.2).Pairwise fun x y => x.1 < y.1) :
    (placesIn cs places).Pairwise fun x y => x.1 < y.1 := by
  rw [placesIn, List.pairwise_flatMap]
  refine ⟨fun c hc => ?_, (pairwise_zipIdx cs 0).imp fun {a b} hlt x hx y hy => ?_⟩
  · have hmem : c.1 ∈ cs := List.mem_of_getElem? (List.mem_zipIdx_iff_getElem?.1 hc)
    rw [List.pairwise_map]
    exact (h c.1 hmem).imp fun hlt => List.cons_lt_cons_self.2 hlt
  · obtain ⟨x, -, rfl⟩ := List.mem_map.1 hx
    obtain ⟨y, -, rfl⟩ := List.mem_map.1 hy
    exact List.Lex.rel hlt

/-- What a function gives for the places, if it does not depend on the number of the child. -/
theorem map_placesIn {β : Type} {f g : Position × α → β}
    (h : ∀ k x, f (k :: x.1, x.2) = g x) :
    (placesIn cs places).map f = cs.flatMap fun c => (places c.2).map g := by
  have hcs : cs.zipIdx.map Prod.fst = cs := List.zipIdx_map_fst 0 cs
  conv => rhs; rw [← hcs]
  simp only [placesIn, List.map_flatMap, List.map_map, List.flatMap_map, Function.comp_def, h]

end placesIn

/-! ## What a function gives -/

section picked

variable {α : Type} (pick : ConcreteTree → Option α)

mutual

/-- What a function gives for the nodes of a tree, with their positions. Where it gives something the
nodes below do not count. -/
def pickedPlaces : ConcreteTree → List (Position × α)
  | node i cs =>
    match pick (node i cs) with
    | some a => [([], a)]
    | none => pickedPlacesFrom 0 cs

/-- The same for some children; the first child has the given number. -/
def pickedPlacesFrom (k : Nat) : List (Option String × ConcreteTree) → List (Position × α)
  | [] => []
  | (_, t) :: rest =>
    (t.pickedPlaces.map fun x => (k :: x.1, x.2)) ++ pickedPlacesFrom (k + 1) rest

end

/-- What a function gives at a position. -/
def pickAt? (t : ConcreteTree) : Position → Option α
  | [] => pick t
  | k :: p =>
    match pick t, t.children[k]? with
    | none, some (_, c) => c.pickAt? p
    | _, _ => none

variable {pick}

theorem pickedPlacesFrom_eq (cs : List (Option String × ConcreteTree)) (k : Nat) :
    pickedPlacesFrom pick k cs =
      (cs.zipIdx k).flatMap fun c => (c.1.2.pickedPlaces pick).map fun x => (c.2 :: x.1, x.2) := by
  induction cs generalizing k with
  | nil => rfl
  | cons c rest ih => rw [pickedPlacesFrom, ih, List.zipIdx_cons, List.flatMap_cons]

theorem pickedPlaces_of_some {t : ConcreteTree} {a : α} (h : pick t = some a) :
    t.pickedPlaces pick = [([], a)] := by
  obtain ⟨i, cs⟩ := t
  rw [pickedPlaces, h]

theorem pickedPlaces_of_none {t : ConcreteTree} (h : pick t = none) :
    t.pickedPlaces pick = placesIn t.children (pickedPlaces pick) := by
  obtain ⟨i, cs⟩ := t
  rw [pickedPlaces, h]
  exact pickedPlacesFrom_eq cs 0

theorem pickedAll_eq_flatMap (cs : List (Option String × ConcreteTree)) :
    pickedAll pick cs = cs.flatMap fun c => c.2.picked pick := by
  induction cs with
  | nil => rfl
  | cons c rest ih => rw [pickedAll, ih, List.flatMap_cons]

/-- Without the positions this is what the plain recursion gives. -/
theorem map_snd_pickedPlaces (t : ConcreteTree) :
    (t.pickedPlaces pick).map Prod.snd = t.picked pick := by
  induction t using children_induction with
  | step t ih =>
    cases h : pick t with
    | some a => rw [pickedPlaces_of_some h, picked_of_some h]; rfl
    | none =>
      rw [pickedPlaces_of_none h, picked_of_none h, pickedAll_eq_flatMap,
        map_placesIn (g := Prod.snd) fun _ _ => rfl]
      exact List.flatMap_congr ih

/-- The places are those where the function gives something. -/
theorem mem_pickedPlaces (t : ConcreteTree) (p : Position) (a : α) :
    (p, a) ∈ t.pickedPlaces pick ↔ t.pickAt? pick p = some a := by
  induction t using children_induction generalizing p with
  | step t ih =>
    cases h : pick t with
    | some b =>
      rw [pickedPlaces_of_some h, List.mem_singleton]
      cases p with
      | nil => simp [pickAt?, h, eq_comm]
      | cons k p => simp [pickAt?, h]
    | none =>
      rw [pickedPlaces_of_none h]
      cases p with
      | nil => simp [nil_not_mem_placesIn, pickAt?, h]
      | cons k p =>
        rw [cons_mem_placesIn, pickAt?, h]
        cases hk : t.children[k]? with
        | none => simp
        | some c =>
          simp only [Option.some.injEq]
          constructor
          · rintro ⟨f, d, rfl, hd⟩
            exact (ih _ (List.mem_of_getElem? hk) p).1 hd
          · intro hc
            exact ⟨c.1, c.2, rfl, (ih _ (List.mem_of_getElem? hk) p).2 hc⟩

/-- The places are in order, each position once. -/
theorem pairwise_pickedPlaces (t : ConcreteTree) :
    (t.pickedPlaces pick).Pairwise fun x y => x.1 < y.1 := by
  induction t using children_induction with
  | step t ih =>
    cases h : pick t with
    | some a => simp [pickedPlaces_of_some h]
    | none =>
      rw [pickedPlaces_of_none h]
      exact pairwise_placesIn ih

/-- What the recursion gives is given for some tree inside. -/
theorem exists_of_mem_picked {t : ConcreteTree} {a : α} (h : a ∈ t.picked pick) :
    ∃ u ∈ t.subtrees, pick u = some a := by
  induction t using children_induction with
  | step t ih =>
    cases hp : pick t with
    | some b =>
      rw [picked_of_some hp, List.mem_singleton] at h
      exact ⟨t, t.self_mem_subtrees, h ▸ hp⟩
    | none =>
      rw [picked_of_none hp, pickedAll_eq_flatMap, List.mem_flatMap] at h
      obtain ⟨c, hc, hmem⟩ := h
      obtain ⟨u, hu, hpick⟩ := ih c hc hmem
      exact ⟨u, mem_subtrees.2 (Or.inr ⟨c, hc, hu⟩), hpick⟩

end picked

/-! ## Nodes down to a depth -/

/-- The nodes of a tree down to a depth with their positions, each one before those inside it. The
root is a node, and further down all that is no leaf. -/
def nodesDownTo : Nat → ConcreteTree → List (Position × ConcreteTree)
  | 0, t => [([], t)]
  | d + 1, t =>
    ([], t) :: placesIn t.children fun c => if c.isLeaf then [] else nodesDownTo d c

theorem mem_nodesDownTo (d : Nat) (t u : ConcreteTree) (p : Position) :
    (p, u) ∈ t.nodesDownTo d ↔ t.nodeAt? p = some u ∧ p.length ≤ d := by
  induction d generalizing t p with
  | zero =>
    cases p with
    | nil => simp [nodesDownTo, nodeAt?, eq_comm]
    | cons k p => simp [nodesDownTo]
  | succ d ih =>
    cases p with
    | nil =>
      rw [nodesDownTo, List.mem_cons, or_iff_left nil_not_mem_placesIn, nodeAt?]
      simp [eq_comm]
    | cons k p =>
      rw [nodesDownTo, List.mem_cons, or_iff_right (by simp), cons_mem_placesIn, nodeAt?,
        List.length_cons, Nat.add_le_add_iff_right]
      cases hk : t.children[k]? with
      | none => simp
      | some c =>
        obtain ⟨f, c⟩ := c
        by_cases hc : c.isLeaf
        · simp [hc]
        · simp [hc, ih]

/-- The nodes are in order, each position once. -/
theorem pairwise_nodesDownTo (d : Nat) (t : ConcreteTree) :
    (t.nodesDownTo d).Pairwise fun x y => x.1 < y.1 := by
  induction d generalizing t with
  | zero => simp [nodesDownTo]
  | succ d ih =>
    rw [nodesDownTo, List.pairwise_cons]
    refine ⟨fun x hx => ?_, pairwise_placesIn fun c _ => ?_⟩
    · obtain ⟨k, q, f, c, hp, -⟩ := mem_placesIn.1 hx
      rw [hp]
      exact List.nil_lt_cons k q
    · by_cases hc : c.2.isLeaf
      · simp [hc]
      · simpa [hc] using ih c.2

end ScriptCensus.ConcreteTree
