import Mathlib.Logic.Function.Iterate
import ScriptCensus.Proofs.NodePlaces

/-!
# The loop of a cursor

`TreeCursor.gatherFrom` visits the nodes of a tree by moves of a cursor. `TreeCursor.Stage.next` is one
turn of this loop: a node is visited, and left when all below it was seen. A tree is done after two
turns for each node that the loop reaches (`iterate_next_ofTree`), with what the plain recursion over
the tree gives. From any cursor the loop ends with what `gatherFrom` gives
(`exists_iterate_gatherFrom`).

On the way the cursor stands in the tree where it started (`StandsAt`). A move changes its position
accordingly, and from the root there is no way up or aside.
-/

namespace ScriptCensus

variable {α : Type} (pick : ConcreteTree → Option α)

namespace ConcreteTree

mutual

/-- The number of nodes that a loop over a tree reaches: a node for which the function gives something
hides those below. -/
def reached : ConcreteTree → Nat
  | node i cs =>
    match pick (node i cs) with
    | some _ => 1
    | none => reachedAll cs + 1

/-- The number of nodes that a loop over some trees reaches. -/
def reachedAll : List (Option String × ConcreteTree) → Nat
  | [] => 0
  | (_, t) :: rest => t.reached + reachedAll rest

end

end ConcreteTree

namespace TreeCursor

open ConcreteTree

/-- A stage of the loop. What was gathered so far comes last first. -/
inductive Stage (α : Type) where
  /-- The cursor has come to a node. -/
  | visiting (cursor : TreeCursor) (gathered : List α)
  /-- The node and all below it were seen. -/
  | leaving (cursor : TreeCursor) (gathered : List α)
  | finished (gathered : List α)

namespace Stage

/-- Where the cursor stands, if the loop still runs. -/
def cursor? : Stage α → Option TreeCursor
  | visiting c _ => some c
  | leaving c _ => some c
  | finished _ => none

/-- One turn of the loop. -/
def next : Stage α → Stage α
  | visiting c gathered =>
    match pick c.focus with
    | some a => leaving c (a :: gathered)
    | none =>
      match c.firstChild? with
      | some d => visiting d gathered
      | none => leaving c gathered
  | leaving c gathered =>
    match c.nextSibling? with
    | some d => visiting d gathered
    | none =>
      match c.parent? with
      | some d => leaving d gathered
      | none => finished gathered.reverse
  | finished gathered => finished gathered

end Stage

open Stage

variable {pick}

/-! ## How many turns the loop takes -/

/-- A turn after some turns. -/
theorem iterate_next_succ {k : Nat} {s s' : Stage α} (h : (next pick)^[k] s = s') :
    (next pick)^[k + 1] s = s'.next pick := by
  rw [Function.iterate_succ_apply', h]

/-- Some turns after other ones. -/
theorem iterate_next_add {k l : Nat} {s s' s'' : Stage α} (h : (next pick)^[k] s = s')
    (h' : (next pick)^[l] s' = s'') : (next pick)^[k + l] s = s'' := by
  rw [Nat.add_comm, Function.iterate_add_apply, h, h']

mutual

/-- From a visit to a node the loop comes to leave it, one turn before each node reached has had two
turns. Meanwhile it has gathered what the recursion gives for the node. -/
theorem iterate_next_visiting :
    ∀ (t : ConcreteTree) (later : List (Option String × ConcreteTree))
      (above : List (ConcreteTree × List (Option String × ConcreteTree))) (gathered : List α),
      ∃ k, k + 1 = 2 * t.reached pick ∧
        (next pick)^[k] (visiting ⟨t, later, above⟩ gathered) =
          leaving ⟨t, later, above⟩ ((t.picked pick).reverse ++ gathered)
  | node i [], later, above, gathered => by
    refine ⟨1, ?_, ?_⟩
    · cases h : pick (node i []) <;> simp [reached, h, reachedAll]
    · cases h : pick (node i []) <;> simp [next, h, firstChild?, children, picked, pickedAll]
  | node i ((f, t) :: rest), later, above, gathered => by
    cases h : pick (node i ((f, t) :: rest)) with
    | some a =>
      refine ⟨1, by simp [reached, h], ?_⟩
      simp [next, h, picked_of_some h]
    | none =>
      obtain ⟨k, hk, hchild⟩ := iterate_next_visiting t rest
        ((node i ((f, t) :: rest), later) :: above) gathered
      have hrest := iterate_next_leaving rest t (node i ((f, t) :: rest)) later above
        ((t.picked pick).reverse ++ gathered)
      have hfirst : (next pick)^[1] (visiting ⟨node i ((f, t) :: rest), later, above⟩ gathered) =
          visiting ⟨t, rest, (node i ((f, t) :: rest), later) :: above⟩ gathered := by
        simp [next, h, firstChild?, children]
      refine ⟨1 + (k + (2 * reachedAll pick rest + 1)), ?_, ?_⟩
      · simp only [reached, h, reachedAll]
        omega
      · rw [iterate_next_add hfirst (iterate_next_add hchild hrest), picked_of_none h, children,
          pickedAll, List.reverse_append, List.append_assoc]

/-- From leaving a node the loop comes to leave the parent, after one turn and two more for each node
reached among the later siblings. -/
theorem iterate_next_leaving :
    ∀ (siblings : List (Option String × ConcreteTree)) (t parent : ConcreteTree)
      (later : List (Option String × ConcreteTree))
      (above : List (ConcreteTree × List (Option String × ConcreteTree))) (gathered : List α),
      (next pick)^[2 * reachedAll pick siblings + 1]
          (leaving ⟨t, siblings, (parent, later) :: above⟩ gathered) =
        leaving ⟨parent, later, above⟩ ((pickedAll pick siblings).reverse ++ gathered)
  | [], t, parent, later, above, gathered => by
    simp [reachedAll, next, nextSibling?, parent?, pickedAll]
  | (f, u) :: rest, t, parent, later, above, gathered => by
    obtain ⟨k, hk, hsibling⟩ :=
      iterate_next_visiting u rest ((parent, later) :: above) gathered
    have hrest := iterate_next_leaving rest u parent later above
      ((u.picked pick).reverse ++ gathered)
    have hfirst : (next pick)^[1] (leaving ⟨t, (f, u) :: rest, (parent, later) :: above⟩ gathered) =
        visiting ⟨u, rest, (parent, later) :: above⟩ gathered := by
      simp [next, nextSibling?]
    have hcount : 2 * reachedAll pick ((f, u) :: rest) + 1 =
        1 + (k + (2 * reachedAll pick rest + 1)) := by
      rw [reachedAll]
      omega
    rw [hcount, iterate_next_add hfirst (iterate_next_add hsibling hrest), pickedAll,
      List.reverse_append, List.append_assoc]

end

/-- A whole tree is done after two turns for each node that the loop reaches, with what the recursion
over the tree gives. -/
theorem iterate_next_ofTree (t : ConcreteTree) :
    (next pick)^[2 * t.reached pick] (visiting (ofTree t) []) = finished (t.picked pick) := by
  obtain ⟨k, hk, hleave⟩ := iterate_next_visiting t [] [] ([] : List α)
  rw [← hk, ofTree, iterate_next_succ hleave]
  simp [next, nextSibling?, parent?]

/-! ## The loop and the recursion by which it is written -/

variable (pick) in
/-- From leaving a node the loop comes to the node that climbing leads to, or to its end. -/
theorem exists_iterate_climb? (c : TreeCursor) (gathered : List α) :
    ∃ k, (next pick)^[k] (leaving c gathered) =
      match c.climb? with
      | some d => visiting d gathered
      | none => finished gathered.reverse := by
  fun_induction climb? c with
  | case1 c d hd => exact ⟨1, by simp [next, hd]⟩
  | case2 c hs d hd _ ih =>
    obtain ⟨k, hk⟩ := ih
    have hparent : (next pick)^[1] (leaving c gathered) = leaving d gathered := by
      simp [next, hs, hd]
    exact ⟨1 + k, iterate_next_add hparent hk⟩
  | case3 c hs hp => exact ⟨1, by simp [next, hs, hp]⟩

/-- From any cursor the loop ends, with what `gatherFrom` gives. -/
theorem exists_iterate_gatherFrom (c : TreeCursor) (gathered : List α) :
    ∃ k, (next pick)^[k] (visiting c gathered) = finished (gatherFrom pick c gathered) := by
  fun_induction gatherFrom pick c gathered with
  | case1 c gathered a ha d hd _ ih =>
    have hpick : (next pick)^[1] (visiting c gathered) = leaving c (a :: gathered) := by
      simp [next, ha]
    obtain ⟨k, hk⟩ := exists_iterate_climb? pick c (a :: gathered)
    obtain ⟨l, hl⟩ := ih
    rw [hd] at hk
    exact ⟨1 + (k + l), iterate_next_add hpick (iterate_next_add hk hl)⟩
  | case2 c gathered a ha hd =>
    have hpick : (next pick)^[1] (visiting c gathered) = leaving c (a :: gathered) := by
      simp [next, ha]
    obtain ⟨k, hk⟩ := exists_iterate_climb? pick c (a :: gathered)
    rw [hd] at hk
    exact ⟨1 + k, iterate_next_add hpick hk⟩
  | case3 c gathered hp d hd _ ih =>
    have hdown : (next pick)^[1] (visiting c gathered) = visiting d gathered := by
      simp [next, hp, hd]
    obtain ⟨l, hl⟩ := ih
    exact ⟨1 + l, iterate_next_add hdown hl⟩
  | case4 c gathered hp hc d hd _ ih =>
    have hleave : (next pick)^[1] (visiting c gathered) = leaving c gathered := by
      simp [next, hp, hc]
    obtain ⟨k, hk⟩ := exists_iterate_climb? pick c gathered
    obtain ⟨l, hl⟩ := ih
    rw [hd] at hk
    exact ⟨1 + (k + l), iterate_next_add hleave (iterate_next_add hk hl)⟩
  | case5 c gathered hp hc hd =>
    have hleave : (next pick)^[1] (visiting c gathered) = leaving c gathered := by
      simp [next, hp, hc]
    obtain ⟨k, hk⟩ := exists_iterate_climb? pick c gathered
    rw [hd] at hk
    exact ⟨1 + k, iterate_next_add hleave hk⟩

/-! ## Where the cursor stands -/

/-- A cursor that started on the root of a tree stands at a position of it. The siblings after it and
after the nodes above are those that the tree has there. -/
inductive StandsAt (t : ConcreteTree) : Position → TreeCursor → Prop
  | root : StandsAt t [] (ofTree t)
  | child {q : Position} {c : TreeCursor} {k : Nat} {f : Option String} {u : ConcreteTree}
      (h : StandsAt t q c) (hk : c.focus.children[k]? = some (f, u)) :
      StandsAt t (q ++ [k]) ⟨u, c.focus.children.drop (k + 1), (c.focus, c.later) :: c.above⟩

namespace StandsAt

variable {t : ConcreteTree} {q : Position} {c d : TreeCursor}

/-- A cursor stands on the node at its position. -/
theorem descendant?_eq (h : StandsAt t q c) : t.descendant? q = some c.focus := by
  induction h with
  | root => rfl
  | child h hk ih => simp [descendant?_append, ih, descendant?, hk]

theorem firstChild? (h : StandsAt t q c) (hd : c.firstChild? = some d) :
    StandsAt t (q ++ [0]) d := by
  cases hc : c.focus.children with
  | nil => simp [TreeCursor.firstChild?, hc] at hd
  | cons x rest =>
    simp only [TreeCursor.firstChild?, hc, Option.some.injEq] at hd
    have hchild := child (f := x.1) (u := x.2) (k := 0) h (by simp [hc])
    rwa [hc, List.drop_succ_cons, List.drop_zero, hd] at hchild

/-- The next sibling has the next number. -/
theorem nextSibling? (h : StandsAt t q c) (hd : c.nextSibling? = some d) :
    ∃ p k, q = p ++ [k] ∧ StandsAt t (p ++ [k + 1]) d := by
  cases h with
  | root => simp [TreeCursor.nextSibling?, ofTree] at hd
  | @child p e k f u he hk =>
    cases hlater : e.focus.children.drop (k + 1) with
    | nil => simp [TreeCursor.nextSibling?, hlater] at hd
    | cons x rest =>
      simp only [TreeCursor.nextSibling?, hlater, Option.some.injEq] at hd
      have hnext : e.focus.children[k + 1]? = some (x.1, x.2) := by
        rw [← List.head?_drop, hlater, List.head?_cons]
      have hrest : e.focus.children.drop (k + 1 + 1) = rest := by
        rw [← List.tail_drop, hlater, List.tail_cons]
      have hsibling := child he hnext
      rw [hrest, hd] at hsibling
      exact ⟨p, k, rfl, hsibling⟩

/-- The parent stands one level further up. -/
theorem parent? (h : StandsAt t q c) (hd : c.parent? = some d) : StandsAt t q.dropLast d := by
  cases h with
  | root => simp [TreeCursor.parent?, ofTree] at hd
  | child he hk =>
    simp only [TreeCursor.parent?, Option.some.injEq] at hd
    rw [List.dropLast_concat, ← hd]
    exact he

end StandsAt

/-- The cursor of a stage stands in the tree, as long as the loop runs. -/
def Stage.Within (t : ConcreteTree) (s : Stage α) : Prop :=
  ∀ c, s.cursor? = some c → ∃ q, StandsAt t q c

theorem Stage.within_visiting {t : ConcreteTree} {q : Position} {c : TreeCursor}
    (h : StandsAt t q c) (gathered : List α) : (visiting c gathered).Within t := by
  rintro _ ⟨⟩
  exact ⟨q, h⟩

theorem Stage.within_leaving {t : ConcreteTree} {q : Position} {c : TreeCursor}
    (h : StandsAt t q c) (gathered : List α) : (leaving c gathered).Within t := by
  rintro _ ⟨⟩
  exact ⟨q, h⟩

/-- No turn of the loop leads out of the tree. -/
theorem Stage.Within.next {t : ConcreteTree} {s : Stage α} (h : s.Within t) :
    (s.next pick).Within t := by
  cases s with
  | visiting c gathered =>
    obtain ⟨q, hc⟩ := h c rfl
    rw [Stage.next]
    cases pick c.focus with
    | some a => exact within_leaving hc _
    | none =>
      cases hd : c.firstChild? with
      | some d => exact within_visiting (hc.firstChild? hd) _
      | none => exact within_leaving hc _
  | leaving c gathered =>
    obtain ⟨q, hc⟩ := h c rfl
    rw [Stage.next]
    cases hd : c.nextSibling? with
    | some d =>
      obtain ⟨p, k, -, hd⟩ := hc.nextSibling? hd
      exact within_visiting hd _
    | none =>
      cases hd : c.parent? with
      | some d => exact within_leaving (hc.parent? hd) _
      | none =>
        intro c' hc'
        simp [cursor?] at hc'
  | finished gathered => exact h

/-- Wherever the loop is, its cursor stands in the tree on whose root it started. -/
theorem within_iterate_next (t : ConcreteTree) (k : Nat) :
    ((next pick)^[k] (visiting (ofTree t) [])).Within t := by
  induction k with
  | zero => exact Stage.within_visiting StandsAt.root []
  | succ k ih =>
    rw [Function.iterate_succ_apply']
    exact ih.next

/-- The loop by which tokens are kept without structure ends, stays inside, and gathers each leaf
once. It starts at a node of a tree with a cursor that has this node for its root. At every turn the
cursor stands at a position inside this node. After two turns for each node reached the loop is over,
with the leaves that the plain recursion gives, and these are kept. The recursion lists the leaves in
the order of their positions, no position twice. From any other cursor the loop ends as well, with
what the definition by recursion gives. -/
theorem flatten_loop {t u : ConcreteTree} {p : Position} (h : t.descendant? p = some u)
    (source : ByteArray) :
    (∀ k c, ((next (leaf? source))^[k] (visiting (ofTree u) [])).cursor? = some c →
      ∃ q, StandsAt u q c ∧ t.descendant? (p ++ q) = some c.focus) ∧
    (next (leaf? source))^[2 * u.reached (leaf? source)] (visiting (ofTree u) []) =
      finished (u.picked (leaf? source)) ∧
    flatten source u = .mk none (some u.info.span)
      [(SyntaxNode.childrenField, .sequence ((u.picked (leaf? source)).map .leaf))] ∧
    ((u.pickedPlaces (leaf? source)).map Prod.snd = u.picked (leaf? source) ∧
      (u.pickedPlaces (leaf? source)).Pairwise (fun x y => x.1 < y.1) ∧
      ∀ q l, (q, l) ∈ u.pickedPlaces (leaf? source) ↔ u.pickAt? (leaf? source) q = some l) ∧
    ∀ c gathered, ∃ k, (next (leaf? source))^[k] (visiting c gathered) =
      finished (gatherFrom (leaf? source) c gathered) := by
  refine ⟨fun k c hc => ?_, iterate_next_ofTree u, ?_,
    ⟨map_snd_pickedPlaces u, pairwise_pickedPlaces u, mem_pickedPlaces u⟩,
    exists_iterate_gatherFrom⟩
  · obtain ⟨q, hq⟩ := within_iterate_next u k c hc
    exact ⟨q, hq, by rw [descendant?_append, h, Option.bind_some, hq.descendant?_eq]⟩
  · rw [flatten, gather_eq_picked]

/-- The outer function of a text with a function inside another one: the loop takes fourteen turns
for its seven nodes and gathers the five tokens. -/
theorem flatten_loop_nestedArrows :
    ∃ u, nestedArrows.descendant? [0, 0] = some u ∧
      (next (leaf? nestedArrowsText.toUTF8))^[14] (visiting (ofTree u) []) =
        finished [.token "identifier" "x" ⟨0, 1, 1, 1, 1⟩, .token "=>" "=>" ⟨2, 4, 1, 1, 3⟩,
          .token "identifier" "y" ⟨5, 6, 2, 2, 1⟩, .token "=>" "=>" ⟨7, 9, 2, 2, 3⟩,
          .token "identifier" "z" ⟨10, 11, 2, 2, 6⟩] := by
  refine ⟨_, rfl, ?_⟩
  have hloop := (flatten_loop (t := nestedArrows) (p := [0, 0]) rfl nestedArrowsText.toUTF8).2.1
  exact hloop.trans (by rfl)

end TreeCursor

end ScriptCensus
