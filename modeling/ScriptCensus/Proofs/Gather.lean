import ScriptCensus.Concrete.Cursor

/-!
# What a cursor gathers

`TreeCursor.gather` moves a cursor up and down a tree. `ConcreteTree.picked` is the plain recursion
over the same tree: what a function gives for a node or, where it gives nothing, for the nodes below.
The two agree (`TreeCursor.gather_eq_picked`).

The proof follows `TreeCursor.pickedFrom` : what the recursion gives for the node under the cursor and
for all that is still to come. A step to the first child keeps it, and a step to the next sibling, also
of a node further up, takes away what the node itself gives.
-/

namespace ScriptCensus

variable {α : Type} (pick : ConcreteTree → Option α)

namespace ConcreteTree

mutual

/-- What a function gives for a tree or, if it gives nothing, for the trees below the root. -/
def picked : ConcreteTree → List α
  | node i cs =>
    match pick (node i cs) with
    | some a => [a]
    | none => pickedAll cs

/-- What a function gives for some trees, one after another. -/
def pickedAll : List (Option String × ConcreteTree) → List α
  | [] => []
  | (_, t) :: rest => t.picked ++ pickedAll rest

end

variable {pick}

theorem picked_of_some {t : ConcreteTree} {a : α} (h : pick t = some a) : t.picked pick = [a] := by
  obtain ⟨i, cs⟩ := t
  rw [picked, h]

theorem picked_of_none {t : ConcreteTree} (h : pick t = none) :
    t.picked pick = pickedAll pick t.children := by
  obtain ⟨i, cs⟩ := t
  rw [picked, h]
  rfl

end ConcreteTree

namespace TreeCursor

open ConcreteTree

/-- What is given for the siblings at several levels. -/
def pickedLevels : List (ConcreteTree × List (Option String × ConcreteTree)) → List α
  | [] => []
  | (_, siblings) :: rest => pickedAll pick siblings ++ pickedLevels rest

/-- What is given for all that comes after the node under the cursor and what is below it. -/
def pickedAfter (c : TreeCursor) : List α :=
  pickedAll pick c.later ++ pickedLevels pick c.above

/-- What is given for the node under the cursor and all that is still to come. -/
def pickedFrom (c : TreeCursor) : List α :=
  c.focus.picked pick ++ c.pickedAfter pick

variable {pick}

theorem pickedFrom_of_nextSibling? {c d : TreeCursor} (h : c.nextSibling? = some d) :
    d.pickedFrom pick = c.pickedAfter pick := by
  obtain ⟨focus, later, above⟩ := c
  cases later with
  | nil => simp [nextSibling?] at h
  | cons p rest =>
    obtain rfl := Option.some.inj h
    simp [pickedFrom, pickedAfter, pickedAll]

theorem pickedAfter_of_parent? {c d : TreeCursor} (hs : c.nextSibling? = none)
    (h : c.parent? = some d) : d.pickedAfter pick = c.pickedAfter pick := by
  obtain ⟨focus, later, above⟩ := c
  cases later with
  | cons p rest => simp [nextSibling?] at hs
  | nil =>
    cases above with
    | nil => simp [parent?] at h
    | cons p rest =>
      obtain rfl := Option.some.inj h
      simp [pickedAfter, pickedLevels, pickedAll]

theorem pickedAfter_of_no_parent {c : TreeCursor} (hs : c.nextSibling? = none)
    (h : c.parent? = none) : c.pickedAfter pick = [] := by
  obtain ⟨focus, later, above⟩ := c
  cases later with
  | cons p rest => simp [nextSibling?] at hs
  | nil =>
    cases above with
    | cons p rest => simp [parent?] at h
    | nil => rfl

/-- Climbing leads to all that was still to come. -/
theorem pickedFrom_of_climb? {c d : TreeCursor} (h : c.climb? = some d) :
    d.pickedFrom pick = c.pickedAfter pick := by
  fun_induction climb? c with
  | case1 c e he => exact pickedFrom_of_nextSibling? (he.trans h)
  | case2 c hs e he _ ih => rw [ih h, pickedAfter_of_parent? hs he]
  | case3 => simp at h

/-- Climbing ends where nothing is still to come. -/
theorem pickedAfter_of_climb?_none {c : TreeCursor} (h : c.climb? = none) :
    c.pickedAfter pick = [] := by
  fun_induction climb? c with
  | case1 => simp at h
  | case2 c hs e he _ ih => rw [← pickedAfter_of_parent? hs he, ih h]
  | case3 c hs hp => exact pickedAfter_of_no_parent hs hp

theorem pickedFrom_of_firstChild? {c d : TreeCursor} (hp : pick c.focus = none)
    (h : c.firstChild? = some d) : d.pickedFrom pick = c.pickedFrom pick := by
  obtain ⟨focus, later, above⟩ := c
  rw [pickedFrom, pickedFrom, picked_of_none hp]
  cases hc : focus.children with
  | nil => simp [firstChild?, hc] at h
  | cons p rest =>
    obtain ⟨f, t⟩ := p
    simp only [firstChild?, hc, Option.some.injEq] at h
    subst h
    simp [pickedAfter, pickedLevels, pickedAll]

theorem picked_of_firstChild?_none {c : TreeCursor} (hp : pick c.focus = none)
    (h : c.firstChild? = none) : c.focus.picked pick = [] := by
  rw [picked_of_none hp]
  cases hc : c.focus.children with
  | nil => rfl
  | cons p rest => simp [firstChild?, hc] at h

/-- Gathering adds what the recursion gives from the cursor on to what was gathered before. -/
theorem gatherFrom_eq (c : TreeCursor) (gathered : List α) :
    gatherFrom pick c gathered = gathered.reverse ++ c.pickedFrom pick := by
  fun_induction gatherFrom pick c gathered with
  | case1 c gathered a ha d hd _ ih =>
    rw [ih, pickedFrom_of_climb? hd, pickedFrom, picked_of_some ha]
    simp
  | case2 c gathered a ha hd =>
    rw [pickedFrom, pickedAfter_of_climb?_none hd, picked_of_some ha]
    simp
  | case3 c gathered hp d hd _ ih => rw [ih, pickedFrom_of_firstChild? hp hd]
  | case4 c gathered hp hc d hd _ ih =>
    rw [ih, pickedFrom_of_climb? hd, pickedFrom, picked_of_firstChild?_none hp hc, List.nil_append]
  | case5 c gathered hp hc hd =>
    rw [pickedFrom, pickedAfter_of_climb?_none hd, picked_of_firstChild?_none hp hc]
    simp

/-- A cursor gathers what the recursion over the tree gives. -/
theorem gather_eq_picked (t : ConcreteTree) : gather pick t = t.picked pick := by
  rw [gather, gatherFrom_eq]
  simp [pickedFrom, pickedAfter, ofTree, pickedAll, pickedLevels]

end TreeCursor

end ScriptCensus
