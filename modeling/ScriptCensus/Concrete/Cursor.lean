import ScriptCensus.Concrete.Basic

/-!
# Cursors over concrete trees

A cursor stands on a node of a tree and moves one step at a time: to the first child, to the next
sibling, or to the parent, never above the node it started on. `TreeCursor.gather` visits a whole tree
with these steps alone, so that the depth of the tree does not matter.
-/

namespace ScriptCensus

/-- A node of a tree, with the siblings after it and the same for each node above it. -/
structure TreeCursor where
  focus : ConcreteTree
  later : List (Option String × ConcreteTree)
  above : List (ConcreteTree × List (Option String × ConcreteTree))

namespace TreeCursor

/-- A cursor on the root of a tree, from where it does not lead out. -/
def ofTree (t : ConcreteTree) : TreeCursor :=
  ⟨t, [], []⟩

/-- Moves to the first child. -/
def firstChild? (c : TreeCursor) : Option TreeCursor :=
  match c.focus.children with
  | [] => none
  | (_, t) :: rest => some ⟨t, rest, (c.focus, c.later) :: c.above⟩

/-- Moves to the next sibling. -/
def nextSibling? (c : TreeCursor) : Option TreeCursor :=
  match c.later with
  | [] => none
  | (_, t) :: rest => some ⟨t, rest, c.above⟩

/-- Moves to the parent. -/
def parent? (c : TreeCursor) : Option TreeCursor :=
  match c.above with
  | [] => none
  | (t, later) :: rest => some ⟨t, later, rest⟩

/-- The number of nodes among some siblings at several levels, and below them. -/
def sizeLevels : List (ConcreteTree × List (Option String × ConcreteTree)) → Nat
  | [] => 0
  | (_, siblings) :: rest => ConcreteTree.sizeAll siblings + sizeLevels rest

/-- The number of nodes that are still to be visited besides the one that the cursor stands on and
those below it. -/
def pendingAfter (c : TreeCursor) : Nat :=
  ConcreteTree.sizeAll c.later + sizeLevels c.above

/-- The number of nodes that are still to be visited. -/
def pending (c : TreeCursor) : Nat :=
  c.focus.size + c.pendingAfter

theorem length_above_of_parent? {c d : TreeCursor} (h : c.parent? = some d) :
    d.above.length < c.above.length := by
  obtain ⟨focus, later, above⟩ := c
  cases above with
  | nil => simp [parent?] at h
  | cons p rest =>
    obtain rfl := Option.some.inj h
    simp

/-- Moves to the next sibling, or to that of the nearest node above that has one. -/
def climb? (c : TreeCursor) : Option TreeCursor :=
  match c.nextSibling? with
  | some d => some d
  | none =>
    match h : c.parent? with
    | some d =>
      have := length_above_of_parent? h
      d.climb?
    | none => none
termination_by c.above.length

theorem pending_of_nextSibling? {c d : TreeCursor} (h : c.nextSibling? = some d) :
    d.pending = c.pendingAfter := by
  obtain ⟨focus, later, above⟩ := c
  cases later with
  | nil => simp [nextSibling?] at h
  | cons p rest =>
    obtain rfl := Option.some.inj h
    simp [pending, pendingAfter, ConcreteTree.sizeAll]
    omega

theorem pendingAfter_of_parent? {c d : TreeCursor} (hs : c.nextSibling? = none)
    (h : c.parent? = some d) : d.pendingAfter = c.pendingAfter := by
  obtain ⟨focus, later, above⟩ := c
  cases later with
  | cons p rest => simp [nextSibling?] at hs
  | nil =>
    cases above with
    | nil => simp [parent?] at h
    | cons p rest =>
      obtain rfl := Option.some.inj h
      simp [pendingAfter, sizeLevels, ConcreteTree.sizeAll]

theorem pending_of_climb? {c d : TreeCursor} (h : c.climb? = some d) : d.pending = c.pendingAfter := by
  fun_induction climb? c with
  | case1 c e he => exact pending_of_nextSibling? (he.trans h)
  | case2 c hs e he _ ih => rw [ih h, pendingAfter_of_parent? hs he]
  | case3 => simp at h

theorem pending_of_firstChild? {c d : TreeCursor} (h : c.firstChild? = some d) :
    d.pending + 1 = c.pending := by
  obtain ⟨⟨i, cs⟩, later, above⟩ := c
  cases cs with
  | nil => simp [firstChild?, ConcreteTree.children] at h
  | cons p rest =>
    obtain ⟨f, t⟩ := p
    simp only [firstChild?, ConcreteTree.children, Option.some.injEq] at h
    subst h
    simp [pending, pendingAfter, sizeLevels, ConcreteTree.size, ConcreteTree.sizeAll]
    omega

theorem pendingAfter_lt_pending (c : TreeCursor) : c.pendingAfter < c.pending := by
  obtain ⟨⟨i, cs⟩, later, above⟩ := c
  simp only [pending, ConcreteTree.size]
  omega

theorem pending_lt_of_climb? {c d : TreeCursor} (h : c.climb? = some d) : d.pending < c.pending := by
  rw [pending_of_climb? h]
  exact c.pendingAfter_lt_pending

/-- Gathers what a function gives for the nodes from a cursor on, in the order of the text. Where it
gives something the nodes below are not visited. The nodes gathered so far come last first. -/
def gatherFrom {α : Type} (pick : ConcreteTree → Option α) (c : TreeCursor) (gathered : List α) :
    List α :=
  match pick c.focus with
  | some a =>
    match h : c.climb? with
    | some d =>
      have := pending_lt_of_climb? h
      gatherFrom pick d (a :: gathered)
    | none => (a :: gathered).reverse
  | none =>
    match h : c.firstChild? with
    | some d =>
      have := pending_of_firstChild? h
      gatherFrom pick d gathered
    | none =>
      match h' : c.climb? with
      | some d =>
        have := pending_lt_of_climb? h'
        gatherFrom pick d gathered
      | none => gathered.reverse
termination_by c.pending

/-- Gathers what a function gives for the nodes of a tree. -/
def gather {α : Type} (pick : ConcreteTree → Option α) (t : ConcreteTree) : List α :=
  gatherFrom pick (ofTree t) []

end TreeCursor

end ScriptCensus
