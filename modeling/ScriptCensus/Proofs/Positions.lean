import ScriptCensus.Proofs.FunctionPositions
import ScriptCensus.Proofs.PrintedLeaves

/-!
# Leaves and outcomes by position

A value is inside another one if its position continues that of the other
(`SyntaxValue.at?_append`). The leaves of a value are those at the positions inside it
(`SyntaxValue.mem_yield`), and a position divides the leaves of the whole into those before it,
those of the value that stands there, and those after it (`SyntaxValue.yield_eq_of_at?`).

`SyntaxValue.outcomes` is the walk with the positions of the functions. `SyntaxValue.replaceAt` puts
another value at a position; what stands at a position that neither leads there nor lies inside is
not touched (`SyntaxValue.at?_replaceAt`).
-/

namespace ScriptCensus.SyntaxValue

/-! ## Positions inside positions -/

theorem at?_append (v : SyntaxValue) (p q : Position) :
    v.at? (p ++ q) = (v.at? p).bind (·.at? q) := by
  induction p generalizing v with
  | nil => rfl
  | cons k p ih =>
    rw [List.cons_append, at?, at?]
    cases v.inside[k]? with
    | none => rfl
    | some w => exact ih w

/-- What stands inside a value that stands at a position. -/
theorem at?_append_of_at? {v w : SyntaxValue} {p : Position} (h : v.at? p = some w)
    (q : Position) : v.at? (p ++ q) = w.at? q := by
  rw [at?_append, h, Option.bind_some]

theorem at?_cons {v w : SyntaxValue} {k : Nat} (h : v.inside[k]? = some w) (p : Position) :
    v.at? (k :: p) = w.at? p := by
  rw [at?, h]

theorem exists_of_at?_cons {v u : SyntaxValue} {k : Nat} {p : Position}
    (h : v.at? (k :: p) = some u) : ∃ w, v.inside[k]? = some w ∧ w.at? p = some u := by
  rw [at?] at h
  cases hk : v.inside[k]? with
  | none => simp [hk] at h
  | some w => exact ⟨w, rfl, by simpa [hk] using h⟩

/-! ## Leaves -/

/-- A value that is a leaf. -/
def ownLeaves : SyntaxValue → List Leaf
  | .leaf l => [l]
  | _ => []

theorem itemsYield_eq_flatMap (items : List SyntaxValue) :
    itemsYield items = items.flatMap yield := by
  induction items with
  | nil => rfl
  | cons w rest ih => rw [itemsYield, List.flatMap_cons, ih]

theorem fieldsYield_eq_flatMap (fields : List (String × SyntaxValue)) :
    SyntaxNode.fieldsYield fields = fields.flatMap fun f => f.2.yield := by
  induction fields with
  | nil => rfl
  | cons f rest ih => rw [SyntaxNode.fieldsYield, List.flatMap_cons, ih]

/-- The leaves of a value are those of the values directly inside, unless it is a leaf itself. -/
theorem yield_eq (v : SyntaxValue) : v.yield = v.ownLeaves ++ v.inside.flatMap yield := by
  cases v with
  | node n =>
    obtain ⟨tag?, span?, fields⟩ := n
    rw [yield, SyntaxNode.yield, fieldsYield_eq_flatMap, inside, List.flatMap_map]
    rfl
  | sequence items => rw [yield, itemsYield_eq_flatMap]; rfl
  | leaf l => rw [yield]; rfl
  | absent => rw [yield]; rfl

theorem ownLeaves_of_inside {v w : SyntaxValue} {k : Nat} (h : v.inside[k]? = some w) :
    v.ownLeaves = [] := by
  cases v with
  | leaf l => simp [inside] at h
  | _ => rfl

/-- The leaves of a value are those that stand at some position. -/
theorem mem_yield {l : Leaf} (v : SyntaxValue) :
    l ∈ v.yield ↔ ∃ q : Position, v.at? q = some (.leaf l) := by
  induction v using inside_induction with
  | step v ih =>
    rw [yield_eq, List.mem_append, List.mem_flatMap]
    constructor
    · rintro (hown | ⟨w, hw, hl⟩)
      · obtain rfl : v = .leaf l := by cases v <;> simp_all [ownLeaves]
        exact ⟨[], rfl⟩
      · obtain ⟨k, hk⟩ := List.mem_iff_getElem?.1 hw
        obtain ⟨q, hq⟩ := (ih w hw).1 hl
        exact ⟨k :: q, by rw [at?_cons hk, hq]⟩
    · rintro ⟨q, hq⟩
      cases q with
      | nil =>
        obtain rfl : v = .leaf l := Option.some.inj hq
        exact Or.inl (by simp [ownLeaves])
      | cons k q =>
        obtain ⟨w, hk, hw⟩ := exists_of_at?_cons hq
        have hmem := List.mem_of_getElem? hk
        exact Or.inr ⟨w, hmem, (ih w hmem).2 ⟨q, hw⟩⟩

/-- The leaves before a position. -/
def yieldBefore (v : SyntaxValue) : Position → List Leaf
  | [] => []
  | k :: p =>
    (v.inside.take k).flatMap yield ++
      match v.inside[k]? with
      | some w => w.yieldBefore p
      | none => []

/-- The leaves after a position and all that is inside. -/
def yieldAfter (v : SyntaxValue) : Position → List Leaf
  | [] => []
  | k :: p =>
    (match v.inside[k]? with
      | some w => w.yieldAfter p
      | none => []) ++
      (v.inside.drop (k + 1)).flatMap yield

/-- A value that stands at a position divides the leaves of the whole. -/
theorem yield_eq_of_at? {v w : SyntaxValue} {p : Position} (h : v.at? p = some w) :
    v.yield = v.yieldBefore p ++ w.yield ++ v.yieldAfter p := by
  induction p generalizing v with
  | nil =>
    obtain rfl : v = w := Option.some.inj h
    simp [yieldBefore, yieldAfter]
  | cons k p ih =>
    obtain ⟨u, hk, hu⟩ := exists_of_at?_cons h
    obtain ⟨hlt, hget⟩ := List.getElem?_eq_some_iff.1 hk
    have hinside : v.inside = v.inside.take k ++ u :: v.inside.drop (k + 1) := by
      rw [← hget, List.getElem_cons_drop, List.take_append_drop]
    calc v.yield
      _ = v.inside.flatMap yield := by rw [yield_eq, ownLeaves_of_inside hk, List.nil_append]
      _ = (v.inside.take k).flatMap yield ++
          (u.yield ++ (v.inside.drop (k + 1)).flatMap yield) := by
        conv => lhs; rw [hinside]
        rw [List.flatMap_append, List.flatMap_cons]
      _ = v.yieldBefore (k :: p) ++ w.yield ++ v.yieldAfter (k :: p) := by
        rw [ih hu, yieldBefore, yieldAfter, hk]
        simp only [List.append_assoc]

/-! ## Outcomes -/

/-- What comes of the functions of a value with their positions, each one before those inside it. -/
def outcomes (v : SyntaxValue) : List (Position × Outcome) :=
  v.placed.flatMap fun x => x.2.ownOutcome.map fun o => (x.1, o)

/-- Without the positions this is the walk. -/
theorem map_snd_outcomes (v : SyntaxValue) : v.outcomes.map Prod.snd = v.walk := by
  rw [walk_eq_flatMap, outcomes, List.map_flatMap]
  congr 1
  funext x
  rw [List.map_map]
  exact List.map_id _

theorem mem_ownOutcome {n : SyntaxNode} {o : Outcome} :
    o ∈ n.ownOutcome ↔ ∃ kind, n.functionKind? = some kind ∧ o = n.capture kind := by
  rw [SyntaxNode.ownOutcome]
  cases n.functionKind? <;> simp

/-- Each function has one outcome at its position, and nothing else has. -/
theorem mem_outcomes {v : SyntaxValue} {p : Position} {o : Outcome} :
    (p, o) ∈ v.outcomes ↔ ∃ n kind, v.at? p = some (.node n) ∧ n.functionKind? = some kind ∧
      o = n.capture kind := by
  simp only [outcomes, List.mem_flatMap, List.mem_map, mem_ownOutcome, Prod.exists, Prod.mk.injEq]
  constructor
  · rintro ⟨p, n, hp, o, ⟨kind, hkind, ho⟩, rfl, rfl⟩
    exact ⟨n, kind, (mem_placed v p).1 hp, hkind, ho⟩
  · rintro ⟨n, kind, hp, hkind, ho⟩
    exact ⟨p, n, (mem_placed v p).2 hp, o, ⟨kind, hkind, ho⟩, rfl, rfl⟩

/-- The outcomes are listed in the lexicographic order of positions. -/
theorem pairwise_outcomes (v : SyntaxValue) : v.outcomes.Pairwise fun x y => x.1 < y.1 := by
  rw [outcomes, List.pairwise_flatMap]
  refine ⟨fun x _ => ?_, (pairwise_placed v).imp fun hlt => ?_⟩
  · rw [SyntaxNode.ownOutcome]
    cases x.2.functionKind? <;> simp
  · simp only [List.mem_map]
    rintro _ ⟨o, -, rfl⟩ _ ⟨u, -, rfl⟩
    exact hlt

/-! ## Another value at a position -/

/-- A value with another one at a position. Where nothing stands there is nothing to replace. -/
def replaceAt (v w : SyntaxValue) : Position → SyntaxValue
  | [] => w
  | k :: p =>
    match v with
    | .node (.mk tag? span? fields) =>
      .node (.mk tag? span? (fields.modify k fun f => (f.1, f.2.replaceAt w p)))
    | .sequence items => .sequence (items.modify k fun u => u.replaceAt w p)
    | .leaf l => .leaf l
    | .absent => .absent

theorem inside_replaceAt (v w : SyntaxValue) (k : Nat) (p : Position) :
    (v.replaceAt w (k :: p)).inside = v.inside.modify k fun u => u.replaceAt w p := by
  cases v with
  | node n =>
    obtain ⟨tag?, span?, fields⟩ := n
    apply List.ext_getElem?
    intro j
    simp only [replaceAt, inside, SyntaxNode.fields, List.getElem?_map, List.getElem?_modify]
    cases fields[j]? <;> by_cases hj : k = j <;> simp [hj]
  | sequence items => rfl
  | leaf l => simp [replaceAt, inside]
  | absent => simp [replaceAt, inside]

/-- Another value at a position changes nothing at the positions that neither lead there nor lie
inside. -/
theorem at?_replaceAt {w : SyntaxValue} {q p : Position} (v : SyntaxValue) (hp : ¬p <+: q)
    (hq : ¬q <+: p) : (v.replaceAt w q).at? p = v.at? p := by
  induction q generalizing v p with
  | nil => exact absurd List.nil_prefix hq
  | cons k q ih =>
    cases p with
    | nil => exact absurd List.nil_prefix hp
    | cons j p =>
      rw [at?, at?, inside_replaceAt, List.getElem?_modify]
      by_cases hj : k = j
      · subst hj
        rw [List.prefix_cons_inj] at hp hq
        cases v.inside[k]? with
        | none => simp
        | some u => simpa using ih u hp hq
      · simp [hj]

/-- What comes of a function does not depend on what stands elsewhere. -/
theorem mem_outcomes_replaceAt {v w : SyntaxValue} {q p : Position} {o : Outcome}
    (hp : ¬p <+: q) (hq : ¬q <+: p) :
    (p, o) ∈ (v.replaceAt w q).outcomes ↔ (p, o) ∈ v.outcomes := by
  rw [mem_outcomes, mem_outcomes, at?_replaceAt v hp hq]

end ScriptCensus.SyntaxValue
