import Mathlib.Data.List.Nodup
import ScriptCensus.Proofs.ShapeAgreement

/-!
# Shapes of values that were read

A value that was read from a text need not be the one that was written: numbers may not be kept exactly,
members are put in order, and what is nested too deeply is not read at all. None of this matters to
whether a value fits a shape. A value that fits has only numbers that are kept exactly and no more
brackets than the shape (`Shape.plain_of_ofValue`), so its text is read; and what is read fits if and
only if the value does that was written (`Shape.ofValue_eq_ok_iff`).
-/

namespace ScriptCensus

open JsonReader

variable {α β σ : Type}

/-! ## What fits -/

theorem JsonReader.exists_of_map_eq_ok {ε : Type} {f : α → β} {x : Except ε α} {b : β} (h : x.map f = .ok b) :
    ∃ a, x = .ok a ∧ f a = b := by
  cases x with
  | ok a => exact ⟨a, rfl, Except.ok.inj h⟩
  | error e => cases h

theorem JsonReader.forall_mem_of_fitAll {fit : JsonValue → Except JsonCause α} {P : JsonValue → Prop}
    (hfit : ∀ v a, fit v = .ok a → P v) :
    ∀ (vs : List JsonValue) (as : List α), fitAll fit vs = .ok as → ∀ v ∈ vs, P v
  | [], _, _ => by simp
  | v :: vs, as, h => by
    rw [fitAll] at h
    split at h
    · cases h
    · next a hv =>
      split at h
      · cases h
      · next bs hvs =>
        exact List.forall_mem_cons.2 ⟨hfit v a hv, forall_mem_of_fitAll hfit vs bs hvs⟩

theorem JsonReader.forall_mem_of_foldlM {μ : Type} {f : σ → μ → Option σ} {P : μ → Prop}
    (hf : ∀ s m t, f s m = some t → P m) :
    ∀ (ms : List μ) (s t : σ), ms.foldlM f s = some t → ∀ m ∈ ms, P m
  | [], _, _, _ => by simp
  | m :: ms, s, t, h => by
    rw [List.foldlM_cons] at h
    obtain ⟨u, hm, hms⟩ := Option.bind_eq_some_iff.1 h
    exact List.forall_mem_cons.2 ⟨hf s m u hm, forall_mem_of_foldlM hf ms u t hms⟩

/-- What fits a record is an array of its items or an object of its members. -/
theorem Shape.exists_of_ofValue_record {name : String} {fields : Fields α} {v : JsonValue} {a : α}
    (h : (Shape.record name true fields).ofValue v = .ok a) :
    (∃ vs, v = .array vs ∧ fields.fitItems? name fields.keys.length 0 vs = some a) ∨
      ∃ ms slots, v = .object ms ∧ ms.foldlM fields.add? fields.noSlots = some slots ∧
        fields.fill slots = .ok a := by
  by_cases harray : ∃ vs, v = .array vs
  · obtain ⟨vs, rfl⟩ := harray
    have hitems := Shape.toOption_ofValue_array name true fields vs
    rw [h] at hitems
    exact Or.inl ⟨vs, rfl, hitems.symm⟩
  · by_cases hobject : ∃ ms, v = .object ms
    · obtain ⟨ms, rfl⟩ := hobject
      have hmembers := Shape.toOption_ofValue_object name fields ms
      rw [h] at hmembers
      obtain ⟨slots, hslots, hfill⟩ := Option.bind_eq_some_iff.1 hmembers.symm
      exact Or.inr ⟨ms, slots, rfl, hslots, eq_ok_of_toOption hfill.symm⟩
    · rw [Shape.ofValue] at h
      · cases h
      · rintro vs rfl
        exact harray ⟨vs, rfl⟩
      · rintro ms rfl
        exact hobject ⟨ms, rfl⟩

mutual

/-- What fits a shape has only numbers that are kept exactly, and no more brackets open at once than the
shape. -/
theorem Shape.plain_of_ofValue : {α : Type} → (shape : Shape α) → (levels : Nat) →
    shape.Within levels → ∀ {v : JsonValue} {a : α}, shape.ofValue v = .ok a → v.Plain levels
  | _, .text _, levels, _, v, a, hv => by
    rw [Shape.ofValue.eq_def] at hv
    dsimp only at hv
    split at hv
    · exact .string levels _
    · cases hv
  | _, .natural bits, levels, h, v, a, hv => by
    rw [Shape.Within] at h
    rw [Shape.ofValue.eq_def] at hv
    dsimp only at hv
    split at hv
    · exact .number levels (exact_of_naturalOf h hv)
    · cases hv
  | _, .boolean, levels, _, v, a, hv => by
    rw [Shape.ofValue.eq_def] at hv
    dsimp only at hv
    split at hv
    · exact .bool levels _
    · cases hv
  | _, .optional item, levels, h, v, a, hv => by
    rw [Shape.Within] at h
    by_cases hnull : v = .null
    · rw [hnull]
      exact .null levels
    · rw [Shape.ofValue_optional hnull] at hv
      obtain ⟨b, hitem, -⟩ := exists_of_map_eq_ok hv
      exact item.plain_of_ofValue levels h hitem
  | _, .list item, levels, h, v, as, hv => by
    rw [Shape.Within] at h
    obtain ⟨fewer, rfl, hitem⟩ := h
    rw [Shape.ofValue.eq_def] at hv
    dsimp only at hv
    split at hv
    · next vs =>
      exact .array (forall_mem_of_fitAll (fun v a hv => item.plain_of_ofValue fewer hitem hv) vs as hv)
    · cases hv
  | _, .choice _ _, _, h, _, _, _ => by
    rw [Shape.Within] at h
    exact h.elim
  | _, .record name closed fields, levels, h, v, a, hv => by
    rw [Shape.Within] at h
    obtain ⟨rfl, fewer, rfl, hfields⟩ := h
    rcases Shape.exists_of_ofValue_record hv with ⟨vs, rfl, hitems⟩ | ⟨ms, slots, rfl, hslots, -⟩
    · exact .array (fields.plain_of_fitItems fewer hfields name _ 0 hitems)
    · refine .object (forall_mem_of_foldlM (fun slots m slots' hm => ?_) ms _ _ hslots)
      obtain ⟨result, hresult, hok⟩ := Option.bind_eq_some_iff.1 hm
      rw [eq_ok_of_toOption hok.symm] at hresult
      exact fields.plain_of_ofMember fewer hfields hresult
  | _, .mapped shape wrap _, levels, h, v, b, hv => by
    rw [Shape.Within] at h
    rw [Shape.ofValue] at hv
    obtain ⟨a, hshape, -⟩ := exists_of_map_eq_ok hv
    exact shape.plain_of_ofValue levels h hshape

theorem Fields.plain_of_ofMember : {α : Type} → (fields : Fields α) → (levels : Nat) →
    fields.Within levels → ∀ {key : String} {v : JsonValue} {slots slots' : fields.Slots},
      fields.ofMember key v slots = some (.ok slots') → v.Plain levels
  | _, .nil, _, _, _, _, _, _, hv => by
    rw [Fields.ofMember] at hv
    cases hv
  | _, .cons key absent? item rest, levels, h, k, v, slots, slots', hv => by
    rw [Fields.Within] at h
    obtain ⟨first, others, rfl⟩ : ∃ first others, slots = Fields.Slots.cons first others :=
      ⟨slots.first, slots.others, rfl⟩
    rw [Fields.ofMember_cons] at hv
    split at hv
    · split at hv
      · cases hv
      · obtain ⟨a, hitem, -⟩ := exists_of_map_eq_ok (Option.some.inj hv)
        exact item.plain_of_ofValue levels h.1 hitem
    · obtain ⟨result, hresult, hmap⟩ := Option.map_eq_some_iff.1 hv
      obtain ⟨others', rfl, -⟩ := exists_of_map_eq_ok hmap
      exact rest.plain_of_ofMember levels h.2 hresult

theorem Fields.plain_of_fitItems : {α : Type} → (fields : Fields α) → (levels : Nat) →
    fields.Within levels → ∀ (name : String) (count index : Nat) {vs : List JsonValue} {a : α},
      fields.fitItems? name count index vs = some a → ∀ v ∈ vs, v.Plain levels
  | _, .nil, levels, _, name, count, index, vs, a, hvs => by
    rw [Fields.fitItems?, Fields.ofItems] at hvs
    cases vs with
    | nil => simp
    | cons => cases hvs
  | _, .cons key absent? item rest, levels, h, name, count, index, [], a, hvs => by simp
  | _, .cons key absent? item rest, levels, h, name, count, index, v :: vs, a, hvs => by
    rw [Fields.Within] at h
    rw [Fields.fitItems?_cons_cons] at hvs
    obtain ⟨b, hitem, hrest⟩ := Option.bind_eq_some_iff.1 hvs
    obtain ⟨c, hrest, -⟩ := Option.map_eq_some_iff.1 hrest
    refine List.forall_mem_cons.2 ⟨?_, rest.plain_of_fitItems levels h.2 name count (index + 1) hrest⟩
    exact item.plain_of_ofValue levels h.1 (eq_ok_of_toOption hitem.symm)

end

/-! ## Values that differ in order -/

/-- Steps that may be taken in any order lead to the same. -/
theorem JsonReader.foldlM_eq_of_perm {μ : Type} {f : σ → μ → Option σ} {l l' : List μ}
    (h : l.Perm l') (hcomm : ∀ x ∈ l, ∀ y ∈ l, x ≠ y → ∀ s, (f s x).bind (f · y) = (f s y).bind (f · x))
    (s : σ) : l.foldlM f s = l'.foldlM f s := by
  induction h generalizing s with
  | nil => rfl
  | cons x _ ih =>
    rw [List.foldlM_cons, List.foldlM_cons]
    refine congrArg (f s x).bind (funext fun t => ih (fun y hy z hz => ?_) t)
    exact hcomm y (List.mem_cons_of_mem _ hy) z (List.mem_cons_of_mem _ hz)
  | swap x y l =>
    by_cases hxy : y = x
    · rw [hxy]
    · have hswap := hcomm y List.mem_cons_self x (by simp) hxy s
      simp only [List.foldlM_cons]
      calc (f s y).bind (fun t => (f t x).bind fun u => l.foldlM f u)
        _ = ((f s y).bind (f · x)).bind (l.foldlM f ·) := (Option.bind_assoc ..).symm
        _ = ((f s x).bind (f · y)).bind (l.foldlM f ·) := by rw [hswap]
        _ = (f s x).bind (fun t => (f t y).bind fun u => l.foldlM f u) := Option.bind_assoc ..
  | trans h _ ih ih' =>
    rw [ih hcomm s]
    exact ih' (fun x hx y hy => hcomm x (h.mem_iff.2 hx) y (h.mem_iff.2 hy)) s

namespace Fields

theorem add?_cons (key : String) (absent? : Option α) (item : Shape α) (rest : Fields β)
    (m : String × JsonValue) (first : Option α) (others : rest.Slots) :
    (Fields.cons key absent? item rest).add? (Slots.cons first others) m =
      if m.1 = key then
        if first.isSome then none
        else (item.ofValue m.2).toOption.map fun a => Slots.cons (some a) others
      else (rest.add? others m).map (Slots.cons first ·) := by
  rw [add?, add?, ofMember_cons]
  split
  · split
    · rfl
    · rw [Option.bind_some, toOption_map]
  · rcases rest.ofMember m.1 m.2 others with _ | _ | _ <;> rfl

/-- The value of the first member may be added before or after another one. -/
theorem add?_comm_first {key : String} (absent? : Option α) (item : Shape α) {rest : Fields β}
    {m n : String × JsonValue} (hm : m.1 = key) (hn : n.1 ≠ key) (first : Option α)
    (others : rest.Slots) :
    ((Fields.cons key absent? item rest).add? (Slots.cons first others) m).bind
        ((Fields.cons key absent? item rest).add? · n) =
      ((Fields.cons key absent? item rest).add? (Slots.cons first others) n).bind
        ((Fields.cons key absent? item rest).add? · m) := by
  rw [add?_cons, add?_cons, if_pos hm, if_neg hn, Option.bind_map]
  simp only [Function.comp_def, add?_cons, if_pos hm]
  cases first with
  | some a => cases rest.add? others n <;> rfl
  | none =>
    rcases (item.ofValue m.2).toOption with _ | a
    · cases rest.add? others n <;> rfl
    · rw [if_neg (by simp), Option.map_some, Option.bind_some, add?_cons, if_neg hn]
      cases rest.add? others n <;> rfl

/-- Members with different keys may be added in either order. -/
theorem add?_comm : ∀ {α : Type} (fields : Fields α) {m n : String × JsonValue},
    m.1 ≠ n.1 → ∀ slots : fields.Slots,
      (fields.add? slots m).bind (fields.add? · n) = (fields.add? slots n).bind (fields.add? · m)
  | _, .nil, _, _, _, _ => by
    simp only [add?, ofMember, Option.bind_none]
  | _, .cons key absent? item rest, m, n, hne, slots => by
    obtain ⟨first, others, rfl⟩ : ∃ first others, slots = Slots.cons first others :=
      ⟨slots.first, slots.others, rfl⟩
    by_cases hm : m.1 = key
    · exact add?_comm_first absent? item hm (fun hn => hne (hm.trans hn.symm)) first others
    · by_cases hn : n.1 = key
      · exact (add?_comm_first absent? item hn hm first others).symm
      · rw [add?_cons, add?_cons, if_neg hm, if_neg hn, Option.bind_map, Option.bind_map]
        simp only [Function.comp_def, add?_cons, if_neg hm, if_neg hn]
        refine Option.map_bind.symm.trans (Eq.trans ?_ Option.map_bind)
        exact congrArg (Option.map _) (rest.add?_comm hne others)

end Fields

namespace JsonValue

theorem LikeMembers.keys_eq {ms ns : List (String × JsonValue)} (h : LikeMembers ms ns) :
    ms.map (·.1) = ns.map (·.1) := by
  induction ms generalizing ns with
  | nil => cases h; rfl
  | cons m ms ih =>
    cases h with
    | cons key _ hms => rw [List.map_cons, List.map_cons, ih hms]

theorem LikeMembers.foldlM_eq {f : σ → String × JsonValue → Option σ}
    (hf : ∀ {v w : JsonValue}, v.Like w → ∀ key s, f s (key, v) = f s (key, w))
    {ms ns : List (String × JsonValue)} (h : LikeMembers ms ns) (s : σ) :
    ms.foldlM f s = ns.foldlM f s := by
  induction ms generalizing ns s with
  | nil => cases h; rfl
  | cons m ms ih =>
    cases h with
    | cons key hv hms =>
      rw [List.foldlM_cons, List.foldlM_cons, hf hv]
      exact congrArg (f s _).bind (funext fun t => ih hms t)

theorem LikeItems.toOption_fitAll {fit : JsonValue → Except JsonCause α}
    (hfit : ∀ {v w : JsonValue}, v.Like w → (fit v).toOption = (fit w).toOption)
    {vs ws : List JsonValue} (h : LikeItems vs ws) :
    (fitAll fit vs).toOption = (fitAll fit ws).toOption := by
  have hcons : ∀ (v : JsonValue) (vs : List JsonValue), (fitAll fit (v :: vs)).toOption =
      (fit v).toOption.bind fun a => (fitAll fit vs).toOption.map (a :: ·) := by
    intro v vs
    rw [fitAll]
    cases fit v with
    | error e => rfl
    | ok a => cases fitAll fit vs <;> rfl
  induction vs generalizing ws with
  | nil => cases h; rfl
  | cons v vs ih =>
    cases h with
    | cons hv hvs => rw [hcons, hcons, hfit hv, ih hvs]

end JsonValue

mutual

/-- Neither numbers that are not kept exactly nor the order of members make a difference. -/
theorem Shape.toOption_ofValue_of_like : {α : Type} → (shape : Shape α) → (levels : Nat) →
    shape.Within levels → ∀ {v w : JsonValue}, v.Like w →
      (shape.ofValue v).toOption = (shape.ofValue w).toOption
  | _, .text _, _, _, v, w, hlike => by
    cases hlike <;> rfl
  | _, .natural bits, _, h, v, w, hlike => by
    rw [Shape.Within] at h
    cases hlike with
    | number hn =>
      rw [Shape.ofValue, Shape.ofValue]
      rcases hn with rfl | ⟨hm, hn⟩
      · rfl
      · rw [toOption_naturalOf_eq_none h hm, toOption_naturalOf_eq_none h hn]
    | _ => rfl
  | _, .boolean, _, _, v, w, hlike => by
    cases hlike <;> rfl
  | _, .optional item, levels, h, v, w, hlike => by
    rw [Shape.Within] at h
    have hitem := item.toOption_ofValue_of_like levels h hlike
    by_cases hnull : v = .null
    · subst hnull
      cases hlike
      rfl
    · have hnull' : w ≠ .null := by
        rintro rfl
        cases hlike
        exact hnull rfl
      rw [Shape.ofValue_optional hnull, Shape.ofValue_optional hnull', toOption_map, toOption_map,
        hitem]
  | _, .list item, levels, h, v, w, hlike => by
    rw [Shape.Within] at h
    obtain ⟨fewer, -, hitem⟩ := h
    cases hlike with
    | array hvs =>
      rw [Shape.ofValue, Shape.ofValue]
      exact hvs.toOption_fitAll fun hv => item.toOption_ofValue_of_like fewer hitem hv
    | _ => rfl
  | _, .choice _ _, _, h, _, _, _ => by
    rw [Shape.Within] at h
    exact h.elim
  | _, .record name closed fields, levels, h, v, w, hlike => by
    rw [Shape.Within] at h
    obtain ⟨rfl, fewer, -, hfields⟩ := h
    cases hlike with
    | array hvs =>
      rw [Shape.toOption_ofValue_array, Shape.toOption_ofValue_array]
      exact fields.fitItems?_of_like fewer hfields name _ 0 hvs
    | @object ms ns ns' hkeys hms hperm =>
      rw [Shape.toOption_ofValue_object, Shape.toOption_ofValue_object]
      rw [hms.keys_eq] at hkeys
      rw [hms.foldlM_eq fun hv key slots => fields.add?_of_like fewer hfields hv key slots,
        foldlM_eq_of_perm hperm fun x hx y hy hxy slots =>
          fields.add?_comm (fun hkey => hxy (List.inj_on_of_nodup_map hkeys hx hy hkey)) slots]
    | _ => rfl
  | _, .mapped shape wrap _, levels, h, v, w, hlike => by
    rw [Shape.Within] at h
    rw [Shape.ofValue, Shape.ofValue, toOption_map, toOption_map,
      shape.toOption_ofValue_of_like levels h hlike]

theorem Fields.add?_of_like : {α : Type} → (fields : Fields α) → (levels : Nat) →
    fields.Within levels → ∀ {v w : JsonValue}, v.Like w → ∀ (key : String) (slots : fields.Slots),
      fields.add? slots (key, v) = fields.add? slots (key, w)
  | _, .nil, _, _, _, _, _, _, _ => by simp only [Fields.add?, Fields.ofMember]
  | _, .cons key absent? item rest, levels, h, v, w, hlike, k, slots => by
    rw [Fields.Within] at h
    obtain ⟨first, others, rfl⟩ : ∃ first others, slots = Fields.Slots.cons first others :=
      ⟨slots.first, slots.others, rfl⟩
    rw [Fields.add?_cons, Fields.add?_cons, item.toOption_ofValue_of_like levels h.1 hlike,
      rest.add?_of_like levels h.2 hlike]

theorem Fields.fitItems?_of_like : {α : Type} → (fields : Fields α) → (levels : Nat) →
    fields.Within levels → ∀ (name : String) (count index : Nat) {vs ws : List JsonValue},
      JsonValue.LikeItems vs ws →
        fields.fitItems? name count index vs = fields.fitItems? name count index ws
  | _, .nil, _, _, name, count, index, vs, ws, hvs => by
    cases hvs <;> rfl
  | _, .cons key absent? item rest, levels, h, name, count, index, vs, ws, hvs => by
    rw [Fields.Within] at h
    cases hvs with
    | nil => rfl
    | cons hv hvs =>
      rw [Fields.fitItems?_cons_cons, Fields.fitItems?_cons_cons,
        item.toOption_ofValue_of_like levels h.1 hv,
        rest.fitItems?_of_like levels h.2 name count (index + 1) hvs]

end

/-- What a value that was read says about a shape is what the value says that was written. -/
theorem Shape.ofValue_eq_ok_iff (shape : Shape α) {levels : Nat} (h : shape.Within levels)
    {v w : JsonValue} (hlike : v.Like w) (a : α) :
    shape.ofValue v = .ok a ↔ shape.ofValue w = .ok a := by
  have heq := shape.toOption_ofValue_of_like levels h hlike
  constructor
  · intro hv
    rw [hv] at heq
    exact eq_ok_of_toOption heq
  · intro hw
    rw [hw] at heq
    exact eq_ok_of_toOption heq.symm

end ScriptCensus
