import ScriptCensus.Proofs.JsonOutcomes

/-!
# What is read can be written

What fits a shape is read back from what it is written as (`Shape.readText_compact`). The converse
question is whether whatever is read from a text fits the shape it was read by. It does if the shape
loses nothing (`Shape.Faithful`), and above all if what stands for members that were left out fits in
its turn; how the text was laid out plays no part (`Shape.gives_read`). So what was read once is read
again from its own text.

`JsonReader.Gives r P` says that whatever a reader gives has a property. Records that are read member by
member keep the property that all slots that are filled fit (`Fields.SlotsFit`).
-/

namespace ScriptCensus

open JsonReader

/-! ## What readers give -/

namespace JsonReader

variable {α β σ : Type}

/-- Whatever a reader gives has a property. -/
def Gives (r : JsonReader α) (P : α → Prop) : Prop :=
  ∀ i a j, r.run.run i = (.ok a, j) → P a

variable {r : JsonReader α} {f : α → JsonReader β} {P : α → Prop} {Q : β → Prop}

theorem Gives.bind (hr : r.Gives P) (hf : ∀ a, P a → (f a).Gives Q) : (r >>= f).Gives Q := by
  intro i b k h
  rcases hrun : r.run.run i with ⟨fault | a, j⟩
  · rw [run_bind_of_error hrun] at h
    cases h
  · rw [run_bind_of_ok hrun] at h
    exact hf a (hr i a j hrun) j b k h

/-- Nothing need be known of what was read before. -/
theorem Gives.after (r : JsonReader α) (hf : ∀ a, (f a).Gives Q) : (r >>= f).Gives Q :=
  Gives.bind (P := fun _ => True) (fun _ _ _ _ => trivial) fun a _ => hf a

theorem gives_pure {a : α} (h : P a) : (pure a : JsonReader α).Gives P := by
  rintro i _ _ ⟨⟩
  exact h

theorem Fails.gives (h : r.Fails) (P : α → Prop) : r.Gives P := by
  intro i a j hrun
  obtain ⟨fault, k, hfault⟩ := h i
  rw [hfault] at hrun
  cases hrun

theorem Gives.map {g : α → β} (h : r.Gives P) (hQ : ∀ a, P a → Q (g a)) :
    (do return g (← r) : JsonReader β).Gives Q :=
  h.bind fun a ha => gives_pure (hQ a ha)

theorem gives_orRefuse {x : Except JsonCause α} (h : ∀ a, x = .ok a → P a) :
    (orRefuse x).Gives P := by
  cases x with
  | ok a => exact gives_pure (h a rfl)
  | error cause => exact (fails_failSomewhere cause).gives P

theorem gives_located (h : r.Gives P) : (located r).Gives P := by
  intro i a j hrun
  rw [located, ExceptT.run_tryCatch, StateT.run_bind] at hrun
  rcases hr : r.run.run i with ⟨⟨cause, place?⟩ | b, k⟩
  · rw [hr] at hrun
    cases place? <;> cases hrun
  · rw [hr] at hrun
    cases hrun
    exact h i a k hr

theorem gives_enclosed (h : r.Gives P) (close : JsonReader Unit) : (enclosed r close).Gives P := by
  refine Gives.after _ fun _ => ?_
  have hinside : (outcome r).Gives fun x => ∀ a, x = .ok a → P a := by
    rintro i x j ⟨⟩ a ha
    exact h i a _ (Prod.ext ha rfl)
  refine hinside.bind fun x hx => Gives.after _ fun closed => ?_
  split
  · exact gives_pure (hx _ rfl)
  · exact Fails.gives (fun i => ⟨_, i, rfl⟩) P
  · exact Fails.gives (fun i => ⟨_, i, rfl⟩) P

theorem gives_items {item : JsonReader α} (h : item.Gives P) :
    ∀ (fuel : Nat) (first : Bool), (items item fuel first).Gives fun as => ∀ a ∈ as, P a
  | 0, _ => (fails_failAhead _).gives _
  | fuel + 1, first => by
    refine Gives.after _ fun more => ?_
    split
    · exact h.bind fun a ha => (gives_items h fuel false).map fun as has =>
        List.forall_mem_cons.2 ⟨ha, has⟩
    · exact gives_pure (by simp)

theorem gives_members {memberOf : String → σ → JsonReader σ} {P : σ → Prop}
    (h : ∀ key s, P s → (memberOf key s).Gives P) :
    ∀ (fuel : Nat) (first : Bool) (s : σ), P s → (members memberOf fuel first s).Gives P
  | 0, _, _, _ => (fails_failAhead _).gives _
  | fuel + 1, first, s, hs => by
    refine Gives.after _ fun more => ?_
    split
    · exact Gives.after _ fun key => (h key s hs).bind fun t ht =>
        gives_members h fuel false t ht
    · exact gives_pure hs

/-- Members that are not known are refused or passed over. -/
theorem gives_knownMembers {known? : String → σ → Option (JsonReader σ)} {P : σ → Prop}
    (h : ∀ key s reader, known? key s = some reader → P s → reader.Gives P) (closed : Bool)
    (keys : List String) {start : σ} (hstart : P start) :
    (knownMembers known? closed keys start).Gives P := by
  refine Gives.after _ fun fuel => gives_members (fun key s hs => ?_) fuel true _ hstart
  rw [knownMembers.memberOf]
  split
  · next reader hreader => exact h key s reader hreader hs
  · split
    · exact (fails_failSomewhere _).gives _
    · exact Gives.after _ fun _ => Gives.after _ fun _ => gives_pure hs

end JsonReader

/-! ## Shapes that lose nothing -/

mutual

/-- Shapes from whose texts nothing is lost: numbers are kept exactly, null stands for nothing but what
is left out, keys are different from each other, and what is left out stands for something that fits. -/
def Shape.Faithful : {α : Type} → Shape α → Nat → Prop
  | _, .text _, _ => True
  | _, .natural bits, _ => bits ≤ 64
  | _, .boolean, _ => True
  | _, .optional item, levels => item.Faithful levels ∧ ∀ a, item.toValue a ≠ .null
  | _, .list item, levels => ∃ fewer, levels = fewer + 1 ∧ item.Faithful fewer
  | _, .choice _ _, _ => True
  | _, .record _ _ fields, levels =>
    ∃ fewer, levels = fewer + 1 ∧ fields.keys.Nodup ∧ fields.Faithful fewer
  | _, .mapped shape wrap unwrap, levels => (∀ a, unwrap (wrap a) = a) ∧ shape.Faithful levels

/-- Members from whose texts nothing is lost. -/
def Fields.Faithful : {α : Type} → Fields α → Nat → Prop
  | _, .nil, _ => True
  | _, .cons _ absent? item rest, levels =>
    (item.Faithful levels ∧ ∀ a ∈ absent?, item.Fits levels a) ∧ rest.Faithful levels

end

namespace Fields

/-- All slots that are filled fit. -/
def SlotsFit : {α : Type} → (fields : Fields α) → Nat → fields.Slots → Prop
  | _, .nil, _, _ => True
  | _, .cons _ _ item rest, levels, slots =>
    (∀ a ∈ Slots.first slots, item.Fits levels a) ∧ rest.SlotsFit levels (Slots.others slots)

theorem slotsFit_noSlots : ∀ {α : Type} (fields : Fields α) (levels : Nat),
    fields.SlotsFit levels fields.noSlots
  | _, .nil, _ => trivial
  | _, .cons _ _ _ rest, levels => ⟨by rintro a ⟨⟩, slotsFit_noSlots rest levels⟩

/-- A record that is made of slots that fit does so itself. -/
theorem fits_of_fill : ∀ {α : Type} (fields : Fields α) (levels : Nat), fields.Faithful levels →
    ∀ {slots : fields.Slots}, fields.SlotsFit levels slots → ∀ {a : α}, fields.fill slots = .ok a →
      fields.Fits levels a
  | _, .nil, _, _, _, _, _, _ => trivial
  | _, .cons key absent? item rest, levels, h, slots, hslots, a, hfill => by
    rw [fill] at hfill
    split at hfill
    · cases hfill
    · next b hb =>
      split at hfill
      · cases hfill
      · next c hc =>
        cases hfill
        refine ⟨?_, rest.fits_of_fill levels h.2 hslots.2 hc⟩
        rcases Option.or_eq_some_iff.1 hb with hfirst | ⟨-, habsent⟩
        · exact hslots.1 b hfirst
        · exact h.1.2 b habsent

end Fields

/-! ## Whatever is read fits -/

namespace JsonReader

variable {α : Type}

theorem gives_naturalBelow {bits : Nat} (hbits : bits ≤ 64) :
    (naturalBelow bits).Gives fun n => n < Nat.pow 2 bits ∧ n ≤ maxNatural := by
  have hnumber : ∀ m n, naturalOf bits m = .ok n → n < Nat.pow 2 bits ∧ n ≤ maxNatural := by
    intro m n h
    have hlt := (naturalOf_eq_ok h).2
    exact ⟨hlt, le_maxNatural_of_lt hbits hlt⟩
  refine gives_located (Gives.after _ fun c => ?_)
  split
  · exact Gives.after _ fun _ => Gives.after _ fun m => gives_orRefuse (hnumber m)
  · split
    · exact Gives.after _ fun m => gives_orRefuse (hnumber m)
    · exact (fails_refuseType _).gives _

/-- The option of a name is the first one of that name. -/
theorem gives_optionName (levels : Nat) (options : List α) (name : α → String) :
    (optionName levels options name).Gives fun a =>
      options.find? (name · == name a) = some a := by
  have hname : (optionName.nameOf options name).Gives fun a =>
      options.find? (name · == name a) = some a := by
    refine gives_located (Gives.after _ fun c => ?_)
    split
    · refine Gives.after _ fun _ => Gives.after _ fun s => gives_orRefuse fun a ha => ?_
      rw [optionOf] at ha
      split at ha
      · next b hb =>
        cases ha
        have hs : name a = s := by simpa using List.find?_some hb
        rwa [hs]
      · cases ha
    · exact (fails_refuseType _).gives _
  refine Gives.after _ fun c => ?_
  split
  · exact hname
  · cases levels with
    | zero => exact (fails_failAhead _).gives _
    | succ levels =>
      refine Gives.after _ fun _ => hname.bind fun a ha => Gives.after _ fun _ =>
        Gives.after _ fun _ => Gives.after _ fun d? => ?_
      split
      · exact Gives.after _ fun _ => gives_pure ha
      · exact (fails_fail _).gives _
      · exact (fails_fail _).gives _
  · exact (fails_failAhead _).gives _

end JsonReader

mutual

/-- Whatever is read by a shape that loses nothing fits it. -/
theorem Shape.gives_read : {α : Type} → (shape : Shape α) → (levels : Nat) → shape.Faithful levels →
    (shape.read levels).Gives (shape.Fits levels)
  | _, .text _, _, _ => fun _ _ _ _ => trivial
  | _, .natural bits, levels, h => by
    rw [Shape.read]
    exact gives_naturalBelow h
  | _, .boolean, _, _ => fun _ _ _ _ => trivial
  | _, .optional item, levels, h => by
    rw [Shape.read]
    refine Gives.after _ fun c? => ?_
    split
    · exact Gives.after _ fun _ => Gives.after _ fun _ => gives_pure trivial
    · exact (item.gives_read levels h.1).map fun a ha => ⟨ha, h.2 a⟩
  | _, .list item, levels, h => by
    obtain ⟨fewer, rfl, hitem⟩ := h
    rw [Shape.read]
    refine gives_located (Gives.after _ fun c => ?_)
    split
    · refine gives_enclosed (Gives.after _ fun fuel => ?_) _
      intro i as j hrun
      exact ⟨fewer, rfl, gives_items (item.gives_read fewer hitem) fuel true i as j hrun⟩
    · exact (fails_refuseType _).gives _
  | _, .choice options name, levels, _ => by
    rw [Shape.read]
    exact gives_optionName levels options name
  | _, .record name closed fields, levels, h => by
    obtain ⟨fewer, rfl, hkeys, hfields⟩ := h
    rw [Shape.read]
    refine gives_located (Gives.after _ fun c => ?_)
    split
    · refine gives_enclosed ?_ _
      intro i a j hrun
      exact ⟨fewer, rfl, hkeys, fields.gives_readItems fewer hfields name _ 0 i a j hrun⟩
    · refine gives_enclosed (Gives.bind (P := fields.SlotsFit fewer) ?_ fun slots hslots => ?_) _
      · exact gives_knownMembers (fun key slots reader hreader hslots =>
          fields.gives_readMember fewer hfields hreader hslots) closed _ (fields.slotsFit_noSlots fewer)
      · exact gives_orRefuse fun a ha =>
          ⟨fewer, rfl, hkeys, fields.fits_of_fill fewer hfields hslots ha⟩
    · exact (fails_refuseType _).gives _
  | _, .mapped shape wrap unwrap, levels, h => by
    rw [Shape.read]
    refine (shape.gives_read levels h.2).map fun a ha => ⟨congrArg wrap (h.1 a), ?_⟩
    rwa [h.1]

theorem Fields.gives_readMember : {α : Type} → (fields : Fields α) → (levels : Nat) →
    fields.Faithful levels → ∀ {key : String} {slots : fields.Slots} {reader : JsonReader fields.Slots},
      fields.readMember levels key slots = some reader → fields.SlotsFit levels slots →
        reader.Gives (fields.SlotsFit levels)
  | _, .nil, _, _, _, _, _, hreader, _ => by
    rw [Fields.readMember] at hreader
    cases hreader
  | _, .cons key absent? item rest, levels, h, k, slots, reader, hreader, hslots => by
    obtain ⟨first, others, rfl⟩ : ∃ first others, slots = Fields.Slots.cons first others :=
      ⟨slots.first, slots.others, rfl⟩
    rw [Fields.readMember_cons] at hreader
    split at hreader
    · cases hreader
      split
      · exact (fails_failSomewhere _).gives _
      · refine Gives.after _ fun _ => (item.gives_read levels h.1.1).map fun a ha => ⟨?_, hslots.2⟩
        rintro b ⟨⟩
        exact ha
    · obtain ⟨reader', hreader', rfl⟩ := Option.map_eq_some_iff.1 hreader
      exact (rest.gives_readMember levels h.2 hreader' hslots.2).map fun others' hothers' =>
        ⟨hslots.1, hothers'⟩

theorem Fields.gives_readItems : {α : Type} → (fields : Fields α) → (levels : Nat) →
    fields.Faithful levels → ∀ (name : String) (count index : Nat),
      (fields.readItems name count levels index).Gives (fields.Fits levels)
  | _, .nil, _, _, _, _, _ => fun _ _ _ _ => trivial
  | _, .cons key absent? item rest, levels, h, name, count, index => by
    have hrest := rest.gives_readItems levels h.2 name count (index + 1)
    rw [Fields.readItems_cons]
    refine Gives.after _ fun more => ?_
    split
    · exact (item.gives_read levels h.1.1).bind fun a ha => hrest.map fun b hb => ⟨ha, hb⟩
    · split
      · exact hrest.map fun b hb => ⟨h.1.2 _ rfl, hb⟩
      · exact (fails_failSomewhere _).gives _

end

/-! ## Whole texts -/

/-- What fits a shape is read back from its text on one line. -/
theorem Shape.readText_compact {α : Type} (shape : Shape α) {a : α} (h : shape.Fits nestingLimit a) :
    shape.readText (shape.toValue a).compact = .ok a := by
  have hread := shape.readText_of_spelled h (JsonValue.spelled_compactChars _) blank_nil
  rwa [List.append_nil] at hread

theorem Shape.fits_of_readText {α : Type} {shape : Shape α} (h : shape.Faithful nestingLimit)
    {text : String} {a : α} (hread : shape.readText text = .ok a) : shape.Fits nestingLimit a := by
  have hall : (do let a ← shape.read nestingLimit; finish; pure a : JsonReader α).Gives
      (shape.Fits nestingLimit) :=
    (shape.gives_read nestingLimit h).bind fun a ha => Gives.after _ fun _ => gives_pure ha
  exact hall (JsonInput.ofString text) a _ (Prod.ext hread rfl)

end ScriptCensus
