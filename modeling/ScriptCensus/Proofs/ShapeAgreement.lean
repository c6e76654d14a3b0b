import ScriptCensus.Proofs.JsonReadings

/-!
# Texts and values of a shape

A shape is read from a text (`Shape.read`) and from a value (`Shape.ofValue`). The two go different
ways: one looks at characters and stops at the first that does not fit, the other has the whole value
before it. For shapes without options, whose records are closed (`Shape.Within`), they agree on what
they accept and on what they make of it: from every spelling of a value comes what comes of the value
(`Shape.comes_read`, and `Shape.readText_eq_ok_iff` for whole texts).
-/

namespace ScriptCensus

open JsonReader

variable {α β σ : Type}

mutual

/-- Shapes without options and with closed records only, whose numbers are kept exactly, and for which
at most the given number of brackets is open at once. -/
def Shape.Within : {α : Type} → Shape α → Nat → Prop
  | _, .text _, _ => True
  | _, .natural bits, _ => bits ≤ 64
  | _, .boolean, _ => True
  | _, .optional item, levels => item.Within levels
  | _, .list item, levels => ∃ fewer, levels = fewer + 1 ∧ item.Within fewer
  | _, .choice _ _, _ => False
  | _, .record _ closed fields, levels =>
    closed = true ∧ ∃ fewer, levels = fewer + 1 ∧ fields.Within fewer
  | _, .mapped shape _ _, levels => shape.Within levels

/-- Members with such shapes. -/
def Fields.Within : {α : Type} → Fields α → Nat → Prop
  | _, .nil, _ => True
  | _, .cons _ _ item rest, levels => item.Within levels ∧ rest.Within levels

end

/-! ## How spellings start -/

namespace JsonValue

/-- Characters that a spelling of a value may start with. -/
def StartsWith : JsonValue → Char → Prop
  | null, c => c = 'n'
  | bool true, c => c = 't'
  | bool false, c => c = 'f'
  | number _, c => c = '-' ∨ c.isDigit = true
  | string _, c => c = '"'
  | array _, c => c = '['
  | object _, c => c = '\x7b'

theorem Spelled.startsWith {v : JsonValue} {cs : List Char} (h : v.Spelled cs) :
    ∃ c cs', cs = c :: cs' ∧ isJsonBlank c = false ∧ v.StartsWith c := by
  obtain ⟨c, cs', hcs, hblank, -⟩ := h.exists_cons
  refine ⟨c, cs', hcs, hblank, ?_⟩
  cases h with
  | number n =>
    obtain ⟨d, ds, hchars, hd⟩ := exists_number_chars n
    rw [hchars] at hcs
    obtain ⟨rfl, -⟩ := List.cons.inj hcs
    exact hd
  | string h =>
    obtain ⟨ds, -, rfl⟩ := h
    exact (List.cons.inj hcs).1.symm
  | null | bool_true | bool_false | array | object => exact (List.cons.inj hcs).1.symm

theorem StartsWith.eq_null {v : JsonValue} (h : v.StartsWith 'n') : v = null := by
  rcases v with _ | (_ | _) | _ | _ | _ | _ <;> simp_all [StartsWith]

theorem StartsWith.exists_string {v : JsonValue} (h : v.StartsWith '"') : ∃ s, v = string s := by
  rcases v with _ | (_ | _) | _ | _ | _ | _ <;> simp_all [StartsWith]

theorem StartsWith.exists_bool {v : JsonValue} {c : Char} (h : v.StartsWith c)
    (hc : c = 't' ∨ c = 'f') : ∃ b, v = bool b := by
  rcases v with _ | b | _ | _ | _ | _
  case bool => exact ⟨b, rfl⟩
  all_goals rcases hc with rfl | rfl <;> simp [StartsWith] at h

theorem StartsWith.exists_number {v : JsonValue} {c : Char} (h : v.StartsWith c)
    (hc : c = '-' ∨ c.isDigit = true) : ∃ n, v = number n := by
  rcases v with _ | (_ | _) | n | _ | _ | _
  case number => exact ⟨n, rfl⟩
  all_goals
    obtain rfl : c = _ := h
    simp at hc

theorem StartsWith.exists_array {v : JsonValue} (h : v.StartsWith '[') : ∃ vs, v = array vs := by
  rcases v with _ | (_ | _) | _ | _ | _ | _ <;> simp_all [StartsWith]

theorem StartsWith.exists_object {v : JsonValue} (h : v.StartsWith '\x7b') :
    ∃ ms, v = object ms := by
  rcases v with _ | (_ | _) | _ | _ | _ | _ <;> simp_all [StartsWith]

end JsonValue

/-! ## What has no parts -/

namespace JsonReader

open JsonValue

theorem comes_orRefuse (x : Except JsonCause α) (q : Option Char → Prop) :
    (orRefuse x).Comes [] q (· = x.toOption) := by
  cases x with
  | ok a => exact (takes_pure a q).comes rfl
  | error cause => exact (fails_failSomewhere cause).comes (P := (· = none)) rfl [] q

theorem comes_textOf (expected : String) {v : JsonValue} {bs cs : List Char} (hbs : Blank bs)
    (hcs : v.Spelled cs) :
    (textOf expected).Comes (bs ++ cs) endsNumber
      (· = ((Shape.text expected).ofValue v).toOption) := by
  obtain ⟨c, cs', rfl, hblank, hc⟩ := hcs.startsWith
  refine comes_located (Comes.of_token hbs hblank ?_)
  split
  · obtain ⟨s, rfl⟩ := hc.exists_string
    cases hcs with
    | string h =>
      obtain ⟨ds, hds, heq⟩ := h
      obtain ⟨-, rfl⟩ := List.cons.inj heq
      rw [Shape.ofValue]
      exact ((takes_string hds _).after_advance '"').comes rfl
  · next hne =>
    refine (fails_refuseType _).comes ?_ _ _
    rw [Shape.ofValue]
    · rfl
    · rintro s rfl
      exact hne hc

theorem comes_truth {v : JsonValue} {bs cs : List Char} (hbs : Blank bs) (hcs : v.Spelled cs) :
    truth.Comes (bs ++ cs) endsNumber (· = (Shape.boolean.ofValue v).toOption) := by
  by_cases hv : ∃ b, v = .bool b
  · obtain ⟨b, rfl⟩ := hv
    rw [Shape.ofValue]
    exact (takes_truth b hbs hcs _).comes rfl
  · obtain ⟨c, cs', rfl, hblank, hc⟩ := hcs.startsWith
    refine comes_located (Comes.of_token hbs hblank ?_)
    split
    · exact absurd (hc.exists_bool (Or.inl rfl)) hv
    · exact absurd (hc.exists_bool (Or.inr rfl)) hv
    · refine (fails_refuseType _).comes ?_ _ _
      rw [Shape.ofValue]
      · rfl
      · rintro b rfl
        exact hv ⟨b, rfl⟩

/-- Numbers that are not kept exactly do not fit. -/
theorem exact_of_naturalOf {bits : Nat} (hbits : bits ≤ 64) {n : JsonNumber} {k : Nat}
    (h : naturalOf bits n = .ok k) : n.Exact := by
  obtain ⟨rfl, hlt⟩ := naturalOf_eq_ok h
  exact le_maxNatural_of_lt hbits hlt

theorem toOption_naturalOf_eq_none {bits : Nat} (hbits : bits ≤ 64) {n : JsonNumber}
    (hn : ¬n.Exact) : (naturalOf bits n).toOption = none := by
  cases h : naturalOf bits n with
  | ok k => exact absurd (exact_of_naturalOf hbits h) hn
  | error e => rfl

/-- A number comes to the same, whether it is read exactly, as a float or not at all. -/
theorem comes_naturalOf {bits : Nat} (hbits : bits ≤ 64) (positive : Bool) {n : JsonNumber}
    {cs : List Char} (h : (number positive).Comes cs endsNumber n.ReadAs) :
    (do orRefuse (naturalOf bits (← number positive)) : JsonReader Nat).Comes cs endsNumber
      (· = (naturalOf bits n).toOption) := by
  rw [← List.append_nil cs]
  refine h.bind (fun m hm => ?_) (fun hnone => ?_) fun _ hq => hq
  · rcases hm.1 m rfl with rfl | ⟨hn, hm⟩
    · exact comes_orRefuse _ _
    · rw [toOption_naturalOf_eq_none hbits hn, ← toOption_naturalOf_eq_none hbits hm]
      exact comes_orRefuse _ _
  · exact (toOption_naturalOf_eq_none hbits (hnone.2 rfl)).symm

theorem comes_naturalBelow {bits : Nat} (hbits : bits ≤ 64) {v : JsonValue} {bs cs : List Char}
    (hbs : Blank bs) (hcs : v.Spelled cs) :
    (naturalBelow bits).Comes (bs ++ cs) endsNumber
      (· = ((Shape.natural bits).ofValue v).toOption) := by
  by_cases hnumber : ∃ n, v = .number n
  · obtain ⟨n, rfl⟩ := hnumber
    cases hcs
    rw [Shape.ofValue]
    rcases n.comes_chars with ⟨cs, hchars, hcs⟩ | ⟨c, cs, hchars, hc, hcs⟩
    · rw [hchars]
      refine comes_located (Comes.of_token hbs (by decide) ?_)
      exact (comes_naturalOf hbits false hcs).after_advance '-'
    · rw [hchars]
      refine comes_located (Comes.of_token hbs (isJsonBlank_of_isDigit hc) ?_)
      split
      · simp at hc
      · rw [if_pos hc]
        exact comes_naturalOf hbits true hcs
  · obtain ⟨c, cs', rfl, hblank, hc⟩ := hcs.startsWith
    refine comes_located (Comes.of_token hbs hblank ?_)
    split
    · exact absurd (hc.exists_number (Or.inl rfl)) hnumber
    · rw [if_neg fun hdigit => hnumber (hc.exists_number (Or.inr hdigit))]
      refine (fails_refuseType _).comes ?_ _ _
      rw [Shape.ofValue]
      · rfl
      · rintro n rfl
        exact hnumber ⟨n, rfl⟩

/-! ## Items and members -/

theorem exists_eq_error_of_toOption {ε : Type} {x : Except ε α} (h : none = x.toOption) :
    ∃ e, x = .error e := by
  cases x with
  | ok b => simp [Except.toOption] at h
  | error e => exact ⟨e, rfl⟩

theorem toOption_map {ε : Type} (f : α → β) (x : Except ε α) :
    (x.map f).toOption = x.toOption.map f := by
  cases x <;> rfl

theorem Gathers.eq_fitAll {fit : JsonValue → Except JsonCause α} {vs : List JsonValue}
    {o : Option (List α)} (h : Gathers (fun v o => o = (fit v).toOption) vs o) :
    o = (fitAll fit vs).toOption := by
  induction h with
  | nil => rfl
  | stop hv vs =>
    obtain ⟨e, he⟩ := exists_eq_error_of_toOption hv
    rw [fitAll, he]
    rfl
  | @cons v a vs o hv _ ih =>
    rw [fitAll, eq_ok_of_toOption hv, ih]
    cases fitAll fit vs <;> rfl

theorem Folds.eq_foldlM {f : σ → String × JsonValue → Option σ} {ms : List (String × JsonValue)}
    {s : σ} {o : Option σ} (h : Folds (fun key v s o => o = f s (key, v)) ms s o) :
    o = ms.foldlM f s := by
  induction h with
  | nil s => rfl
  | stop hv ms =>
    rw [List.foldlM_cons, ← hv]
    rfl
  | cons hv _ ih =>
    rw [List.foldlM_cons, ← hv]
    exact ih

/-- What was read before is put in front of what comes up to the end of the array. -/
theorem Comes.pair {r : JsonReader β} {close : JsonReader Unit} {cs : List Char}
    {q : Option Char → Prop} {o : Option β}
    (h : (do let b ← r; close; pure b : JsonReader β).Comes cs q (· = o)) (a : α) :
    (do let b ← r; close; pure (a, b) : JsonReader (α × β)).Comes cs q (· = o.map (a, ·)) := by
  have hmap := h.map (Q := (· = o.map (a, ·))) (a, ·) fun _ ho => congrArg (Option.map (a, ·)) ho
  simpa only [bind_assoc, pure_bind] using hmap

/-- Where an array should end but does not, it is refused. -/
theorem comes_closeArray_refused {bs cs : List Char} (hbs : Blank bs) {c : Char}
    (hblank : isJsonBlank c = false) (hc : c ≠ ']') (f : Unit → JsonReader α)
    (q : Option Char → Prop) : (closeArray >>= f).Comes (bs ++ c :: cs) q (· = none) := by
  rw [closeArray, bind_assoc]
  refine Comes.of_peekToken hbs hblank (Fails.comes (P := (· = none)) (Fails.bind ?_ f) rfl _ _)
  split
  · next heq => exact absurd (Option.some.inj heq) hc
  · refine Fails.after _ fun _ => Fails.after _ fun d? => ?_
    split <;> exact fails_failAhead _
  · exact fails_failAhead _
  · exact fails_failAhead _

end JsonReader

namespace Fields

/-- The slots with those of a member filled, if it is known and fits. -/
def add? (fields : Fields α) (slots : fields.Slots) (m : String × JsonValue) : Option fields.Slots :=
  (fields.ofMember m.1 m.2 slots).bind Except.toOption

theorem ofMember_cons (key : String) (absent? : Option α) (item : Shape α) (rest : Fields β)
    (k : String) (v : JsonValue) (first : Option α) (others : rest.Slots) :
    (Fields.cons key absent? item rest).ofMember k v (Slots.cons first others) =
      if k = key then
        if first.isSome then some (.error (.duplicateField key))
        else some ((item.ofValue v).map fun a => Slots.cons (some a) others)
      else (rest.ofMember k v others).map fun result => result.map (Slots.cons first ·) := by
  rw [ofMember]
  rfl

/-- The record that items make up, if none of them is left over. -/
def fitItems? (fields : Fields α) (name : String) (count index : Nat) (vs : List JsonValue) :
    Option α :=
  match fields.ofItems name count index vs with
  | .ok (a, []) => some a
  | _ => none

theorem fitItems?_cons_cons (key : String) (absent? : Option α) (item : Shape α) (rest : Fields β)
    (name : String) (count index : Nat) (v : JsonValue) (vs : List JsonValue) :
    (Fields.cons key absent? item rest).fitItems? name count index (v :: vs) =
      (item.ofValue v).toOption.bind fun a => (rest.fitItems? name count (index + 1) vs).map (a, ·) := by
  unfold fitItems?
  rw [ofItems]
  rcases item.ofValue v with _ | a
  · rfl
  · rcases rest.ofItems name count (index + 1) vs with _ | ⟨b, _ | ⟨w, ws⟩⟩ <;> rfl

theorem fitItems?_cons_nil (key : String) (absent? : Option α) (item : Shape α) (rest : Fields β)
    (name : String) (count index : Nat) :
    (Fields.cons key absent? item rest).fitItems? name count index [] =
      absent?.bind fun a => (rest.fitItems? name count (index + 1) []).map (a, ·) := by
  unfold fitItems?
  rcases absent? with _ | a
  · rw [ofItems]
    rfl
  · rw [ofItems]
    rcases rest.ofItems name count (index + 1) [] with _ | ⟨b, _ | ⟨w, ws⟩⟩ <;> rfl

end Fields

/-- A fold that hands errors on is a fold that stops at the first error. -/
theorem JsonReader.toOption_foldl {ε : Type} {step : Except ε σ → β → Except ε σ}
    {add? : σ → β → Option σ} (hok : ∀ s b, (step (.ok s) b).toOption = add? s b)
    (herror : ∀ e b, step (.error e) b = .error e) (bs : List β) (x : Except ε σ) :
    (bs.foldl step x).toOption = x.toOption.bind fun s => bs.foldlM add? s := by
  induction bs generalizing x with
  | nil => cases x <;> rfl
  | cons b bs ih =>
    rw [List.foldl_cons, ih]
    cases x with
    | error e =>
      rw [herror]
      rfl
    | ok s =>
      rw [hok]
      rfl

theorem Shape.toOption_ofValue_object (name : String) (fields : Fields α)
    (ms : List (String × JsonValue)) :
    ((Shape.record name true fields).ofValue (.object ms)).toOption =
      (ms.foldlM fields.add? fields.noSlots).bind fun slots => (fields.fill slots).toOption := by
  rw [Shape.ofValue]
  generalize hstep : (fun (slots : Except JsonCause fields.Slots) (m : String × JsonValue) => _) = step
  have hok : ∀ slots m, (step (.ok slots) m).toOption = fields.add? slots m := by
    intro slots m
    rw [← hstep, Fields.add?]
    dsimp only
    cases fields.ofMember m.1 m.2 slots <;> rfl
  have hslots := toOption_foldl hok (fun e m => by rw [← hstep]) ms (.ok fields.noSlots)
  rw [Except.toOption, Option.bind_some] at hslots
  rw [← hslots]
  cases ms.foldl step (.ok fields.noSlots) <;> rfl

/-- A member is known to the reader of texts if it is known to that of values, and comes to the same. -/
def Fields.AgreesOn (fields : Fields α) (levels : Nat) (key : String) (v : JsonValue)
    (slots : fields.Slots) : Prop :=
  (fields.readMember levels key slots = none ∧ fields.ofMember key v slots = none) ∨
    ∃ reader result, fields.readMember levels key slots = some reader ∧
      fields.ofMember key v slots = some result ∧ reader.ComesMember v (· = result.toOption)

/-- A member comes to what it adds to the slots, and is refused if it is not known. -/
theorem Fields.AgreesOn.comesMember {fields : Fields α} {levels : Nat} {key : String} {v : JsonValue}
    {slots : fields.Slots} (h : fields.AgreesOn levels key v slots) :
    (knownMembers.memberOf (fun key slots => fields.readMember levels key slots) true fields.keys
      key slots).ComesMember v (· = fields.add? slots (key, v)) := by
  rw [knownMembers.memberOf, Fields.add?]
  rcases h with ⟨hread, hof⟩ | ⟨reader, result, hread, hof, hcomes⟩
  · rw [hread, hof]
    intro bs bs' cs _ _ _
    refine (fails_failSomewhere _).comes ?_ _ _
    rfl
  · rw [hread, hof]
    exact hcomes

theorem Shape.toOption_ofValue_array (name : String) (closed : Bool) (fields : Fields α)
    (vs : List JsonValue) :
    ((Shape.record name closed fields).ofValue (.array vs)).toOption =
      fields.fitItems? name fields.keys.length 0 vs := by
  rw [Shape.ofValue, Fields.fitItems?]
  rcases fields.ofItems name fields.keys.length 0 vs with _ | ⟨a, _ | ⟨w, ws⟩⟩ <;> rfl

/-! ## Reading texts -/

/-- From the members of an object comes the record that they fill the slots of. -/
theorem Fields.comes_knownMembers {fields : Fields α} {levels : Nat}
    (hmember : ∀ v key slots, fields.AgreesOn levels key v slots) {ms : List (String × JsonValue)}
    {cs : List Char} (hms : JsonValue.SpelledMembers true ms cs) :
    (do
      let known? := fun key slots => fields.readMember levels key slots
      let slots ← knownMembers known? true fields.keys fields.noSlots
      orRefuse (fields.fill slots) : JsonReader α).Comes cs (char '\x7d')
        (· = (ms.foldlM fields.add? fields.noSlots).bind fun slots =>
          (fields.fill slots).toOption) := by
  have hlen := hms.length_le
  rw [← List.append_nil cs]
  refine Comes.bind (P := (· = ms.foldlM fields.add? fields.noSlots))
    (comes_enough fun fuel hfuel => ?_) (fun slots hslots => ?_) (fun hnone => ?_) fun _ hq => hq
  · refine (comes_members ms (fun m _ slots => ?_) hms fuel _ (by omega)).imp fun _ ho =>
      ho.eq_foldlM
    exact (hmember m.2 m.1 slots).comesMember
  · rw [← hslots]
    exact comes_orRefuse _ _
  · rw [← hnone]
    rfl

/-- Behind the last member an array has to end. -/
theorem Fields.comes_readItems_nil (levels : Nat) (name : String) (count index : Nat)
    {vs : List JsonValue} {cs : List Char} (hcs : JsonValue.SpelledItems (index = 0) vs cs)
    (q : Option Char → Prop) :
    (do let a ← Fields.nil.readItems name count levels index; closeArray; pure a :
      JsonReader Unit).Comes (cs ++ [']']) q (· = Fields.nil.fitItems? name count index vs) := by
  rw [Fields.readItems, pure_bind]
  cases hcs with
  | nil hbs =>
    rw [← List.append_nil (_ ++ _)]
    refine (takes_closeArray hbs anything).bind_comes ?_ fun _ _ => trivial
    exact (takes_pure () q).comes (by rw [Fields.fitItems?, Fields.ofItems])
  | @cons _ v vs sep cs ds hsep hv _ =>
    obtain ⟨c, cs', rfl, hblank, hc, -⟩ := hv.exists_cons
    have hnone : Fields.nil.fitItems? name count index (v :: vs) = none := by
      rw [Fields.fitItems?, Fields.ofItems]
    rw [hnone, List.append_assoc]
    generalize decide (index = 0) = first at hsep
    cases hsep with
    | first hbs => exact comes_closeArray_refused hbs hblank hc _ q
    | next hbs _ =>
      rw [List.append_assoc]
      exact comes_closeArray_refused (c := ',') hbs (by decide) (by decide) _ q

namespace Shape

variable {levels : Nat} {v : JsonValue} {bs cs : List Char}

theorem comes_read_optional {item : Shape α}
    (hitem : (item.read levels).Comes cs endsNumber (· = (item.ofValue v).toOption))
    (hbs : Blank bs) (hcs : v.Spelled cs) :
    ((optional item).read levels).Comes (bs ++ cs) endsNumber
      (· = ((optional item).ofValue v).toOption) := by
  rw [read]
  obtain ⟨c, cs', rfl, hblank, hc⟩ := hcs.startsWith
  refine Comes.of_peekToken hbs hblank ?_
  split
  · next heq =>
    obtain rfl := Option.some.inj heq
    obtain rfl := hc.eq_null
    cases hcs
    rw [ofValue]
    exact (((takes_word ['u', 'l', 'l'] _).map fun _ => none).after_advance 'n').comes rfl
  · next hne =>
    have hnull : v ≠ .null := by
      rintro rfl
      exact hne (congrArg some hc)
    rw [ofValue_optional hnull, toOption_map]
    exact hitem.map some fun _ ho => congrArg (Option.map some) ho

theorem comes_read_list {item : Shape α}
    (hitem : ∀ v cs, JsonValue.Spelled v cs →
      (item.read levels).Comes cs endsNumber (· = (item.ofValue v).toOption))
    (hbs : Blank bs) (hcs : v.Spelled cs) :
    ((list item).read (levels + 1)).Comes (bs ++ cs) endsNumber
      (· = ((list item).ofValue v).toOption) := by
  rw [read]
  have hspelled := hcs
  obtain ⟨c, cs', rfl, hblank, hc⟩ := hcs.startsWith
  refine comes_located (Comes.of_token hbs hblank ?_)
  split
  · obtain ⟨vs, rfl⟩ := hc.exists_array
    cases hspelled with
    | array hitems =>
      refine Comes.enclosed (p := char ']') (comes_enough fun fuel hfuel => ?_)
        (takes_closeArray blank_nil _) (fun _ _ => rfl) '['
      have hlen := hitems.length_le
      rw [ofValue]
      exact (comes_items vs (fun v _ cs hcs => hitem v cs hcs) hitems fuel (by omega)).imp
        fun _ ho => ho.eq_fitAll
  · next hne =>
    refine (fails_refuseType _).comes ?_ _ _
    rw [ofValue]
    · rfl
    · rintro vs rfl
      exact hne hc

/-- A record may be spelled as an object or as an array; anything else is refused. -/
theorem comes_read_record {name : String} {fields : Fields α}
    (hmember : ∀ v key slots, fields.AgreesOn levels key v slots)
    (hitems : ∀ vs cs, JsonValue.SpelledItems true vs cs → ∀ q,
      (do let a ← fields.readItems name fields.keys.length levels 0; closeArray; pure a :
        JsonReader α).Comes (cs ++ [']']) q (· = fields.fitItems? name fields.keys.length 0 vs))
    (hbs : Blank bs) (hcs : v.Spelled cs) :
    ((record name true fields).read (levels + 1)).Comes (bs ++ cs) endsNumber
      (· = ((record name true fields).ofValue v).toOption) := by
  rw [read]
  have hspelled := hcs
  obtain ⟨c, cs', rfl, hblank, hc⟩ := hcs.startsWith
  refine comes_located (Comes.of_token hbs hblank ?_)
  split
  · obtain ⟨vs, rfl⟩ := hc.exists_array
    cases hspelled with
    | array hvs =>
      rw [toOption_ofValue_array]
      exact comes_enclosed (hitems vs _ hvs _) '['
  · obtain ⟨ms, rfl⟩ := hc.exists_object
    cases hspelled with
    | object hms =>
      rw [toOption_ofValue_object]
      exact Comes.enclosed (p := char '\x7d') (Fields.comes_knownMembers hmember hms)
        (takes_closeObject blank_nil _) (fun _ _ => rfl) '\x7b'
  · next hsquare hcurly =>
    refine (fails_refuseType _).comes ?_ _ _
    rw [ofValue]
    · rfl
    · rintro vs rfl
      exact hsquare hc
    · rintro ms rfl
      exact hcurly hc

end Shape

mutual

/-- From every spelling of a value comes what comes of the value. -/
theorem Shape.comes_read : {α : Type} → (shape : Shape α) → (levels : Nat) → shape.Within levels →
    ∀ {v : JsonValue} {bs cs : List Char}, Blank bs → v.Spelled cs →
      (shape.read levels).Comes (bs ++ cs) endsNumber (· = (shape.ofValue v).toOption)
  | _, .text expected, levels, _, v, bs, cs, hbs, hcs => by
    rw [Shape.read]
    exact comes_textOf expected hbs hcs
  | _, .natural bits, levels, h, v, bs, cs, hbs, hcs => by
    rw [Shape.Within] at h
    rw [Shape.read]
    exact comes_naturalBelow h hbs hcs
  | _, .boolean, levels, _, v, bs, cs, hbs, hcs => by
    rw [Shape.read]
    exact comes_truth hbs hcs
  | _, .optional item, levels, h, v, bs, cs, hbs, hcs => by
    rw [Shape.Within] at h
    exact Shape.comes_read_optional (item.comes_read levels h blank_nil hcs) hbs hcs
  | _, .list item, levels, h, v, bs, cs, hbs, hcs => by
    rw [Shape.Within] at h
    obtain ⟨fewer, rfl, hitem⟩ := h
    exact Shape.comes_read_list (fun _ _ hcs => item.comes_read fewer hitem blank_nil hcs) hbs hcs
  | _, .choice _ _, _, h, _, _, _, _, _ => by
    rw [Shape.Within] at h
    exact h.elim
  | _, .record name closed fields, levels, h, v, bs, cs, hbs, hcs => by
    rw [Shape.Within] at h
    obtain ⟨rfl, fewer, rfl, hfields⟩ := h
    exact Shape.comes_read_record (fun v key slots => fields.agreesOn fewer hfields v key slots)
      (fun _ _ hcs q => fields.comes_readItems fewer hfields name _ 0 hcs q) hbs hcs
  | _, .mapped shape wrap _, levels, h, v, bs, cs, hbs, hcs => by
    rw [Shape.Within] at h
    rw [Shape.read, Shape.ofValue, toOption_map]
    exact (shape.comes_read levels h hbs hcs).map wrap fun _ ho => congrArg (Option.map wrap) ho

theorem Fields.agreesOn : {α : Type} → (fields : Fields α) → (levels : Nat) →
    fields.Within levels → ∀ (v : JsonValue) (key : String) (slots : fields.Slots),
      fields.AgreesOn levels key v slots
  | _, .nil, _, _, _, _, _ => Or.inl ⟨by rw [Fields.readMember], by rw [Fields.ofMember]⟩
  | _, .cons key absent? item rest, levels, h, v, k, slots => by
    rw [Fields.Within] at h
    obtain ⟨first, others, rfl⟩ : ∃ first others, slots = Fields.Slots.cons first others :=
      ⟨slots.first, slots.others, rfl⟩
    rw [Fields.AgreesOn, Fields.readMember_cons, Fields.ofMember_cons]
    by_cases hk : k = key
    · rw [if_pos hk, if_pos hk]
      by_cases hfirst : first.isSome
      · rw [if_pos hfirst, if_pos hfirst]
        refine Or.inr ⟨_, _, rfl, rfl, fun _ _ _ => (fails_failSomewhere _).comes ?_ _ _⟩
        rfl
      · rw [if_neg hfirst, if_neg hfirst]
        refine Or.inr ⟨_, _, rfl, rfl, fun hbs hbs' hcs => ?_⟩
        rw [toOption_map, ← List.singleton_append, ← List.append_assoc]
        refine (takes_colon hbs anything).bind_comes ?_ fun _ _ => trivial
        exact (item.comes_read levels h.1 hbs' hcs).map _ fun _ ho => congrArg (Option.map _) ho
    · rw [if_neg hk, if_neg hk]
      rcases rest.agreesOn levels h.2 v k others with
        ⟨hread, hof⟩ | ⟨reader, result, hread, hof, hcomes⟩
      · exact Or.inl ⟨by rw [hread]; rfl, by rw [hof]; rfl⟩
      · rw [hread, hof]
        refine Or.inr ⟨_, _, rfl, rfl, fun hbs hbs' hcs => ?_⟩
        rw [toOption_map]
        exact (hcomes hbs hbs' hcs).map _ fun _ ho => congrArg (Option.map _) ho

theorem Fields.comes_readItems : {α : Type} → (fields : Fields α) → (levels : Nat) →
    fields.Within levels → ∀ (name : String) (count index : Nat) {vs : List JsonValue} {cs : List Char},
      JsonValue.SpelledItems (index = 0) vs cs → ∀ q : Option Char → Prop,
          (do let a ← fields.readItems name count levels index; closeArray; pure a :
            JsonReader α).Comes (cs ++ [']']) q (· = fields.fitItems? name count index vs)
  | _, .nil, levels, _, name, count, index, vs, cs, hcs, q =>
    Fields.comes_readItems_nil levels name count index hcs q
  | _, .cons key absent? item rest, levels, h, name, count, index, vs, cs, hcs, q => by
    rw [Fields.Within] at h
    rw [Fields.readItems_cons, bind_assoc]
    cases hcs with
    | nil hbs =>
      rw [Fields.fitItems?_cons_nil]
      refine (takes_hasItem_false hbs _).bind_comes ?_ fun _ _ => rfl
      rw [if_neg (by simp)]
      cases absent? with
      | none =>
        refine Fails.comes (Fails.bind (fails_failSomewhere _) _) ?_ _ _
        rfl
      | some a =>
        have hrest := rest.comes_readItems levels h.2 name count (index + 1) (.nil blank_nil) q
        rw [Option.bind_some]
        simp only [bind_assoc, pure_bind]
        exact hrest.pair a
    | @cons _ v vs sep cs ds hsep hcs hds =>
      have hitem := item.comes_read levels h.1 blank_nil hcs
      obtain ⟨c, cs', rfl, hblank, hc, -⟩ := hcs.exists_cons
      rw [Fields.fitItems?_cons_cons, List.append_assoc]
      refine (takes_hasItem_true hsep hblank hc).bind_comes ?_ fun _ _ => rfl
      rw [if_pos rfl, List.append_assoc]
      simp only [bind_assoc, pure_bind]
      refine hitem.bind (fun a ha => ?_) (fun hnone => ?_) fun rest _ => ?_
      · have hfirst : false = decide (index + 1 = 0) := by simp
        have hrest := rest.comes_readItems levels h.2 name count (index + 1) (hfirst ▸ hds) q
        rw [← ha, Option.bind_some]
        exact hrest.pair a
      · rw [← hnone]
        rfl
      · rw [List.append_assoc]
        exact hds.endsNumber rfl

end

/-- What a text says about a shape is what the value says that it is written for. -/
theorem Shape.readText_eq_ok_iff (shape : Shape α) (h : shape.Within nestingLimit) {v : JsonValue}
    {text : String} (htext : v.Written text) (a : α) :
    shape.readText text = .ok a ↔ shape.ofValue v = .ok a := by
  obtain ⟨hbs, hcs, hbs'⟩ := htext
  have hread := (shape.comes_read nestingLimit h hbs hcs).readAll hbs'
  constructor
  · intro hok
    rw [Shape.readText] at hok
    rw [hok] at hread
    exact eq_ok_of_toOption hread
  · intro hok
    rw [hok] at hread
    exact eq_ok_of_toOption hread.symm

end ScriptCensus
