import ScriptCensus.Proofs.JsonOutcomes

/-!
# Values as they are read

Every spelling of a value is read as that value, but for numbers that are not kept exactly: floats and
integers out of range are read as some float, or refused. The members of an object are put in order
(`JsonReader.comes_value`). A spelling without such numbers and without too many brackets open at once
(`JsonValue.Plain`) is never refused. `JsonValue.Written.readAs` says so of whole texts.

Items and members are followed once for all readers of their values. `JsonReader.Gathers` is what a
list of items comes to if it is known what each of them comes to, and `JsonReader.Folds` is what
members come to that change a state one by one.
-/

namespace ScriptCensus

open JsonReader

/-! ## Numbers -/

namespace JsonNumber

/-- Numbers that are kept exactly when they are read. -/
def Exact : JsonNumber → Prop
  | natural n => n ≤ maxNatural
  | negative n => 0 < n ∧ n ≤ Nat.pow 2 63
  | float _ => False

/-- Numbers that are the same, or both not kept exactly. -/
def Alike (m n : JsonNumber) : Prop :=
  m = n ∨ ¬m.Exact ∧ ¬n.Exact

/-- What the reading of a number comes to. Those that are kept exactly are not refused. -/
def ReadAs (n : JsonNumber) (o : Option JsonNumber) : Prop :=
  (∀ m ∈ o, n.Alike m) ∧ (o = none → ¬n.Exact)

theorem readAs_self (n : JsonNumber) : n.ReadAs (some n) :=
  ⟨by rintro _ ⟨⟩; exact Or.inl rfl, by simp⟩

theorem readAs_of_onlyFloat {n : JsonNumber} (hn : ¬n.Exact) {o : Option JsonNumber}
    (h : OnlyFloat o) : n.ReadAs o := by
  refine ⟨fun m hm => ?_, fun _ => hn⟩
  obtain ⟨f, rfl⟩ := h m hm
  exact Or.inr ⟨hn, id⟩

/-- An integer is read from its digits: exactly if it is in range, else as a float. -/
theorem comes_natChars_natural (n : Nat) :
    (number true).Comes (natChars n) endsNumber (natural n).ReadAs := by
  by_cases hn : n ≤ maxNatural
  · exact (takes_number hn).comes (readAs_self _)
  · exact (comes_number_large true (by omega)).imp fun _ => readAs_of_onlyFloat (n := natural n) hn

theorem comes_natChars_negative (n : Nat) :
    (number false).Comes (natChars n) endsNumber (negative n).ReadAs := by
  by_cases hn : (negative n).Exact
  · exact (takes_number_negative hn.1 hn.2).comes (readAs_self _)
  · refine Comes.imp (P := OnlyFloat) ?_ fun _ ho => readAs_of_onlyFloat hn ho
    by_cases hlarge : n ≤ maxNatural
    · have hrange : ¬(0 < n && n ≤ Nat.pow 2 63) = true := by
        rw [Bool.and_eq_true, decide_eq_true_eq, decide_eq_true_eq]
        exact hn
      have hfloat : integerNumber false ⟨n, 0⟩ = pure (.float (-n.toUInt64.toFloat)) := by
        simp only [integerNumber]
        rw [if_neg (by simp), if_neg (by simp), if_neg hrange]
      exact (takes_integer hlarge hfloat).comes (by rintro _ ⟨⟩; exact ⟨_, rfl⟩)
    · exact comes_number_large false (by omega)

/-- A number is read from behind its sign on, or from its first digit on. -/
theorem comes_chars (n : JsonNumber) :
    (∃ cs, n.chars = '-' :: cs ∧ (number false).Comes cs endsNumber n.ReadAs) ∨
      ∃ c cs, n.chars = c :: cs ∧ c.isDigit = true ∧
        (number true).Comes (c :: cs) endsNumber n.ReadAs := by
  cases n with
  | natural n =>
    obtain ⟨c, cs, hchars, hc⟩ := JsonValue.exists_natChars n
    exact Or.inr ⟨c, cs, hchars, hc, hchars ▸ comes_natChars_natural n⟩
  | negative n => exact Or.inl ⟨natChars n, rfl, comes_natChars_negative n⟩
  | float f =>
    obtain ⟨ds, cs, hsize, hne, hds, hcs⟩ : ∃ ds cs, (if (binaryValueOf f).mantissa = 0 then
        ['0', '.', '0'] else NumberFormat.json.write (shortestDecimal (binaryValueOf f))) = ds ++ cs ∧
        ds ≠ [] ∧ (∀ c ∈ ds, c.isDigit = true) ∧ FloatText cs := by
      split
      · exact ⟨['0'], ['.', '0'], rfl, by simp, List.forall_mem_singleton.2 rfl, floatText_pointZero⟩
      · exact exists_write_eq _ _
    have hread : ∀ positive, (number positive).Comes (ds ++ cs) endsNumber (float f).ReadAs :=
      fun positive => (comes_number_float positive hne hds hcs).imp fun _ ho =>
        readAs_of_onlyFloat id ho
    rw [chars, floatChars, hsize]
    split
    · exact Or.inl ⟨ds ++ cs, rfl, hread false⟩
    · obtain ⟨d, ds, rfl⟩ := List.exists_cons_of_ne_nil hne
      exact Or.inr ⟨d, ds ++ cs, rfl, hds d List.mem_cons_self, hread true⟩

end JsonNumber

/-! ## Values -/

namespace JsonValue

/-- Values whose objects have each key only once. -/
inductive Distinct : JsonValue → Prop
  | null : Distinct null
  | bool (b : Bool) : Distinct (bool b)
  | number (n : JsonNumber) : Distinct (number n)
  | string (s : String) : Distinct (string s)
  | array {items : List JsonValue} (h : ∀ v ∈ items, Distinct v) : Distinct (array items)
  | object {members : List (String × JsonValue)} (hkeys : (members.map (·.1)).Nodup)
      (h : ∀ m ∈ members, Distinct m.2) : Distinct (object members)

/-- Values of which all numbers are kept exactly, with at most the given number of brackets open at
once. -/
inductive Plain : Nat → JsonValue → Prop
  | null (levels : Nat) : Plain levels null
  | bool (levels : Nat) (b : Bool) : Plain levels (bool b)
  | number (levels : Nat) {n : JsonNumber} (h : n.Exact) : Plain levels (number n)
  | string (levels : Nat) (s : String) : Plain levels (string s)
  | array {levels : Nat} {items : List JsonValue} (h : ∀ v ∈ items, Plain levels v) :
      Plain (levels + 1) (array items)
  | object {levels : Nat} {members : List (String × JsonValue)} (h : ∀ m ∈ members, Plain levels m.2) :
      Plain (levels + 1) (object members)

mutual

/-- Values that are the same but for numbers that are not kept exactly and for the order of members. -/
inductive Like : JsonValue → JsonValue → Prop
  | null : Like null null
  | bool (b : Bool) : Like (bool b) (bool b)
  | number {m n : JsonNumber} (h : m.Alike n) : Like (number m) (number n)
  | string (s : String) : Like (string s) (string s)
  | array {vs ws : List JsonValue} (h : LikeItems vs ws) : Like (array vs) (array ws)
  | object {ms ns ns' : List (String × JsonValue)} (hkeys : (ms.map (·.1)).Nodup)
      (h : LikeMembers ms ns) (hperm : ns.Perm ns') : Like (object ms) (object ns')

/-- Items that are the same in this way, one by one. -/
inductive LikeItems : List JsonValue → List JsonValue → Prop
  | nil : LikeItems [] []
  | cons {v w : JsonValue} {vs ws : List JsonValue} (hv : Like v w) (hvs : LikeItems vs ws) :
      LikeItems (v :: vs) (w :: ws)

/-- Members that are the same in this way, one by one. -/
inductive LikeMembers : List (String × JsonValue) → List (String × JsonValue) → Prop
  | nil : LikeMembers [] []
  | cons (key : String) {v w : JsonValue} {ms ns : List (String × JsonValue)} (hv : Like v w)
      (hms : LikeMembers ms ns) : LikeMembers ((key, v) :: ms) ((key, w) :: ns)

end

/-- Strings are read as they are. -/
theorem LikeItems.eq_strings {ss : List String} {ws : List JsonValue}
    (h : LikeItems (ss.map string) ws) : ws = ss.map string := by
  induction ss generalizing ws with
  | nil => cases h; rfl
  | cons s ss ih =>
    cases h with
    | cons hv hvs =>
      cases hv
      rw [ih hvs, List.map_cons]

/-- What the reading of a value comes to, with at most the given number of brackets open at once. -/
def ReadAs (v : JsonValue) (levels : Nat) (o : Option JsonValue) : Prop :=
  (∀ w ∈ o, v.Like w) ∧ (v.Plain levels → o.isSome = true)

theorem readAs_some {v w : JsonValue} (h : v.Like w) (levels : Nat) : v.ReadAs levels (some w) :=
  ⟨by rintro _ ⟨⟩; exact h, fun _ => rfl⟩

/-- A member with a new key is put among the others. -/
theorem insertMember_perm (key : String) (v : JsonValue) :
    ∀ ms : List (String × JsonValue), (∀ m ∈ ms, m.1 ≠ key) →
      (insertMember key v ms).Perm ((key, v) :: ms)
  | [], _ => .refl _
  | (k, w) :: ms, h => by
    obtain ⟨hk, hms⟩ := List.forall_mem_cons.1 h
    rw [insertMember]
    split
    · exact .refl _
    · rw [if_neg hk.symm]
      exact ((insertMember_perm key v ms hms).cons _).trans (.swap _ _ _)

end JsonValue

/-! ## Items and members -/

namespace JsonReader

open JsonValue

variable {α σ : Type}

/-- What items come to one after another, if it is known what each of them comes to. -/
inductive Gathers (Q : JsonValue → Option α → Prop) : List JsonValue → Option (List α) → Prop
  | nil : Gathers Q [] (some [])
  | stop {v : JsonValue} (h : Q v none) (vs : List JsonValue) : Gathers Q (v :: vs) none
  | cons {v : JsonValue} {a : α} {vs : List JsonValue} {o : Option (List α)} (h : Q v (some a))
      (hvs : Gathers Q vs o) : Gathers Q (v :: vs) (o.map (a :: ·))

/-- What members come to that change a state one after another. -/
inductive Folds (Q : String → JsonValue → σ → Option σ → Prop) :
    List (String × JsonValue) → σ → Option σ → Prop
  | nil (s : σ) : Folds Q [] s (some s)
  | stop {key : String} {v : JsonValue} {s : σ} (h : Q key v s none) (ms : List (String × JsonValue)) :
      Folds Q ((key, v) :: ms) s none
  | cons {key : String} {v : JsonValue} {ms : List (String × JsonValue)} {s t : σ} {o : Option σ}
      (h : Q key v s (some t)) (hms : Folds Q ms t o) : Folds Q ((key, v) :: ms) s o

theorem comes_items {item : JsonReader α} {Q : JsonValue → Option α → Prop} :
    ∀ (vs : List JsonValue),
      (∀ v ∈ vs, ∀ cs, v.Spelled cs → item.Comes cs endsNumber (Q v)) →
      ∀ {first : Bool} {cs : List Char}, SpelledItems first vs cs →
        ∀ fuel, vs.length < fuel → (items item fuel first).Comes cs (char ']') (Gathers Q vs)
  | [], _, first, cs, h, fuel + 1, _ => by
    cases h with
    | nil hbs =>
      rw [← List.append_nil cs]
      exact (takes_hasItem_false hbs first).bind_comes ((takes_pure [] _).comes .nil) fun _ hq => hq
  | v :: vs, hitem, first, _, h, fuel + 1, hlt => by
    obtain ⟨hv, hvs⟩ := List.forall_mem_cons.1 hitem
    cases h with
    | cons hsep hcs hds =>
      have hitem := hv _ hcs
      obtain ⟨c, cs, rfl, hblank, hc, -⟩ := hcs.exists_cons
      refine (takes_hasItem_true hsep hblank hc).bind_comes ?_ fun _ _ => rfl
      refine hitem.bind (fun a ha => ?_) (fun hnone => .stop hnone vs) fun _ hrest =>
        hds.endsNumber hrest
      have hmore := comes_items vs hvs hds fuel (by simpa using hlt)
      exact hmore.map (a :: ·) fun _ ho => .cons ha ho

/-- What the value of a member comes to, from every spelling and with the colon before it. -/
def ComesMember (r : JsonReader σ) (v : JsonValue) (P : Option σ → Prop) : Prop :=
  ∀ {bs bs' cs : List Char}, Blank bs → Blank bs' → v.Spelled cs →
    r.Comes (bs ++ ':' :: (bs' ++ cs)) endsNumber P

theorem comes_members {memberOf : String → σ → JsonReader σ}
    {Q : String → JsonValue → σ → Option σ → Prop} :
    ∀ (ms : List (String × JsonValue)),
      (∀ m ∈ ms, ∀ s, (memberOf m.1 s).ComesMember m.2 (Q m.1 m.2 s)) →
      ∀ {first : Bool} {cs : List Char}, SpelledMembers first ms cs →
        ∀ fuel s, ms.length < fuel →
          (members memberOf fuel first s).Comes cs (char '\x7d') (Folds Q ms s)
  | [], _, first, cs, h, fuel + 1, s, _ => by
    cases h with
    | nil hbs =>
      rw [← List.append_nil cs]
      exact (takes_hasMember_false hbs first).bind_comes ((takes_pure s _).comes (.nil s))
        fun _ hq => hq
  | (key, v) :: ms, hmember, first, _, h, fuel + 1, s, hlt => by
    obtain ⟨hv, hms⟩ := List.forall_mem_cons.1 hmember
    cases h with
    | cons hsep hkey hbs hbs' hcs hds =>
      refine (takes_hasMember_true hsep).bind_comes ?_ fun rest _ => hkey.head? _ rest
      refine (takes_key hkey anything).bind_comes ?_ fun _ _ => trivial
      refine (hv s hbs hbs' hcs).bind (fun t ht => ?_) (fun hnone => .stop hnone ms) fun _ hrest =>
        hds.endsNumber hrest
      exact (comes_members ms hms hds fuel t (by simpa using hlt)).imp fun _ ho => .cons ht ho

theorem Comes.enclosed {body : JsonReader α} {close : JsonReader Unit} {cs ds : List Char}
    {p q : Option Char → Prop} {P : Option α → Prop} (hbody : body.Comes cs p P)
    (hclose : close.Takes ds () q) (hp : ∀ rest, q rest.head? → p (ds ++ rest).head?) (c : Char) :
    (enclosed body close).Comes (c :: (cs ++ ds)) q P := by
  refine comes_enclosed (hbody.bind (fun a ha => ?_) id hp) c
  rw [← List.append_nil ds]
  exact hclose.bind_comes ((takes_pure a q).comes ha) fun _ hq => hq

/-! ## Reading values -/

/-- The items of an array are read one by one. -/
theorem Gathers.readAs {levels : Nat} {vs : List JsonValue} {o : Option (List JsonValue)}
    (h : Gathers (fun v => v.ReadAs levels) vs o) :
    (JsonValue.array vs).ReadAs (levels + 1) (o.map .array) := by
  have hall : (∀ ws ∈ o, LikeItems vs ws) ∧ ((∀ v ∈ vs, v.Plain levels) → o.isSome = true) := by
    induction h with
    | nil => exact ⟨by rintro _ ⟨⟩; exact .nil, fun _ => rfl⟩
    | stop hv vs => exact ⟨by simp, fun hplain => hv.2 (hplain _ List.mem_cons_self)⟩
    | cons hv _ ih =>
      refine ⟨fun ws hws => ?_, fun hplain => ?_⟩
      · obtain ⟨ws', hws', rfl⟩ := Option.map_eq_some_iff.1 hws
        exact .cons (hv.1 _ rfl) (ih.1 ws' hws')
      · rw [Option.isSome_map]
        exact ih.2 fun v hv => hplain v (List.mem_cons_of_mem _ hv)
  refine ⟨fun w hw => ?_, fun hplain => ?_⟩
  · obtain ⟨ws, hws, rfl⟩ := Option.map_eq_some_iff.1 hw
    exact .array (hall.1 ws hws)
  · cases hplain with
    | array hplain =>
      rw [Option.isSome_map]
      exact hall.2 hplain

/-- What the reading of a member adds to those before it. -/
def AddsMember (levels : Nat) (key : String) (v : JsonValue) (ms : List (String × JsonValue))
    (o : Option (List (String × JsonValue))) : Prop :=
  ∃ w?, v.ReadAs levels w? ∧ o = w?.map fun w => insertMember key w ms

/-- Members are read one by one, each of them put among those before it. -/
theorem Folds.likeMembers {levels : Nat} {ms s : List (String × JsonValue)}
    {o : Option (List (String × JsonValue))} (h : Folds (AddsMember levels) ms s o)
    (hkeys : (ms.map (·.1)).Nodup) (hs : ∀ m ∈ ms, ∀ m' ∈ s, m'.1 ≠ m.1) :
    (∀ t ∈ o, ∃ ns, LikeMembers ms ns ∧ (s ++ ns).Perm t) ∧
      ((∀ m ∈ ms, m.2.Plain levels) → o.isSome = true) := by
  induction h with
  | nil s => exact ⟨by rintro _ ⟨⟩; exact ⟨[], .nil, by simp⟩, fun _ => rfl⟩
  | stop hv ms =>
    obtain ⟨w?, hw, hnone⟩ := hv
    obtain rfl : w? = none := Option.map_eq_none_iff.1 hnone.symm
    exact ⟨by simp, fun hplain => hw.2 (hplain _ List.mem_cons_self)⟩
  | @cons key v ms s t o hv _ ih =>
    obtain ⟨w?, hw, hsome⟩ := hv
    obtain ⟨w, rfl, rfl⟩ := Option.map_eq_some_iff.1 hsome.symm
    obtain ⟨hkey, hkeys⟩ := List.nodup_cons.1 hkeys
    obtain ⟨hfirst, hrest⟩ := List.forall_mem_cons.1 hs
    have hinsert := insertMember_perm key w s hfirst
    have hs' : ∀ m ∈ ms, ∀ m' ∈ insertMember key w s, m'.1 ≠ m.1 := by
      intro m hm m' hm'
      rcases List.mem_cons.1 (hinsert.mem_iff.1 hm') with rfl | hm'
      · exact fun heq => hkey (List.mem_map.2 ⟨m, hm, heq.symm⟩)
      · exact hrest m hm m' hm'
    obtain ⟨hlike, hplain⟩ := ih hkeys hs'
    refine ⟨fun t ht => ?_, fun hall => hplain fun m hm => hall m (List.mem_cons_of_mem _ hm)⟩
    obtain ⟨ns, hns, hperm⟩ := hlike t ht
    refine ⟨(key, w) :: ns, .cons key (hw.1 w rfl) hns, ?_⟩
    calc s ++ (key, w) :: ns
      List.Perm _ ((key, w) :: s ++ ns) := List.perm_middle
      List.Perm _ (insertMember key w s ++ ns) := hinsert.symm.append_right ns
      List.Perm _ t := hperm

theorem Folds.readAs {levels : Nat} {ms : List (String × JsonValue)}
    (hkeys : (ms.map (·.1)).Nodup) {o : Option (List (String × JsonValue))}
    (h : Folds (AddsMember levels) ms [] o) :
    (JsonValue.object ms).ReadAs (levels + 1) (o.map .object) := by
  obtain ⟨hlike, hplain⟩ := h.likeMembers hkeys (by simp)
  refine ⟨fun w hw => ?_, fun hobject => ?_⟩
  · obtain ⟨t, ht, rfl⟩ := Option.map_eq_some_iff.1 hw
    obtain ⟨ns, hns, hperm⟩ := hlike t ht
    exact .object hkeys hns hperm
  · cases hobject with
    | object hmembers =>
      rw [Option.isSome_map]
      exact hplain hmembers

/-- What is no bracket is read from its first character on. -/
theorem comes_valueOver_char (inner? : Option (JsonReader JsonValue)) {bs cs : List Char}
    (hbs : Blank bs) {c : Char} (hblank : isJsonBlank c = false) (hsquare : c ≠ '[')
    (hcurly : c ≠ '\x7b') {P : Option JsonValue → Prop}
    (h : (scalar c).Comes (c :: cs) endsNumber P) :
    (valueOver inner?).Comes (bs ++ c :: cs) endsNumber P := by
  refine Comes.of_peekToken hbs hblank ?_
  split
  · next heq => simp at heq
  · next heq => exact absurd (Option.some.inj heq) hsquare
  · next heq => exact absurd (Option.some.inj heq) hcurly
  · next heq =>
    obtain rfl := Option.some.inj heq
    exact h

theorem comes_valueOver_number (n : JsonNumber) (levels : Nat)
    (inner? : Option (JsonReader JsonValue)) {bs : List Char} (hbs : Blank bs) :
    (valueOver inner?).Comes (bs ++ n.chars) endsNumber ((JsonValue.number n).ReadAs levels) := by
  have hread : ∀ o, n.ReadAs o → (JsonValue.number n).ReadAs levels (o.map .number) := by
    intro o ho
    refine ⟨fun w hw => ?_, fun hplain => ?_⟩
    · obtain ⟨m, hm, rfl⟩ := Option.map_eq_some_iff.1 hw
      exact .number (ho.1 m hm)
    · cases hplain with
      | number _ hexact =>
        rw [Option.isSome_map, Option.isSome_iff_ne_none]
        exact fun hnone => ho.2 hnone hexact
  rcases n.comes_chars with ⟨cs, hchars, hcs⟩ | ⟨c, cs, hchars, hc, hcs⟩
  · rw [hchars]
    refine comes_valueOver_char inner? hbs (by decide) (by decide) (by decide) ?_
    exact (hcs.map JsonValue.number hread).after_advance '-'
  · rw [hchars]
    have hne : ∀ d : Char, d.isDigit = false → c ≠ d := by
      rintro d hd rfl
      simp [hc] at hd
    refine comes_valueOver_char inner? hbs (isJsonBlank_of_isDigit hc) (hne _ (by decide))
      (hne _ (by decide)) ?_
    unfold scalar
    split
    iterate 5 exact absurd rfl (hne _ (by decide))
    rw [if_pos hc]
    exact hcs.map JsonValue.number hread

/-- What has no parts is read, whether or not brackets may be opened. -/
theorem comes_valueOver_scalar (inner? : Option (JsonReader JsonValue)) (levels : Nat)
    {v : JsonValue} {bs cs : List Char} (hbs : Blank bs) (hcs : v.Spelled cs)
    (harray : ∀ items, v ≠ .array items) (hobject : ∀ members, v ≠ .object members) :
    (valueOver inner?).Comes (bs ++ cs) endsNumber (v.ReadAs levels) := by
  cases hcs with
  | null =>
    refine Takes.comes (Takes.of_peekToken hbs (by decide) ?_) (readAs_some .null levels)
    exact ((takes_word ['u', 'l', 'l'] _).map fun _ => JsonValue.null).after_advance 'n'
  | bool_true =>
    refine Takes.comes (Takes.of_peekToken hbs (by decide) ?_) (readAs_some (.bool true) levels)
    exact ((takes_word ['r', 'u', 'e'] _).map fun _ => JsonValue.bool true).after_advance 't'
  | bool_false =>
    refine Takes.comes (Takes.of_peekToken hbs (by decide) ?_) (readAs_some (.bool false) levels)
    exact ((takes_word ['a', 'l', 's', 'e'] _).map fun _ => JsonValue.bool false).after_advance 'f'
  | number n => exact comes_valueOver_number n levels inner? hbs
  | @string s _ h =>
    obtain ⟨ds, hds, rfl⟩ := h
    refine Takes.comes (Takes.of_peekToken hbs (by decide) ?_) (readAs_some (.string s) levels)
    exact ((takes_string hds _).map JsonValue.string).after_advance '"'
  | @array items _ _ => exact absurd rfl (harray items)
  | @object members _ _ => exact absurd rfl (hobject members)

/-- A value is read from every spelling, but for numbers that are not kept exactly and for too many
brackets. -/
theorem comes_value (levels : Nat) {v : JsonValue} (hv : v.Distinct) {bs cs : List Char}
    (hbs : Blank bs) (hcs : v.Spelled cs) :
    (value levels).Comes (bs ++ cs) endsNumber (v.ReadAs levels) := by
  have hspelled := hcs
  induction levels generalizing v bs cs with
  | zero =>
    cases hcs with
    | array _ =>
      refine Comes.of_peekToken hbs (by decide) ((fails_failAhead _).comes ⟨by simp, ?_⟩ _ _)
      rintro ⟨⟩
    | object _ =>
      refine Comes.of_peekToken hbs (by decide) ((fails_failAhead _).comes ⟨by simp, ?_⟩ _ _)
      rintro ⟨⟩
    | _ => exact comes_valueOver_scalar none 0 hbs hspelled (by simp) (by simp)
  | succ levels ih =>
    cases hcs with
    | @array items cs hitems =>
      cases hv with
      | array hdistinct =>
        refine Comes.of_peekToken hbs (by decide) ?_
        refine Comes.enclosed (p := char ']') (comes_enough fun fuel hfuel => ?_)
          (takes_closeArray blank_nil _) (fun _ _ => rfl) '['
        have hlen := hitems.length_le
        refine Comes.map (comes_items items (fun v hv cs hcs => ?_) hitems fuel (by omega))
          JsonValue.array fun o ho => ho.readAs
        exact ih (hdistinct v hv) blank_nil hcs hcs
    | @object members cs hmembers =>
      cases hv with
      | object hkeys hdistinct =>
        refine Comes.of_peekToken hbs (by decide) ?_
        refine Comes.enclosed (p := char '\x7d') (comes_enough fun fuel hfuel => ?_)
          (takes_closeObject blank_nil _) (fun _ _ => rfl) '\x7b'
        have hlen := hmembers.length_le
        refine Comes.map (comes_members members (fun m hm s => ?_) hmembers fuel [] (by omega))
          JsonValue.object fun o ho => ho.readAs hkeys
        intro bs bs' cs hbs hbs' hcs
        rw [← List.singleton_append, ← List.append_assoc]
        refine (takes_colon hbs anything).bind_comes ?_ fun _ _ => trivial
        exact (ih (hdistinct m hm) hbs' hcs hcs).map _ fun o ho => ⟨o, ho, rfl⟩
    | _ => exact comes_valueOver_scalar _ _ hbs hspelled (by simp) (by simp)

/-! ## Whole texts -/

theorem eq_ok_of_toOption {ε : Type} {x : Except ε α} {a : α} (h : some a = x.toOption) :
    x = .ok a := by
  cases x with
  | ok b => exact congrArg Except.ok (Option.some.inj h).symm
  | error e => simp [Except.toOption] at h

/-- What a text comes to is what its reader comes to, with any blanks behind it. -/
theorem Comes.readAll {r : JsonReader α} {cs bs : List Char} {P : Option α → Prop}
    (h : r.Comes cs endsNumber P) (hbs : Blank bs) :
    P (readAll r (String.ofList (cs ++ bs))).toOption := by
  have hend : ∀ a, P (some a) → (do finish; pure a : JsonReader α).Comes bs (· = none) P := by
    intro a ha
    rw [← List.append_nil bs]
    exact (takes_finish hbs).bind_comes ((takes_pure a _).comes ha) fun _ hq => hq
  have hall := h.bind hend id fun rest hrest =>
    endsNumber_blank hbs (by rw [hrest]; simp [endsNumber])
  rw [JsonReader.readAll, JsonInput.ofString, String.toList_ofList]
  rcases hall [] 1 0 rfl with ⟨a, line, column, hrun, ha⟩ | ⟨fault, i, hrun, hnone⟩
  · rw [List.append_nil] at hrun
    rw [hrun]
    exact ha
  · rw [List.append_nil] at hrun
    rw [hrun]
    exact hnone

end JsonReader

namespace JsonValue

/-- Texts that spell a value, with any blanks around it. -/
inductive Written (v : JsonValue) : String → Prop
  | spelled {bs cs bs' : List Char} (hbs : Blank bs) (hcs : v.Spelled cs) (hbs' : Blank bs') :
      Written v (String.ofList (bs ++ cs ++ bs'))

theorem Spelled.written {v : JsonValue} {cs : List Char} (h : v.Spelled cs) :
    v.Written (String.ofList cs) := by
  have hwritten := Written.spelled blank_nil h blank_nil
  rwa [List.nil_append, List.append_nil] at hwritten

theorem written_compact (v : JsonValue) : v.Written v.compact :=
  (spelled_compactChars v).written

theorem written_pretty (v : JsonValue) : v.Written v.pretty :=
  (spelled_prettyChars 0 v).written

/-- A value is read from every text that it is written as, but for numbers that are not kept exactly and
for too many brackets. -/
theorem Written.readAs {v : JsonValue} (hv : v.Distinct) {text : String} (h : v.Written text) :
    v.ReadAs nestingLimit (readJson text).toOption := by
  obtain ⟨hbs, hcs, hbs'⟩ := h
  exact (comes_value nestingLimit hv hbs hcs).readAll hbs'

end JsonValue

end ScriptCensus
