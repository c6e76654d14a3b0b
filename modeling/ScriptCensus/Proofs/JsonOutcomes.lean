import ScriptCensus.Proofs.JsonShapes

/-!
# What readers come to

`JsonReader.Takes` says that a reader gives a certain value. `JsonReader.Comes r cs next P` leaves open
whether it gives any: a reader either takes the characters `cs` and gives a value, or finds a fault,
and `P` says of `some a` and of `none` whether it may come to that. Readers are put together by
`Comes.bind`, as they are by `Takes.bind`.

Floats are the first use. What a float is written as is of a fixed form (`FloatText`), from which some
float is read or none (`comes_number_float`); whether it is the same one is left open.
-/

namespace ScriptCensus.JsonReader

variable {α β σ : Type}

/-- What a reader comes to on certain characters, if what follows starts as it should. -/
def Comes (r : JsonReader α) (cs : List Char) (next : Option Char → Prop) (P : Option α → Prop) :
    Prop :=
  ∀ rest line column, next rest.head? →
    (∃ a line' column', r.run.run ⟨cs ++ rest, line, column⟩ = (.ok a, ⟨rest, line', column'⟩) ∧
      P (some a)) ∨
    ∃ f i, r.run.run ⟨cs ++ rest, line, column⟩ = (.error f, i) ∧ P none

/-- A reader that refuses everything. -/
def Fails (r : JsonReader α) : Prop :=
  ∀ i, ∃ f j, r.run.run i = (.error f, j)

/-! ## Putting readers together -/

section Combinators

variable {r : JsonReader α} {f : α → JsonReader β} {cs ds : List Char} {a : α}
  {p q : Option Char → Prop} {P : Option α → Prop} {Q : Option β → Prop}

theorem run_bind_of_error {i j : JsonInput} {fault : JsonFault}
    (h : r.run.run i = (.error fault, j)) : (r >>= f).run.run i = (.error fault, j) := by
  rw [ExceptT.run_bind, StateT.run_bind, h]
  rfl

theorem Takes.comes (h : r.Takes cs a q) (ha : P (some a)) : r.Comes cs q P := by
  intro rest line column hrest
  obtain ⟨line', column', hrun⟩ := h rest line column hrest
  exact Or.inl ⟨a, line', column', hrun, ha⟩

theorem Fails.comes (h : r.Fails) (hP : P none) (cs : List Char) (q : Option Char → Prop) :
    r.Comes cs q P := by
  intro rest line column _
  obtain ⟨fault, i, hrun⟩ := h ⟨cs ++ rest, line, column⟩
  exact Or.inr ⟨fault, i, hrun, hP⟩

theorem Comes.imp {P' : Option α → Prop} (h : r.Comes cs q P) (hP : ∀ o, P o → P' o) :
    r.Comes cs q P' := by
  intro rest line column hrest
  rcases h rest line column hrest with ⟨a, line', column', hrun, ha⟩ | ⟨fault, i, hrun, hnone⟩
  · exact Or.inl ⟨a, line', column', hrun, hP _ ha⟩
  · exact Or.inr ⟨fault, i, hrun, hP _ hnone⟩

theorem Comes.bind (hr : r.Comes cs p P) (hf : ∀ a, P (some a) → (f a).Comes ds q Q)
    (hnone : P none → Q none) (hp : ∀ rest, q rest.head? → p (ds ++ rest).head?) :
    (r >>= f).Comes (cs ++ ds) q Q := by
  intro rest line column hq
  rw [List.append_assoc]
  rcases hr (ds ++ rest) line column (hp rest hq) with
    ⟨a, line', column', hrun, ha⟩ | ⟨fault, i, hrun, hfault⟩
  · rw [run_bind_of_ok hrun]
    exact hf a ha rest line' column' hq
  · exact Or.inr ⟨fault, i, run_bind_of_error hrun, hnone hfault⟩

theorem Takes.bind_comes (hr : r.Takes cs a p) (hf : (f a).Comes ds q Q)
    (hp : ∀ rest, q rest.head? → p (ds ++ rest).head?) : (r >>= f).Comes (cs ++ ds) q Q :=
  (hr.comes (P := (· = some a)) rfl).bind (by rintro _ ⟨⟩; exact hf) (by simp) hp

theorem Comes.map (h : r.Comes cs q P) (g : α → β) (hQ : ∀ o, P o → Q (o.map g)) :
    (do return g (← r) : JsonReader β).Comes cs q Q := by
  have hpure : ∀ a, P (some a) → (pure (g a) : JsonReader β).Comes [] q Q := fun a ha =>
    (takes_pure (g a) q).comes (hQ _ ha)
  have := h.bind hpure (hQ _) fun _ hq => hq
  rwa [List.append_nil] at this

theorem Comes.after_advance (h : r.Comes cs q P) (c : Char) :
    (do advance; r).Comes (c :: cs) q P :=
  (takes_advance c anything).bind_comes h fun _ _ => trivial

theorem Comes.of_peek {f : Option Char → JsonReader α} {c : Char}
    (h : (f (some c)).Comes (c :: cs) q P) : (peek >>= f).Comes (c :: cs) q P :=
  (takes_peek (some c)).bind_comes h fun _ _ => rfl

theorem Comes.of_peekToken {f : Option Char → JsonReader α} {bs : List Char} (hbs : Blank bs)
    {c : Char} (hc : isJsonBlank c = false) (h : (f (some c)).Comes (c :: cs) q P) :
    (peekToken >>= f).Comes (bs ++ c :: cs) q P :=
  (takes_peekToken hbs (some c) (by rintro d ⟨⟩; exact hc)).bind_comes h fun _ _ => rfl

theorem Comes.of_token {f : Char → JsonReader α} {bs : List Char} (hbs : Blank bs) {c : Char}
    (hc : isJsonBlank c = false) (h : (f c).Comes (c :: cs) q P) :
    (token >>= f).Comes (bs ++ c :: cs) q P := by
  have htoken : token.Takes bs c (char c) := by
    rw [← List.append_nil bs]
    exact (takes_peekToken hbs (some c) (by rintro d ⟨⟩; exact hc)).bind (takes_pure c _)
      fun _ hq => hq
  exact htoken.bind_comes h fun _ _ => rfl

theorem comes_located (h : r.Comes cs q P) : (located r).Comes cs q P := by
  intro rest line column hrest
  rcases h rest line column hrest with ⟨a, line', column', hrun, ha⟩ | ⟨fault, i, hrun, hnone⟩
  · refine Or.inl ⟨a, line', column', ?_, ha⟩
    rw [located, ExceptT.run_tryCatch, StateT.run_bind, hrun]
    rfl
  · have hlocated : ∃ fault', (located r).run.run ⟨cs ++ rest, line, column⟩ = (.error fault', i) := by
      rw [located, ExceptT.run_tryCatch, StateT.run_bind, hrun]
      obtain ⟨cause, _ | place⟩ := fault
      · exact ⟨⟨cause, some (i.line, i.column)⟩, rfl⟩
      · exact ⟨⟨cause, some place⟩, rfl⟩
    obtain ⟨fault', hfault'⟩ := hlocated
    exact Or.inr ⟨fault', i, hfault', hnone⟩

theorem comes_enough {f : Nat → JsonReader α} (h : ∀ fuel, cs.length < fuel → (f fuel).Comes cs q P) :
    (enough >>= f).Comes cs q P := by
  intro rest line column hrest
  have hlt : cs.length < (cs ++ rest).length + 1 := by
    rw [List.length_append]
    omega
  exact h _ hlt rest line column hrest

/-- Brackets come to what their inside comes to, followed by the closing one. -/
theorem comes_enclosed {body : JsonReader α} {close : JsonReader Unit}
    (h : (do let a ← body; close; pure a : JsonReader α).Comes cs q P) (c : Char) :
    (enclosed body close).Comes (c :: cs) q P := by
  refine Comes.after_advance ?_ c
  intro rest line column hrest
  have hinside : ∀ i, (outcome body).run.run i = (.ok (body.run.run i).1, (body.run.run i).2) :=
    fun _ => rfl
  have hclose : ∀ i, (outcome close).run.run i = (.ok (close.run.run i).1, (close.run.run i).2) :=
    fun _ => rfl
  rw [run_bind_of_ok (hinside _), run_bind_of_ok (hclose _)]
  have hboth := h rest line column hrest
  rcases hbody : body.run.run ⟨cs ++ rest, line, column⟩ with ⟨fault | a, i⟩
  · rw [run_bind_of_error hbody] at hboth
    obtain ⟨_, _, _, ⟨⟩, _⟩ | ⟨_, _, ⟨⟩, hnone⟩ := hboth
    exact Or.inr ⟨fault, _, rfl, hnone⟩
  · rw [run_bind_of_ok hbody] at hboth
    rcases hend : close.run.run i with ⟨fault | u, j⟩
    · rw [run_bind_of_error hend] at hboth
      obtain ⟨_, _, _, ⟨⟩, _⟩ | ⟨_, _, ⟨⟩, hnone⟩ := hboth
      exact Or.inr ⟨fault, j, rfl, hnone⟩
    · rw [run_bind_of_ok hend] at hboth
      obtain ⟨_, line', column', ⟨⟩, ha⟩ | ⟨_, _, ⟨⟩, _⟩ := hboth
      exact Or.inl ⟨a, line', column', rfl, ha⟩

/-! ### Readers that refuse everything -/

theorem Fails.bind (h : r.Fails) (f : α → JsonReader β) : (r >>= f).Fails := by
  intro i
  obtain ⟨fault, j, hrun⟩ := h i
  exact ⟨fault, j, run_bind_of_error hrun⟩

theorem Fails.after (r : JsonReader α) (h : ∀ a, (f a).Fails) : (r >>= f).Fails := by
  intro i
  rcases hrun : r.run.run i with ⟨fault | a, j⟩
  · exact ⟨fault, j, run_bind_of_error hrun⟩
  · rw [run_bind_of_ok hrun]
    exact h a j

theorem fails_fail (cause : JsonCause) : (fail cause : JsonReader α).Fails :=
  fun i => ⟨_, i, rfl⟩

theorem fails_failAhead (cause : JsonCause) : (failAhead cause : JsonReader α).Fails :=
  fun i => ⟨_, i, rfl⟩

theorem fails_failSomewhere (cause : JsonCause) : (failSomewhere cause : JsonReader α).Fails :=
  fun i => ⟨_, i, rfl⟩

theorem fails_refuseType (expected : String) : (refuseType expected : JsonReader α).Fails := by
  refine Fails.after peek fun c? => ?_
  split
  · exact fails_failSomewhere _
  · exact fails_failSomewhere _
  · refine Fails.after _ fun v => ?_
    split
    iterate 4 exact fails_failSomewhere _
    exact fails_failAhead _
  · exact fails_failAhead _

end Combinators

/-! ## Floats -/

/-- Whether what a reader comes to is a float, or a fault. -/
def OnlyFloat (o : Option JsonNumber) : Prop :=
  ∀ n ∈ o, ∃ f, n = .float f

theorem comes_toFloat (s : Significand) (positive : Bool) (q : Option Char → Prop) :
    (s.toFloat positive).Comes [] q OnlyFloat := by
  unfold Significand.toFloat
  split
  · exact (takes_pure _ q).comes (by rintro _ ⟨⟩; exact ⟨_, rfl⟩)
  · exact (fails_fail _).comes (by simp [OnlyFloat]) [] q

theorem Comes.of_peek_end {f : Option Char → JsonReader α} {q : Option Char → Prop}
    {P : Option α → Prop} (h : ∀ c?, q c? → (f c?).Comes [] (· = c?) P) :
    (peek >>= f).Comes [] q P := by
  intro rest line column hrest
  obtain ⟨line', column', hpeek⟩ := takes_peek rest.head? rest line column rfl
  rw [run_bind_of_ok hpeek]
  exact h rest.head? hrest rest line' column' rfl

/-- All digits of a power of ten are taken, whether it is written out or only skipped. -/
theorem comes_exponentDigits {k : Option Nat → JsonReader JsonNumber}
    (hsome : ∀ e, (k (some e)).Comes [] endsNumber OnlyFloat)
    (hnone : ∀ ds : List Char, (∀ c ∈ ds, c.isDigit = true) →
      (k none).Comes ds endsNumber OnlyFloat) :
    ∀ (ds : List Char), (∀ c ∈ ds, c.isDigit = true) → ∀ (fuel e : Nat), ds.length < fuel →
      (exponentDigits fuel e >>= k).Comes ds endsNumber OnlyFloat
  | [], _, fuel + 1, e, _ => by
    rw [exponentDigits, bind_assoc]
    refine Comes.of_peek_end fun c? hc => ?_
    rw [takes_peekDigit_none hc.notDigit, pure_bind]
    intro rest line column hrest
    exact hsome e rest line column (hrest ▸ hc)
  | c :: ds, hds, fuel + 1, e, hlt => by
    obtain ⟨hc, hds⟩ := List.forall_mem_cons.1 hds
    rw [exponentDigits, bind_assoc]
    refine Comes.of_peek ?_
    rw [Option.bind_some, digit?_of_isDigit hc]
    simp only [bind_assoc]
    refine Comes.after_advance ?_ c
    split
    · rw [pure_bind]
      exact hnone ds hds
    · exact comes_exponentDigits hsome hnone ds hds fuel _ (by simpa using hlt)

/-- A reader that knows how much is left. -/
theorem comes_get {f : JsonInput → JsonReader α} {cs : List Char} {q : Option Char → Prop}
    {P : Option α → Prop} (h : ∀ i : JsonInput, cs.length < i.rest.length + 1 → (f i).Comes cs q P) :
    (get >>= f).Comes cs q P := by
  intro rest line column hrest
  have hlt : cs.length < (cs ++ rest).length + 1 := by
    rw [List.length_append]
    omega
  exact h ⟨cs ++ rest, line, column⟩ hlt rest line column hrest

/-- Takes a digit, of which there has to be one. -/
def firstDigit (k : Nat → JsonReader α) : JsonReader α := do
  match ← peek with
  | none => fail .endInValue
  | some c =>
    match digit? c with
    | none => failAhead .invalidNumber
    | some d => do
      advance
      k d

theorem comes_firstDigit {k : Nat → JsonReader α} {c : Char} {cs : List Char}
    {q : Option Char → Prop} {P : Option α → Prop} (hc : c.isDigit = true)
    (h : (k (c.toNat - '0'.toNat)).Comes cs q P) : (firstDigit k).Comes (c :: cs) q P := by
  refine Comes.of_peek ?_
  simp only [digit?_of_isDigit hc]
  exact h.after_advance c

theorem comes_firstDigit_nil (k : Nat → JsonReader α) {P : Option α → Prop} (hP : P none) :
    (firstDigit k).Comes [] notDigit P := by
  refine Comes.of_peek_end fun c? hc => ?_
  cases c? with
  | none => exact (fails_fail _).comes hP _ _
  | some c =>
    have hdigit : digit? c = none := takes_peekDigit_none hc
    simp only [hdigit]
    exact (fails_failAhead _).comes hP _ _

theorem comes_exponentPart (positive : Bool) (s : Significand) {sign : Char}
    (hsign : sign = '+' ∨ sign = '-') {ds : List Char} (hds : ∀ c ∈ ds, c.isDigit = true) :
    (exponentPart positive s).Comes ('e' :: sign :: ds) endsNumber OnlyFloat := by
  have htail : ∀ (up : Bool) (k : Option Nat → JsonReader JsonNumber),
      (∀ e, k (some e) =
        Significand.toFloat ⟨s.value, if up then s.exponent + e else s.exponent - e⟩ positive) →
      k none = (if s.value ≠ 0 && up then fail .numberOutOfRange
        else do
          let _ ← allDigits
          pure (.float (if positive then 0.0 else -0.0))) →
      (firstDigit fun d => do
        let i ← get
        exponentDigits (i.rest.length + 1) d >>= k).Comes ds endsNumber OnlyFloat := by
    intro up k hsome hnone
    cases ds with
    | nil =>
      intro rest line column hrest
      exact comes_firstDigit_nil _ (by simp [OnlyFloat]) rest line column hrest.notDigit
    | cons c ds =>
      obtain ⟨hc, hds⟩ := List.forall_mem_cons.1 hds
      refine comes_firstDigit hc (comes_get fun i hi => ?_)
      refine comes_exponentDigits (fun e => hsome e ▸ comes_toFloat _ positive _) (fun ds hds => ?_)
        ds hds _ _ hi
      rw [hnone]
      split
      · exact (fails_fail _).comes (by simp [OnlyFloat]) _ _
      · rw [← List.append_nil ds]
        refine (takes_allDigits hds).bind_comes ?_ fun _ hrest => hrest.notDigit
        exact (takes_pure _ _).comes (by rintro _ ⟨⟩; exact ⟨_, rfl⟩)
  unfold exponentPart
  refine Comes.after_advance (Comes.of_peek ?_) 'e'
  rcases hsign with rfl | rfl
  · simp only [pure_bind]
    exact Comes.after_advance (htail true _ (fun _ => rfl) rfl) '+'
  · simp only [pure_bind]
    exact Comes.after_advance (htail false _ (fun _ => rfl) rfl) '-'

/-- A power of ten behind a number, or nothing. -/
inductive ExponentText : List Char → Prop
  | nil : ExponentText []
  | power {sign : Char} {ds : List Char} (hsign : sign = '+' ∨ sign = '-')
      (hds : ∀ c ∈ ds, c.isDigit = true) : ExponentText ('e' :: sign :: ds)

/-- What makes a float of the digits before it. -/
inductive FloatText : List Char → Prop
  | fraction {ds cs : List Char} (hds : ∀ c ∈ ds, c.isDigit = true) (hcs : ExponentText cs) :
      FloatText ('.' :: (ds ++ cs))
  | power {sign : Char} {ds : List Char} (hsign : sign = '+' ∨ sign = '-')
      (hds : ∀ c ∈ ds, c.isDigit = true) : FloatText ('e' :: sign :: ds)

theorem floatText_pointZero : FloatText ['.', '0'] := by
  have hdigit : FloatText ('.' :: (['0'] ++ [])) := .fraction (List.forall_mem_singleton.2 rfl) .nil
  exact hdigit

theorem comes_fractionPart (positive : Bool) (s : Significand) {ds cs : List Char}
    (hds : ∀ c ∈ ds, c.isDigit = true) (hcs : ExponentText cs) :
    (fractionPart positive s).Comes ('.' :: (ds ++ cs)) endsNumber OnlyFloat := by
  have hnext : ∀ rest : List Char, endsNumber rest.head? → notDigit (cs ++ rest).head? := by
    intro rest hrest
    cases hcs with
    | nil => exact hrest.notDigit
    | power _ _ =>
      rintro c ⟨⟩
      decide
  refine Comes.after_advance ((takes_allDigits hds).bind_comes ?_ hnext) '.'
  split
  · refine Fails.comes (Fails.after peek fun c? => ?_) (by simp [OnlyFloat]) _ _
    cases c? <;> exact fails_failAhead _
  · cases hcs with
    | power hsign hes => exact Comes.of_peek (comes_exponentPart positive _ hsign hes)
    | nil =>
      refine Comes.of_peek_end fun c? hc => ?_
      split
      · exact absurd rfl (hc 'e' rfl).2.2.1
      · exact absurd rfl (hc 'E' rfl).2.2.2
      · exact comes_toFloat _ positive _

/-- A float is read as some float, or refused. -/
theorem comes_number_float (positive : Bool) {ds cs : List Char} (hne : ds ≠ [])
    (hds : ∀ c ∈ ds, c.isDigit = true) (hcs : FloatText cs) :
    (number positive).Comes (ds ++ cs) endsNumber OnlyFloat := by
  obtain ⟨c, ds, rfl⟩ := List.exists_cons_of_ne_nil hne
  obtain ⟨hc, hds⟩ := List.forall_mem_cons.1 hds
  have hnext : ∀ rest : List Char, notDigit (cs ++ rest).head? := by
    intro rest
    cases hcs <;> (rintro c ⟨⟩; decide)
  have hend : ∀ (s : Significand) (k : Option Char → JsonReader JsonNumber),
      k (some '.') = fractionPart positive s → k (some 'e') = exponentPart positive s →
      (peek >>= k).Comes cs endsNumber OnlyFloat := by
    intro s k hpoint hpower
    cases hcs with
    | fraction hes htail => exact Comes.of_peek (hpoint ▸ comes_fractionPart positive s hes htail)
    | power hsign hes => exact Comes.of_peek (hpower ▸ comes_exponentPart positive s hsign hes)
  rw [List.cons_append]
  refine comes_firstDigit hc ?_
  dsimp only
  split
  · cases ds with
    | cons d ds =>
      -- another digit behind a zero
      have hd := (List.forall_mem_cons.1 hds).1
      refine Comes.of_peek ?_
      rw [Option.bind_some, digit?_of_isDigit hd]
      exact ((fails_failAhead _).bind _).comes (by simp [OnlyFloat]) _ _
    | nil =>
      intro rest line column hrest
      obtain ⟨line', column', hpeek⟩ := takes_peek (cs ++ rest).head? (cs ++ rest) line column rfl
      rw [List.nil_append] at hpeek
      rw [List.nil_append, run_bind_of_ok hpeek, takes_peekDigit_none (hnext rest)]
      simp only [pure_bind]
      exact hend _ _ rfl rfl rest line' column' hrest
  · exact (takes_allDigits hds).bind_comes (hend _ _ rfl rfl) fun rest _ => hnext rest

/-- Digits that do not fit are counted. -/
theorem addWhole_exponent_pos :
    ∀ (ds : List Nat) (s : Significand), 0 < s.exponent → 0 < (s.addWhole ds).exponent
  | [], _, h => h
  | d :: ds, s, h => by
    rw [Significand.addWhole, if_neg (by simp; omega)]
    exact addWhole_exponent_pos ds _ (by simp only; omega)

theorem addWhole_large :
    ∀ (cs : List Char) (value : Nat), value ≤ maxNatural →
      maxNatural < Nat.ofDigitChars 10 cs value →
        0 < (Significand.addWhole ⟨value, 0⟩ (cs.map fun c => c.toNat - '0'.toNat)).exponent
  | [], value, hle, hlarge => by
    rw [Nat.ofDigitChars_nil] at hlarge
    omega
  | c :: cs, value, hle, hlarge => by
    rw [Nat.ofDigitChars_cons, Nat.mul_comm] at hlarge
    rw [List.map_cons, Significand.addWhole]
    split
    · next hfits =>
      simp only [Bool.and_eq_true, decide_eq_true_eq] at hfits
      exact addWhole_large cs _ hfits.1 hlarge
    · exact addWhole_exponent_pos _ _ (by simp)

/-- An integer that is too large is read as a float, or refused. -/
theorem comes_number_large (positive : Bool) {n : Nat} (hn : maxNatural < n) :
    (number positive).Comes (natChars n) endsNumber OnlyFloat := by
  obtain ⟨c, cs, h, hc, hcs, hvalue⟩ := exists_natChars_eq n
  have hzero : c.toNat - '0'.toNat ≠ 0 := by
    intro hzero
    have := eq_zero_of_natChars h hzero
    omega
  have hdigit : c.toNat - '0'.toNat ≤ maxNatural := by
    have hsize := (Char.isDigit_iff_toNat.1 hc).2
    have hmax : '9'.toNat ≤ maxNatural := by decide
    omega
  have hlarge := addWhole_large cs _ hdigit (by rwa [hvalue])
  rw [h]
  refine comes_firstDigit hc ?_
  dsimp only
  rw [if_neg hzero, ← List.append_nil cs]
  refine (takes_allDigits hcs).bind_comes ?_ fun _ hrest => hrest.notDigit
  refine Comes.of_peek_end fun c? hc => ?_
  split
  · exact absurd rfl (hc '.' rfl).2.1
  · exact absurd rfl (hc 'e' rfl).2.2.1
  · exact absurd rfl (hc 'E' rfl).2.2.2
  · rw [integerNumber, if_pos (by omega)]
    exact comes_toFloat _ positive _

/-- The form of a float that is written. -/
theorem exists_write_eq (format : NumberFormat) (d : Decimal) :
    ∃ ds cs, format.write d = ds ++ cs ∧ ds ≠ [] ∧ (∀ c ∈ ds, c.isDigit = true) ∧ FloatText cs := by
  have hdigits : ∀ n, ∀ c ∈ natChars n, c.isDigit = true := fun n c hc =>
    Nat.isDigit_of_mem_toDigits (by omega) (by omega) hc
  have hzeros : ∀ n, ∀ c ∈ List.replicate n '0', c.isDigit = true := by
    intro n c hc
    rw [List.eq_of_mem_replicate hc]
    decide
  have hne : natChars d.digits ≠ [] := Nat.toDigits_ne_nil
  unfold NumberFormat.write
  dsimp only
  split
  · refine ⟨natChars d.digits ++ List.replicate d.exponent.toNat '0', ['.', '0'], rfl, by simp [hne],
      ?_, floatText_pointZero⟩
    intro c hc
    rcases List.mem_append.1 hc with hc | hc
    · exact hdigits _ c hc
    · exact hzeros _ c hc
  · split
    · next hpoint =>
      simp only [Bool.and_eq_true, decide_eq_true_eq] at hpoint
      refine ⟨_, _, rfl, ?_, fun c hc => hdigits _ c (List.mem_of_mem_take hc), ?_⟩
      · simp only [ne_eq, List.take_eq_nil_iff, hne, or_false]
        omega
      · rw [← List.append_nil (List.drop _ _)]
        exact .fraction (fun c hc => hdigits _ c (List.mem_of_mem_drop hc)) .nil
    · split
      · refine ⟨['0'], '.' :: (List.replicate _ '0' ++ natChars d.digits), rfl, by simp,
          List.forall_mem_singleton.2 rfl, ?_⟩
        rw [← List.append_nil (List.replicate _ _ ++ _)]
        refine .fraction ?_ .nil
        intro c hc
        rcases List.mem_append.1 hc with hc | hc
        · exact hzeros _ c hc
        · exact hdigits _ c hc
      · have hsign : ∀ power : Int, (if power < 0 then '-' else '+') = '+' ∨
            (if power < 0 then '-' else '+') = '-' := by
          intro power
          split <;> simp
        refine ⟨(natChars d.digits).take 1, _, List.append_assoc _ _ _, by simp [hne],
          fun c hc => hdigits _ c (List.mem_of_mem_take hc), ?_⟩
        split
        · exact .power (hsign _) (hdigits _)
        · exact .fraction (fun c hc => hdigits _ c (List.mem_of_mem_drop hc))
            (.power (hsign _) (hdigits _))

end ScriptCensus.JsonReader
