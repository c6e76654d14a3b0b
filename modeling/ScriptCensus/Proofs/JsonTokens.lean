import Mathlib.Data.List.TakeDrop
import ScriptCensus.Json.Reader

/-!
# Reading back what was written

`JsonReader.Takes r cs a next` says that a reader takes the characters `cs`, whatever follows, as
long as the first character that follows is as `next` says, and gives `a`. Where the input has come
to by lines and columns is of no account. Readers are put together by `Takes.bind`; the condition on
what follows the first part is met by the characters of the second one.

This module goes as far as what has no parts: a string is read back from every form that stands for it
in quotes (`takes_string`), and a number from its digits (`takes_number`).
-/

namespace ScriptCensus.JsonReader

variable {α β : Type}

/-- A reader takes certain characters and gives a value, if what follows starts as it should. -/
def Takes (r : JsonReader α) (cs : List Char) (a : α) (next : Option Char → Prop) : Prop :=
  ∀ rest line column, next rest.head? → ∃ line' column',
    r.run.run ⟨cs ++ rest, line, column⟩ = (.ok a, ⟨rest, line', column'⟩)

/-- Anything may follow. -/
def anything : Option Char → Prop := fun _ => True

/-- What follows is a certain character. -/
def char (c : Char) : Option Char → Prop := (· = some c)

/-! ## Putting readers together -/

theorem run_bind_of_ok {r : JsonReader α} {f : α → JsonReader β} {i j : JsonInput} {a : α}
    (h : r.run.run i = (.ok a, j)) : (r >>= f).run.run i = (f a).run.run j := by
  rw [ExceptT.run_bind, StateT.run_bind, h]
  rfl

theorem Takes.bind {r : JsonReader α} {f : α → JsonReader β} {cs ds : List Char} {a : α} {b : β}
    {p q : Option Char → Prop} (hr : r.Takes cs a p) (hf : (f a).Takes ds b q)
    (hp : ∀ rest, q rest.head? → p (ds ++ rest).head?) : (r >>= f).Takes (cs ++ ds) b q := by
  intro rest line column hq
  obtain ⟨line', column', h⟩ := hr (ds ++ rest) line column (hp rest hq)
  rw [List.append_assoc, run_bind_of_ok h]
  exact hf rest line' column' hq

/-- Nothing is asked of what follows the first part. -/
theorem Takes.bind_anything {r : JsonReader α} {f : α → JsonReader β} {cs ds : List Char} {a : α}
    {b : β} {q : Option Char → Prop} (hr : r.Takes cs a anything) (hf : (f a).Takes ds b q) :
    (r >>= f).Takes (cs ++ ds) b q :=
  hr.bind hf fun _ _ => trivial

theorem takes_pure (a : α) (q : Option Char → Prop) : (pure a : JsonReader α).Takes [] a q :=
  fun _ line column _ => ⟨line, column, rfl⟩

theorem Takes.map {r : JsonReader α} {cs : List Char} {a : α} {q : Option Char → Prop}
    (h : r.Takes cs a q) (f : α → β) : (do return f (← r) : JsonReader β).Takes cs (f a) q := by
  have := h.bind (f := fun a => pure (f a)) (takes_pure (f a) q) fun _ hq => hq
  rwa [List.append_nil] at this

theorem takes_located {r : JsonReader α} {cs : List Char} {a : α} {q : Option Char → Prop}
    (h : r.Takes cs a q) : (located r).Takes cs a q := by
  intro rest line column hrest
  obtain ⟨line', column', hr⟩ := h rest line column hrest
  refine ⟨line', column', ?_⟩
  rw [located, ExceptT.run_tryCatch, StateT.run_bind, hr]
  rfl

theorem takes_outcome {r : JsonReader α} {cs : List Char} {a : α} {q : Option Char → Prop}
    (h : r.Takes cs a q) : (outcome r).Takes cs (Except.ok a) q := by
  intro rest line column hrest
  obtain ⟨line', column', hr⟩ := h rest line column hrest
  refine ⟨line', column', ?_⟩
  have hrun : ∀ i, (outcome r).run.run i = (.ok (r.run.run i).1, (r.run.run i).2) := fun _ => rfl
  rw [hrun, hr]

/-- A reader that is given enough steps for the rest of the input. -/
theorem takes_enough {f : Nat → JsonReader α} {cs : List Char} {a : α} {q : Option Char → Prop}
    (h : ∀ fuel, cs.length < fuel → (f fuel).Takes cs a q) : (enough >>= f).Takes cs a q := by
  intro rest line column hrest
  have hlt : cs.length < (cs ++ rest).length + 1 := by
    rw [List.length_append]
    omega
  exact h _ hlt rest line column hrest

/-! ## Characters -/

theorem takes_peek (c? : Option Char) : peek.Takes [] c? (· = c?) := by
  rintro rest line column rfl
  exact ⟨line, column, rfl⟩

/-- A reader that looks at the next character first. -/
theorem Takes.of_peek {f : Option Char → JsonReader α} {c : Char} {cs : List Char} {a : α}
    {q : Option Char → Prop} (h : (f (some c)).Takes (c :: cs) a q) :
    (peek >>= f).Takes (c :: cs) a q :=
  (takes_peek (some c)).bind h fun _ _ => rfl

theorem takes_advance (c : Char) (q : Option Char → Prop) : advance.Takes [c] () q := by
  intro rest line column _
  have hrun : advance.run.run ⟨c :: rest, line, column⟩ =
      (.ok (), JsonInput.next ⟨c :: rest, line, column⟩) := rfl
  rw [List.singleton_append, hrun, JsonInput.next]
  by_cases hc : c = '\n'
  · exact ⟨line + 1, 0, by simp [hc]⟩
  · exact ⟨line, column + c.utf8Size, by simp [hc]⟩

/-- A reader that takes one known character first. -/
theorem Takes.after_advance {r : JsonReader α} {cs : List Char} {a : α} {q : Option Char → Prop}
    (h : r.Takes cs a q) (c : Char) : (do advance; r).Takes (c :: cs) a q :=
  (takes_advance c anything).bind_anything h

/-- Characters that may stand between tokens. -/
def Blank (bs : List Char) : Prop :=
  ∀ c ∈ bs, isJsonBlank c = true

theorem blank_nil : Blank [] := by simp [Blank]

theorem skipBlanksFrom_blank {rest : List Char} (h : ∀ c ∈ rest.head?, isJsonBlank c = false) :
    ∀ (bs : List Char), Blank bs → ∀ line column, ∃ line' column',
      skipBlanksFrom (bs ++ rest) line column = ⟨rest, line', column'⟩
  | [], _, line, column => by
    cases rest with
    | nil => exact ⟨line, column, rfl⟩
    | cons c rest =>
      have hc := h c rfl
      exact ⟨line, column, by simp [skipBlanksFrom, hc]⟩
  | b :: bs, hbs, line, column => by
    obtain ⟨hb, hbs⟩ := List.forall_mem_cons.1 hbs
    rw [List.cons_append, skipBlanksFrom, if_pos hb]
    by_cases hn : b = '\n'
    · rw [if_pos hn]
      exact skipBlanksFrom_blank h bs hbs _ _
    · rw [if_neg hn]
      exact skipBlanksFrom_blank h bs hbs _ _

/-- Looking at the next token takes the blanks before it. -/
theorem takes_peekToken {bs : List Char} (hbs : Blank bs) (c? : Option Char)
    (hc : ∀ c ∈ c?, isJsonBlank c = false) : peekToken.Takes bs c? (· = c?) := by
  rintro rest line column rfl
  obtain ⟨line', column', h⟩ := skipBlanksFrom_blank hc bs hbs line column
  refine ⟨line', column', ?_⟩
  have hrun : ∀ i : JsonInput, peekToken.run.run i =
      (.ok (skipBlanksFrom i.rest i.line i.column).rest.head?,
        skipBlanksFrom i.rest i.line i.column) := fun _ => rfl
  rw [hrun, h]

/-- A reader that looks at the next token first. -/
theorem Takes.of_peekToken {f : Option Char → JsonReader α} {bs : List Char} (hbs : Blank bs)
    {c : Char} (hc : isJsonBlank c = false) {cs : List Char} {a : α} {q : Option Char → Prop}
    (h : (f (some c)).Takes (c :: cs) a q) : (peekToken >>= f).Takes (bs ++ c :: cs) a q :=
  (takes_peekToken hbs (some c) (by rintro d ⟨⟩; exact hc)).bind h fun _ _ => rfl

/-! ## Strings -/

/-- Four hexadecimal digits, and the number that they stand for. -/
inductive HexUnit : List Char → Nat → Prop
  | digits {a b c d : Char} {i j k l : Nat} (ha : hexDigit? a = some i) (hb : hexDigit? b = some j)
      (hc : hexDigit? c = some k) (hd : hexDigit? d = some l) :
      HexUnit [a, b, c, d] (((i * 16 + j) * 16 + k) * 16 + l)

/-- The letters behind a backslash, and the characters that they stand for. -/
def escapeLetters : List (Char × Char) :=
  [('"', '"'), ('\\', '\\'), ('/', '/'), ('b', '\x08'), ('f', '\x0c'), ('n', '\n'), ('r', '\r'),
    ('t', '\t')]

/-- Characters that stand for one character of a string: that character itself, a letter behind a
backslash, the number of the character, or the numbers of two surrogates. -/
inductive SpelledChar : Char → List Char → Prop
  | plain {c : Char} (h : 0x20 ≤ c.toNat) (hquote : c ≠ '"') (hback : c ≠ '\\') : SpelledChar c [c]
  | letter {c e : Char} (h : (e, c) ∈ escapeLetters) : SpelledChar c ['\\', e]
  | number {cs : List Char} {n : Nat} (h : HexUnit cs n) (hn : n < 0xD800 ∨ 0xDFFF < n) :
      SpelledChar (Char.ofNat n) ('\\' :: 'u' :: cs)
  | pair {cs ds : List Char} {m n : Nat} (hcs : HexUnit cs m) (hds : HexUnit ds n)
      (hm : 0xD800 ≤ m ∧ m ≤ 0xDBFF) (hn : 0xDC00 ≤ n ∧ n ≤ 0xDFFF) :
      SpelledChar (Char.ofNat ((m - 0xD800) * 0x400 + (n - 0xDC00) + 0x10000))
        ('\\' :: 'u' :: (cs ++ '\\' :: 'u' :: ds))

/-- Characters that stand for those of a string, one after another. -/
inductive SpelledChars : List Char → List Char → Prop
  | nil : SpelledChars [] []
  | cons {c : Char} {cs ds es : List Char} (hc : SpelledChar c ds) (hcs : SpelledChars cs es) :
      SpelledChars (c :: cs) (ds ++ es)

/-- Characters that stand for a string, with the quotes around it. -/
def Quoted (s : String) (cs : List Char) : Prop :=
  ∃ ds, SpelledChars s.toList ds ∧ cs = '"' :: (ds ++ ['"'])

theorem hexDigit?_digitChar : ∀ n < 16, hexDigit? (Nat.digitChar n) = some n := by
  decide

/-- A character is spelled by its escaped form. -/
theorem spelledChar_jsonEscape (c : Char) : SpelledChar c (jsonEscape c) := by
  unfold jsonEscape
  split
  iterate 7 exact .letter (by decide)
  next hquote hback _ _ _ _ _ =>
    by_cases hc : c.toNat < 0x20
    · have hzero : hexDigit? '0' = some 0 := by decide
      have hunit := HexUnit.digits hzero hzero (hexDigit?_digitChar (c.toNat / 16) (by omega))
        (hexDigit?_digitChar (c.toNat % 16) (by omega))
      have hvalue : ((0 * 16 + 0) * 16 + c.toNat / 16) * 16 + c.toNat % 16 = c.toNat := by omega
      rw [hvalue] at hunit
      have hchar := SpelledChar.number hunit (Or.inl (by omega))
      rw [Char.ofNat_toNat] at hchar
      rwa [if_pos hc]
    · rw [if_neg hc]
      exact .plain (by omega) hquote hback

theorem spelledChars_jsonEscape : ∀ cs : List Char, SpelledChars cs (cs.flatMap jsonEscape)
  | [] => .nil
  | c :: cs => .cons (spelledChar_jsonEscape c) (spelledChars_jsonEscape cs)

theorem quoted_jsonQuote (s : String) : Quoted s (jsonQuote s) :=
  ⟨_, spelledChars_jsonEscape s.toList, rfl⟩

theorem takes_hexUnit {cs : List Char} {n : Nat} (h : HexUnit cs n) (q : Option Char → Prop) :
    hexUnit.Takes cs n q := by
  obtain ⟨ha, hb, hc, hd⟩ := h
  intro rest line column _
  obtain ⟨line', column', h⟩ := (((takes_advance _ anything).after_advance _).after_advance
    _).after_advance _ rest line column trivial
  refine ⟨line', column', ?_⟩
  have hnext := congrArg Prod.snd h
  rw [hexUnit, run_bind_of_ok (r := get) rfl]
  simp only [List.cons_append, List.nil_append, ha, hb, hc, hd]
  exact congrArg (Prod.mk _) hnext

theorem takes_unicodeEscape {cs : List Char} {n : Nat} (h : HexUnit cs n)
    (hn : n < 0xD800 ∨ 0xDFFF < n) (q : Option Char → Prop) :
    unicodeEscape.Takes cs (Char.ofNat n) q := by
  rw [← List.append_nil cs]
  refine (takes_hexUnit h anything).bind_anything ?_
  have hlow : ¬(0xDC00 ≤ n && n ≤ 0xDFFF) = true := by
    simp only [Bool.and_eq_true, decide_eq_true_eq]
    omega
  have hhigh : (n < 0xD800 || 0xDBFF < n) = true := by
    simp only [Bool.or_eq_true, decide_eq_true_eq]
    omega
  rw [if_neg hlow, if_pos hhigh]
  exact takes_pure _ q

theorem takes_pairChar (c : Char) (q : Option Char → Prop) : (pairChar c).Takes [c] () q := by
  refine Takes.of_peek ?_
  simp only [if_pos]
  exact takes_advance c q

theorem takes_unicodeEscape_pair {cs ds : List Char} {m n : Nat} (hcs : HexUnit cs m)
    (hds : HexUnit ds n) (hm : 0xD800 ≤ m ∧ m ≤ 0xDBFF) (hn : 0xDC00 ≤ n ∧ n ≤ 0xDFFF)
    (q : Option Char → Prop) :
    unicodeEscape.Takes (cs ++ '\\' :: 'u' :: ds)
      (Char.ofNat ((m - 0xD800) * 0x400 + (n - 0xDC00) + 0x10000)) q := by
  refine (takes_hexUnit hcs anything).bind_anything ?_
  have hlow : ¬(0xDC00 ≤ m && m ≤ 0xDFFF) = true := by
    simp only [Bool.and_eq_true, decide_eq_true_eq]
    omega
  have hhigh : ¬(m < 0xD800 || 0xDBFF < m) = true := by
    simp only [Bool.or_eq_true, decide_eq_true_eq]
    omega
  have hpair : ¬(n < 0xDC00 || 0xDFFF < n) = true := by
    simp only [Bool.or_eq_true, decide_eq_true_eq]
    omega
  rw [if_neg hlow, if_neg hhigh]
  refine (takes_pairChar '\\' anything).bind_anything ?_
  refine (takes_pairChar 'u' anything).bind_anything ?_
  rw [← List.append_nil ds]
  refine (takes_hexUnit hds anything).bind_anything ?_
  rw [if_neg hpair]
  exact takes_pure _ q

theorem takes_escape_letter {c e : Char} (h : (e, c) ∈ escapeLetters) (q : Option Char → Prop) :
    escape.Takes [e] c q := by
  have hletter : (do advance; pure c : JsonReader Char).Takes [e] c q :=
    (takes_pure c q).after_advance e
  simp only [escapeLetters, List.mem_cons, List.not_mem_nil, or_false, Prod.mk.injEq] at h
  rcases h with ⟨rfl, rfl⟩ | ⟨rfl, rfl⟩ | ⟨rfl, rfl⟩ | ⟨rfl, rfl⟩ | ⟨rfl, rfl⟩ | ⟨rfl, rfl⟩ |
    ⟨rfl, rfl⟩ | ⟨rfl, rfl⟩ <;> exact Takes.of_peek hletter

/-- A character is read back from every way to spell it. -/
theorem takes_stringChar {c : Char} {cs : List Char} (h : SpelledChar c cs)
    (q : Option Char → Prop) : stringChar.Takes cs (some c) q := by
  cases h with
  | plain h hquote hback =>
    refine Takes.of_peek ?_
    split
    · next heq => simp at heq
    · next heq => exact absurd (Option.some.inj heq) hquote
    · next heq => exact absurd (Option.some.inj heq) hback
    · next heq =>
      obtain rfl := Option.some.inj heq
      rw [if_neg (by omega)]
      exact (takes_pure (some c) q).after_advance c
  | letter h =>
    exact Takes.of_peek (((takes_escape_letter h q).map some).after_advance '\\')
  | number h hn =>
    refine Takes.of_peek (Takes.after_advance (Takes.map ?_ some) '\\')
    exact Takes.of_peek ((takes_unicodeEscape h hn q).after_advance 'u')
  | pair hcs hds hm hn =>
    refine Takes.of_peek (Takes.after_advance (Takes.map ?_ some) '\\')
    exact Takes.of_peek ((takes_unicodeEscape_pair hcs hds hm hn q).after_advance 'u')

theorem takes_stringChar_quote (q : Option Char → Prop) : stringChar.Takes ['"'] none q :=
  Takes.of_peek ((takes_pure none q).after_advance '"')

theorem takes_stringChars (q : Option Char → Prop) {cs ds : List Char} (h : SpelledChars cs ds) :
    ∀ fuel, cs.length < fuel → (stringChars fuel).Takes (ds ++ ['"']) cs q := by
  induction h with
  | nil =>
    intro fuel hlt
    obtain ⟨fuel, rfl⟩ := Nat.exists_eq_add_one_of_ne_zero (Nat.ne_of_gt hlt)
    rw [List.nil_append, ← List.append_nil ['"']]
    exact (takes_stringChar_quote anything).bind_anything (takes_pure [] q)
  | @cons c cs ds es hc _ ih =>
    intro fuel hlt
    obtain ⟨fuel, rfl⟩ := Nat.exists_eq_add_one_of_ne_zero (Nat.ne_zero_of_lt hlt)
    rw [List.append_assoc]
    refine (takes_stringChar hc anything).bind_anything ?_
    exact (ih fuel (by simpa using hlt)).map (c :: ·)

theorem SpelledChars.length_le {cs ds : List Char} (h : SpelledChars cs ds) :
    cs.length ≤ ds.length := by
  induction h with
  | nil => simp
  | @cons c cs ds es hc _ ih =>
    have hpos : 1 ≤ ds.length := by cases hc <;> simp
    rw [List.length_append, List.length_cons]
    omega

/-- A string is read back from every way to spell it, from behind the opening quote on. -/
theorem takes_string {s : String} {ds : List Char} (h : SpelledChars s.toList ds)
    (q : Option Char → Prop) : string.Takes (ds ++ ['"']) s q := by
  intro rest line column hrest
  have hlen := h.length_le
  have hfuel : s.toList.length < (ds ++ ['"'] ++ rest).length + 1 := by
    simp only [List.length_append, List.length_singleton]
    omega
  have htakes := (takes_stringChars q h _ hfuel).map String.ofList rest line column hrest
  rwa [String.ofList_toList] at htakes

/-! ## Numbers -/

/-- What follows does not go on with a number. -/
def endsNumber (c? : Option Char) : Prop :=
  ∀ c ∈ c?, c.isDigit = false ∧ c ≠ '.' ∧ c ≠ 'e' ∧ c ≠ 'E'

/-- What follows is no digit. -/
def notDigit (c? : Option Char) : Prop :=
  ∀ c ∈ c?, c.isDigit = false

theorem endsNumber.notDigit {c? : Option Char} (h : endsNumber c?) : notDigit c? :=
  fun c hc => (h c hc).1

theorem takes_peekDigit_none {c? : Option Char} (h : notDigit c?) : c?.bind digit? = none := by
  cases c? with
  | none => rfl
  | some c => simp [digit?, h c rfl]

theorem digit?_of_isDigit {c : Char} (h : c.isDigit = true) :
    digit? c = some (c.toNat - '0'.toNat) := if_pos h

theorem isJsonBlank_of_isDigit {c : Char} (h : c.isDigit = true) : isJsonBlank c = false := by
  rw [Bool.eq_false_iff]
  intro hb
  simp only [isJsonBlank, Bool.or_eq_true, decide_eq_true_eq] at hb
  rcases hb with ((rfl | rfl) | rfl) | rfl <;> simp at h

/-- All digits are taken. -/
theorem takes_digits :
    ∀ (cs : List Char), (∀ c ∈ cs, c.isDigit = true) → ∀ fuel, cs.length < fuel →
      (digits fuel).Takes cs (cs.map fun c => c.toNat - '0'.toNat) notDigit
  | [], _, fuel + 1, _ => by
    intro rest line column hrest
    obtain ⟨line', column', h⟩ := takes_peek rest.head? rest line column rfl
    refine ⟨line', column', ?_⟩
    rw [digits, run_bind_of_ok h, takes_peekDigit_none hrest]
    rfl
  | c :: cs, hcs, fuel + 1, hlt => by
    obtain ⟨hc, hcs⟩ := List.forall_mem_cons.1 hcs
    refine Takes.of_peek ?_
    rw [Option.bind_some, digit?_of_isDigit hc]
    exact ((takes_digits cs hcs fuel (by simpa using hlt)).map (_ :: ·)).after_advance c

theorem takes_allDigits {cs : List Char} (hcs : ∀ c ∈ cs, c.isDigit = true) :
    allDigits.Takes cs (cs.map fun c => c.toNat - '0'.toNat) notDigit := by
  intro rest line column hrest
  have hfuel : cs.length < (cs ++ rest).length + 1 := by
    rw [List.length_append]
    omega
  exact takes_digits cs hcs _ hfuel rest line column hrest

/-- Digits before the point add up as they are written, as long as the number fits. -/
theorem addWhole_digits :
    ∀ (cs : List Char) (value : Nat), Nat.ofDigitChars 10 cs value ≤ maxNatural →
      Significand.addWhole ⟨value, 0⟩ (cs.map fun c => c.toNat - '0'.toNat) =
        ⟨Nat.ofDigitChars 10 cs value, 0⟩
  | [], value, _ => by simp [Significand.addWhole]
  | c :: cs, value, h => by
    rw [Nat.ofDigitChars_cons] at h ⊢
    have hle : 10 * value + (c.toNat - '0'.toNat) ≤
        Nat.ofDigitChars 10 cs (10 * value + (c.toNat - '0'.toNat)) := by
      rw [Nat.ofDigitChars_eq_ofDigitChars_zero]
      have := Nat.le_mul_of_pos_left (10 * value + (c.toNat - '0'.toNat))
        (Nat.pow_pos (n := cs.length) (a := 10) (by omega))
      omega
    have hfits : value * 10 + (c.toNat - '0'.toNat) ≤ maxNatural := by
      rw [Nat.mul_comm]
      exact Nat.le_trans hle h
    rw [List.map_cons, Significand.addWhole, if_pos (by simpa using hfits), Nat.mul_comm]
    exact addWhole_digits cs _ h

/-- The digits of a number start with zero only if it is zero. -/
theorem eq_zero_of_natChars {n : Nat} {c : Char} {cs : List Char} (h : natChars n = c :: cs)
    (hc : c.toNat - '0'.toNat = 0) : n = 0 := by
  induction n using Nat.strongRecOn generalizing cs with
  | ind n ih =>
    rw [natChars, Nat.toDigits_eq_if (by omega)] at h
    by_cases hn : n < 10
    · rw [if_pos hn] at h
      obtain ⟨rfl, -⟩ := List.cons.inj h
      have hvalue : n.digitChar.toNat - '0'.toNat = n := Nat.toNat_digitChar_sub_48_of_lt_ten hn
      rwa [hvalue] at hc
    · rw [if_neg hn] at h
      obtain ⟨d, ds, hd⟩ := List.exists_cons_of_ne_nil (Nat.toDigits_ne_nil (n := n / 10) (b := 10))
      rw [hd, List.cons_append] at h
      obtain ⟨rfl, -⟩ := List.cons.inj h
      have := ih (n / 10) (by omega) hd
      omega

/-- A number has a first digit, and its digits add up to it. -/
theorem exists_natChars_eq (n : Nat) :
    ∃ c cs, natChars n = c :: cs ∧ c.isDigit = true ∧ (∀ d ∈ cs, d.isDigit = true) ∧
      Nat.ofDigitChars 10 cs (c.toNat - '0'.toNat) = n := by
  obtain ⟨c, cs, h⟩ := List.exists_cons_of_ne_nil (Nat.toDigits_ne_nil (n := n) (b := 10))
  have hall : ∀ d ∈ c :: cs, d.isDigit = true := fun d hd =>
    Nat.isDigit_of_mem_toDigits (by omega) (by omega) (h ▸ hd)
  obtain ⟨hc, hcs⟩ := List.forall_mem_cons.1 hall
  refine ⟨c, cs, h, hc, hcs, ?_⟩
  have hvalue := Nat.ofDigitChars_ten_toDigits (n := n)
  rwa [h, Nat.ofDigitChars_cons, Nat.mul_zero, Nat.zero_add] at hvalue

/-- Behind the digits of an integer nothing more is taken. -/
theorem takes_integerEnd {positive : Bool} {n : Nat} {m : JsonNumber}
    (h : integerNumber positive ⟨n, 0⟩ = pure m) :
    (do
      match ← peek with
      | some '.' => fractionPart positive ⟨n, 0⟩
      | some 'e' | some 'E' => exponentPart positive ⟨n, 0⟩
      | _ => integerNumber positive ⟨n, 0⟩ : JsonReader JsonNumber).Takes [] m endsNumber := by
  intro rest line column hrest
  obtain ⟨line', column', hpeek⟩ := takes_peek rest.head? rest line column rfl
  refine ⟨line', column', ?_⟩
  rw [run_bind_of_ok hpeek]
  split
  · next heq => exact absurd rfl (hrest _ heq).2.1
  · next heq => exact absurd rfl (hrest _ heq).2.2.1
  · next heq => exact absurd rfl (hrest _ heq).2.2.2
  · rw [h]
    rfl

/-- An integer is read back from its digits. -/
theorem takes_integer {positive : Bool} {n : Nat} (hn : n ≤ maxNatural) {m : JsonNumber}
    (hm : integerNumber positive ⟨n, 0⟩ = pure m) :
    (number positive).Takes (natChars n) m endsNumber := by
  obtain ⟨c, cs, h, hc, hcs, hvalue⟩ := exists_natChars_eq n
  rw [h]
  refine Takes.of_peek ?_
  simp only [digit?_of_isDigit hc]
  refine Takes.after_advance ?_ c
  by_cases hzero : c.toNat - '0'.toNat = 0
  · -- nothing may follow a zero
    obtain rfl := eq_zero_of_natChars h hzero
    obtain rfl : cs = [] := by
      rw [natChars, Nat.toDigits_zero] at h
      exact (List.cons.inj h).2.symm
    rw [if_pos hzero, hzero]
    intro rest line column hrest
    obtain ⟨line', column', hpeek⟩ := takes_peek rest.head? rest line column rfl
    rw [run_bind_of_ok hpeek, takes_peekDigit_none hrest.notDigit]
    exact takes_integerEnd hm rest line' column' hrest
  · rw [if_neg hzero, ← List.append_nil cs]
    refine (takes_allDigits hcs).bind ?_ fun rest (hrest : endsNumber _) => hrest.notDigit
    rw [addWhole_digits cs _ (by rwa [hvalue]), hvalue]
    exact takes_integerEnd hm

/-- A number is read back from its digits. -/
theorem takes_number {n : Nat} (hn : n ≤ maxNatural) :
    (number true).Takes (natChars n) (.natural n) endsNumber :=
  takes_integer hn rfl

/-- The size of a negative number is read back from its digits. -/
theorem takes_number_negative {n : Nat} (hpos : 0 < n) (hn : n ≤ Nat.pow 2 63) :
    (number false).Takes (natChars n) (.negative n) endsNumber := by
  have hmax : Nat.pow 2 63 ≤ maxNatural := by decide
  refine takes_integer (by omega) ?_
  simp only [integerNumber]
  rw [if_neg (by simp), if_neg (by simp), if_pos (by simp [hpos, hn])]

end ScriptCensus.JsonReader
