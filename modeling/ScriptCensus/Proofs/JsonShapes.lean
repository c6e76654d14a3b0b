import ScriptCensus.Json.Shape
import ScriptCensus.Proofs.JsonTokens

/-!
# Reading back values of a shape

`JsonValue.Spelled v cs` says that characters spell a value, with any blanks between its tokens.
Both layouts of a value are spellings of it (`spelled_prettyChars` for the one over several lines,
`spelled_compactChars` for the one on one line).

A value fits a shape if it can be told from what is written: numbers are small enough, names of
options and keys of members are different from each other, and no more brackets are opened at once
than are allowed (`Shape.Fits`). Whatever fits is read back from every spelling
(`Shape.takes_read`). The members of a record are taken one by one; `Fields.Fills` follows the slots
that they fill.
-/

namespace ScriptCensus

open JsonReader

/-! ## Spellings -/

/-- What stands before an item or member: blanks and, unless it is the first one, a comma among
them. -/
inductive Separator : Bool → List Char → Prop
  | first {bs : List Char} (hbs : Blank bs) : Separator true bs
  | next {bs bs' : List Char} (hbs : Blank bs) (hbs' : Blank bs') :
      Separator false (bs ++ ',' :: bs')

mutual

/-- Characters that spell a value. -/
inductive JsonValue.Spelled : JsonValue → List Char → Prop
  | null : Spelled .null "null".toList
  | bool_true : Spelled (.bool true) "true".toList
  | bool_false : Spelled (.bool false) "false".toList
  | number (n : JsonNumber) : Spelled (.number n) n.chars
  | string {s : String} {cs : List Char} (h : Quoted s cs) : Spelled (.string s) cs
  | array {items : List JsonValue} {cs : List Char} (h : SpelledItems true items cs) :
      Spelled (.array items) ('[' :: (cs ++ [']']))
  | object {members : List (String × JsonValue)} {cs : List Char}
      (h : SpelledMembers true members cs) : Spelled (.object members) ('\x7b' :: (cs ++ ['\x7d']))

/-- Characters that spell items up to the closing bracket; the first of them may be the first of the
array. -/
inductive JsonValue.SpelledItems : Bool → List JsonValue → List Char → Prop
  | nil {first : Bool} {bs : List Char} (hbs : Blank bs) : SpelledItems first [] bs
  | cons {first : Bool} {v : JsonValue} {vs : List JsonValue} {sep cs ds : List Char}
      (hsep : Separator first sep) (hv : Spelled v cs) (hvs : SpelledItems false vs ds) :
      SpelledItems first (v :: vs) (sep ++ (cs ++ ds))

/-- Characters that spell members up to the closing brace. -/
inductive JsonValue.SpelledMembers : Bool → List (String × JsonValue) → List Char → Prop
  | nil {first : Bool} {bs : List Char} (hbs : Blank bs) : SpelledMembers first [] bs
  | cons {first : Bool} {key : String} {v : JsonValue} {ms : List (String × JsonValue)}
      {sep ks bs bs' cs ds : List Char} (hsep : Separator first sep) (hkey : Quoted key ks)
      (hbs : Blank bs) (hbs' : Blank bs') (hv : Spelled v cs) (hms : SpelledMembers false ms ds) :
      SpelledMembers first ((key, v) :: ms) (sep ++ (ks ++ ((bs ++ ':' :: (bs' ++ cs)) ++ ds)))

end

namespace JsonValue

theorem blank_newLine (indent : Nat) : Blank (newLine indent) := by
  intro c hc
  rw [newLine, List.mem_cons, List.mem_replicate] at hc
  rcases hc with rfl | ⟨-, rfl⟩ <;> decide

theorem blank_space : Blank [' '] := by
  intro c hc
  rw [List.mem_singleton.1 hc]
  decide

mutual

/-- The layout over several lines is a spelling. -/
theorem spelled_prettyChars (indent : Nat) : ∀ v : JsonValue, v.Spelled (v.prettyChars indent)
  | .null => by rw [prettyChars]; exact .null
  | .bool true => by rw [prettyChars]; exact .bool_true
  | .bool false => by rw [prettyChars]; exact .bool_false
  | .number n => by rw [prettyChars]; exact .number n
  | .string s => by rw [prettyChars]; exact .string (quoted_jsonQuote s)
  | .array [] => by
    rw [prettyChars]
    exact .array (.nil blank_nil)
  | .array (v :: rest) => by
    obtain ⟨cs, h, hcs⟩ := exists_spelledItems indent (v :: rest) (by simp)
    rw [prettyChars, h]
    exact .array (hcs (.first (blank_newLine _)))
  | .object [] => by
    rw [prettyChars]
    exact .object (.nil blank_nil)
  | .object (m :: rest) => by
    obtain ⟨cs, h, hcs⟩ := exists_spelledMembers indent (m :: rest) (by simp)
    rw [prettyChars, h]
    exact .object (hcs (.first (blank_newLine _)))

theorem exists_spelledItems (indent : Nat) : ∀ vs : List JsonValue, vs ≠ [] →
    ∃ cs, prettyItems indent vs = newLine (indent + 1) ++ cs ++ [']'] ∧
      ∀ {first : Bool} {sep : List Char}, Separator first sep → SpelledItems first vs (sep ++ cs)
  | [], h => absurd rfl h
  | [v], _ => by
    refine ⟨prettyChars (indent + 1) v ++ newLine indent, ?_, fun hsep => ?_⟩
    · rw [prettyItems]
      simp only [List.append_assoc]
    · exact .cons hsep (spelled_prettyChars _ v) (.nil (blank_newLine _))
  | v :: w :: rest, _ => by
    obtain ⟨cs, h, hcs⟩ := exists_spelledItems indent (w :: rest) (by simp)
    refine ⟨prettyChars (indent + 1) v ++ ',' :: (newLine (indent + 1) ++ cs), ?_, fun hsep => ?_⟩
    · rw [prettyItems, h]
      simp only [List.append_assoc, List.cons_append]
    · have hnext : SpelledItems false (w :: rest) (',' :: newLine (indent + 1) ++ cs) :=
        hcs (.next blank_nil (blank_newLine _))
      exact .cons hsep (spelled_prettyChars _ v) hnext

theorem exists_spelledMembers (indent : Nat) : ∀ ms : List (String × JsonValue), ms ≠ [] →
    ∃ cs, prettyMembers indent ms = newLine (indent + 1) ++ cs ++ ['\x7d'] ∧
      ∀ {first : Bool} {sep : List Char}, Separator first sep → SpelledMembers first ms (sep ++ cs)
  | [], h => absurd rfl h
  | [(key, v)], _ => by
    refine ⟨jsonQuote key ++ (([] ++ ':' :: ([' '] ++ prettyChars (indent + 1) v)) ++
      newLine indent), ?_, fun hsep => ?_⟩
    · rw [prettyMembers]
      simp only [List.append_assoc, List.cons_append, List.nil_append]
    · exact .cons hsep (quoted_jsonQuote key) blank_nil blank_space (spelled_prettyChars _ v)
        (.nil (blank_newLine _))
  | (key, v) :: m :: rest, _ => by
    obtain ⟨cs, h, hcs⟩ := exists_spelledMembers indent (m :: rest) (by simp)
    refine ⟨jsonQuote key ++ (([] ++ ':' :: ([' '] ++ prettyChars (indent + 1) v)) ++
      ',' :: (newLine (indent + 1) ++ cs)), ?_, fun hsep => ?_⟩
    · rw [prettyMembers, h]
      simp only [List.append_assoc, List.cons_append, List.nil_append]
    · have hnext : SpelledMembers false (m :: rest) (',' :: newLine (indent + 1) ++ cs) :=
        hcs (.next blank_nil (blank_newLine _))
      exact .cons hsep (quoted_jsonQuote key) blank_nil blank_space (spelled_prettyChars _ v) hnext

end

mutual

/-- The layout on one line is a spelling. -/
theorem spelled_compactChars : ∀ v : JsonValue, v.Spelled v.compactChars
  | .null => by rw [compactChars]; exact .null
  | .bool true => by rw [compactChars]; exact .bool_true
  | .bool false => by rw [compactChars]; exact .bool_false
  | .number n => by rw [compactChars]; exact .number n
  | .string s => by rw [compactChars]; exact .string (quoted_jsonQuote s)
  | .array [] => by
    rw [compactChars, compactItems]
    exact .array (.nil blank_nil)
  | .array (v :: rest) => by
    obtain ⟨cs, h, hcs⟩ := exists_compactItems (v :: rest) (by simp)
    rw [compactChars, h]
    exact .array (hcs (.first blank_nil))
  | .object [] => by
    rw [compactChars, compactMembers]
    exact .object (.nil blank_nil)
  | .object (m :: rest) => by
    obtain ⟨cs, h, hcs⟩ := exists_compactMembers (m :: rest) (by simp)
    rw [compactChars, h]
    exact .object (hcs (.first blank_nil))

theorem exists_compactItems : ∀ vs : List JsonValue, vs ≠ [] →
    ∃ cs, compactItems vs = cs ++ [']'] ∧
      ∀ {first : Bool} {sep : List Char}, Separator first sep → SpelledItems first vs (sep ++ cs)
  | [], h => absurd rfl h
  | [v], _ => by
    refine ⟨compactChars v ++ [], ?_, fun hsep => ?_⟩
    · rw [compactItems, List.append_nil]
    · exact .cons hsep (spelled_compactChars v) (.nil blank_nil)
  | v :: w :: rest, _ => by
    obtain ⟨cs, h, hcs⟩ := exists_compactItems (w :: rest) (by simp)
    refine ⟨compactChars v ++ ',' :: cs, ?_, fun hsep => ?_⟩
    · rw [compactItems, h]
      simp only [List.append_assoc, List.cons_append]
    · have hnext : SpelledItems false (w :: rest) ([','] ++ cs) :=
        hcs (.next blank_nil blank_nil)
      exact .cons hsep (spelled_compactChars v) hnext

theorem exists_compactMembers : ∀ ms : List (String × JsonValue), ms ≠ [] →
    ∃ cs, compactMembers ms = cs ++ ['\x7d'] ∧
      ∀ {first : Bool} {sep : List Char}, Separator first sep → SpelledMembers first ms (sep ++ cs)
  | [], h => absurd rfl h
  | [(key, v)], _ => by
    refine ⟨jsonQuote key ++ (([] ++ ':' :: ([] ++ compactChars v)) ++ []), ?_, fun hsep => ?_⟩
    · rw [compactMembers]
      simp only [List.append_assoc, List.cons_append, List.nil_append]
    · exact .cons hsep (quoted_jsonQuote key) blank_nil blank_nil (spelled_compactChars v)
        (.nil blank_nil)
  | (key, v) :: m :: rest, _ => by
    obtain ⟨cs, h, hcs⟩ := exists_compactMembers (m :: rest) (by simp)
    refine ⟨jsonQuote key ++ (([] ++ ':' :: ([] ++ compactChars v)) ++ ',' :: cs), ?_,
      fun hsep => ?_⟩
    · rw [compactMembers, h]
      simp only [List.append_assoc, List.cons_append, List.nil_append]
    · have hnext : SpelledMembers false (m :: rest) ([','] ++ cs) :=
        hcs (.next blank_nil blank_nil)
      exact .cons hsep (quoted_jsonQuote key) blank_nil blank_nil (spelled_compactChars v) hnext

end

/-! ## Where spellings start and end -/

theorem exists_natChars (n : Nat) : ∃ c cs, natChars n = c :: cs ∧ c.isDigit = true := by
  obtain ⟨c, cs, h⟩ := List.exists_cons_of_ne_nil (Nat.toDigits_ne_nil (n := n) (b := 10))
  exact ⟨c, cs, h, Nat.isDigit_of_mem_toDigits (by omega) (by omega) (h ▸ List.mem_cons_self)⟩

theorem exists_write (format : NumberFormat) (d : Decimal) :
    ∃ c cs, format.write d = c :: cs ∧ c.isDigit = true := by
  obtain ⟨c, cs, h, hc⟩ := exists_natChars d.digits
  unfold NumberFormat.write
  simp only [h]
  split
  · exact ⟨c, _, rfl, hc⟩
  · split
    · next hpoint =>
      simp only [Bool.and_eq_true, decide_eq_true_eq] at hpoint
      obtain ⟨k, hk⟩ : ∃ k, (((c :: cs).length : Int) + d.exponent).toNat = k + 1 :=
        ⟨_, (Nat.succ_pred_eq_of_pos (by omega)).symm⟩
      rw [hk]
      exact ⟨c, _, rfl, hc⟩
    · split
      · exact ⟨'0', _, rfl, by decide⟩
      · exact ⟨c, _, rfl, hc⟩

theorem exists_number_chars (n : JsonNumber) :
    ∃ c cs, n.chars = c :: cs ∧ (c = '-' ∨ c.isDigit = true) := by
  cases n with
  | natural n =>
    obtain ⟨c, cs, h, hc⟩ := exists_natChars n
    exact ⟨c, cs, h, Or.inr hc⟩
  | negative n => exact ⟨'-', _, rfl, Or.inl rfl⟩
  | float f =>
    rw [JsonNumber.chars, floatChars]
    split
    · exact ⟨'-', _, rfl, Or.inl rfl⟩
    · split
      · exact ⟨'0', _, rfl, Or.inr (by decide)⟩
      · obtain ⟨c, cs, h, hc⟩ := exists_write .json (shortestDecimal (binaryValueOf f))
        exact ⟨c, cs, h, Or.inr hc⟩

/-- A spelling starts with a character that tells it from blanks, from the end of an array and,
unless it is null, from null. -/
theorem Spelled.exists_cons {v : JsonValue} {cs : List Char} (h : v.Spelled cs) :
    ∃ c cs', cs = c :: cs' ∧ isJsonBlank c = false ∧ c ≠ ']' ∧ (c = 'n' → v = .null) := by
  cases h with
  | null => exact ⟨'n', _, rfl, by decide, by decide, fun _ => rfl⟩
  | bool_true => exact ⟨'t', _, rfl, by decide, by decide, fun h => absurd h (by decide)⟩
  | bool_false => exact ⟨'f', _, rfl, by decide, by decide, fun h => absurd h (by decide)⟩
  | number n =>
    obtain ⟨c, cs', h, hc⟩ := exists_number_chars n
    have hne : ∀ d : Char, d ≠ '-' → d.isDigit = false → c ≠ d := by
      rintro d hminus hdigit rfl
      rcases hc with hc | hc
      · exact hminus hc
      · simp [hc] at hdigit
    refine ⟨c, cs', h, ?_, hne _ (by decide) (by decide), fun hn => ?_⟩
    · simp [isJsonBlank, hne ' ', hne '\n', hne '\t', hne '\r']
    · exact absurd hn (hne _ (by decide) (by decide))
  | string h =>
    obtain ⟨ds, -, rfl⟩ := h
    exact ⟨'"', _, rfl, by decide, by decide, fun h => absurd h (by decide)⟩
  | array _ => exact ⟨'[', _, rfl, by decide, by decide, fun h => absurd h (by decide)⟩
  | object _ => exact ⟨'\x7b', _, rfl, by decide, by decide, fun h => absurd h (by decide)⟩

/-- Blanks do not go on with a number. -/
theorem endsNumber_blank {bs : List Char} (hbs : Blank bs) {rest : List Char}
    (hrest : endsNumber rest.head?) : endsNumber (bs ++ rest).head? := by
  cases bs with
  | nil => exact hrest
  | cons b bs =>
    have hb := (List.forall_mem_cons.1 hbs).1
    rintro d ⟨⟩
    refine ⟨?_, ?_, ?_, ?_⟩
    · by_contra hdigit
      rw [isJsonBlank] at hb
      simp only [Bool.or_eq_true, decide_eq_true_eq] at hb
      rcases hb with ((rfl | rfl) | rfl) | rfl <;> exact hdigit (by decide)
    all_goals
      rintro rfl
      simp [isJsonBlank] at hb

theorem endsNumber_of_separator {sep : List Char} (h : Separator false sep) (rest : List Char) :
    endsNumber (sep ++ rest).head? := by
  cases h with
  | next hbs _ =>
    rw [List.append_assoc]
    exact endsNumber_blank hbs (by rintro c ⟨⟩; decide)

theorem SpelledItems.endsNumber {vs : List JsonValue} {cs rest : List Char}
    (h : SpelledItems false vs cs) (hrest : rest.head? = some ']') :
    endsNumber (cs ++ rest).head? := by
  cases h with
  | nil hbs => exact endsNumber_blank hbs (by rw [hrest]; rintro c ⟨⟩; decide)
  | cons hsep _ _ =>
    rw [List.append_assoc]
    exact endsNumber_of_separator hsep _

theorem SpelledMembers.endsNumber {ms : List (String × JsonValue)} {cs rest : List Char}
    (h : SpelledMembers false ms cs) (hrest : rest.head? = some '\x7d') :
    endsNumber (cs ++ rest).head? := by
  cases h with
  | nil hbs => exact endsNumber_blank hbs (by rw [hrest]; rintro c ⟨⟩; decide)
  | cons hsep _ _ _ _ =>
    rw [List.append_assoc]
    exact endsNumber_of_separator hsep _

theorem SpelledItems.length_le {first : Bool} {vs : List JsonValue} {cs : List Char}
    (h : SpelledItems first vs cs) : vs.length ≤ cs.length := by
  induction vs generalizing first cs with
  | nil => simp
  | cons v vs ih =>
    cases h with
    | cons hsep hv hvs =>
      obtain ⟨c, cs', rfl, -⟩ := hv.exists_cons
      have := ih hvs
      simp only [List.length_append, List.length_cons]
      omega

theorem SpelledMembers.length_le {first : Bool} {ms : List (String × JsonValue)} {cs : List Char}
    (h : SpelledMembers first ms cs) : ms.length ≤ cs.length := by
  induction ms generalizing first cs with
  | nil => simp
  | cons m ms ih =>
    cases h with
    | cons hsep hkey hbs hbs' hv hms =>
      have := ih hms
      simp only [List.length_append, List.length_cons]
      omega

end JsonValue

/-! ## Arrays and objects -/

namespace JsonReader

open JsonValue

variable {α σ : Type}

theorem takes_enclosed {body : JsonReader α} {close : JsonReader Unit} {cs ds : List Char} {a : α}
    {p q : Option Char → Prop} (hbody : body.Takes cs a p) (hclose : close.Takes ds () q)
    (hp : ∀ rest, q rest.head? → p (ds ++ rest).head?) (c : Char) :
    (enclosed body close).Takes (c :: (cs ++ ds)) a q := by
  refine Takes.after_advance ?_ c
  refine (takes_outcome hbody).bind ?_ hp
  rw [← List.append_nil ds]
  exact (takes_outcome hclose).bind (takes_pure a q) fun _ hq => hq

theorem takes_closeArray {bs : List Char} (hbs : Blank bs) (q : Option Char → Prop) :
    closeArray.Takes (bs ++ [']']) () q :=
  Takes.of_peekToken hbs (by decide) (takes_advance ']' q)

theorem takes_closeObject {bs : List Char} (hbs : Blank bs) (q : Option Char → Prop) :
    closeObject.Takes (bs ++ ['\x7d']) () q :=
  Takes.of_peekToken hbs (by decide) (takes_advance '\x7d' q)

theorem takes_hasItem_false {bs : List Char} (hbs : Blank bs) (first : Bool) :
    (hasItem first).Takes bs false (char ']') := by
  rw [← List.append_nil bs]
  exact (takes_peekToken hbs (some ']') (by rintro c ⟨⟩; decide)).bind
    (takes_pure false _) fun _ hq => hq

theorem takes_hasItem_true {first : Bool} {sep : List Char} (hsep : Separator first sep) {c : Char}
    (hblank : isJsonBlank c = false) (hc : c ≠ ']') : (hasItem first).Takes sep true (char c) := by
  have hpeek : ∀ {bs : List Char}, Blank bs → peekToken.Takes bs (some c) (char c) := fun hbs =>
    takes_peekToken hbs (some c) (by rintro d ⟨⟩; exact hblank)
  cases hsep with
  | first hbs =>
    rw [← List.append_nil sep]
    refine (hpeek hbs).bind ?_ fun _ hq => hq
    split
    · next heq => simp at heq
    · next heq => exact absurd (Option.some.inj heq) hc
    · exact takes_pure true _
  | @next bs bs' hbs hbs' =>
    refine Takes.of_peekToken hbs (by decide) (Takes.after_advance ?_ ',')
    rw [← List.append_nil bs']
    refine (hpeek hbs').bind ?_ fun _ hq => hq
    split
    · next heq => exact absurd (Option.some.inj heq) hc
    · exact takes_pure true _
    · next heq => simp at heq

/-- Items are read back one by one. -/
theorem takes_items {item : JsonReader α} (toValue : α → JsonValue) :
    ∀ (as : List α), (∀ a ∈ as, ∀ cs, (toValue a).Spelled cs → item.Takes cs a endsNumber) →
      ∀ {first : Bool} {cs : List Char}, SpelledItems first (as.map toValue) cs →
        ∀ fuel, as.length < fuel → (items item fuel first).Takes cs as (char ']')
  | [], _, first, cs, h, fuel + 1, _ => by
    cases h with
    | nil hbs =>
      rw [← List.append_nil cs]
      exact (takes_hasItem_false hbs first).bind (takes_pure [] _) fun _ hq => hq
  | a :: as, hitem, first, _, h, fuel + 1, hlt => by
    obtain ⟨ha, has⟩ := List.forall_mem_cons.1 hitem
    cases h with
    | @cons _ _ _ sep cs ds hsep hv hvs =>
      obtain ⟨c, cs', rfl, hblank, hc, -⟩ := hv.exists_cons
      refine (takes_hasItem_true hsep hblank hc).bind ?_ fun _ _ => rfl
      refine (ha _ hv).bind ?_ fun rest hrest => hvs.endsNumber hrest
      exact (takes_items toValue as has hvs fuel (by simpa using hlt)).map (a :: ·)

theorem takes_hasMember_false {bs : List Char} (hbs : Blank bs) (first : Bool) :
    (hasMember first).Takes bs false (char '\x7d') := by
  rw [← List.append_nil bs]
  exact (takes_peekToken hbs (some '\x7d') (by rintro c ⟨⟩; decide)).bind
    (takes_pure false _) fun _ hq => hq

theorem takes_hasMember_true {first : Bool} {sep : List Char} (hsep : Separator first sep) :
    (hasMember first).Takes sep true (char '"') := by
  have hpeek : ∀ {bs : List Char}, Blank bs → peekToken.Takes bs (some '"') (char '"') := fun hbs =>
    takes_peekToken hbs (some '"') (by rintro d ⟨⟩; decide)
  cases hsep with
  | first hbs =>
    rw [← List.append_nil sep]
    exact (hpeek hbs).bind (takes_pure true _) fun _ hq => hq
  | @next bs bs' hbs hbs' =>
    refine Takes.of_peekToken hbs (by decide) (Takes.after_advance ?_ ',')
    rw [← List.append_nil bs']
    exact (hpeek hbs').bind (takes_pure true _) fun _ hq => hq

theorem takes_key {k : String} {cs : List Char} (h : Quoted k cs) (q : Option Char → Prop) :
    key.Takes cs k q := by
  obtain ⟨ds, hds, rfl⟩ := h
  exact (takes_string hds q).after_advance '"'

theorem Quoted.head? {k : String} {ks : List Char} (h : Quoted k ks) (cs rest : List Char) :
    char '"' (ks ++ cs ++ rest).head? := by
  obtain ⟨ds, -, rfl⟩ := h
  rfl

theorem takes_colon {bs : List Char} (hbs : Blank bs) (q : Option Char → Prop) :
    colon.Takes (bs ++ [':']) () q :=
  Takes.of_peekToken hbs (by decide) (takes_advance ':' q)

/-- A reader takes the value of a member from every spelling, with the colon before it. -/
def TakesMember (r : JsonReader σ) (v : JsonValue) (s : σ) : Prop :=
  ∀ {bs bs' cs : List Char}, Blank bs → Blank bs' → v.Spelled cs →
    r.Takes (bs ++ ':' :: (bs' ++ cs)) s endsNumber

/-- Some members, one after another, lead from one state to another. -/
inductive Leads (memberOf : String → σ → JsonReader σ) :
    List (String × JsonValue) → σ → σ → Prop
  | nil (s : σ) : Leads memberOf [] s s
  | cons {key : String} {v : JsonValue} {ms : List (String × JsonValue)} {s t u : σ}
      (h : TakesMember (memberOf key s) v t) (hms : Leads memberOf ms t u) :
      Leads memberOf ((key, v) :: ms) s u

/-- Members are read back one by one. -/
theorem takes_members {memberOf : String → σ → JsonReader σ} {ms : List (String × JsonValue)}
    {s t : σ} (h : Leads memberOf ms s t) {first : Bool} {cs : List Char}
    (hms : SpelledMembers first ms cs) (fuel : Nat) (hlt : ms.length < fuel) :
    (members memberOf fuel first s).Takes cs t (char '\x7d') := by
  induction h generalizing first cs fuel with
  | nil s =>
    cases hms with
    | nil hbs =>
      cases fuel with
      | zero => simp at hlt
      | succ fuel =>
        rw [← List.append_nil cs]
        exact (takes_hasMember_false hbs first).bind (takes_pure s _) fun _ hq => hq
  | @cons key v ms s t u h _ ih =>
    cases fuel with
    | zero => simp at hlt
    | succ fuel =>
      cases hms with
      | cons hsep hkey hbs hbs' hv hrest =>
        refine (takes_hasMember_true hsep).bind ?_ fun rest _ => hkey.head? _ rest
        refine (takes_key hkey anything).bind_anything ?_
        refine (h hbs hbs' hv).bind ?_ fun rest hq => hrest.endsNumber hq
        exact ih hrest fuel (by simpa using hlt)

end JsonReader

/-! ## Values that fit a shape -/

mutual

/-- Values that can be told from what is written, with at most the given number of brackets open at
once. -/
def Shape.Fits : {α : Type} → Shape α → Nat → α → Prop
  | _, .text _, _, _ => True
  | _, .natural bits, _, n => n < Nat.pow 2 bits ∧ n ≤ maxNatural
  | _, .boolean, _, _ => True
  | _, .optional _, _, none => True
  | _, .optional item, levels, some a => item.Fits levels a ∧ item.toValue a ≠ .null
  | _, .list item, levels, as => ∃ fewer, levels = fewer + 1 ∧ ∀ a ∈ as, item.Fits fewer a
  | _, .choice options name, _, a => options.find? (name · == name a) = some a
  | _, .record _ _ fields, levels, a =>
    ∃ fewer, levels = fewer + 1 ∧ fields.keys.Nodup ∧ fields.Fits fewer a
  | _, .mapped shape wrap unwrap, levels, b => wrap (unwrap b) = b ∧ shape.Fits levels (unwrap b)

/-- Records of which each member fits its shape. -/
def Fields.Fits : {α : Type} → Fields α → Nat → α → Prop
  | _, .nil, _, _ => True
  | _, .cons _ _ item rest, levels, (a, b) => item.Fits levels a ∧ rest.Fits levels b

end

namespace Fields

/-- Takes the value of a member of a given key, if there is one. -/
def KnownMember {α : Type} (fields : Fields α) (levels : Nat) (key : String) (v : JsonValue)
    (s t : fields.Slots) : Prop :=
  ∃ reader, fields.readMember levels key s = some reader ∧ reader.TakesMember v t

/-- Some members, one after another, fill slots. -/
inductive Fills {α : Type} (fields : Fields α) (levels : Nat) :
    List (String × JsonValue) → fields.Slots → fields.Slots → Prop
  | nil (s : fields.Slots) : Fills fields levels [] s s
  | cons {key : String} {v : JsonValue} {ms : List (String × JsonValue)} {s t u : fields.Slots}
      (h : fields.KnownMember levels key v s t) (hms : Fills fields levels ms t u) :
      Fills fields levels ((key, v) :: ms) s u

variable {α β : Type} {levels : Nat}

theorem keys_toMembers : ∀ {α : Type} (fields : Fields α) (a : α),
    (fields.toMembers a).map (·.1) = fields.keys
  | _, .nil, _ => by rw [toMembers, keys, List.map_nil]
  | _, .cons _ _ _ rest, (_, b) => by
    rw [toMembers, keys, List.map_cons, keys_toMembers rest b]

/-- Slots from the first one and the others. -/
def Slots.cons {key : String} {absent? : Option α} {item : Shape α} {rest : Fields β}
    (first : Option α) (others : rest.Slots) : (Fields.cons key absent? item rest).Slots :=
  (first, others)

theorem others_cons (key : String) (absent? : Option α) (item : Shape α) {rest : Fields β}
    (first : Option α) (others : rest.Slots) :
    (Slots.cons first others : (Fields.cons key absent? item rest).Slots).others = others :=
  rfl

theorem readMember_cons (levels : Nat) (key : String) (absent? : Option α) (item : Shape α)
    (rest : Fields β) (k : String) (first : Option α) (others : rest.Slots) :
    (Fields.cons key absent? item rest).readMember levels k (Slots.cons first others) =
      if k = key then
        some do
          if first.isSome then JsonReader.failSomewhere (.duplicateField key)
          else
            JsonReader.colon
            return Slots.cons (some (← item.read levels)) others
      else
        (rest.readMember levels k others).map fun reader => do
          return Slots.cons first (← reader) := by
  rw [readMember]
  rfl

theorem readItems_cons (key : String) (absent? : Option α) (item : Shape α) (rest : Fields β)
    (name : String) (count levels index : Nat) :
    (Fields.cons key absent? item rest).readItems name count levels index = (do
      if ← hasItem (index = 0) then
        let a ← item.read levels
        return (a, ← rest.readItems name count levels (index + 1))
      else
        match absent? with
        | some a => return (a, ← rest.readItems name count levels (index + 1))
        | none => failSomewhere (tooShort name index count)) := by
  cases absent? <;> rw [readItems]

theorem fill_cons (key : String) (absent? : Option α) (item : Shape α) {rest : Fields β} (a : α)
    {b : β} {others : rest.Slots} (h : rest.fill others = .ok b) :
    (Fields.cons key absent? item rest).fill (Slots.cons (some a) others) = .ok (a, b) := by
  rw [fill, others_cons, h]
  rfl

/-- Members with other keys leave the first slot as it is. -/
theorem Fills.lift {key : String} {absent? : Option α} {item : Shape α} {rest : Fields β}
    {ms : List (String × JsonValue)} {s t : rest.Slots} (h : rest.Fills levels ms s t)
    (hkeys : ∀ m ∈ ms, m.1 ≠ key) (first : Option α) :
    (Fields.cons key absent? item rest).Fills levels ms (.cons first s) (.cons first t) := by
  induction h with
  | nil s => exact .nil _
  | @cons k v ms s t u h _ ih =>
    obtain ⟨hk, hkeys⟩ := List.forall_mem_cons.1 hkeys
    obtain ⟨reader, hreader, htakes⟩ := h
    refine .cons ⟨do return .cons first (← reader), ?_, fun hbs hbs' hv => ?_⟩ (ih hkeys)
    · rw [readMember_cons, if_neg hk, hreader, Option.map_some]
    · exact (htakes hbs hbs' hv).map (Slots.cons first ·)

theorem Fills.leads {fields : Fields α} {ms : List (String × JsonValue)} {s t : fields.Slots}
    (h : fields.Fills levels ms s t) (closed : Bool) :
    JsonReader.Leads (JsonReader.knownMembers.memberOf
      (fun key slots => fields.readMember levels key slots) closed fields.keys) ms s t := by
  induction h with
  | nil s => exact .nil s
  | cons h _ ih =>
    obtain ⟨reader, hreader, htakes⟩ := h
    refine .cons ?_ ih
    rwa [JsonReader.knownMembers.memberOf, hreader]

end Fields

/-! ## Reading back -/

namespace JsonReader

/-- A reader that looks at the next token, of which there has to be one. -/
theorem Takes.of_token {α : Type} {f : Char → JsonReader α} {bs : List Char} (hbs : Blank bs)
    {c : Char} (hc : isJsonBlank c = false) {cs : List Char} {a : α} {q : Option Char → Prop}
    (h : (f c).Takes (c :: cs) a q) : (token >>= f).Takes (bs ++ c :: cs) a q := by
  have htoken : token.Takes bs c (char c) := by
    rw [← List.append_nil bs]
    exact (takes_peekToken hbs (some c) (by rintro d ⟨⟩; exact hc)).bind (takes_pure c _)
      fun _ hq => hq
  exact htoken.bind h fun _ _ => rfl

theorem takes_textOf (expected : String) {s : String} {bs cs : List Char} (hbs : Blank bs)
    (h : Quoted s cs) (q : Option Char → Prop) : (textOf expected).Takes (bs ++ cs) s q := by
  obtain ⟨ds, hds, rfl⟩ := h
  exact takes_located (Takes.of_token hbs (by decide) ((takes_string hds q).after_advance '"'))

theorem takes_word : ∀ (cs : List Char) (q : Option Char → Prop), (word cs).Takes cs () q
  | [], q => takes_pure () q
  | c :: cs, q => by
    refine Takes.of_peek ?_
    simp only [if_pos]
    exact (takes_word cs q).after_advance c

/-- What fits into a number of bits is natural, and kept exactly if there are not too many bits. -/
theorem naturalOf_eq_ok {bits : Nat} {m : JsonNumber} {n : Nat} (h : naturalOf bits m = .ok n) :
    m = .natural n ∧ n < Nat.pow 2 bits := by
  cases m with
  | natural k =>
    rw [naturalOf] at h
    split at h
    · next hlt =>
      cases h
      exact ⟨rfl, hlt⟩
    · cases h
  | negative k => cases h
  | float f => cases h

theorem le_maxNatural_of_lt {bits n : Nat} (hbits : bits ≤ 64) (hn : n < Nat.pow 2 bits) :
    n ≤ maxNatural := by
  have hpow : Nat.pow 2 bits ≤ Nat.pow 2 64 := Nat.pow_le_pow_right (by omega) hbits
  have hmax : maxNatural = Nat.pow 2 64 - 1 := rfl
  omega

theorem takes_naturalBelow {bits n : Nat} (hbits : n < Nat.pow 2 bits) (hn : n ≤ maxNatural)
    {bs : List Char} (hbs : Blank bs) :
    (naturalBelow bits).Takes (bs ++ natChars n) n endsNumber := by
  obtain ⟨c, cs, h, hc⟩ := JsonValue.exists_natChars n
  have hnumber := takes_number hn
  rw [h] at hnumber ⊢
  refine takes_located (Takes.of_token hbs (isJsonBlank_of_isDigit hc) ?_)
  split
  · simp at hc
  · rw [if_pos hc, ← List.append_nil (c :: cs)]
    refine hnumber.bind ?_ fun _ hq => hq
    rw [naturalOf, if_pos hbits]
    exact takes_pure n _

theorem takes_truth (b : Bool) {bs cs : List Char} (hbs : Blank bs)
    (h : (JsonValue.bool b).Spelled cs) (q : Option Char → Prop) :
    truth.Takes (bs ++ cs) b q := by
  cases h with
  | bool_true =>
    refine takes_located (Takes.of_token hbs (by decide) (Takes.after_advance ?_ 't'))
    exact (takes_word ['r', 'u', 'e'] q).map fun _ => true
  | bool_false =>
    refine takes_located (Takes.of_token hbs (by decide) (Takes.after_advance ?_ 'f'))
    exact (takes_word ['a', 'l', 's', 'e'] q).map fun _ => false

theorem takes_optionName {α : Type} (levels : Nat) {options : List α} {name : α → String} {a : α}
    (h : options.find? (name · == name a) = some a) {bs cs : List Char} (hbs : Blank bs)
    (hcs : Quoted (name a) cs) (q : Option Char → Prop) :
    (optionName levels options name).Takes (bs ++ cs) a q := by
  obtain ⟨ds, hds, rfl⟩ := hcs
  refine Takes.of_token hbs (by decide) ?_
  refine takes_located (Takes.of_token blank_nil (by decide) (Takes.after_advance ?_ '"'))
  rw [← List.append_nil (ds ++ _)]
  refine (takes_string hds anything).bind_anything ?_
  rw [optionOf, h]
  exact takes_pure a q

end JsonReader

namespace Shape

variable {α : Type} {levels : Nat} {bs cs : List Char}

theorem takes_read_none (item : Shape α) (levels : Nat) (hbs : Blank bs)
    (hcs : ((optional item).toValue none).Spelled cs) :
    ((optional item).read levels).Takes (bs ++ cs) none endsNumber := by
  rw [toValue] at hcs
  cases hcs
  rw [read]
  refine Takes.of_peekToken hbs (by decide) (Takes.after_advance ?_ 'n')
  exact (takes_word ['u', 'l', 'l'] _).map fun _ => none

/-- What is not written as null is told from null by its first character. -/
theorem takes_read_some {item : Shape α} {a : α} (hnull : item.toValue a ≠ .null)
    (hitem : ∀ {cs : List Char}, (item.toValue a).Spelled cs →
      (item.read levels).Takes cs a endsNumber)
    (hbs : Blank bs) (hcs : ((optional item).toValue (some a)).Spelled cs) :
    ((optional item).read levels).Takes (bs ++ cs) (some a) endsNumber := by
  rw [toValue] at hcs
  have htakes := hitem hcs
  obtain ⟨c, cs', rfl, hblank, -, hc⟩ := hcs.exists_cons
  rw [read]
  refine Takes.of_peekToken hbs hblank ?_
  split
  · next heq => exact absurd (hc (Option.some.inj heq)) hnull
  · exact htakes.map some

theorem takes_read_list {item : Shape α} {as : List α}
    (hitem : ∀ a ∈ as, ∀ cs, (item.toValue a).Spelled cs → (item.read levels).Takes cs a endsNumber)
    (hbs : Blank bs) (hcs : ((list item).toValue as).Spelled cs) :
    ((list item).read (levels + 1)).Takes (bs ++ cs) as endsNumber := by
  rw [toValue] at hcs
  cases hcs with
  | array hitems =>
    rw [read]
    refine takes_located (Takes.of_token hbs (by decide) ?_)
    refine takes_enclosed (p := char ']') (takes_enough fun fuel hfuel => ?_)
      (takes_closeArray blank_nil _) (fun _ _ => rfl) '['
    refine takes_items item.toValue as hitem hitems fuel ?_
    have hlen := hitems.length_le
    rw [List.length_map] at hlen
    omega

/-- A record is read back once its members fill the slots that it is made of. -/
theorem takes_read_record {name : String} {closed : Bool} {fields : Fields α} {a : α}
    {slots : fields.Slots} (hfills : fields.Fills levels (fields.toMembers a) fields.noSlots slots)
    (hfill : fields.fill slots = .ok a) (hbs : Blank bs)
    (hcs : ((record name closed fields).toValue a).Spelled cs) :
    ((record name closed fields).read (levels + 1)).Takes (bs ++ cs) a endsNumber := by
  rw [toValue] at hcs
  cases hcs with
  | @object _ cs hmembers =>
    rw [read]
    refine takes_located (Takes.of_token hbs (by decide) ?_)
    refine takes_enclosed (p := char '\x7d') ?_ (takes_closeObject blank_nil _) (fun _ _ => rfl)
      '\x7b'
    rw [← List.append_nil cs]
    refine Takes.bind (a := slots) (takes_enough fun fuel hfuel => ?_) ?_ fun _ hq => hq
    · have hlen := hmembers.length_le
      exact takes_members (hfills.leads closed) hmembers fuel (by omega)
    · rw [hfill]
      exact takes_pure a _

end Shape

mutual

/-- What fits a shape is read back from every spelling. -/
theorem Shape.takes_read : {α : Type} → (shape : Shape α) → (levels : Nat) → (a : α) →
    shape.Fits levels a → ∀ {bs cs : List Char}, Blank bs → (shape.toValue a).Spelled cs →
      (shape.read levels).Takes (bs ++ cs) a endsNumber
  | _, .text expected, levels, s, _, bs, cs, hbs, hcs => by
    rw [Shape.toValue] at hcs
    cases hcs with
    | string hcs =>
      rw [Shape.read]
      exact takes_textOf expected hbs hcs _
  | _, .natural bits, levels, n, h, bs, cs, hbs, hcs => by
    rw [Shape.toValue] at hcs
    rw [Shape.Fits] at h
    cases hcs
    rw [Shape.read]
    exact takes_naturalBelow h.1 h.2 hbs
  | _, .boolean, levels, b, _, bs, cs, hbs, hcs => by
    rw [Shape.toValue] at hcs
    rw [Shape.read]
    exact takes_truth b hbs hcs _
  | _, .optional item, levels, none, _, bs, cs, hbs, hcs => item.takes_read_none levels hbs hcs
  | _, .optional item, levels, some a, h, bs, cs, hbs, hcs => by
    rw [Shape.Fits] at h
    exact Shape.takes_read_some h.2 (item.takes_read levels a h.1 blank_nil) hbs hcs
  | _, .list item, levels, as, h, bs, cs, hbs, hcs => by
    rw [Shape.Fits] at h
    obtain ⟨fewer, rfl, has⟩ := h
    exact Shape.takes_read_list
      (fun a ha _ hcs => item.takes_read fewer a (has a ha) blank_nil hcs) hbs hcs
  | _, .choice options name, levels, a, h, bs, cs, hbs, hcs => by
    rw [Shape.toValue] at hcs
    rw [Shape.Fits] at h
    cases hcs with
    | string hcs =>
      rw [Shape.read]
      exact takes_optionName levels h hbs hcs _
  | _, .record name closed fields, levels, a, h, bs, cs, hbs, hcs => by
    rw [Shape.Fits] at h
    obtain ⟨fewer, rfl, hkeys, ha⟩ := h
    obtain ⟨slots, hfills, hfill⟩ := fields.fills_toMembers fewer a hkeys ha
    exact Shape.takes_read_record hfills hfill hbs hcs
  | _, .mapped shape wrap unwrap, levels, b, h, bs, cs, hbs, hcs => by
    rw [Shape.toValue] at hcs
    rw [Shape.Fits] at h
    rw [Shape.read]
    have := (shape.takes_read levels (unwrap b) h.2 hbs hcs).map wrap
    rwa [h.1] at this

/-- The members of a record fill its slots, and from these the record is made again. -/
theorem Fields.fills_toMembers : {α : Type} → (fields : Fields α) → (levels : Nat) → (a : α) →
    fields.keys.Nodup → fields.Fits levels a →
      ∃ slots, fields.Fills levels (fields.toMembers a) fields.noSlots slots ∧
        fields.fill slots = .ok a
  | _, .nil, levels, a, _, _ => ⟨(), by rw [Fields.toMembers]; exact .nil _, rfl⟩
  | _, .cons key absent? item rest, levels, (a, b), hkeys, h => by
    rw [Fields.Fits] at h
    rw [Fields.keys, List.nodup_cons] at hkeys
    obtain ⟨slots, hfills, hfill⟩ := rest.fills_toMembers levels b hkeys.2 h.2
    have hother : ∀ m ∈ rest.toMembers b, m.1 ≠ key := by
      rintro m hm rfl
      exact hkeys.1 (rest.keys_toMembers b ▸ List.mem_map_of_mem hm)
    refine ⟨.cons (some a) slots, ?_, Fields.fill_cons key absent? item a hfill⟩
    rw [Fields.toMembers]
    have hreader := Fields.readMember_cons levels key absent? item rest key none rest.noSlots
    rw [if_pos rfl] at hreader
    refine .cons ⟨_, hreader, ?_⟩ (hfills.lift hother (some a))
    intro bs bs' cs hbs hbs' hv
    rw [← List.singleton_append, ← List.append_assoc]
    refine (takes_colon hbs anything).bind_anything ?_
    exact (item.takes_read levels a h.1 hbs' hv).map fun a =>
      Fields.Slots.cons (some a) rest.noSlots

end

/-- Blanks up to the end are taken. -/
theorem JsonReader.takes_finish {bs : List Char} (hbs : Blank bs) :
    finish.Takes bs () (· = none) := by
  rw [← List.append_nil bs]
  exact (takes_peekToken hbs none (by simp)).bind (takes_pure () _) fun _ hq => hq

/-- What fits a shape is read back from every text that spells it. -/
theorem Shape.readText_of_spelled {α : Type} (shape : Shape α) {a : α}
    (h : shape.Fits nestingLimit a) {cs bs : List Char} (hcs : (shape.toValue a).Spelled cs)
    (hbs : Blank bs) : shape.readText (String.ofList (cs ++ bs)) = .ok a := by
  have hread := shape.takes_read nestingLimit a h blank_nil hcs
  have hend : (do finish; pure a : JsonReader α).Takes bs a (· = none) := by
    rw [← List.append_nil bs]
    exact (takes_finish hbs).bind (takes_pure a _) fun _ hq => hq
  have hall := hread.bind (f := fun a => do finish; pure a) hend fun rest hrest =>
    JsonValue.endsNumber_blank hbs (by rw [hrest]; simp [endsNumber])
  obtain ⟨line, column, hrun⟩ := hall [] 1 0 rfl
  rw [List.nil_append, List.append_nil] at hrun
  rw [Shape.readText, readAll, JsonInput.ofString, String.toList_ofList]
  exact congrArg Prod.fst hrun

end ScriptCensus
