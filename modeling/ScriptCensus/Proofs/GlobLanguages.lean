import Mathlib.Data.List.Basic
import ScriptCensus.Proofs.ByteOrder

/-!
# The languages of globs

Matching follows all ways through a glob at once (`Glob.remainders`). Here a glob is read as the set
of byte strings that it stands for: `Glob.Spells` says it of a list of tokens, `Glob.SpellsToken` of
one. What is left of a path behind some tokens is what stands behind a string of their language
(`Glob.mem_remainders_iff`), so a glob matches the paths of its language, and the glob of two stars
alone matches every path (`Glob.isMatch_iff`).

A slash is one byte, and no other character has that byte in it (`Glob.slash_mem_bytesOfChar_iff`),
so what a glob says about slashes among bytes holds of slashes among characters
(`Glob.bytesOf_eq_append_slash_iff`).
-/

namespace ScriptCensus.Glob

/-! ## What tokens stand for -/

mutual

/-- Whether a byte string belongs to the language of some tokens. -/
def Spells : List GlobToken → List UInt8 → Prop
  | [], u => u = []
  | t :: rest, u => ∃ v w, u = v ++ w ∧ SpellsToken t v ∧ Spells rest w

/-- Whether a byte string belongs to the language of a token. -/
def SpellsToken : GlobToken → List UInt8 → Prop
  | .literal c, u => u = bytesOfChar c
  | .any, u => ∃ b, b ≠ slash ∧ u = [b]
  | .many, u => slash ∉ u
  | .depthBefore, u => u = [] ∨ ∃ v, u = v ++ [slash]
  | .depthAfter, u => ∃ v, u = slash :: v
  | .depthBetween, u => u = [slash] ∨ ∃ v, u = slash :: (v ++ [slash])
  | .oneOf negated ranges, u => ∃ b, ranges.any (inRange b) ≠ negated ∧ u = [b]
  | .either branches, u => if areSilent branches then u = [] else SpellsBranch branches u

/-- Whether a byte string belongs to the language of one of several patterns that have something to
match. -/
def SpellsBranch : List (List GlobToken) → List UInt8 → Prop
  | [], _ => False
  | b :: rest, u => isSilent b = false ∧ Spells b u ∨ SpellsBranch rest u

end

theorem spells_append (s t : List GlobToken) (u : List UInt8) :
    Spells (s ++ t) u ↔ ∃ v w, u = v ++ w ∧ Spells s v ∧ Spells t w := by
  induction s generalizing u with
  | nil => simp [Spells]
  | cons a s ih =>
    simp only [List.cons_append, Spells, ih]
    constructor
    · rintro ⟨v, _, rfl, ha, w, x, rfl, hs, ht⟩
      exact ⟨v ++ w, x, (List.append_assoc v w x).symm, ⟨v, w, rfl, ha, hs⟩, ht⟩
    · rintro ⟨_, x, rfl, ⟨v, w, rfl, ha, hs⟩, ht⟩
      exact ⟨v, w ++ x, List.append_assoc v w x, ha, w, x, rfl, hs, ht⟩

theorem spells_singleton (t : GlobToken) (u : List UInt8) : Spells [t] u ↔ SpellsToken t u := by
  simp [Spells]

theorem spells_literals (cs : List Char) (u : List UInt8) :
    Spells (cs.map .literal) u ↔ u = bytesOf (String.ofList cs) := by
  induction cs generalizing u with
  | nil => simp [Spells, bytesOf]
  | cons c cs ih =>
    rw [bytesOf_cons]
    simp [Spells, SpellsToken, ih]

/-! ## What is left behind tokens -/

theorem mem_afterMany_iff {r : List UInt8} : ∀ {p : List UInt8},
    r ∈ afterMany p ↔ ∃ u, slash ∉ u ∧ p = u ++ r
  | [] => by
    constructor
    · intro h
      obtain rfl := List.mem_singleton.1 h
      exact ⟨[], by simp, rfl⟩
    · rintro ⟨u, -, h⟩
      obtain ⟨-, rfl⟩ := List.append_eq_nil_iff.1 h.symm
      exact List.mem_singleton.2 rfl
  | b :: p => by
    have ih : r ∈ afterMany p ↔ ∃ u, slash ∉ u ∧ p = u ++ r := mem_afterMany_iff
    rw [afterMany, List.mem_cons]
    constructor
    · rintro (rfl | h)
      · exact ⟨[], by simp, rfl⟩
      · by_cases hb : b = slash
        · simp [hb] at h
        · rw [if_neg hb, ih] at h
          obtain ⟨u, hu, rfl⟩ := h
          exact ⟨b :: u, by simp [hu, Ne.symm hb], rfl⟩
    · rintro ⟨u, hu, h⟩
      cases u with
      | nil => exact Or.inl h.symm
      | cons c u =>
        obtain ⟨rfl, rfl⟩ := List.cons.inj h
        obtain ⟨hb, hu⟩ := not_or.1 (fun hor => hu (List.mem_cons.2 hor))
        rw [if_neg (Ne.symm hb)]
        exact Or.inr (ih.2 ⟨u, hu, rfl⟩)

theorem mem_allRests_iff {r : List UInt8} : ∀ {p : List UInt8}, r ∈ allRests p ↔ ∃ u, p = u ++ r
  | [] => by simp [allRests]
  | b :: p => by
    have ih : r ∈ allRests p ↔ ∃ u, p = u ++ r := mem_allRests_iff
    rw [allRests, List.mem_cons, ih]
    constructor
    · rintro (rfl | ⟨u, rfl⟩)
      · exact ⟨[], rfl⟩
      · exact ⟨b :: u, rfl⟩
    · rintro ⟨u, h⟩
      cases u with
      | nil => exact Or.inl h.symm
      | cons c u => exact Or.inr ⟨u, (List.cons.inj h).2⟩

theorem mem_afterSlashes_iff {r : List UInt8} : ∀ {p : List UInt8},
    r ∈ afterSlashes p ↔ ∃ u, p = u ++ slash :: r
  | [] => by simp [afterSlashes]
  | b :: p => by
    have ih : r ∈ afterSlashes p ↔ ∃ u, p = u ++ slash :: r := mem_afterSlashes_iff
    have hmem : r ∈ afterSlashes (b :: p) ↔ (b = slash ∧ r = p) ∨ r ∈ afterSlashes p := by
      by_cases hb : b = slash <;> simp [afterSlashes, hb]
    rw [hmem, ih]
    constructor
    · rintro (⟨rfl, rfl⟩ | ⟨u, rfl⟩)
      · exact ⟨[], rfl⟩
      · exact ⟨b :: u, rfl⟩
    · rintro ⟨u, h⟩
      cases u with
      | nil =>
        obtain ⟨rfl, rfl⟩ := List.cons.inj h
        exact Or.inl ⟨rfl, rfl⟩
      | cons c u => exact Or.inr ⟨u, (List.cons.inj h).2⟩

/-- Of ends of one path none is lost if one of each length is kept. -/
theorem mem_distinct_iff {whole r : List UInt8} : ∀ {rests : List (List UInt8)},
    (∀ x ∈ rests, x <:+ whole) → (r ∈ distinct rests ↔ r ∈ rests)
  | [], _ => by simp [distinct]
  | x :: rests, h => by
    obtain ⟨hx, hrests⟩ := List.forall_mem_cons.1 h
    have ih : ∀ y, y ∈ distinct rests ↔ y ∈ rests := fun y => mem_distinct_iff hrests
    have hcons : distinct (x :: rests) = if (distinct rests).any (·.length == x.length)
        then distinct rests else x :: distinct rests := rfl
    rw [hcons, List.mem_cons]
    split
    · next hany =>
      obtain ⟨y, hy, hlen⟩ := List.any_eq_true.1 hany
      have hlen : y.length = x.length := by simpa using hlen
      have hend : y <:+ whole := hrests y ((ih y).1 hy)
      obtain rfl : y = x :=
        (List.suffix_of_suffix_length_le hend hx (Nat.le_of_eq hlen)).eq_of_length hlen
      rw [ih r]
      refine ⟨Or.inr, ?_⟩
      rintro (rfl | hr)
      · exact (ih _).1 hy
      · exact hr
    · rw [List.mem_cons, ih r]

/-- One byte off the front, if it has a property. -/
theorem mem_byte_iff {q : UInt8 → Prop} [DecidablePred q] {p r : List UInt8} :
    (r ∈ match p with
      | b :: rest => if q b then [rest] else []
      | [] => []) ↔ ∃ u, (∃ b, q b ∧ u = [b]) ∧ p = u ++ r := by
  cases p with
  | nil => simp
  | cons b p =>
    by_cases hb : q b
    · simp [hb, eq_comm]
    · simp only [if_neg hb, List.not_mem_nil, false_iff]
      rintro ⟨_, ⟨c, hc, rfl⟩, h⟩
      obtain ⟨rfl, -⟩ := List.cons.inj h
      exact hb hc

mutual

/-- What is left behind some tokens of paths that are ends of one path. -/
theorem mem_remainders (whole r : List UInt8) :
    ∀ (tokens : List GlobToken) (paths : List (List UInt8)), (∀ p ∈ paths, p <:+ whole) →
      (r ∈ remainders paths tokens ↔ ∃ p ∈ paths, ∃ u, Spells tokens u ∧ p = u ++ r)
  | [], paths, _ => by simp [remainders, Spells]
  | t :: rest, paths, h => by
    have htoken : ∀ m, m ∈ paths.flatMap (fun path => tokenRemainders path t) ↔
        ∃ p ∈ paths, ∃ u, SpellsToken t u ∧ p = u ++ m := fun m => by
      simp only [List.mem_flatMap, mem_tokenRemainders t]
    have hends : ∀ m ∈ paths.flatMap (fun path => tokenRemainders path t), m <:+ whole := by
      intro m hm
      obtain ⟨p, hp, u, -, rfl⟩ := (htoken m).1 hm
      exact (List.suffix_append u m).trans (h _ hp)
    rw [remainders, mem_remainders whole r rest _ fun m hm =>
      hends m ((mem_distinct_iff hends).1 hm)]
    simp only [mem_distinct_iff hends, htoken, Spells]
    constructor
    · rintro ⟨m, ⟨p, hp, u, hu, rfl⟩, v, hv, rfl⟩
      exact ⟨_, hp, u ++ v, ⟨u, v, rfl, hu, hv⟩, (List.append_assoc u v r).symm⟩
    · rintro ⟨p, hp, _, ⟨u, v, rfl, hu, hv⟩, rfl⟩
      exact ⟨v ++ r, ⟨_, hp, u, hu, List.append_assoc u v r⟩, v, hv, rfl⟩

theorem mem_tokenRemainders :
    ∀ (t : GlobToken) (p r : List UInt8),
      r ∈ tokenRemainders p t ↔ ∃ u, SpellsToken t u ∧ p = u ++ r
  | .literal c, p, r => by
    simp [tokenRemainders, SpellsToken, dropFront?_eq_some_iff]
  | .any, p, r => by
    have hbyte := mem_byte_iff (q := fun b => ¬b = slash) (p := p) (r := r)
    simp only [tokenRemainders, SpellsToken]
    rw [← hbyte]
    cases p with
    | nil => rfl
    | cons b p => by_cases hb : b = slash <;> simp [hb]
  | .many, p, r => by
    simp only [tokenRemainders, SpellsToken, mem_afterMany_iff]
  | .depthBefore, p, r => by
    simp only [tokenRemainders, SpellsToken, List.mem_cons, mem_afterSlashes_iff]
    constructor
    · rintro (rfl | ⟨v, rfl⟩)
      · exact ⟨[], Or.inl rfl, rfl⟩
      · exact ⟨v ++ [slash], Or.inr ⟨v, rfl⟩, by simp⟩
    · rintro ⟨_, rfl | ⟨v, rfl⟩, rfl⟩
      · exact Or.inl rfl
      · exact Or.inr ⟨v, by simp⟩
  | .depthAfter, p, r => by
    simp only [tokenRemainders, SpellsToken]
    cases p with
    | nil => simp
    | cons b p =>
      by_cases hb : b = slash
      · simp only [hb, if_true, mem_allRests_iff]
        constructor
        · rintro ⟨v, rfl⟩
          exact ⟨slash :: v, ⟨v, rfl⟩, rfl⟩
        · rintro ⟨_, ⟨v, rfl⟩, h⟩
          exact ⟨v, (List.cons.inj h).2⟩
      · simp [hb]
  | .depthBetween, p, r => by
    simp only [tokenRemainders, SpellsToken]
    cases p with
    | nil => simp
    | cons b p =>
      by_cases hb : b = slash
      · simp only [hb, if_true, List.mem_cons, mem_afterSlashes_iff]
        constructor
        · rintro (rfl | ⟨v, rfl⟩)
          · exact ⟨[slash], Or.inl rfl, rfl⟩
          · exact ⟨slash :: (v ++ [slash]), Or.inr ⟨v, rfl⟩, by simp⟩
        · rintro ⟨_, rfl | ⟨v, rfl⟩, h⟩
          · exact Or.inl (List.cons.inj h).2.symm
          · exact Or.inr ⟨v, by simpa using (List.cons.inj h).2⟩
      · simp [hb]
  | .oneOf negated ranges, p, r => by
    have hbyte := mem_byte_iff (q := fun b => ranges.any (inRange b) ≠ negated) (p := p) (r := r)
    simp only [tokenRemainders, SpellsToken]
    rw [← hbyte]
    cases p with
    | nil => rfl
    | cons b p => by_cases hb : ranges.any (inRange b) = negated <;> simp [hb]
  | .either branches, p, r => by
    rw [tokenRemainders]
    simp only [SpellsToken]
    by_cases hsilent : areSilent branches
    · simp [hsilent, eq_comm]
    · simp only [hsilent, Bool.false_eq_true, if_false]
      exact mem_branchRemainders branches p r

theorem mem_branchRemainders :
    ∀ (branches : List (List GlobToken)) (p r : List UInt8),
      r ∈ branchRemainders p branches ↔ ∃ u, SpellsBranch branches u ∧ p = u ++ r
  | [], p, r => by simp [branchRemainders, SpellsBranch]
  | b :: rest, p, r => by
    have hbranch := mem_remainders p r b [p] (by simp)
    have hrest := mem_branchRemainders rest p r
    rw [branchRemainders, List.mem_append, hrest]
    cases hsilent : isSilent b with
    | true => simp [SpellsBranch, hsilent]
    | false =>
      simp only [Bool.false_eq_true, if_false, hbranch, List.mem_singleton, exists_eq_left,
        SpellsBranch, hsilent, true_and, or_and_right, exists_or]

end

/-- What is left of a path behind some tokens is what stands behind a string of their language. -/
theorem mem_remainders_iff (tokens : List GlobToken) (p r : List UInt8) :
    r ∈ remainders [p] tokens ↔ ∃ u, Spells tokens u ∧ p = u ++ r := by
  rw [mem_remainders p r tokens [p] (by simp)]
  simp only [List.mem_singleton, exists_eq_left]

/-- A glob matches the paths of its language, and two stars alone match every path. -/
theorem isMatch_iff (tokens : List GlobToken) (path : String) :
    isMatch tokens path = true ↔ tokens = [.depthBefore] ∨ Spells tokens (bytesOf path) := by
  have hall : (remainders [bytesOf path] tokens).any (·.isEmpty) = true ↔
      Spells tokens (bytesOf path) := by
    simp [List.any_eq_true, mem_remainders_iff]
  by_cases hstars : tokens = [.depthBefore]
  · simp [hstars, isMatch]
  · rw [isMatch, hall]
    · simp [hstars]
    · exact hstars

/-! ## Slashes -/

theorem slash_mem_bytesOfChar_iff (c : Char) : slash ∈ bytesOfChar c ↔ c = '/' := by
  constructor
  · intro h
    have hbyte : ∀ n : Nat, n < 256 → slash = UInt8.ofNat n → n = 0x2F := by
      intro n hn heq
      have := congrArg UInt8.toNat heq
      rw [UInt8.toNat_ofNat_of_lt' hn] at this
      exact this.symm
    rw [bytesOfChar_eq] at h
    -- all bytes of a character of several bytes are at least 0x80
    rcases utf8EncodeChar_cases c with ⟨hc, ec⟩ | ⟨hc, hc', ec⟩ | ⟨hc, hc', ec⟩ | ⟨hc, hc', ec⟩ <;>
      rw [ec] at h <;> simp only [List.mem_cons, List.not_mem_nil, or_false] at h
    · have hval := hbyte _ (by omega) h
      exact Char.ext (UInt32.toNat_inj.1 hval)
    · rcases h with h | h <;> have := hbyte _ (by omega) h <;> omega
    · rcases h with h | h | h <;> have := hbyte _ (by omega) h <;> omega
    · rcases h with h | h | h | h <;> have := hbyte _ (by omega) h <;> omega
  · rintro rfl
    decide

theorem bytesOfChar_slash : bytesOfChar '/' = [slash] := by decide

/-- A slash among the bytes of a text is a slash among its characters. -/
theorem bytesOf_ofList_eq_append_slash {v w : List UInt8} : ∀ {cs : List Char},
    bytesOf (String.ofList cs) = v ++ slash :: w → ∃ before after, cs = before ++ '/' :: after ∧
      v = bytesOf (String.ofList before) ∧ w = bytesOf (String.ofList after)
  | [], h => by simp [bytesOf] at h
  | c :: cs, h => by
    rw [bytesOf_cons] at h
    by_cases hc : c = '/'
    · subst hc
      rw [bytesOfChar_slash, List.singleton_append] at h
      cases v with
      | nil => exact ⟨[], cs, rfl, by simp [bytesOf], (List.cons.inj h).2.symm⟩
      | cons b v =>
        obtain ⟨rfl, hcs⟩ := List.cons.inj h
        obtain ⟨before, after, rfl, rfl, rfl⟩ := bytesOf_ofList_eq_append_slash hcs
        refine ⟨'/' :: before, after, rfl, ?_, rfl⟩
        rw [bytesOf_cons, bytesOfChar_slash, List.singleton_append]
    · -- the slash stands behind the bytes of the first character
      have hnot : slash ∉ bytesOfChar c := fun hmem => hc ((slash_mem_bytesOfChar_iff c).1 hmem)
      rcases List.append_eq_append_iff.1 h with ⟨u, rfl, hu⟩ | ⟨u, hu, hw⟩
      · obtain ⟨before, after, rfl, rfl, rfl⟩ := bytesOf_ofList_eq_append_slash hu
        exact ⟨c :: before, after, rfl, (bytesOf_cons c before).symm, rfl⟩
      · cases u with
        | nil =>
          obtain ⟨before, after, rfl, hbefore, rfl⟩ :=
            bytesOf_ofList_eq_append_slash (v := []) hw.symm
          refine ⟨c :: before, after, rfl, ?_, rfl⟩
          rw [bytesOf_cons, ← hbefore, hu]
          simp
        | cons b u =>
          obtain ⟨rfl, -⟩ := List.cons.inj hw
          exact absurd (hu ▸ List.mem_append_right v List.mem_cons_self) hnot

theorem bytesOf_eq_nil_iff {s : String} : bytesOf s = [] ↔ s = "" :=
  ⟨fun h => bytesOf_injective (h.trans (by rfl : ([] : List UInt8) = bytesOf "")), fun h => h ▸ rfl⟩

theorem bytesOf_eq_append_slash_iff {s : String} {v w : List UInt8} :
    bytesOf s = v ++ slash :: w ↔ ∃ before after : String,
      s.toList = before.toList ++ '/' :: after.toList ∧ v = bytesOf before ∧ w = bytesOf after := by
  constructor
  · intro h
    rw [← String.ofList_toList (s := s)] at h
    obtain ⟨before, after, hs, rfl, rfl⟩ := bytesOf_ofList_eq_append_slash h
    exact ⟨String.ofList before, String.ofList after, by simpa using hs, rfl, rfl⟩
  · rintro ⟨before, after, hs, rfl, rfl⟩
    obtain rfl : s = before ++ String.ofList ('/' :: after.toList) := by
      rw [← String.toList_inj, hs, String.toList_append, String.toList_ofList]
    rw [bytesOf_append, bytesOf_cons, bytesOfChar_slash, String.ofList_toList,
      List.singleton_append]

end ScriptCensus.Glob
