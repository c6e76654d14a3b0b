import ScriptCensus.Proofs.GlobLiterals

/-!
# The order of bytes

Texts are compared character by character, names in a directory byte by byte. Both orders agree: the
bytes of a character are smaller than those of any greater one, at a place where both have a byte
(`utf8EncodeChar_append_lt`), and so the bytes of a text are smaller than those of any greater one
(`Glob.bytesOf_lt`).
-/

namespace ScriptCensus

/-! ## Characters -/

theorem ofNat_cons_lt_iff {a b : Nat} (ha : a < 256) (hb : b < 256) (u v : List UInt8) :
    UInt8.ofNat a :: u < UInt8.ofNat b :: v ↔ a < b ∨ a = b ∧ u < v := by
  have hlt : UInt8.ofNat a < UInt8.ofNat b ↔ a < b := by
    rw [UInt8.lt_iff_toNat_lt, UInt8.toNat_ofNat_of_lt' ha, UInt8.toNat_ofNat_of_lt' hb]
  have heq : UInt8.ofNat a = UInt8.ofNat b ↔ a = b := by
    rw [← UInt8.toNat_inj, UInt8.toNat_ofNat_of_lt' ha, UInt8.toNat_ofNat_of_lt' hb]
  rw [List.cons_lt_cons_iff, hlt, heq]

/-- The bytes of a character, by its size. -/
theorem utf8EncodeChar_cases (c : Char) :
    (c.val.toNat ≤ 0x7f ∧ String.utf8EncodeChar c = [.ofNat c.val.toNat]) ∨
    (0x7f < c.val.toNat ∧ c.val.toNat ≤ 0x7ff ∧ String.utf8EncodeChar c =
      [.ofNat (c.val.toNat / 64 + 0xc0), .ofNat (c.val.toNat % 64 + 0x80)]) ∨
    (0x7ff < c.val.toNat ∧ c.val.toNat ≤ 0xffff ∧ String.utf8EncodeChar c =
      [.ofNat (c.val.toNat / 4096 + 0xe0), .ofNat (c.val.toNat / 64 % 64 + 0x80),
        .ofNat (c.val.toNat % 64 + 0x80)]) ∨
    (0xffff < c.val.toNat ∧ c.val.toNat < 0x110000 ∧ String.utf8EncodeChar c =
      [.ofNat (c.val.toNat / 262144 + 0xf0), .ofNat (c.val.toNat / 4096 % 64 + 0x80),
        .ofNat (c.val.toNat / 64 % 64 + 0x80), .ofNat (c.val.toNat % 64 + 0x80)]) := by
  have hmax : c.val.toNat < 0x110000 := by
    have hvalid := c.valid
    simp only [UInt32.isValidChar, Nat.isValidChar] at hvalid
    omega
  unfold String.utf8EncodeChar
  generalize c.val.toNat = n at hmax ⊢
  by_cases h1 : n ≤ 0x7f
  · simp [h1]
  · by_cases h2 : n ≤ 0x7ff
    · have hlead : n / 64 % 32 = n / 64 := by omega
      refine Or.inr (Or.inl ⟨by omega, h2, ?_⟩)
      rw [if_neg h1, if_pos h2, hlead]
    · by_cases h3 : n ≤ 0xffff
      · have hlead : n / 4096 % 16 = n / 4096 := by omega
        refine Or.inr (Or.inr (Or.inl ⟨by omega, h3, ?_⟩))
        rw [if_neg h1, if_neg h2, if_pos h3, hlead]
      · have hlead : n / 262144 % 8 = n / 262144 := by omega
        refine Or.inr (Or.inr (Or.inr ⟨by omega, hmax, ?_⟩))
        rw [if_neg h1, if_neg h2, if_neg h3, hlead]

/-- The bytes of a character are smaller than those of a greater one, whatever follows. -/
theorem utf8EncodeChar_append_lt {c d : Char} (h : c < d) (u v : List UInt8) :
    String.utf8EncodeChar c ++ u < String.utf8EncodeChar d ++ v := by
  have hlt : c.val.toNat < d.val.toNat := h
  rcases utf8EncodeChar_cases c with ⟨hc, ec⟩ | ⟨hc, hc', ec⟩ | ⟨hc, hc', ec⟩ | ⟨hc, hc', ec⟩ <;>
    rcases utf8EncodeChar_cases d with ⟨hd, ed⟩ | ⟨hd, hd', ed⟩ | ⟨hd, hd', ed⟩ | ⟨hd, hd', ed⟩ <;>
    rw [ec, ed] <;>
    simp only [List.cons_append, List.nil_append] <;>
    repeat rw [ofNat_cons_lt_iff (by omega) (by omega)]
  all_goals omega

/-! ## Texts -/

namespace Glob

theorem bytesOfChar_eq (c : Char) : bytesOfChar c = String.utf8EncodeChar c := by
  simp [bytesOfChar, bytesOf, List.utf8Encode_singleton]

theorem bytesOf_ofList_lt : ∀ {cs ds : List Char}, cs < ds →
    bytesOf (String.ofList cs) < bytesOf (String.ofList ds)
  | [], d :: ds, _ => by
    have hne : bytesOfChar d ++ bytesOf (String.ofList ds) ≠ [] := by
      simp [bytesOfChar_eq]
    obtain ⟨b, bs, hbs⟩ := List.exists_cons_of_ne_nil hne
    rw [bytesOf_cons, hbs]
    exact List.nil_lt_cons b bs
  | c :: cs, d :: ds, h => by
    rw [bytesOf_cons, bytesOf_cons, bytesOfChar_eq, bytesOfChar_eq]
    rcases List.cons_lt_cons_iff.1 h with hlt | ⟨rfl, hlt⟩
    · exact utf8EncodeChar_append_lt hlt _ _
    · exact List.append_left_lt (bytesOf_ofList_lt hlt)

/-- The bytes of a text are smaller than those of a greater one. -/
theorem bytesOf_lt {s t : String} (h : s < t) : bytesOf s < bytesOf t := by
  rw [← String.ofList_toList (s := s), ← String.ofList_toList (s := t)]
  exact bytesOf_ofList_lt h

end Glob

end ScriptCensus
