import Mathlib.Data.List.TakeDrop
import ScriptCensus.FileSystem.Path

/-!
# Paths and their pieces

A path is read by cutting its text at the slashes. `splitAt` is the library's `List.splitOn`
(`splitAt_eq_splitOn`), and `List.intercalate` undoes it. Taking away the last component shortens the
text (`Path.length_lt_of_parent?`), and joining a name adds one component at the end
(`Path.components_join`). The extension of a name is what stands behind its last dot
(`Path.splitName_snd_eq_some_iff`).
-/

namespace ScriptCensus

deriving instance ReflBEq, LawfulBEq for Component

theorem Path.eq_of_toList {p q : Path} (h : p.text.toList = q.text.toList) : p = q := by
  obtain ⟨s⟩ := p
  obtain ⟨t⟩ := q
  exact congrArg Path.mk (String.toList_inj.1 h)

theorem splitAt_eq_splitOn (separator : Char) :
    ∀ cs : List Char, splitAt separator cs = cs.splitOn separator
  | [] => rfl
  | c :: rest => by
    rw [splitAt, splitAt_eq_splitOn separator rest, List.splitOn_cons_eq_if_modifyHead]
    cases h : rest.splitOn separator with
    | nil => exact absurd h (List.splitOn_ne_nil separator rest)
    | cons piece pieces => simp

/-- A text without a certain character is one piece. -/
theorem splitAt_of_not_mem {separator : Char} {cs : List Char} (h : separator ∉ cs) :
    splitAt separator cs = [cs] := by
  rw [splitAt_eq_splitOn, List.splitOn_eq_singleton h]

theorem splitAt_append_cons (separator : Char) (cs ds : List Char) :
    splitAt separator (cs ++ separator :: ds) = splitAt separator cs ++ splitAt separator ds := by
  rw [splitAt_eq_splitOn, splitAt_eq_splitOn, splitAt_eq_splitOn, List.splitOn_append_cons_self]

theorem splitAt_ne_nil (separator : Char) (cs : List Char) : splitAt separator cs ≠ [] := by
  rw [splitAt_eq_splitOn]
  exact List.splitOn_ne_nil separator cs

theorem intercalate_splitAt (separator : Char) (cs : List Char) :
    [separator].intercalate (splitAt separator cs) = cs := by
  rw [splitAt_eq_splitOn, List.intercalate_splitOn]

theorem splitAt_intercalate {separator : Char} {pieces : List (List Char)}
    (h : ∀ piece ∈ pieces, separator ∉ piece) (hne : pieces ≠ []) :
    splitAt separator ([separator].intercalate pieces) = pieces := by
  rw [splitAt_eq_splitOn, List.splitOn_intercalate separator h hne]

/-! ## Taking away the last component -/

section intercalate

variable (separator : List Char)

theorem length_intercalate_le :
    ∀ pieces more : List (List Char),
      (separator.intercalate pieces).length ≤ (separator.intercalate (pieces ++ more)).length
  | [], more => by simp
  | [p], more => by cases more <;> simp
  | p :: q :: rest, more => by
    have := length_intercalate_le (q :: rest) more
    simp only [List.cons_append, List.intercalate_cons_cons, List.length_append] at this ⊢
    omega

/-- A further piece that is not empty makes a text longer. -/
theorem length_intercalate_lt {piece : List Char} (h : piece ≠ []) (more : List (List Char)) :
    ∀ pieces : List (List Char),
      (separator.intercalate pieces).length <
        (separator.intercalate (pieces ++ piece :: more)).length
  | [] => by
    have hpos := List.length_pos_iff.2 h
    cases more with
    | nil => simpa using hpos
    | cons q rest =>
      simp only [List.nil_append, List.intercalate_cons_cons, List.length_append,
        List.intercalate_nil, List.length_nil]
      omega
  | [p] => by
    have := length_intercalate_lt h more []
    simp only [List.cons_append, List.nil_append, List.intercalate_cons_cons, List.length_append,
      List.intercalate_singleton, List.intercalate_nil, List.length_nil] at this ⊢
    omega
  | p :: q :: rest => by
    have := length_intercalate_lt h more (q :: rest)
    simp only [List.cons_append, List.intercalate_cons_cons, List.length_append] at this ⊢
    omega

end intercalate

namespace Path

/-- Dropping pieces at the end keeps a front of the pieces; unless it is empty, it ends in a piece that
is not. -/
theorem dropSilentEnd_cases (front : Bool) (pieces : List (List Char)) :
    dropSilentEnd front pieces = [] ∨ ∃ before piece more,
      piece ≠ [] ∧ dropSilentEnd front pieces = before ++ [piece] ∧
        pieces = before ++ piece :: more := by
  have hend : ∃ more, pieces = (pieces.reverse.dropWhile isSilentPiece).reverse ++ more := by
    obtain ⟨silent, hs⟩ := List.dropWhile_suffix isSilentPiece (l := pieces.reverse)
    exact ⟨silent.reverse, by rw [← List.reverse_append, hs, List.reverse_reverse]⟩
  obtain ⟨more, hmore⟩ := hend
  unfold dropSilentEnd
  cases hd : pieces.reverse.dropWhile isSilentPiece with
  | nil =>
    cases pieces with
    | nil => simp
    | cons p rest =>
      by_cases hf : front = true ∧ p = ['.']
      · exact Or.inr ⟨[], ['.'], rest, by simp, by simp [hf.1, hf.2], by simp [hf.2]⟩
      · exact Or.inl (by simpa using hf)
  | cons piece before =>
    have hpiece : isSilentPiece piece = false := by
      have := List.head?_dropWhile_not isSilentPiece pieces.reverse
      simpa [hd] using this
    refine Or.inr ⟨before.reverse, piece, more, ?_, by simp, ?_⟩
    · rintro rfl
      simp [isSilentPiece] at hpiece
    · simpa [hd] using hmore

theorem length_join_dropSilentEnd_le (front : Bool) (pieces : List (List Char)) :
    (['/'].intercalate (dropSilentEnd front pieces)).length ≤ (['/'].intercalate pieces).length := by
  rcases dropSilentEnd_cases front pieces with h | ⟨before, piece, more, -, h, hp⟩
  · simp [h]
  · have := length_intercalate_le ['/'] (before ++ [piece]) more
    rw [h, hp]
    simpa using this

/-- Without the last of the pieces that count, a text is shorter. -/
theorem length_join_dropLast_lt {front : Bool} {pieces : List (List Char)} (other : Bool)
    (h : dropSilentEnd front pieces ≠ []) :
    (['/'].intercalate (dropSilentEnd other (dropSilentEnd front pieces).dropLast)).length <
      (['/'].intercalate pieces).length := by
  rcases dropSilentEnd_cases front pieces with h' | ⟨before, piece, more, hne, hk, hp⟩
  · exact absurd h' h
  · rw [hk, List.dropLast_concat, hp]
    exact Nat.lt_of_le_of_lt (length_join_dropSilentEnd_le other before)
      (length_intercalate_lt _ hne more _)

/-- The path without its last component is spelled shorter. -/
theorem length_lt_of_parent? {p q : Path} (h : p.parent? = some q) :
    q.text.length < p.text.length := by
  have htext : p.text.length = (['/'].intercalate (splitAt '/' p.text.toList)).length := by
    rw [intercalate_splitAt, String.length_toList]
  rw [htext]
  unfold parent? at h
  split at h
  · next first rest heq =>
    rw [heq]
    split at h
    · simp at h
    · next hne =>
      obtain rfl := Option.some.inj h
      have := length_join_dropLast_lt false hne
      simp only [joinPieces, String.length_append, String.length_ofList,
        List.intercalate_cons_cons, List.length_append] at this ⊢
      have hslash : "/".length = 1 := by decide
      simp only [hslash, List.length_nil, List.length_singleton]
      omega
  · split at h
    · simp at h
    · next hne =>
      obtain rfl := Option.some.inj h
      rw [joinPieces, String.length_ofList]
      exact length_join_dropLast_lt true hne

/-! ## Joining names -/

/-- Whether a text can be the name of an entry in a directory. -/
def IsName (name : String) : Prop :=
  name ≠ "" ∧ name ≠ "." ∧ name ≠ ".." ∧ '/' ∉ name.toList

instance : DecidablePred IsName := fun _ => inferInstanceAs (Decidable (_ ∧ _))

theorem ofPiece?_name {name : String} (h : IsName name) :
    Component.ofPiece? name.toList = some (.normal name) := by
  obtain ⟨h1, h2, h3, -⟩ := h
  have hback : String.ofList name.toList = name := String.ofList_toList
  unfold Component.ofPiece?
  split
  · next heq => exact absurd (by rw [← hback, heq]) h1
  · next heq => exact absurd (by rw [← hback, heq]) h2
  · next heq => exact absurd (by rw [← hback, heq]) h3
  · rw [hback]

/-- The text of a path with a name joined to it: the name is the last piece, and the pieces before it
stand for what the path stands for. -/
theorem exists_splitAt_join {base : Path} (hbase : base.text ≠ "") {name : String}
    (hname : IsName name) :
    ∃ before, splitAt '/' (base.join ⟨name⟩).text.toList = before ++ [name.toList] ∧
      before.head? = (splitAt '/' base.text.toList).head? ∧
      before.filterMap Component.ofPiece? =
        (splitAt '/' base.text.toList).filterMap Component.ofPiece? ∧
      (base.join ⟨name⟩).text.toList.head? = base.text.toList.head? := by
  have hpiece := splitAt_of_not_mem hname.2.2.2
  have hrel : (⟨name⟩ : Path).isAbsolute = false := by
    rw [isAbsolute, beq_eq_false_iff_ne]
    exact fun h => hname.2.2.2 (List.mem_of_head? h)
  have hne : base.text.isEmpty = false := by simpa using hbase
  unfold join
  rw [if_neg (by simp [hrel]), if_neg (by simp [hne])]
  by_cases hlast : base.text.toList.getLast? = some '/'
  · -- the base ends in a slash, behind which stands an empty piece
    obtain ⟨front, hfront⟩ := List.getLast?_eq_some_iff.1 hlast
    obtain ⟨piece, pieces, hbefore⟩ := List.exists_cons_of_ne_nil (splitAt_ne_nil '/' front)
    rw [if_pos (by simp [hlast]), String.toList_append, hfront, List.append_assoc,
      List.singleton_append, splitAt_append_cons, splitAt_append_cons, hpiece]
    refine ⟨splitAt '/' front, rfl, ?_, ?_, ?_⟩
    · rw [hbefore]
      rfl
    · simp [splitAt, Component.ofPiece?]
    · cases front <;> rfl
  · rw [if_neg (by simpa using hlast), String.toList_append, String.toList_append, List.append_assoc]
    have hslash : "/".toList ++ name.toList = '/' :: name.toList := rfl
    rw [hslash, splitAt_append_cons, hpiece]
    obtain ⟨c, cs, hcs⟩ := List.exists_cons_of_ne_nil (l := base.text.toList) (by simpa using hbase)
    refine ⟨_, rfl, rfl, rfl, ?_⟩
    rw [hcs]
    rfl

/-- The components of a path: what its front stands for, then what the pieces stand for. -/
theorem components_eq (p : Path) : p.components =
    (if p.text.toList.head? = some '/' then [.root]
      else if (splitAt '/' p.text.toList).head? = some ['.'] then [.current] else []) ++
      (splitAt '/' p.text.toList).filterMap Component.ofPiece? := by
  by_cases hroot : p.text.toList.head? = some '/'
  · obtain ⟨cs, hcs⟩ := List.head?_eq_some_iff.1 hroot
    rw [if_pos hroot, components, hcs]
    rfl
  · rw [if_neg hroot]
    have hnot : ∀ cs, p.text.toList ≠ '/' :: cs := fun cs h => hroot (by rw [h]; rfl)
    by_cases hdot : (splitAt '/' p.text.toList).head? = some ['.']
    · rw [if_pos hdot, components]
      obtain ⟨ps, hps⟩ := List.head?_eq_some_iff.1 hdot
      split
      · next h => exact absurd h (hnot _)
      · rfl
      · next h => exact absurd hps (h _)
    · rw [if_neg hdot, components]
      split
      · next h => exact absurd h (hnot _)
      · next hps _ => exact absurd (by rw [hps]; rfl) hdot
      · rfl

/-- A path with a name joined to it has one more component. -/
theorem components_join {base : Path} (hbase : base.text ≠ "") {name : String}
    (hname : IsName name) :
    (base.join ⟨name⟩).components = base.components ++ [.normal name] := by
  obtain ⟨before, hsplit, hhead, hrest, htext⟩ := exists_splitAt_join hbase hname
  obtain ⟨piece, pieces, hcons⟩ := List.exists_cons_of_ne_nil (splitAt_ne_nil '/' base.text.toList)
  have hfirst : (before ++ [name.toList]).head? = (splitAt '/' base.text.toList).head? := by
    rw [List.head?_append, hhead, hcons]
    rfl
  rw [components_eq, components_eq, htext, hsplit, hfirst, List.filterMap_append, hrest,
    List.append_assoc]
  simp [ofPiece?_name hname]

/-! ## File names and extensions -/

theorem fileName?_of_isName {name : String} (h : IsName name) :
    (⟨name⟩ : Path).fileName? = some name := by
  have hhead : name.toList.head? ≠ some '/' := fun heq => h.2.2.2 (List.mem_of_head? heq)
  have hdot : name.toList ≠ ['.'] := fun heq => h.2.1 (String.toList_inj.1 heq)
  have hcomponents : (⟨name⟩ : Path).components = [.normal name] := by
    rw [components_eq, if_neg hhead, splitAt_of_not_mem h.2.2.2, if_neg (by simpa using hdot)]
    simp [ofPiece?_name h]
  rw [fileName?, hcomponents]
  rfl

/-- The extension of a name stands behind its last dot, and something stands before the dot. -/
theorem splitName_snd_eq_some_iff {name e : String} :
    (splitName name).2 = some e ↔
      '.' ∉ e.toList ∧ ∃ stem : String, stem ≠ "" ∧ name = stem ++ "." ++ e := by
  have hname : ∀ stem : String, name = stem ++ "." ++ e ↔
      name.toList.reverse = e.toList.reverse ++ '.' :: stem.toList.reverse := by
    intro stem
    rw [← String.toList_inj, ← List.reverse_inj]
    simp
  rw [splitName, List.span_eq_takeWhile_dropWhile]
  constructor
  · intro h
    split at h
    · next after before heq =>
      obtain ⟨hafter, hbefore⟩ := Prod.mk.inj heq
      by_cases hempty : before.isEmpty
      · simp [hempty] at h
      · rw [if_neg hempty] at h
        obtain rfl := Option.some.inj h
        refine ⟨?_, String.ofList before.reverse, ?_, ?_⟩
        · rw [String.toList_ofList, List.mem_reverse, ← hafter]
          intro hdot
          simpa using List.all_eq_true.1 List.all_takeWhile '.' hdot
        · simpa using hempty
        · rw [hname, String.toList_ofList, String.toList_ofList, List.reverse_reverse,
            List.reverse_reverse, ← hbefore, ← hafter, List.takeWhile_append_dropWhile]
    · simp at h
  · rintro ⟨hdot, stem, hstem, h⟩
    have hall : ∀ c ∈ e.toList.reverse, (c != '.') = true := by
      intro c hc
      rw [bne_iff_ne]
      rintro rfl
      exact hdot (List.mem_reverse.1 hc)
    rw [(hname stem).1 h, List.takeWhile_append_of_pos hall, List.dropWhile_append_of_pos hall]
    simp [hstem]

end Path

end ScriptCensus
