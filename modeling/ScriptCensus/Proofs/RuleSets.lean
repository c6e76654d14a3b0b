import Mathlib.Data.List.DropRight
import Mathlib.Data.List.Nodup
import ScriptCensus.Proofs.RepeatedLines

/-!
# Rule sets and their unions

A rule set keeps its lines twice, in the order in which they came and sorted, and it keeps its globs
sorted. Whatever it was built by (`IgnoreRuleSet.Reachable`), the three lists are in step and hold
only what carries a rule (`IgnoreRuleSet.Coherent`).

Two sets in step are equal if they hold the same globs and the same lines in the same order
(`IgnoreRuleSet.Coherent.ext`), and what a union holds is said without a fold by
`IgnoreRuleSet.mem_patterns_union` and `IgnoreRuleSet.lines_union`. From these come the laws of
`IgnoreRuleSet.reachable_unionAlgebra`.
-/

namespace ScriptCensus

/-! ## Sorted texts -/

theorem pairwise_insertSorted (s : String) : ∀ {ts : List String}, ts.Pairwise (· < ·) →
    (insertSorted s ts).Pairwise (· < ·)
  | [], _ => by simp [insertSorted]
  | t :: rest, h => by
    obtain ⟨ht, hrest⟩ := List.pairwise_cons.1 h
    rw [insertSorted]
    by_cases hlt : s < t
    · rw [if_pos hlt, List.pairwise_cons]
      refine ⟨fun u hu => ?_, h⟩
      rcases List.mem_cons.1 hu with rfl | hu
      · exact hlt
      · exact String.lt_trans hlt (ht u hu)
    · rw [if_neg hlt]
      by_cases heq : s = t
      · rw [if_pos heq]
        exact h
      · have hts : t < s := Std.lt_of_le_of_ne (String.not_lt.1 hlt) (Ne.symm heq)
        rw [if_neg heq, List.pairwise_cons]
        refine ⟨fun u hu => ?_, pairwise_insertSorted s hrest⟩
        rcases (mem_insertSorted s u rest).1 hu with rfl | hu
        · exact hts
        · exact ht u hu

theorem mem_foldl_insertSorted (t : String) (added ts : List String) :
    t ∈ added.foldl (fun ts s => insertSorted s ts) ts ↔ t ∈ ts ∨ t ∈ added := by
  induction added generalizing ts with
  | nil => simp
  | cons s rest ih =>
    rw [List.foldl_cons, ih, mem_insertSorted, List.mem_cons, or_assoc]
    exact or_left_comm

theorem pairwise_foldl_insertSorted (added : List String) {ts : List String}
    (h : ts.Pairwise (· < ·)) :
    (added.foldl (fun ts s => insertSorted s ts) ts).Pairwise (· < ·) := by
  induction added generalizing ts with
  | nil => exact h
  | cons s rest ih => exact ih (pairwise_insertSorted s h)

/-- Sorted lists without repetitions are equal if they hold the same. -/
theorem eq_of_sorted {xs ys : List String} (hx : xs.Pairwise (· < ·)) (hy : ys.Pairwise (· < ·))
    (h : ∀ s, s ∈ xs ↔ s ∈ ys) : xs = ys := by
  have hnodup : ∀ zs : List String, zs.Pairwise (· < ·) → zs.Nodup := by
    intro zs hz
    refine hz.imp ?_
    rintro s _ hlt rfl
    exact String.lt_irrefl s hlt
  refine List.Perm.eq_of_pairwise ?_ hx hy ?_
  · intro s t _ _ hst hts
    exact absurd hts (String.lt_asymm hst)
  · exact (List.perm_ext_iff_of_nodup (hnodup xs hx) (hnodup ys hy)).2 h

/-! ## Lists without repetitions -/

section eraseDups

variable {α : Type} [BEq α] [LawfulBEq α]

theorem nodup_eraseDups (xs : List α) : xs.eraseDups.Nodup := by
  induction xs using List.reverseRecOn with
  | nil => simp
  | append_singleton xs a ih =>
    by_cases ha : a ∈ xs
    · rw [eraseDups_concat_of_mem ha]
      exact ih
    · rw [eraseDups_concat_of_not_mem ha]
      exact List.nodup_middle.2 (by simpa using ⟨ha, ih⟩)

theorem eraseDups_of_nodup {xs : List α} (h : xs.Nodup) : xs.eraseDups = xs := by
  induction xs using List.reverseRecOn with
  | nil => rfl
  | append_singleton xs a ih =>
    obtain ⟨hxs, -, hdisjoint⟩ := List.nodup_append.1 h
    have ha : a ∉ xs := fun ha => hdisjoint a ha a (by simp) rfl
    rw [eraseDups_concat_of_not_mem ha, ih hxs]

/-- Repetitions in the second of two lists may be dropped before. -/
theorem eraseDups_append_eraseDups (xs ys : List α) :
    (xs ++ ys.eraseDups).eraseDups = (xs ++ ys).eraseDups := by
  induction ys using List.reverseRecOn with
  | nil => rfl
  | append_singleton ys a ih =>
    rw [← List.append_assoc]
    by_cases ha : a ∈ ys
    · rw [eraseDups_concat_of_mem ha, eraseDups_concat_of_mem (List.mem_append_right xs ha), ih]
    · rw [eraseDups_concat_of_not_mem ha, ← List.append_assoc]
      by_cases hx : a ∈ xs
      · rw [eraseDups_concat_of_mem (List.mem_append_left _ hx),
          eraseDups_concat_of_mem (List.mem_append_left _ hx), ih]
      · rw [eraseDups_concat_of_not_mem (by simp [hx, ha]),
          eraseDups_concat_of_not_mem (by simp [hx, ha]), ih]

/-- Repetitions in the first of two lists may be dropped before. -/
theorem eraseDups_eraseDups_append (xs ys : List α) :
    (xs.eraseDups ++ ys).eraseDups = (xs ++ ys).eraseDups := by
  induction ys using List.reverseRecOn with
  | nil => simpa using eraseDups_of_nodup (nodup_eraseDups xs)
  | append_singleton ys a ih =>
    rw [← List.append_assoc, ← List.append_assoc]
    by_cases ha : a ∈ xs ++ ys
    · rw [eraseDups_concat_of_mem ha, eraseDups_concat_of_mem (by simpa using ha), ih]
    · rw [eraseDups_concat_of_not_mem ha, eraseDups_concat_of_not_mem (by simpa using ha), ih]

theorem eraseDups_append_of_subset {xs ys : List α} (h : ∀ y ∈ ys, y ∈ xs) :
    (xs ++ ys).eraseDups = xs.eraseDups := by
  induction ys using List.reverseRecOn with
  | nil => rw [List.append_nil]
  | append_singleton ys a ih =>
    have ha : a ∈ xs ++ ys := List.mem_append_left ys (h a (by simp))
    rw [← List.append_assoc, eraseDups_concat_of_mem ha, ih fun y hy => h y (by simp [hy])]

end eraseDups

/-! ## What is kept of globs and lines -/

theorem dropEndWhile_dropEndWhile (p : Char → Bool) (cs : List Char) :
    dropEndWhile p (dropEndWhile p cs) = dropEndWhile p cs :=
  List.rdropWhile_idempotent p cs

/-- What is kept of a line is kept whole. -/
theorem significantLine?_of_eq_some {line kept : String} (h : significantLine? line = some kept) :
    significantLine? kept = some kept := by
  simp only [significantLine?] at h
  split at h
  · simp at h
  · next hrule =>
    obtain rfl := Option.some.inj h
    simp only [significantLine?, String.toList_ofList, dropEndWhile_dropEndWhile]
    rw [if_neg hrule]

/-- Trimming leaves nothing to trim. -/
theorem trimBlanks_trimBlanks (s : String) : trimBlanks (trimBlanks s) = trimBlanks s := by
  unfold trimBlanks
  rw [String.toList_ofList]
  -- the front of what is left is the front of what was left when the blanks before it were dropped
  have hfront : (dropEndWhile isBlank (s.toList.dropWhile isBlank)).dropWhile isBlank =
      dropEndWhile isBlank (s.toList.dropWhile isBlank) := by
    have hinitial : dropEndWhile isBlank (s.toList.dropWhile isBlank) <+:
        s.toList.dropWhile isBlank := List.rdropWhile_prefix isBlank _
    rw [List.dropWhile_eq_self_iff]
    intro hpos
    rw [hinitial.getElem hpos]
    simpa using List.dropWhile_get_zero_not isBlank s.toList (hpos.trans_le hinitial.length_le)
  rw [hfront, dropEndWhile_dropEndWhile]

theorem all_isBlank_trimBlanks {s : String} (h : (trimBlanks s).isEmpty = false) :
    (trimBlanks s).toList.all isBlank = false := by
  rw [Bool.eq_false_iff]
  intro hall
  have hnone : (trimBlanks s).toList.dropWhile isBlank = [] :=
    List.dropWhile_eq_nil_iff.2 (by simpa using hall)
  have hempty : trimBlanks (trimBlanks s) = "" := by
    rw [trimBlanks, hnone]
    rfl
  rw [trimBlanks_trimBlanks] at hempty
  simp [hempty] at h

namespace IgnoreRuleSet

/-! ## Sets in step -/

/-- Whether the lists of a rule set are in step: the lines that it has seen are those that it holds,
none of them twice, and every line and glob is as it is kept. -/
structure Coherent (r : IgnoreRuleSet) : Prop where
  sorted : r.patterns.Pairwise (· < ·)
  trimmed : ∀ p ∈ r.patterns, trimBlanks p = p ∧ p.toList.all isBlank = false
  distinct : r.lines.Nodup
  significant : ∀ line ∈ r.lines, significantLine? line = some line
  seenSorted : r.seenLines.Pairwise (· < ·)
  seen : r.SeesItsLines

theorem coherent_empty : empty.Coherent :=
  ⟨.nil, by simp [empty], .nil, by simp [empty], .nil, fun _ => Iff.rfl⟩

theorem Coherent.insert {r : IgnoreRuleSet} (h : r.Coherent) (pattern : String) :
    (r.insert pattern).Coherent := by
  simp only [IgnoreRuleSet.insert]
  cases hblank : (trimBlanks pattern).isEmpty with
  | true => exact h
  | false =>
    refine ⟨pairwise_insertSorted _ h.sorted, fun p hp => ?_, h.distinct, h.significant,
      h.seenSorted, h.seen⟩
    rcases (mem_insertSorted _ p r.patterns).1 hp with rfl | hp
    · exact ⟨trimBlanks_trimBlanks pattern, all_isBlank_trimBlanks hblank⟩
    · exact h.trimmed p hp

theorem Coherent.insertLine {r : IgnoreRuleSet} (h : r.Coherent) (line : String) :
    (r.insertLine line).Coherent := by
  have hsees := h.seen.insertLine line
  unfold IgnoreRuleSet.insertLine at hsees ⊢
  cases hkept : significantLine? line with
  | none => exact h
  | some kept =>
    simp only [hkept] at hsees ⊢
    by_cases hseen : r.seenLines.contains kept
    · rw [if_pos hseen]
      exact h
    · rw [if_neg hseen] at hsees ⊢
      have hnew : kept ∉ r.lines := fun hmem => hseen (by simpa using (h.seen kept).2 hmem)
      refine ⟨h.sorted, h.trimmed, ?_, fun x hx => ?_, pairwise_insertSorted kept h.seenSorted,
        hsees⟩
      · exact List.nodup_middle.2 (by simpa using ⟨hnew, h.distinct⟩)
      · rcases List.mem_append.1 hx with hx | hx
        · exact h.significant x hx
        · obtain rfl := List.mem_singleton.1 hx
          exact significantLine?_of_eq_some hkept

theorem Coherent.foldl_insertLine {r : IgnoreRuleSet} (h : r.Coherent) (ls : List String) :
    (ls.foldl IgnoreRuleSet.insertLine r).Coherent := by
  induction ls generalizing r with
  | nil => exact h
  | cons line rest ih =>
    rw [List.foldl_cons]
    exact ih (h.insertLine line)

theorem Coherent.foldl_insert {r : IgnoreRuleSet} (h : r.Coherent) (ps : List String) :
    (ps.foldl IgnoreRuleSet.insert r).Coherent := by
  induction ps generalizing r with
  | nil => exact h
  | cons p rest ih =>
    rw [List.foldl_cons]
    exact ih (h.insert p)

theorem Coherent.union {r s : IgnoreRuleSet} (hr : r.Coherent) (hs : s.Coherent) :
    (r.union s).Coherent := by
  rw [IgnoreRuleSet.union]
  refine Coherent.foldl_insertLine ?_ s.lines
  refine ⟨pairwise_foldl_insertSorted s.patterns hr.sorted, fun p hp => ?_, hr.distinct,
    hr.significant, hr.seenSorted, hr.seen⟩
  rcases (mem_foldl_insertSorted p s.patterns r.patterns).1 hp with hp | hp
  · exact hr.trimmed p hp
  · exact hs.trimmed p hp

/-- The rule sets that can be built. -/
inductive Reachable : IgnoreRuleSet → Prop
  | empty : Reachable empty
  | builtin : Reachable builtin
  | insert {r : IgnoreRuleSet} (h : Reachable r) (pattern : String) : Reachable (r.insert pattern)
  | insertLine {r : IgnoreRuleSet} (h : Reachable r) (line : String) : Reachable (r.insertLine line)
  | extend {r : IgnoreRuleSet} (h : Reachable r) (text : String) : Reachable (r.extend text)
  | union {r s : IgnoreRuleSet} (hr : Reachable r) (hs : Reachable s) : Reachable (r.union s)

/-- All rule sets that can be built are in step. -/
theorem Reachable.coherent {r : IgnoreRuleSet} (h : r.Reachable) : r.Coherent := by
  induction h with
  | empty => exact coherent_empty
  | builtin => exact coherent_empty.foldl_insert builtinPatterns
  | insert _ pattern ih => exact ih.insert pattern
  | insertLine _ line ih => exact ih.insertLine line
  | extend _ text ih => exact ih.foldl_insertLine (linesOf text)
  | union _ _ ihr ihs => exact ihr.union ihs

/-- A set in step is told by its globs and its lines. -/
theorem Coherent.ext {r s : IgnoreRuleSet} (hr : r.Coherent) (hs : s.Coherent)
    (hpatterns : ∀ p, p ∈ r.patterns ↔ p ∈ s.patterns) (hlines : r.lines = s.lines) : r = s := by
  obtain ⟨patterns, lines, seenLines⟩ := r
  obtain ⟨patterns', lines', seenLines'⟩ := s
  have hseen : ∀ line, line ∈ seenLines ↔ line ∈ seenLines' := fun line =>
    (hr.seen line).trans ((iff_of_eq (congrArg (line ∈ ·) hlines)).trans (hs.seen line).symm)
  obtain rfl : patterns = patterns' := eq_of_sorted hr.sorted hs.sorted hpatterns
  obtain rfl : seenLines = seenLines' := eq_of_sorted hr.seenSorted hs.seenSorted hseen
  obtain rfl : lines = lines' := hlines
  rfl

/-! ## What unions and extensions hold -/

theorem mem_patterns_union (r s : IgnoreRuleSet) (p : String) :
    p ∈ (r.union s).patterns ↔ p ∈ r.patterns ∨ p ∈ s.patterns := by
  rw [union, patterns_foldl_insertLine]
  exact mem_foldl_insertSorted p s.patterns r.patterns

theorem Coherent.eraseDups_lines {r : IgnoreRuleSet} (h : r.Coherent) :
    r.lines = r.lines.eraseDups :=
  (eraseDups_of_nodup h.distinct).symm

/-- The lines of a union: those of the first set, and behind them those that only the second has. -/
theorem lines_union {r s : IgnoreRuleSet} (hr : r.Coherent) (hs : s.Coherent) :
    (r.union s).lines = (r.lines ++ s.lines).eraseDups := by
  have hkept : s.lines.filterMap significantLine? = s.lines := by
    rw [List.filterMap_congr hs.significant, List.filterMap_some]
  rw [union, lines_foldl_insertLine s.lines (by exact hr.seen) (by exact hr.eraseDups_lines), hkept]

theorem mem_lines_union {r s : IgnoreRuleSet} (hr : r.Coherent) (hs : s.Coherent) (line : String) :
    line ∈ (r.union s).lines ↔ line ∈ r.lines ∨ line ∈ s.lines := by
  rw [lines_union hr hs, List.mem_eraseDups, List.mem_append]

theorem Coherent.lines_extend {r : IgnoreRuleSet} (h : r.Coherent) (text : String) :
    (r.extend text).lines = (r.lines ++ significantLines text).eraseDups :=
  lines_foldl_insertLine (linesOf text) h.seen h.eraseDups_lines

theorem patterns_extend (r : IgnoreRuleSet) (text : String) : (r.extend text).patterns = r.patterns :=
  patterns_foldl_insertLine (linesOf text) r

/-- A further line is counted if it is new. -/
theorem size_insertLine (r : IgnoreRuleSet) (line : String) :
    (r.insertLine line).size = r.size + if r.isNewLine line then 1 else 0 := by
  unfold insertLine isNewLine size
  cases significantLine? line with
  | none => rfl
  | some kept => by_cases h : kept ∈ r.seenLines <;> simp [h, Nat.add_assoc]

theorem size_foldl_insertLine (ls : List String) (r : IgnoreRuleSet) :
    (ls.foldl insertLine r).size = r.size + newLines.count r ls := by
  induction ls generalizing r with
  | nil => rfl
  | cons line rest ih =>
    rw [List.foldl_cons, ih, size_insertLine, newLines.count]
    omega

/-! ## Laws -/

section laws

variable {a b c : IgnoreRuleSet}

theorem union_assoc (ha : a.Coherent) (hb : b.Coherent) (hc : c.Coherent) :
    (a.union b).union c = a.union (b.union c) := by
  refine ((ha.union hb).union hc).ext (ha.union (hb.union hc)) (fun p => ?_) ?_
  · simp only [mem_patterns_union, or_assoc]
  · rw [lines_union (ha.union hb) hc, lines_union ha hb, lines_union ha (hb.union hc),
      lines_union hb hc, eraseDups_eraseDups_append, eraseDups_append_eraseDups, List.append_assoc]

/-- A union with a set of which everything is there already changes nothing. -/
theorem union_of_subset (ha : a.Coherent) (hb : b.Coherent)
    (hpatterns : ∀ p ∈ b.patterns, p ∈ a.patterns) (hlines : ∀ line ∈ b.lines, line ∈ a.lines) :
    a.union b = a := by
  refine (ha.union hb).ext ha (fun p => ?_) ?_
  · rw [mem_patterns_union]
    exact or_iff_left_of_imp (hpatterns p)
  · rw [lines_union ha hb, eraseDups_append_of_subset hlines, ← ha.eraseDups_lines]

theorem empty_union (ha : a.Coherent) : empty.union a = a := by
  refine (coherent_empty.union ha).ext ha (fun p => ?_) ?_
  · simp [mem_patterns_union, empty]
  · rw [lines_union coherent_empty ha]
    exact ha.eraseDups_lines.symm

/-- Adding the lines of a text is a union with the set that has only these. -/
theorem extend_eq_union (ha : a.Coherent) (text : String) :
    a.extend text = a.union (empty.extend text) := by
  have htext : (empty.extend text).Coherent := coherent_empty.foldl_insertLine (linesOf text)
  have hextend : (a.extend text).Coherent := ha.foldl_insertLine (linesOf text)
  refine hextend.ext (ha.union htext) (fun p => ?_) ?_
  · simp [mem_patterns_union, patterns_extend, empty]
  · rw [ha.lines_extend, lines_union ha htext, lines_extend, eraseDups_append_eraseDups]

end laws

/-- Rule sets that can be built are in step, and their union is associative and idempotent, with the
set without rules as neutral element. It is commutative but for the order of the lines. Adding the
lines of a text is a union, and as many lines are counted as the set grows by. -/
theorem reachable_unionAlgebra {a b c : IgnoreRuleSet} (ha : a.Reachable) (hb : b.Reachable)
    (hc : c.Reachable) :
    a.Coherent ∧
    (a.union b).union c = a.union (b.union c) ∧
    a.union a = a ∧
    (empty.union a = a ∧ a.union empty = a) ∧
    (a.union b).union a = a.union b ∧
    ((a.union b).patterns = (b.union a).patterns ∧ (a.union b).seenLines = (b.union a).seenLines ∧
      ∀ line, line ∈ (a.union b).lines ↔ line ∈ (b.union a).lines) ∧
    ∀ text, a.extend text = a.union (empty.extend text) ∧
      (a.extend text).size = a.size + a.newLines text := by
  have ha := ha.coherent
  have hb := hb.coherent
  have hc := hc.coherent
  have hab := ha.union hb
  have hba := hb.union ha
  have hpatterns : ∀ p, p ∈ (a.union b).patterns ↔ p ∈ (b.union a).patterns := fun p => by
    rw [mem_patterns_union, mem_patterns_union, or_comm]
  have hlines : ∀ line, line ∈ (a.union b).lines ↔ line ∈ (b.union a).lines := fun line => by
    rw [mem_lines_union ha hb, mem_lines_union hb ha, or_comm]
  have hseen : ∀ line, line ∈ (a.union b).seenLines ↔ line ∈ (b.union a).seenLines := fun line =>
    (hab.seen line).trans ((hlines line).trans (hba.seen line).symm)
  refine ⟨ha, union_assoc ha hb hc, ?_, ⟨empty_union ha, ?_⟩, ?_, ⟨?_, ?_, hlines⟩, fun text => ?_⟩
  · exact union_of_subset ha ha (fun _ hp => hp) fun _ hl => hl
  · exact union_of_subset ha coherent_empty (by simp [empty]) (by simp [empty])
  · refine union_of_subset hab ha (fun p hp => ?_) fun line hline => ?_
    · exact (mem_patterns_union a b p).2 (Or.inl hp)
    · exact (mem_lines_union ha hb line).2 (Or.inl hline)
  · exact eq_of_sorted hab.sorted hba.sorted hpatterns
  · exact eq_of_sorted hab.seenSorted hba.seenSorted hseen
  · exact ⟨extend_eq_union ha text, size_foldl_insertLine (linesOf text) a⟩

/-- Two sets with a line in common. Their union takes it once, from the set that comes first. -/
theorem unionAlgebra_commonLine :
    let a := (empty.insert "**/dist/**").extend "gen/*\n!gen/keep.js\n"
    let b := (empty.insert " out/** ").extend "coverage\r\ngen/*\n# none\n"
    a.Reachable ∧ b.Reachable ∧ empty.Reachable ∧
      (a.union b).lines = ["gen/*", "!gen/keep.js", "coverage"] ∧
      (b.union a).lines = ["coverage", "gen/*", "!gen/keep.js"] ∧
      (a.union b).union a = a.union b ∧ (a.union b).patterns = (b.union a).patterns ∧
      (a.extend "coverage\r\ngen/*\n").size = a.size + a.newLines "coverage\r\ngen/*\n" := by
  intro a b
  have ha : a.Reachable := .extend (.insert .empty _) _
  have hb : b.Reachable := .extend (.insert .empty _) _
  obtain ⟨-, -, -, -, habsorbed, ⟨hpatterns, -, -⟩, htext⟩ := reachable_unionAlgebra ha hb .empty
  exact ⟨ha, hb, .empty, by decide +kernel, by decide +kernel, habsorbed, hpatterns, (htext _).2⟩

end IgnoreRuleSet

end ScriptCensus
