import Mathlib.Data.List.Induction
import ScriptCensus.Proofs.GlobSets

/-!
# Repeated lines

The last line of an ignore file that applies to a path decides about it, but a rule set keeps only the
first occurrence of each line (`IgnoreRuleSet.lines_extend`). So the line that decides in a rule set is,
of those that apply, the one that was first seen last (`find?_eraseDups`), and this is another line
than the last one if that is a repetition.

`IgnoreRuleSet.Overturned` says that the two lines disagree: one ignores the path, the other takes it
back in. Dropping repetitions changes the verdict on a path exactly if this is so for the path itself
or, for a file to which no line applies, for the nearest directory above it to which one does
(`IgnoreRuleSet.repeatedLines_exact`). This needs both lists of lines to be compiled; a list that is not
ignores nothing, and unless automata become too large both are compiled or neither
(`IgnoreRuleSet.linesCompile_eraseDups_iff`).
-/

namespace ScriptCensus

/-! ## The last element seen for the first time -/

section eraseDups

variable {α : Type}

/-- Where an element of a list with a further one at the end can stand. -/
theorem concat_eq_split {xs before behind : List α} {a m : α}
    (h : xs ++ [a] = before ++ m :: behind) :
    (behind = [] ∧ m = a ∧ before = xs) ∨
      ∃ rest, behind = rest ++ [a] ∧ xs = before ++ m :: rest := by
  rcases List.append_eq_append_iff.1 h with ⟨middle, hbefore, hlast⟩ | ⟨middle, hxs, hlast⟩
  · cases middle with
    | nil => simp_all
    | cons b rest => simp at hlast
  · cases middle with
    | nil => simp_all
    | cons b rest =>
      obtain ⟨rfl, rfl⟩ := List.cons.inj hlast
      exact Or.inr ⟨rest, rfl, hxs⟩

/-- An element is the last that was seen for the first time among those with a property: it has the
property, was not seen before, and what has the property behind it was seen by then. -/
def IsLastNew (p : α → Bool) (xs : List α) (m : α) : Prop :=
  ∃ before behind, xs = before ++ m :: behind ∧ m ∉ before ∧ p m = true ∧
    ∀ x ∈ behind, p x = true → x ∈ before ∨ x = m

/-- An element is the last with a property. -/
def IsLast (p : α → Bool) (xs : List α) (m : α) : Prop :=
  ∃ before behind, xs = before ++ m :: behind ∧ p m = true ∧ ∀ x ∈ behind, p x = false

theorem find?_reverse (p : α → Bool) (xs : List α) (m : α) :
    xs.reverse.find? p = some m ↔ IsLast p xs m := by
  rw [List.find?_eq_some_iff_append]
  constructor
  · rintro ⟨hm, as, bs, hxs, has⟩
    refine ⟨bs.reverse, as.reverse, ?_, hm, ?_⟩
    · rw [← List.reverse_reverse xs, hxs]
      simp
    · intro x hx
      simpa using has x (by simpa using hx)
  · rintro ⟨before, behind, rfl, hm, hbehind⟩
    refine ⟨hm, behind.reverse, before.reverse, by simp, ?_⟩
    intro x hx
    simpa using hbehind x (by simpa using hx)

theorem isLastNew_concat_of_mem {p : α → Bool} {xs : List α} {a : α} (ha : a ∈ xs) (m : α) :
    IsLastNew p (xs ++ [a]) m ↔ IsLastNew p xs m := by
  constructor
  · rintro ⟨before, behind, hxs, hnew, hm, hbehind⟩
    rcases concat_eq_split hxs with ⟨rfl, rfl, rfl⟩ | ⟨rest, rfl, rfl⟩
    · exact absurd ha hnew
    · exact ⟨before, rest, rfl, hnew, hm, fun x hx => hbehind x (by simp [hx])⟩
  · rintro ⟨before, behind, rfl, hnew, hm, hbehind⟩
    refine ⟨before, behind ++ [a], by simp, hnew, hm, fun x hx hp => ?_⟩
    rcases List.mem_append.1 hx with hx | hx
    · exact hbehind x hx hp
    · obtain rfl := List.mem_singleton.1 hx
      rcases List.mem_append.1 ha with h | h
      · exact Or.inl h
      · rcases List.mem_cons.1 h with rfl | h
        · exact Or.inr rfl
        · exact hbehind x h hp

theorem isLastNew_concat_of_not_mem {p : α → Bool} {xs : List α} {a : α} (ha : a ∉ xs) (m : α) :
    IsLastNew p (xs ++ [a]) m ↔ if p a then m = a else IsLastNew p xs m := by
  constructor
  · rintro ⟨before, behind, hxs, hnew, hm, hbehind⟩
    rcases concat_eq_split hxs with ⟨rfl, rfl, rfl⟩ | ⟨rest, rfl, rfl⟩
    · rw [if_pos hm]
    · have hpa : ¬p a = true := fun hpa => by
        rcases hbehind a (by simp) hpa with h | rfl <;> simp_all
      rw [if_neg hpa]
      exact ⟨before, rest, rfl, hnew, hm, fun x hx => hbehind x (by simp [hx])⟩
  · intro h
    by_cases hpa : p a
    · rw [if_pos hpa] at h
      subst h
      exact ⟨xs, [], rfl, ha, hpa, by simp⟩
    · rw [if_neg hpa] at h
      obtain ⟨before, behind, rfl, hnew, hm, hbehind⟩ := h
      refine ⟨before, behind ++ [a], by simp, hnew, hm, fun x hx hp => ?_⟩
      rcases List.mem_append.1 hx with hx | hx
      · exact hbehind x hx hp
      · obtain rfl := List.mem_singleton.1 hx
        exact absurd hp hpa

variable [BEq α] [LawfulBEq α]

theorem eraseDups_concat_of_mem {xs : List α} {a : α} (h : a ∈ xs) :
    (xs ++ [a]).eraseDups = xs.eraseDups := by
  simp [List.eraseDups_append, List.removeAll, h]

theorem eraseDups_concat_of_not_mem {xs : List α} {a : α} (h : a ∉ xs) :
    (xs ++ [a]).eraseDups = xs.eraseDups ++ [a] := by
  simp [List.eraseDups_append, List.eraseDups_cons, List.removeAll, h]

/-- The last element with a property in a list without its repetitions. -/
theorem find?_eraseDups (p : α → Bool) (xs : List α) (m : α) :
    xs.eraseDups.reverse.find? p = some m ↔ IsLastNew p xs m := by
  induction xs using List.reverseRecOn with
  | nil => simp [IsLastNew]
  | append_singleton xs a ih =>
    by_cases ha : a ∈ xs
    · rw [eraseDups_concat_of_mem ha, ih, isLastNew_concat_of_mem ha]
    · rw [eraseDups_concat_of_not_mem ha, isLastNew_concat_of_not_mem ha, ← ih]
      by_cases hpa : p a
      · simp [hpa, eq_comm]
      · simp [hpa]

end eraseDups

/-! ## The lines of a rule set -/

theorem mem_insertSorted (s t : String) : ∀ ts : List String,
    t ∈ insertSorted s ts ↔ t = s ∨ t ∈ ts
  | [] => by simp [insertSorted]
  | u :: rest => by
    rw [insertSorted]
    by_cases hlt : s < u
    · rw [if_pos hlt, List.mem_cons]
    · rw [if_neg hlt]
      by_cases heq : s = u
      · rw [if_pos heq, heq]
        simp
      · rw [if_neg heq, List.mem_cons, List.mem_cons, mem_insertSorted s t rest, or_left_comm]

/-- The lines of a text that carry a rule, in order and with their repetitions. -/
def significantLines (text : String) : List String :=
  (linesOf text).filterMap significantLine?

namespace IgnoreRuleSet

/-- Whether the lines that a set has seen are those that it holds. -/
def SeesItsLines (r : IgnoreRuleSet) : Prop :=
  ∀ line, line ∈ r.seenLines ↔ line ∈ r.lines

theorem SeesItsLines.insertLine {r : IgnoreRuleSet} (h : r.SeesItsLines) (line : String) :
    (r.insertLine line).SeesItsLines := by
  unfold IgnoreRuleSet.insertLine
  cases significantLine? line with
  | none => exact h
  | some kept =>
    by_cases hseen : r.seenLines.contains kept
    · simpa only [hseen, if_true] using h
    · simp only [hseen, Bool.false_eq_true, if_false]
      intro x
      simp only [mem_insertSorted, h x, List.mem_append, List.mem_singleton]
      exact or_comm

/-- A further line is added at the end, unless it carries no rule or is there already. -/
theorem lines_insertLine {r : IgnoreRuleSet} (h : r.SeesItsLines) {seen : List String}
    (hr : r.lines = seen.eraseDups) (line : String) :
    (r.insertLine line).lines = (seen ++ (significantLine? line).toList).eraseDups := by
  unfold IgnoreRuleSet.insertLine
  cases significantLine? line with
  | none => simpa using hr
  | some kept =>
    have hmem : kept ∈ r.seenLines ↔ kept ∈ seen := by rw [h kept, hr, List.mem_eraseDups]
    by_cases hseen : kept ∈ seen
    · simp [hmem, hseen, hr, eraseDups_concat_of_mem]
    · simp [hmem, hseen, hr, eraseDups_concat_of_not_mem]

theorem lines_foldl_insertLine (ls : List String) {r : IgnoreRuleSet} (h : r.SeesItsLines)
    {seen : List String} (hr : r.lines = seen.eraseDups) :
    (ls.foldl insertLine r).lines = (seen ++ ls.filterMap significantLine?).eraseDups := by
  induction ls generalizing r seen with
  | nil => simpa using hr
  | cons line rest ih =>
    rw [List.foldl_cons, ih (h.insertLine line) (lines_insertLine h hr line), List.append_assoc]
    cases hline : significantLine? line <;> simp [hline]

/-- The lines of an ignore file, as a rule set without other lines keeps them. -/
theorem lines_extend (text : String) :
    (empty.extend text).lines = (significantLines text).eraseDups := by
  have hsees : empty.SeesItsLines := fun _ => Iff.rfl
  have hnone : empty.lines = [].eraseDups := rfl
  rw [extend, lines_foldl_insertLine (linesOf text) hsees hnone, List.nil_append, significantLines]

end IgnoreRuleSet

/-! ## Which line decides -/

namespace IgnoreEntry

/-- The entry of a line, if the line can be read and carries a rule. -/
def read? (line : String) : Option IgnoreEntry :=
  match ofLine? line with
  | .ok entry? => entry?
  | .error _ => none

/-- Whether a line applies to a path. -/
def lineApplies (p : Path) (isDirectory : Bool) (line : String) : Bool :=
  (read? line).any fun e => (!e.onlyDirectories || isDirectory) && Glob.isMatch e.glob p.text

/-- Whether a line takes back in what it applies to. -/
def reincludes (line : String) : Bool :=
  (read? line).any (·.negated)

end IgnoreEntry

namespace IgnoreRuleSet

open IgnoreEntry IgnoreList

/-- What a line says about the paths that it applies to. -/
def verdictBy (line : String) : Verdict :=
  if reincludes line then .included else .ignored

theorem verdictBy_ne_silent (line : String) : verdictBy line ≠ .silent := by
  unfold verdictBy
  cases reincludes line <;> simp

theorem verdictBy_beq_ignored (line : String) :
    (verdictBy line == .ignored) = !reincludes line := by
  unfold verdictBy
  cases reincludes line <;> rfl

/-- The last line that applies to a path decides about it. -/
theorem verdictOf_validEntries (p : Path) (isDirectory : Bool) (lines : List String) :
    verdictOf p isDirectory (validEntries lines) =
      ((lines.reverse.find? (lineApplies p isDirectory)).map verdictBy).getD .silent := by
  have hfind : (validEntries lines).reverse.find?
      (fun e => (!e.onlyDirectories || isDirectory) && Glob.isMatch e.glob p.text) =
      (lines.reverse.find? (lineApplies p isDirectory)).bind read? := by
    have hread : validEntries lines = lines.filterMap read? := rfl
    rw [hread, ← List.filterMap_reverse, List.find?_filterMap]
    rfl
  rw [verdictOf, hfind]
  cases hline : lines.reverse.find? (lineApplies p isDirectory) with
  | none => rfl
  | some line =>
    have happlies := List.find?_some hline
    cases hread : read? line with
    | none => simp [lineApplies, hread] at happlies
    | some e => simp [verdictBy, reincludes, hread]

/-- Whether some line applies to a path. -/
def Speaks (lines : List String) (p : Path) (isDirectory : Bool) : Prop :=
  ∃ line ∈ lines, lineApplies p isDirectory line = true

/-- Whether dropping repetitions turns the verdict on a path around: of the lines that apply, the last
one and the one that was first seen last disagree. -/
def Overturned (lines : List String) (p : Path) (isDirectory : Bool) : Prop :=
  ∃ last new, IsLast (lineApplies p isDirectory) lines last ∧
    IsLastNew (lineApplies p isDirectory) lines new ∧ reincludes last ≠ reincludes new

theorem not_overturned_of_not_speaks {lines : List String} {p : Path} {isDirectory : Bool}
    (h : ¬Speaks lines p isDirectory) : ¬Overturned lines p isDirectory := by
  rintro ⟨last, new, ⟨before, behind, rfl, happlies, -⟩, -, -⟩
  exact h ⟨last, by simp, happlies⟩

theorem verdictOf_of_not_speaks {lines : List String} {p : Path} {isDirectory : Bool}
    (h : ¬Speaks lines p isDirectory) :
    verdictOf p isDirectory (validEntries lines) = .silent ∧
      verdictOf p isDirectory (validEntries lines.eraseDups) = .silent := by
  have hnone : ∀ x ∈ lines, ¬lineApplies p isDirectory x = true := fun x hx happlies =>
    h ⟨x, hx, happlies⟩
  constructor
  · rw [verdictOf_validEntries, List.find?_eq_none.2 (by simpa using hnone)]
    rfl
  · rw [verdictOf_validEntries, List.find?_eq_none.2 (by simpa using hnone)]
    rfl

/-- Where some line applies, the last one decides with repetitions and the one that was first seen last
without them. -/
theorem exists_deciding {lines : List String} {p : Path} {isDirectory : Bool}
    (h : Speaks lines p isDirectory) :
    ∃ last new, IsLast (lineApplies p isDirectory) lines last ∧
      IsLastNew (lineApplies p isDirectory) lines new ∧
      verdictOf p isDirectory (validEntries lines) = verdictBy last ∧
      verdictOf p isDirectory (validEntries lines.eraseDups) = verdictBy new := by
  obtain ⟨line, hmem, happlies⟩ := h
  have hlast : (lines.reverse.find? (lineApplies p isDirectory)).isSome := by
    simpa using ⟨line, hmem, happlies⟩
  have hnew : (lines.eraseDups.reverse.find? (lineApplies p isDirectory)).isSome := by
    simpa using ⟨line, hmem, happlies⟩
  obtain ⟨last, hlast⟩ := Option.isSome_iff_exists.1 hlast
  obtain ⟨new, hnew⟩ := Option.isSome_iff_exists.1 hnew
  refine ⟨last, new, (find?_reverse _ _ _).1 hlast, (find?_eraseDups _ _ _).1 hnew, ?_, ?_⟩
  · rw [verdictOf_validEntries, hlast]
    rfl
  · rw [verdictOf_validEntries, hnew]
    rfl

/-- Dropping repetitions changes what is said about a path itself exactly if it is overturned. -/
theorem ignored_eq_iff (lines : List String) (p : Path) (isDirectory : Bool) :
    (verdictOf p isDirectory (validEntries lines.eraseDups) == .ignored) =
        (verdictOf p isDirectory (validEntries lines) == .ignored) ↔
      ¬Overturned lines p isDirectory := by
  by_cases h : Speaks lines p isDirectory
  · obtain ⟨last, new, hlast, hnew, hwith, hwithout⟩ := exists_deciding h
    rw [hwith, hwithout, verdictBy_beq_ignored, verdictBy_beq_ignored, Bool.not_inj_iff]
    constructor
    · rintro heq ⟨last', new', hlast', hnew', hne⟩
      rw [← find?_reverse] at hlast hlast'
      rw [← find?_eraseDups] at hnew hnew'
      obtain rfl : last = last' := Option.some.inj (hlast.symm.trans hlast')
      obtain rfl : new = new' := Option.some.inj (hnew.symm.trans hnew')
      exact hne heq.symm
    · intro hnot
      exact Decidable.byContradiction fun hne => hnot ⟨last, new, hlast, hnew, Ne.symm hne⟩
  · obtain ⟨hwith, hwithout⟩ := verdictOf_of_not_speaks h
    rw [hwith, hwithout]
    exact iff_of_true rfl (not_overturned_of_not_speaks h)

/-! ## Files and the directories above them -/

/-- Where the verdict on a path comes from: from the path itself if a line applies to it, else from the
nearest directory above to which one applies. -/
inductive ComesFrom (lines : List String) : Path → Bool → Path → Bool → Prop
  | here {p : Path} {d : Bool} (h : Speaks lines p d) : ComesFrom lines p d p d
  | above {p q source : Path} {d e : Bool} (h : ¬Speaks lines p d) (hq : p.parent? = some q)
      (hs : ComesFrom lines q true source e) : ComesFrom lines p d source e

theorem comesFrom_of_speaks {lines : List String} {p q : Path} {d e : Bool}
    (h : Speaks lines p d) : ComesFrom lines p d q e ↔ q = p ∧ e = d := by
  constructor
  · rintro (_ | ⟨hn, -, -⟩)
    · exact ⟨rfl, rfl⟩
    · exact absurd h hn
  · rintro ⟨rfl, rfl⟩
    exact .here h

theorem comesFrom_of_not_speaks {lines : List String} {p q : Path} {d e : Bool}
    (h : ¬Speaks lines p d) :
    ComesFrom lines p d q e ↔ ∃ r, p.parent? = some r ∧ ComesFrom lines r true q e := by
  constructor
  · rintro (hs | ⟨-, hr, hs⟩)
    · exact absurd hs h
    · exact ⟨_, hr, hs⟩
  · rintro ⟨r, hr, hs⟩
    exact .above h hr hs

/-- A search with enough fuel to reach the top gives the same with and without repetitions exactly if
the place from where the verdict comes is not overturned. -/
theorem ignoredAbove_eq_iff (lines : List String) :
    ∀ (fuel : Nat) (p : Path) (d : Bool), p.text.length < fuel →
      ((verdictAbove (validEntries lines.eraseDups) fuel p d == .ignored) =
          (verdictAbove (validEntries lines) fuel p d == .ignored) ↔
        ∀ q e, ComesFrom lines p d q e → ¬Overturned lines q e)
  | 0, p, d, h => by omega
  | fuel + 1, p, d, hlen => by
    by_cases h : Speaks lines p d
    · obtain ⟨last, new, -, -, hwith, hwithout⟩ := exists_deciding h
      rw [verdictAbove_of_ne_silent (by rw [hwithout]; exact verdictBy_ne_silent new),
        verdictAbove_of_ne_silent (by rw [hwith]; exact verdictBy_ne_silent last),
        ignored_eq_iff]
      simp [comesFrom_of_speaks h]
    · obtain ⟨hwith, hwithout⟩ := verdictOf_of_not_speaks h
      rw [verdictAbove, verdictAbove, hwith, hwithout]
      simp only [comesFrom_of_not_speaks h]
      cases hq : p.parent? with
      | none => simp
      | some q =>
        have hshort := Path.length_lt_of_parent? hq
        simp only [Option.some.injEq, exists_eq_left']
        exact ignoredAbove_eq_iff lines fuel q true (by omega)

/-! ## Whole texts -/

/-- The matcher of all lines of a text that carry a rule, repetitions included. -/
def uncollapsed (text : String) (root : Path) (limit : Glob.SizeLimit := {}) : IgnoreMatcher :=
  ⟨[], [], .ofEntries root (askedEntries limit (validEntries (significantLines text)))⟩

/-- Whether the globs of some lines can be compiled together. -/
def LinesCompile (limit : Glob.SizeLimit) (lines : List String) : Prop :=
  Glob.compiles limit ((validEntries lines).map (·.glob)) = true

theorem askedEntries_of_linesCompile {limit : Glob.SizeLimit} {lines : List String}
    (h : LinesCompile limit lines) :
    askedEntries limit (validEntries lines) = validEntries lines :=
  askedEntries_of_compiles h

theorem askedEntries_of_not_linesCompile {limit : Glob.SizeLimit} {lines : List String}
    (h : ¬LinesCompile limit lines) : askedEntries limit (validEntries lines) = [] :=
  askedEntries_of_not_compiles (Bool.eq_false_iff.2 h)

/-- Where automata may become as large as they like, repetitions make no difference for that. -/
theorem linesCompile_eraseDups_iff (lines : List String) :
    LinesCompile {} lines.eraseDups ↔ LinesCompile {} lines := by
  simp only [LinesCompile, Glob.compiles_unlimited_iff, validEntries, List.mem_map,
    List.mem_filterMap, List.mem_eraseDups]

theorem patterns_foldl_insertLine (ls : List String) (r : IgnoreRuleSet) :
    (ls.foldl insertLine r).patterns = r.patterns := by
  induction ls generalizing r with
  | nil => rfl
  | cons line rest ih =>
    rw [List.foldl_cons, ih, insertLine]
    cases significantLine? line with
    | none => rfl
    | some kept => by_cases h : kept ∈ r.seenLines <;> simp [h]

theorem compile_extend (text : String) (root : Path) (limit : Glob.SizeLimit) :
    ((empty.extend text).compile root limit).value =
      ⟨[], [], .ofEntries root
        (askedEntries limit (validEntries (significantLines text).eraseDups))⟩ := by
  have hpatterns : (empty.extend text).patterns = [] := patterns_foldl_insertLine _ empty
  simp only [compile, matcher, hpatterns, lines_extend]
  rfl

section verdicts

variable {root p : Path} (hroot : root.isAbsolute = true) (hp : p.withoutDot.isAbsolute = false)
  (entries : List IgnoreEntry)

include hroot hp

/-- What entries alone say of a file under an absolute root. -/
theorem isIgnored?_ofEntries : (IgnoreMatcher.mk [] [] (.ofEntries root entries)).isIgnored? p =
    some (verdictAbove entries (p.withoutDot.text.length + 2) p.withoutDot false == .ignored) := by
  have hpart := matchedPart_of_not_swallows hp (not_swallows_of_absolute hroot hp)
  have hfront : (matchedPart root p).isAbsolute = false := by rw [hpart, hp]
  simp [IgnoreMatcher.isIgnored?, IgnoreMatcher.anyMatch, fileVerdict?_ofEntries hfront, hpart]

/-- What entries alone say of a directory under an absolute root. -/
theorem isIgnoredDirectory_ofEntries :
    (IgnoreMatcher.mk [] [] (.ofEntries root entries)).isIgnoredDirectory p =
      (verdictOf p.withoutDot true entries == .ignored) := by
  have hpart := matchedPart_of_not_swallows hp (not_swallows_of_absolute hroot hp)
  simp [IgnoreMatcher.isIgnoredDirectory, IgnoreMatcher.anyMatch, verdict_ofEntries, hpart]

end verdicts

/-- When dropping repetitions changes no verdict. Under an absolute root the rule set of a text and the
matcher of all its lines agree on a file exactly if the place from where the verdict on it comes is not
overturned, and on a directory exactly if it is not overturned itself. This is so if both lists of lines
can be compiled; one that cannot be ignores nothing. If only the nesting counts for that, both can be
compiled or neither. -/
theorem repeatedLines_exact (text : String) (limit : Glob.SizeLimit) {root p : Path}
    (hroot : root.isAbsolute = true) (hp : p.withoutDot.isAbsolute = false) :
    let lines := significantLines text
    let collapsed := ((empty.extend text).compile root limit).value
    let repeating := uncollapsed text root limit
    (LinesCompile limit lines.eraseDups → LinesCompile limit lines →
      (collapsed.isIgnored? p = repeating.isIgnored? p ↔
        ∀ q d, ComesFrom lines p.withoutDot false q d → ¬Overturned lines q d) ∧
      (collapsed.isIgnoredDirectory p = repeating.isIgnoredDirectory p ↔
        ¬Overturned lines p.withoutDot true)) ∧
    (¬LinesCompile limit lines.eraseDups →
      collapsed.isIgnored? p = some false ∧ collapsed.isIgnoredDirectory p = false) ∧
    (¬LinesCompile limit lines →
      repeating.isIgnored? p = some false ∧ repeating.isIgnoredDirectory p = false) ∧
    (LinesCompile {} lines.eraseDups ↔ LinesCompile {} lines) := by
  intro lines collapsed repeating
  have hcollapsed : collapsed = _ := compile_extend text root limit
  have hnothing : (IgnoreMatcher.mk [] [] (.ofEntries root [])).isIgnored? p = some false ∧
      (IgnoreMatcher.mk [] [] (.ofEntries root [])).isIgnoredDirectory p = false := by
    rw [isIgnored?_ofEntries hroot hp, isIgnoredDirectory_ofEntries hroot hp, verdictAbove_nil]
    exact ⟨rfl, rfl⟩
  refine ⟨fun hnew hall => ?_, fun hnew => ?_, fun hall => ?_, linesCompile_eraseDups_iff lines⟩
  · simp only [hcollapsed, repeating, uncollapsed, lines, askedEntries_of_linesCompile hnew,
      askedEntries_of_linesCompile hall, isIgnored?_ofEntries hroot hp,
      isIgnoredDirectory_ofEntries hroot hp, Option.some.injEq]
    exact ⟨ignoredAbove_eq_iff _ _ _ _ (by omega), ignored_eq_iff _ _ _⟩
  · rwa [hcollapsed, askedEntries_of_not_linesCompile hnew]
  · simp only [repeating, uncollapsed]
    rwa [askedEntries_of_not_linesCompile hall]

/-- A line, its negation and the line again: without the repetition the verdict is turned around. -/
theorem overturned_gen :
    (⟨"/project"⟩ : Path).isAbsolute = true ∧ (⟨"gen"⟩ : Path).withoutDot.isAbsolute = false ∧
      LinesCompile {} (significantLines "gen\n!gen\ngen\n") ∧
      Overturned (significantLines "gen\n!gen\ngen\n") (⟨"gen"⟩ : Path).withoutDot true := by
  have hroot : (⟨"/project"⟩ : Path).isAbsolute = true := by decide
  have hp : (⟨"gen"⟩ : Path).withoutDot.isAbsolute = false := by decide +kernel
  have hdiffer : ((empty.extend "gen\n!gen\ngen\n").compile ⟨"/project"⟩).value.isIgnoredDirectory
      ⟨"gen"⟩ ≠ (uncollapsed "gen\n!gen\ngen\n" ⟨"/project"⟩).isIgnoredDirectory ⟨"gen"⟩ := by
    decide +kernel
  have hcompile : LinesCompile {} (significantLines "gen\n!gen\ngen\n") := by
    unfold LinesCompile
    decide +kernel
  obtain ⟨hexact, -, -, hboth⟩ := repeatedLines_exact "gen\n!gen\ngen\n" {} hroot hp
  have hiff := (hexact (hboth.2 hcompile) hcompile).2
  exact ⟨hroot, hp, hcompile, Classical.not_not.1 fun hnot => hdiffer (hiff.2 hnot)⟩

/-- With the repetition the path is ignored, and without it is not. -/
theorem repetition_decides :
    ((empty.extend "gen\n!gen\ngen\n").compile ⟨"/project"⟩).value.isIgnored? ⟨"gen"⟩ = some false ∧
    (uncollapsed "gen\n!gen\ngen\n" ⟨"/project"⟩).isIgnored? ⟨"gen"⟩ = some true := by
  decide +kernel

end IgnoreRuleSet

end ScriptCensus
