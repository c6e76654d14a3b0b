import Mathlib.Algebra.Ring.Parity
import ScriptCensus.Config.Settings
import ScriptCensus.Ignore.Files
import ScriptCensus.Ignore.Matcher
import ScriptCensus.Proofs.FileOperations
import ScriptCensus.Proofs.FurtherExcludes
import ScriptCensus.Proofs.GlobTexts
import ScriptCensus.Proofs.RepeatedLines

/-!
# Configured excludes

A configuration is checked with its excludes as they stand there, and a rule set takes them without
the blanks around them. Blanks at the front can always go. A blank at the end may be escaped:
without it the backslash is left alone, and what was a glob is none. So an exclude that passed the
check is dropped by itself exactly if it ends, but for blanks, in an odd number of backslashes. The
others are dropped all together if they cannot be compiled together (`Config.excludes_exact`).

What is to be shown of the readings is that no other blank matters (`Glob.Reads.trimmed`). The text
is cut before the backslashes at its end, where neither a class nor an escape can be cut.
-/

namespace ScriptCensus

/-! ## Blanks around globs -/

namespace Glob

theorem not_mem_guards_of_isBlank {c : Char} (h : isBlank c = true) : c ∉ guards := by
  intro hmem
  simp only [guards, List.mem_cons, List.not_mem_nil, or_false] at hmem
  rcases hmem with rfl | rfl | rfl | rfl <;> simp [isBlank] at h

/-- Characters that guard nothing leave the groups as they are. -/
theorem reads_plain_append_iff {cs : List Char} (hcs : ∀ c ∈ cs, c ∉ guards) {tail : List Char}
    {d e : Nat} : Reads d (cs ++ tail) e ↔ Reads d tail e := by
  induction cs with
  | nil => rfl
  | cons c cs ih =>
    obtain ⟨hc, hcs⟩ := List.forall_mem_cons.1 hcs
    rw [← ih hcs, List.cons_append]
    refine ⟨fun h => ?_, .plain hc⟩
    generalize htext : c :: (cs ++ tail) = text at h
    cases h with
    | nil => simp at htext
    | plain _ h =>
      obtain ⟨-, rfl⟩ := List.cons.inj htext
      exact h
    | ofClass | opening | closing | escape =>
      obtain ⟨rfl, -⟩ := List.cons.inj htext
      exact absurd (by decide) hc

/-- The number of backslashes at the end of a text. -/
def backslashesAtEnd (cs : List Char) : Nat :=
  (cs.rtakeWhile (· == '\\')).length

theorem exists_eq_append_backslashes (cs : List Char) :
    ∃ front, cs = front ++ List.replicate (backslashesAtEnd cs) '\\' ∧
      front.getLast? ≠ some '\\' := by
  refine ⟨cs.rdropWhile (· == '\\'), ?_, fun hlast => ?_⟩
  · have hall : cs.rtakeWhile (· == '\\') = List.replicate (backslashesAtEnd cs) '\\' :=
      List.eq_replicate_iff.2 ⟨rfl, fun c hc => by simpa using List.mem_rtakeWhile_imp hc⟩
    rw [← hall, List.rdropWhile_append_rtakeWhile]
  · have hne : cs.rdropWhile (· == '\\') ≠ [] := fun hnil => by simp [hnil] at hlast
    rw [List.getLast?_eq_some_getLast hne] at hlast
    exact List.rdropWhile_last_not _ _ hne (by simp [Option.some.inj hlast])

/-- Two backslashes are one that is escaped. -/
theorem reads_backslashes_iff (n : Nat) (tail : List Char) {d e : Nat} :
    Reads d (List.replicate (n + n) '\\' ++ tail) e ↔ Reads d tail e := by
  induction n with
  | zero => simp
  | succ n ih =>
    have htwo : List.replicate (n + 1 + (n + 1)) '\\' ++ tail =
        '\\' :: '\\' :: (List.replicate (n + n) '\\' ++ tail) := by
      have hsum : n + 1 + (n + 1) = n + n + 1 + 1 := by omega
      rw [hsum, List.replicate_succ, List.replicate_succ]
      rfl
    rw [htwo, ← ih]
    refine ⟨fun h => ?_, .escape '\\'⟩
    cases h with
    | plain hc _ => exact absurd (by decide) hc
    | escape _ h => exact h

/-- Without the blanks around it, a text that can be read can be read again unless its last
backslash is left alone. -/
theorem Reads.trimmed {lead cs trail : List Char} (h : Reads 0 (lead ++ (cs ++ trail)) 0)
    (hlead : ∀ c ∈ lead, isBlank c = true) (htrail : ∀ c ∈ trail, isBlank c = true) :
    (Even (backslashesAtEnd cs) → Reads 0 cs 0) ∧
      (Odd (backslashesAtEnd cs) → parseChars false cs = .error .danglingEscape) := by
  have hblank : ∀ c ∈ trail, c ∉ guards := fun c hc => not_mem_guards_of_isBlank (htrail c hc)
  have hbracket : ']' ∉ trail := fun hmem => by
    have := htrail _ hmem
    simp [isBlank] at this
  rw [reads_plain_append_iff fun c hc => not_mem_guards_of_isBlank (hlead c hc)] at h
  obtain ⟨front, hcs, hlast⟩ := exists_eq_append_backslashes cs
  generalize backslashesAtEnd cs = n at hcs ⊢
  rw [hcs, List.append_assoc] at h
  -- the groups that are open behind the front stay open behind the backslashes and the blanks
  obtain ⟨d, hfront, hbehind⟩ := Reads.cut (by simp [hbracket]) h rfl hlast
  refine ⟨fun ⟨k, hk⟩ => ?_, fun ⟨k, hk⟩ => ?_⟩
  · rw [hk, reads_backslashes_iff, ← List.append_nil trail,
      reads_plain_append_iff hblank] at hbehind
    cases hbehind
    rw [hcs, hk]
    exact hfront.append (by simpa using (reads_backslashes_iff k []).2 (.nil _))
  · have hodd : List.replicate n '\\' = List.replicate (k + k) '\\' ++ ['\\'] := by
      rw [hk, ← List.replicate_succ', Nat.two_mul]
    rw [hcs, hodd, ← List.append_assoc]
    refine parseChars_dangling (d := d) (hfront.append ?_)
    simpa using (reads_backslashes_iff k []).2 (.nil _)

end Glob

/-- A text is what is left of it without blanks, with blanks around that. -/
theorem exists_eq_append_trimBlanks (s : String) : ∃ lead trail : List Char,
    s.toList = lead ++ ((trimBlanks s).toList ++ trail) ∧ (∀ c ∈ lead, isBlank c = true) ∧
      ∀ c ∈ trail, isBlank c = true := by
  refine ⟨s.toList.takeWhile isBlank, (s.toList.dropWhile isBlank).rtakeWhile isBlank, ?_, ?_, ?_⟩
  · have htrim : (trimBlanks s).toList = (s.toList.dropWhile isBlank).rdropWhile isBlank := by
      rw [trimBlanks, String.toList_ofList]
      rfl
    rw [htrim, List.rdropWhile_append_rtakeWhile, List.takeWhile_append_dropWhile]
  · exact fun c hc => List.mem_takeWhile_imp hc
  · exact fun c hc => List.mem_rtakeWhile_imp hc

/-! ## From the configuration to the rules -/

namespace IgnoreRuleSet

theorem trimBlanks_builtinPatterns : ∀ pattern ∈ builtinPatterns, trimBlanks pattern = pattern := by
  decide +kernel

/-- The rules that hold for every scan, as they are listed. -/
theorem mem_builtin_patterns {p : String} (h : p ∈ builtin.patterns) : p ∈ builtinPatterns := by
  rw [builtin, mem_patterns_foldl_insert] at h
  obtain ⟨-, pattern, hpattern, rfl⟩ := h.resolve_left (by simp [empty])
  rwa [trimBlanks_builtinPatterns pattern hpattern]

/-- A glob that can be read is asked if all globs can be compiled together, and of one that cannot be
read it is warned. -/
theorem mem_compile_of_mem_patterns {rules : IgnoreRuleSet} {p : String} (h : p ∈ rules.patterns)
    (root : Path) (limit : Glob.SizeLimit) :
    (∀ glob, Glob.parse p = .ok glob →
      Glob.compiles limit (validGlobs rules.patterns) = true →
        glob ∈ (rules.compile root limit).value.paths) ∧
    (∀ e, Glob.parse p = .error e → .invalidPattern ∈ (rules.compile root limit).warnings) := by
  refine ⟨fun glob hglob hcompiles => ?_, fun e he => ?_⟩
  · exact Glob.mem_asked_iff.2 ⟨hcompiles, mem_validGlobs_iff.2 ⟨p, h, hglob⟩⟩
  · simp only [compile, List.append_assoc]
    refine List.mem_append_left _ (List.mem_map.2 ⟨p, List.mem_filter.2 ⟨h, ?_⟩, rfl⟩)
    simp [he, Except.isOk, Except.toBool]

/-- Globs that cannot be compiled together are not asked, and of that it is warned. -/
theorem compile_of_not_compiles {rules : IgnoreRuleSet} {limit : Glob.SizeLimit}
    (h : Glob.compiles limit (validGlobs rules.patterns) = false) (root : Path) :
    (rules.compile root limit).value.paths = [] ∧
      .uncompiledPatterns ∈ (rules.compile root limit).warnings := by
  refine ⟨Glob.asked_of_not_compiles h, ?_⟩
  simp [compile, warnUncompiled, h]

end IgnoreRuleSet

namespace FileSystem

theorem patterns_addIgnoreFile (fs : FileSystem) (rules : IgnoreRuleSet) (path : Path) :
    (fs.addIgnoreFile rules path).value.patterns = rules.patterns := by
  unfold addIgnoreFile
  split
  · split
    · exact IgnoreRuleSet.patterns_foldl_insertLine _ _
    · rfl
  · rfl

/-- The globs of a scan are those that hold for every scan and the excludes that are not blank. -/
theorem patterns_ignoreRules (fs : FileSystem) (root : Path) (exclude : List String) :
    (fs.ignoreRules root exclude).value.patterns =
      (exclude.foldl IgnoreRuleSet.insert .builtin).patterns := by
  rw [ignoreRules]
  generalize exclude.foldl IgnoreRuleSet.insert .builtin = rules
  simp only [ignoreFileNames, List.foldlM_cons, List.foldlM_nil, Logged.value_bind,
    Logged.value_pure, patterns_addIgnoreFile]

/-- Where only the nesting counts, the globs of a scan can be compiled if no exclude is nested too
deeply. -/
theorem compiles_ignoreRules_iff (fs : FileSystem) (root : Path) (exclude : List String) :
    Glob.compiles {} (IgnoreRuleSet.validGlobs (fs.ignoreRules root exclude).value.patterns) = true ↔
      ∀ p ∈ exclude, IgnoreRuleSet.PatternCompiles p := by
  have hbuiltin : ∀ p ∈ IgnoreRuleSet.builtinPatterns, IgnoreRuleSet.PatternCompiles p := by
    decide +kernel
  have hblank : ∀ glob, Glob.parse "" = .ok glob → Glob.nesting glob ≤ Glob.maxNesting := by
    rintro _ ⟨⟩
    decide
  simp only [Glob.compiles_unlimited_iff, IgnoreRuleSet.mem_validGlobs_iff, patterns_ignoreRules,
    IgnoreRuleSet.mem_patterns_foldl_insert]
  constructor
  · intro h p hp glob hglob
    by_cases hempty : trimBlanks p = ""
    · exact hblank glob (hempty ▸ hglob)
    · exact h glob ⟨_, Or.inr ⟨hempty, p, hp, rfl⟩, hglob⟩
  · rintro h glob ⟨p, hp | ⟨-, p, hp, rfl⟩, hglob⟩
    · have hmem := IgnoreRuleSet.mem_builtin_patterns hp
      refine hbuiltin p hmem glob ?_
      rwa [IgnoreRuleSet.trimBlanks_builtinPatterns p hmem]
    · exact h p hp glob hglob

theorem addIgnoreFile_of_absent {fs : FileSystem} {path : Path} (h : fs.isFile path = false)
    (rules : IgnoreRuleSet) : (fs.addIgnoreFile rules path).value = rules := by
  simp [addIgnoreFile, h]

theorem ignoreRules_of_absent {fs : FileSystem} {root : Path}
    (h : ∀ name ∈ ignoreFileNames, fs.isFile (root.join ⟨name⟩) = false) (exclude : List String) :
    (fs.ignoreRules root exclude).value = exclude.foldl IgnoreRuleSet.insert .builtin := by
  rw [ignoreRules]
  generalize exclude.foldl IgnoreRuleSet.insert .builtin = rules
  generalize ignoreFileNames = names at h ⊢
  induction names with
  | nil => rfl
  | cons name names ih =>
    obtain ⟨hname, hnames⟩ := List.forall_mem_cons.1 h
    rw [List.foldlM_cons, Logged.value_bind, addIgnoreFile_of_absent hname, ih hnames]

end FileSystem

namespace Config

theorem parse_isOk_of_fault? {c : Config} (hc : c.fault? = none) {pattern : String}
    (hp : pattern ∈ c.exclude) : (Glob.parse pattern).isOk = true := by
  have hnone : c.exclude.findSome? excludeFault? = none := by
    unfold fault? at hc
    cases hfind : c.exclude.findSome? excludeFault? with
    | none => rfl
    | some fault => simp [hfind] at hc
  have hpattern := List.findSome?_eq_none_iff.1 hnone pattern hp
  unfold excludeFault? at hpattern
  split at hpattern
  · simp at hpattern
  · next hok => simp [hok, Except.isOk, Except.toBool]

/-- What becomes of an exclude with which nothing is wrong. Unless it is blank, the rules of a scan
hold it without the blanks around it. If it then ends in an odd number of backslashes, it is dropped
with a warning, as its last backslash escapes nothing. Else it is asked when a path is matched, as long
as all globs can be compiled together; if they cannot be, none is asked, with a warning. Where only the
nesting counts, they can be if no exclude is nested too deeply. -/
theorem excludes_exact {c : Config} (hc : c.fault? = none) {pattern : String}
    (hp : pattern ∈ c.exclude) (hblank : trimBlanks pattern ≠ "") (fs : FileSystem) (root : Path)
    (limit : Glob.SizeLimit) :
    let rules := (fs.ignoreRules root c.exclude).value
    let globs := IgnoreRuleSet.validGlobs rules.patterns
    trimBlanks pattern ∈ rules.patterns ∧
    (Even (Glob.backslashesAtEnd (trimBlanks pattern).toList) →
      ∃ glob, Glob.parse (trimBlanks pattern) = .ok glob ∧
        (Glob.compiles limit globs = true → glob ∈ (rules.compile root limit).value.paths)) ∧
    (Odd (Glob.backslashesAtEnd (trimBlanks pattern).toList) →
      Glob.parse (trimBlanks pattern) = .error .danglingEscape ∧
        .invalidPattern ∈ (rules.compile root limit).warnings) ∧
    (Glob.compiles limit globs = false → (rules.compile root limit).value.paths = [] ∧
      .uncompiledPatterns ∈ (rules.compile root limit).warnings) ∧
    (Glob.compiles {} globs = true ↔ ∀ p ∈ c.exclude, IgnoreRuleSet.PatternCompiles p) := by
  intro rules globs
  have hmem : trimBlanks pattern ∈ rules.patterns := by
    rw [fs.patterns_ignoreRules, IgnoreRuleSet.mem_patterns_foldl_insert]
    exact Or.inr ⟨hblank, pattern, hp, rfl⟩
  obtain ⟨hasked, hwarned⟩ := IgnoreRuleSet.mem_compile_of_mem_patterns hmem root limit
  obtain ⟨lead, trail, htext, hlead, htrail⟩ := exists_eq_append_trimBlanks pattern
  have hreads : Glob.Reads 0 (lead ++ ((trimBlanks pattern).toList ++ trail)) 0 := by
    rw [← htext, ← Glob.parseChars_isOk_iff]
    exact parse_isOk_of_fault? hc hp
  obtain ⟨heven, hodd⟩ := hreads.trimmed hlead htrail
  refine ⟨hmem, fun h => ?_, fun h => ?_,
    fun h => IgnoreRuleSet.compile_of_not_compiles h root, ?_⟩
  · have hok := (Glob.parseChars_isOk_iff _).2 (heven h)
    cases hparse : Glob.parse (trimBlanks pattern) with
    | error e =>
      rw [Glob.parse] at hparse
      simp [hparse, Except.isOk, Except.toBool] at hok
    | ok glob => exact ⟨glob, rfl, hasked glob hparse⟩
  · have hdangling : Glob.parse (trimBlanks pattern) = .error .danglingEscape := hodd h
    exact ⟨hdangling, hwarned _ hdangling⟩
  · exact fs.compiles_ignoreRules_iff root c.exclude

/-- Of two excludes that end in a blank behind backslashes, the one with an even number of them
stays a glob. -/
theorem excludes_exact_backslashes :
    let c : Config := { exclude := ["gen\\ ", " gen\\\\ "] }
    let fs : FileSystem := { top := .directory [], here := [] }
    let root : Path := ⟨"."⟩
    let rules := (fs.ignoreRules root c.exclude).value
    c.fault? = none ∧
      Glob.parse (trimBlanks "gen\\ ") = .error .danglingEscape ∧
      .invalidPattern ∈ (rules.compile root).warnings ∧
      ∃ glob, Glob.parse (trimBlanks " gen\\\\ ") = .ok glob ∧
        glob ∈ (rules.compile root).value.paths := by
  intro c fs root rules
  have hc : c.fault? = none := by rfl
  have hfirst : "gen\\ " ∈ c.exclude := by decide
  have hsecond : " gen\\\\ " ∈ c.exclude := by decide
  have hodd := (excludes_exact hc hfirst (by decide +kernel) fs root {}).2.2.1 (by decide +kernel)
  obtain ⟨-, heven, -, -, hcompiles⟩ := excludes_exact hc hsecond (by decide +kernel) fs root {}
  obtain ⟨glob, hglob, hasked⟩ := heven (by decide +kernel)
  exact ⟨hc, hodd.1, hodd.2, glob, hglob, hasked (hcompiles.2 (by decide +kernel))⟩

/-- A name that ends in a blank is excluded by a glob with which nothing is wrong, and the rules
with that exclude do not ignore it. -/
theorem escapedBlank_not_enforced :
    let c : Config := { exclude := ["gen\\ "] }
    let fs : FileSystem := { top := .directory [], here := [] }
    let rules := (fs.ignoreRules ⟨"."⟩ c.exclude).value
    c.fault? = none ∧
      ((Glob.parse "gen\\ ").toOption.any fun glob => Glob.isMatch glob "gen ") = true ∧
      (rules.compile ⟨"."⟩).value.isIgnoredDirectory ⟨"gen "⟩ = false := by
  intro c fs rules
  have hrules : rules = c.exclude.foldl IgnoreRuleSet.insert .builtin := by
    refine FileSystem.ignoreRules_of_absent (fun name hname => ?_) _
    have hnames : ∀ name ∈ FileSystem.ignoreFileNames,
        let path := Path.join ⟨"."⟩ ⟨name⟩
        ('\x00' ∉ path.text.toList ∧ path.text ≠ "" ∧
            path.text.utf8ByteSize ≤ FileSystem.maxPath) ∧
          path.isAbsolute = false ∧ FileSystem.piecesOf path.text = [".", name] ∧
          name ∉ ["", ".", ".."] ∧ name.utf8ByteSize ≤ FileSystem.maxName := by
      decide +kernel
    obtain ⟨hpath, hrelative, hpieces, hname, hshort⟩ := hnames name hname
    simp only [List.mem_cons, List.not_mem_nil, or_false, not_or] at hname
    rw [FileSystem.isFile, FileSystem.entry, FileSystem.find_eq_walk hpath hrelative hpieces]
    simp [fs, FileSystem.walk, Entry.at?, hname, Nat.not_lt.2 hshort]
  -- the globs are asked in the order in which they are listed, which is not that of the rules
  have hexceeds : IgnoreRuleSet.Exceeds ⟨"gen\\" :: IgnoreRuleSet.builtinPatterns, [], []⟩ rules := by
    refine ⟨fun p hp => ?_, [], ?_, by simp⟩
    · rw [hrules, IgnoreRuleSet.mem_patterns_foldl_insert] at hp
      rcases hp with hp | ⟨-, pattern, hpattern, rfl⟩
      · exact List.mem_cons_of_mem _ (IgnoreRuleSet.mem_builtin_patterns hp)
      · obtain rfl := List.mem_singleton.1 hpattern
        exact List.mem_cons.2 (Or.inl (by decide +kernel))
    · rw [hrules, IgnoreRuleSet.lines_foldl_insert, IgnoreRuleSet.builtin,
        IgnoreRuleSet.lines_foldl_insert]
      rfl
  refine ⟨rfl, by decide +kernel, ?_⟩
  rw [Bool.eq_false_iff]
  intro hignored
  have hkeeps : IgnoreRuleSet.KeepsSets ⟨"gen\\" :: IgnoreRuleSet.builtinPatterns, [], []⟩ rules {} :=
    ⟨fun _ => by decide +kernel, fun _ => by decide +kernel, fun _ => rfl⟩
  have hmore := (hexceeds.covers hkeeps ⟨"."⟩).directories _ hignored
  exact absurd hmore (by decide +kernel)

end Config

end ScriptCensus
