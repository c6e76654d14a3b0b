import ScriptCensus.Proofs.GlobSets

/-!
# The spelling of a root

Two roots give the same verdicts on a path, whatever the rules, exactly if they leave the same part of
it to be matched (`IgnoreRuleSet.rootSpelling_exact`). That equal parts suffice is plain from the
definitions. If the parts differ, one is shorter, and a line that quotes the longer one tells the roots
apart: no directory above the shorter part is long enough to be matched.
-/

namespace ScriptCensus

/-! ## A line for one path -/

namespace IgnoreEntry

/-- The line that matches one path, at the top. -/
def quotingLine (cs : List Char) : String :=
  String.ofList ('/' :: Glob.quoted cs)

/-- The entry of that line. -/
def quoting (cs : List Char) : IgnoreEntry :=
  ⟨[.either [cs.map .literal]], false, false⟩

theorem quotingLine_toList (cs : List Char) :
    (quotingLine cs).toList = '/' :: '\x7b' :: Glob.escaped cs ++ ['\x7d'] := by
  rw [quotingLine, String.toList_ofList, Glob.quoted]
  rfl

theorem dropEndWhile_of_last {p : Char → Bool} {c : Char} (hc : p c = false) (cs : List Char) :
    dropEndWhile p (cs ++ [c]) = cs ++ [c] := by
  simp [dropEndWhile, hc]

theorem significantLine?_quotingLine (cs : List Char) :
    significantLine? (quotingLine cs) = some (quotingLine cs) := by
  have hkept : dropEndWhile (fun c => c == '\r' || c == '\n') (quotingLine cs).toList =
      (quotingLine cs).toList := by
    rw [quotingLine_toList]
    exact dropEndWhile_of_last (by decide) _
  have hblank : isBlank '/' = false := by decide
  rw [significantLine?, hkept, String.ofList_toList, if_neg]
  simp [quotingLine_toList, hblank]

theorem reverse_quoted (cs : List Char) :
    (Glob.quoted cs).reverse = '\x7d' :: ((Glob.escaped cs).reverse ++ ['\x7b']) := by
  simp [Glob.quoted]

theorem readEnd_quoted (cs : List Char) : readEnd (Glob.quoted cs) = (false, Glob.quoted cs) := by
  rw [readEnd, reverse_quoted]
  rfl

theorem globText_quoted (cs : List Char) : globText true (Glob.quoted cs) = Glob.quoted cs := by
  have hend : endsWith "/**".toList (Glob.quoted cs) = false := by
    rw [endsWith, List.isSuffixOf, reverse_quoted]
    rfl
  have hbound : globText true (Glob.quoted cs) =
      if endsWith "/**".toList (Glob.quoted cs) then Glob.quoted cs ++ "/*".toList
      else Glob.quoted cs := rfl
  rw [hbound, hend]
  rfl

theorem ofLine?_quotingLine (cs : List Char) :
    ofLine? (quotingLine cs) = .ok (some (quoting cs)) := by
  have hblanks : dropEndWhile isBlank (quotingLine cs).toList = (quotingLine cs).toList := by
    rw [quotingLine_toList]
    exact dropEndWhile_of_last (by decide) _
  have hfront : readFront (quotingLine cs).toList = (false, true, Glob.quoted cs) := by
    rw [quotingLine, String.toList_ofList]
    rfl
  have hstart : startsWith ['#'] (quotingLine cs).toList = false := by
    rw [quotingLine_toList]
    rfl
  have hempty : (quotingLine cs).toList.isEmpty = false := by
    rw [quotingLine_toList]
    rfl
  simp only [ofLine?, hstart, Bool.false_eq_true, if_false, hblanks, ite_self, hempty, hfront,
    readEnd_quoted, globText_quoted, Glob.parseChars_quoted, quoting]

theorem nesting_quoting_le (cs : List Char) : Glob.nesting (quoting cs).glob ≤ Glob.maxNesting := by
  have hlevels : Glob.levels (quoting cs).glob ≤ 3 := Glob.levels_quoted_le cs
  refine (Glob.nesting_le _).trans ?_
  rw [Glob.maxNesting]
  omega

theorem verdictOf_quoting (cs : List Char) (p : Path) (isDirectory : Bool) :
    IgnoreList.verdictOf p isDirectory [quoting cs] =
      if p.text.toList = cs then .ignored else .silent := by
  have hmatch : Glob.isMatch (quoting cs).glob p.text = decide (p.text.toList = cs) := by
    rw [Bool.eq_iff_iff, decide_eq_true_iff, quoting, Glob.isMatch_quoted, ← String.toList_inj,
      String.toList_ofList]
  have hmark : (quoting cs).onlyDirectories = false := rfl
  by_cases h : p.text.toList = cs
  · simp only [IgnoreList.verdictOf, List.reverse_singleton, List.find?_cons, hmatch, h, hmark,
      Bool.not_false, Bool.true_or, Bool.true_and, decide_true, if_true]
    rfl
  · simp only [IgnoreList.verdictOf, List.reverse_singleton, List.find?_cons, hmatch, h, hmark,
      Bool.not_false, Bool.true_or, Bool.true_and, decide_false, if_false, List.find?_nil]

end IgnoreEntry

namespace IgnoreRuleSet

open IgnoreList IgnoreEntry

theorem matcher_insertLine_quotingLine (root : Path) (cs : List Char) :
    (empty.insertLine (quotingLine cs)).matcher root = ⟨[], [], .ofEntries root [quoting cs]⟩ := by
  have hrules : empty.insertLine (quotingLine cs) = ⟨[], [quotingLine cs], [quotingLine cs]⟩ := by
    rw [insertLine, significantLine?_quotingLine]
    rfl
  have hasked : askedEntries {} [quoting cs] = [quoting cs] :=
    askedEntries_unlimited (by simpa using nesting_quoting_le cs)
  rw [hrules, matcher]
  simp only [validGlobs, validDirectoryGlobs, validEntries, ofLine?_quotingLine,
    List.filterMap_nil, List.filterMap_cons, Glob.asked_nil, hasked]

/-- Which directories the line for one path ignores. -/
theorem isIgnoredDirectory_quotingLine (root p : Path) (cs : List Char) :
    ((empty.insertLine (quotingLine cs)).matcher root).isIgnoredDirectory p =
      decide ((matchedPart root p).text.toList = cs) := by
  rw [matcher_insertLine_quotingLine, IgnoreMatcher.isIgnoredDirectory, verdict_ofEntries,
    verdictOf_quoting]
  by_cases h : (matchedPart root p).text.toList = cs <;> simp [h, IgnoreMatcher.anyMatch]

/-- Which files the line for one path ignores: the one that it quotes, and none whose path is
shorter. -/
theorem isIgnored?_quotingLine {p : Path} (root : Path) (hp : p.IsTidy) {cs : List Char}
    (hlen : (matchedPart root p).text.toList = cs ∨ (matchedPart root p).text.length < cs.length) :
    ((empty.insertLine (quotingLine cs)).matcher root).isIgnored? p =
      some (decide ((matchedPart root p).text.toList = cs)) := by
  have hfile : ((empty.insertLine (quotingLine cs)).matcher root).isIgnored? p =
      ((ofEntries root [quoting cs]).fileVerdict? p).map (· == .ignored) := by
    rw [matcher_insertLine_quotingLine]
    rfl
  rw [hfile, fileVerdict?_ofEntries (matchedPart_isAbsolute root hp)]
  rcases hlen with h | hshort
  · rw [verdictAbove, verdictOf_quoting, if_pos h]
    simp [h]
  · have hsilent : ∀ q d, q.text.length < cs.length → verdictOf q d [quoting cs] = .silent := by
      intro q d hq
      rw [verdictOf_quoting, if_neg]
      rintro rfl
      rw [String.length_toList] at hq
      omega
    have hne : (matchedPart root p).text.toList ≠ cs := by
      rintro rfl
      rw [String.length_toList] at hshort
      omega
    rw [verdictAbove_of_silent hsilent _ _ _ hshort]
    simp [hne]

/-- Two roots of which one leaves less of a path than the other are told apart by a single line. -/
theorem exists_line_of_length_lt {p : Path} {r s : Path} (hp : p.IsTidy)
    (h : (matchedPart r p).text.length < (matchedPart s p).text.length) :
    ∃ line, ((empty.insertLine line).compile r).value.isIgnored? p ≠
        ((empty.insertLine line).compile s).value.isIgnored? p ∧
      ((empty.insertLine line).compile r).value.isIgnoredDirectory p ≠
        ((empty.insertLine line).compile s).value.isIgnoredDirectory p := by
  have hne : (matchedPart r p).text.toList ≠ (matchedPart s p).text.toList := fun heq => by
    rw [String.toList_inj.1 heq] at h
    omega
  refine ⟨quotingLine (matchedPart s p).text.toList, ?_, ?_⟩
  · simp only [compile]
    rw [isIgnored?_quotingLine r hp (Or.inr (by rwa [String.length_toList])),
      isIgnored?_quotingLine s hp (Or.inl rfl)]
    simp [hne]
  · simp only [compile]
    rw [isIgnoredDirectory_quotingLine, isIgnoredDirectory_quotingLine]
    simp [hne]

/-- When the spelling of the root does not matter. Two roots of which the same part of a path is
matched give the same verdicts on it under all rules, and any other two are told apart by one line of
an ignore file. The whole path is matched exactly if the root does not take characters off its
front. -/
theorem rootSpelling_exact (r₁ r₂ : Path) {p : Path} (hp : p.IsTidy) :
    (matchedPart r₁ p = matchedPart r₂ p → ∀ (rules : IgnoreRuleSet) (limit : Glob.SizeLimit),
      (rules.compile r₁ limit).value.isIgnored? p = (rules.compile r₂ limit).value.isIgnored? p ∧
      (rules.compile r₁ limit).value.isIgnoredDirectory p =
        (rules.compile r₂ limit).value.isIgnoredDirectory p) ∧
    (matchedPart r₁ p ≠ matchedPart r₂ p → ∃ line,
      ((empty.insertLine line).compile r₁).value.isIgnored? p ≠
        ((empty.insertLine line).compile r₂).value.isIgnored? p ∧
      ((empty.insertLine line).compile r₁).value.isIgnoredDirectory p ≠
        ((empty.insertLine line).compile r₂).value.isIgnoredDirectory p) ∧
    ∀ root, matchedPart root p = p.withoutDot ↔ ¬Swallows root p := by
  refine ⟨fun heq rules limit => ?_, fun hne => ?_, fun root => matchedPart_eq_iff root hp⟩
  · simp only [compile, matcher, IgnoreMatcher.isIgnored?, IgnoreMatcher.isIgnoredDirectory,
      fileVerdict?_ofEntries (matchedPart_isAbsolute r₁ hp),
      fileVerdict?_ofEntries (matchedPart_isAbsolute r₂ hp), verdict_ofEntries, heq, and_self]
  · have hlen : (matchedPart r₁ p).text.length ≠ (matchedPart r₂ p).text.length := by
      intro hlen
      refine hne (Path.eq_of_toList ?_)
      exact (List.suffix_of_suffix_length_le (matchedPart_suffix r₁ hp) (matchedPart_suffix r₂ hp)
        (by simp [String.length_toList, hlen])).eq_of_length (by simp [String.length_toList, hlen])
    rcases Nat.lt_or_gt_of_ne hlen with h | h
    · exact exists_line_of_length_lt hp h
    · obtain ⟨line, hfile, hdir⟩ := exists_line_of_length_lt hp h
      exact ⟨line, hfile.symm, hdir.symm⟩

/-- Under the roots `src` and `/project` different parts of `src/x.js` are matched. -/
theorem rootSpelling_src : (⟨"src/x.js"⟩ : Path).IsTidy ∧ ∃ line,
    ((empty.insertLine line).compile ⟨"src"⟩).value.isIgnored? ⟨"src/x.js"⟩ ≠
        ((empty.insertLine line).compile ⟨"/project"⟩).value.isIgnored? ⟨"src/x.js"⟩ ∧
      ((empty.insertLine line).compile ⟨"src"⟩).value.isIgnoredDirectory ⟨"src/x.js"⟩ ≠
        ((empty.insertLine line).compile ⟨"/project"⟩).value.isIgnoredDirectory ⟨"src/x.js"⟩ :=
  have hp : (⟨"src/x.js"⟩ : Path).IsTidy := ⟨by decide, by decide +kernel⟩
  ⟨hp, (rootSpelling_exact ⟨"src"⟩ ⟨"/project"⟩ hp).2.1 (by decide +kernel)⟩

/-- The line `/x.js` ignores `src/x.js` under the root `src`, and does not under an absolute root. -/
theorem verdict_depends_on_root :
    ((empty.extend "/x.js\n").compile ⟨"src"⟩).value.isIgnored? ⟨"src/x.js"⟩ = some true ∧
    ((empty.extend "/x.js\n").compile ⟨"/project"⟩).value.isIgnored? ⟨"src/x.js"⟩ = some false := by
  decide +kernel

end IgnoreRuleSet

end ScriptCensus
