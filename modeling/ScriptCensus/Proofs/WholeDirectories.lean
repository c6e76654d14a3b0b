import ScriptCensus.Proofs.LiteralEntries
import ScriptCensus.Proofs.PrunedDirectories

/-!
# Whole directories

There are two ways to leave out all directories of a name: the glob `**/name/**`, and the line
`name/` of an ignore file. They are asked in different ways. The glob is matched against each file
and, through the glob of the directory, against each directory; the line is matched against the
directories above a file. Both keep a file exactly if no directory on the way to it has the name
(`IgnoreRuleSet.kept_insert_iff`, `IgnoreRuleSet.kept_insertLine_iff`), and so scans with them list
the same files (`FileSystem.wholeDirectories_exact`).
-/

namespace ScriptCensus

/-! ## Matching what is inside -/

namespace Glob

/-- The glob of what is inside matches just what is inside a path that the glob matches. -/
theorem isMatch_concat_depthAfter_iff {glob : List GlobToken} (hglob : glob ≠ [.depthBefore])
    (path : String) : isMatch (glob ++ [.depthAfter]) path = true ↔
      ∃ d q, path = d ++ "/" ++ q ∧ isMatch glob d = true := by
  have hne : glob ++ [.depthAfter] ≠ [.depthBefore] := by
    intro h
    have := congrArg List.getLast? h
    simp at this
  simp only [isMatch_iff, or_iff_right hne, or_iff_right hglob, spells_concat_depthAfter]
  constructor
  · rintro ⟨v, w, hpath, hv⟩
    obtain ⟨d, q, htext, rfl, -⟩ := bytesOf_eq_append_slash_iff.1 hpath
    refine ⟨d, q, ?_, hv⟩
    rw [← String.toList_inj, htext]
    simp
  · rintro ⟨d, q, rfl, hd⟩
    exact ⟨_, _, bytesOf_eq_append_slash_iff.2 ⟨d, q, by simp, rfl, rfl⟩, hd⟩

end Glob

/-! ## The line of a directory -/

namespace NamesLine

/-- The line for the directories of a name. -/
def ofDirectory (name : String) : NamesLine := ⟨false, [name], true⟩

variable {name : String}

theorem text_ofDirectory (name : String) : (ofDirectory name).text = name ++ "/" := by
  simp [ofDirectory, text]

theorem isLiteral_ofDirectory (hempty : name ≠ "") (hslash : '/' ∉ name.toList)
    (hmarks : ∀ c ∈ name.toList, c ∉ Glob.marks)
    (hfront : ∀ c ∈ name.toList.head?, c ≠ '#' ∧ c ≠ '!') : (ofDirectory name).IsLiteral := by
  obtain ⟨c, cs, hcs⟩ := List.exists_cons_of_ne_nil (fun hnil =>
    hempty (String.toList_eq_nil_iff.1 hnil))
  have htext : (ofDirectory name).text.toList = c :: cs ++ ['/'] := by
    rw [text_ofDirectory, String.toList_append, hcs]
    rfl
  refine ⟨by simp [ofDirectory], ?_, ?_, ?_⟩
  · simpa [ofDirectory] using ⟨hempty, hslash, hmarks⟩
  · simpa [htext, hcs] using hfront
  · rw [htext, List.getLast?_concat]
    simp [isBlank]

theorem glob_entry_ofDirectory (name : String) :
    (ofDirectory name).entry.glob = .depthBefore :: name.toList.map .literal := by
  simp [entry, ofDirectory, body, Discovery.relativePath_singleton]

theorem IsLiteral.isMatch_ofDirectory_iff (h : (ofDirectory name).IsLiteral) {front : Location}
    (hne : front ≠ []) (hfront : ∀ n ∈ front, Path.IsName n) :
    Glob.isMatch (ofDirectory name).entry.glob (Discovery.relativePath front).text = true ↔
      ∃ above, front = above ++ [name] := by
  rw [h.isMatch_entry_iff hne hfront]
  simp [ofDirectory]

end NamesLine

/-! ## What is kept -/

namespace IgnoreRuleSet

open Discovery (Kept relativePath)

variable {name : String} {root : Path} {above : Location} {file : String}

theorem kept_empty (root : Path) (above : Location) (file : String) :
    Kept (empty.matcher root) above file :=
  ⟨rfl, fun _ _ _ => rfl⟩

/-- Which directories the line is about. -/
theorem isIgnoredDirectory_insertLine_iff (h : (NamesLine.ofDirectory name).IsLiteral)
    (hroot : root.isAbsolute = true) {l : Location} (hne : l ≠ [])
    (hl : ∀ n ∈ l, Path.IsName n) :
    ((empty.insertLine (name ++ "/")).matcher root).isIgnoredDirectory (relativePath l) = true ↔
      ∃ above, l = above ++ [name] := by
  rw [← h.isMatch_ofDirectory_iff hne hl, ← NamesLine.text_ofDirectory, h.matcher_insertLine,
    IgnoreMatcher.isIgnoredDirectory_iff, IgnoreList.verdict_ofEntries,
    Discovery.matchedPart_relativePath hroot hl, IgnoreList.verdictOf_singleton rfl]
  simp [IgnoreMatcher.anyMatch]

/-- The line for the directories of a name keeps the files that are in none of them. -/
theorem kept_insertLine_iff (h : (NamesLine.ofDirectory name).IsLiteral)
    (hroot : root.isAbsolute = true) (hnames : ∀ n ∈ above ++ [file], Path.IsName n) :
    Kept ((empty.insertLine (name ++ "/")).matcher root) above file ↔ name ∉ above := by
  have habove : ∀ n ∈ above, Path.IsName n := fun n hn => hnames n (List.mem_append_left _ hn)
  obtain ⟨ignored, hignored, hiff⟩ := h.exists_isIgnored?_eq hroot hnames
  rw [NamesLine.text_ofDirectory] at hignored
  have hfile : ignored = true ↔ name ∈ above := by
    have hreach : (if (NamesLine.ofDirectory name).onlyDirectories then (above ++ [file]).dropLast
        else above ++ [file]) = above := List.dropLast_concat
    rw [hiff, hreach, ← exists_concat_prefix_iff]
    constructor
    · rintro ⟨front, hne, hfront, hmatch⟩
      obtain ⟨before, rfl⟩ := (h.isMatch_ofDirectory_iff hne fun n hn =>
        habove n (hfront.subset hn)).1 hmatch
      exact ⟨before, hfront⟩
    · rintro ⟨before, hfront⟩
      exact ⟨_, by simp, hfront, (h.isMatch_ofDirectory_iff (by simp) fun n hn =>
        habove n (hfront.subset hn)).2 ⟨before, rfl⟩⟩
  constructor
  · intro hkept hmem
    have hkeptFile := hkept.file
    rw [hignored, hfile.2 hmem] at hkeptFile
    simp at hkeptFile
  · intro hmem
    refine ⟨?_, fun front directory hfront => ?_⟩
    · rw [hignored, Bool.eq_false_iff.2 fun h => hmem (hfile.1 h)]
    · rw [Bool.eq_false_iff, Ne, isIgnoredDirectory_insertLine_iff h hroot (by simp) fun n hn =>
        habove n (hfront.subset hn)]
      rintro ⟨before, heq⟩
      exact hmem (hfront.subset (by simp [heq]))

theorem insert_inside (name : String) :
    empty.insert ("**/" ++ name ++ "/**") = ⟨["**/" ++ name ++ "/**"], [], []⟩ := by
  have hpattern : ("**/" ++ name ++ "/**").toList =
      '*' :: ("*/".toList ++ (name.toList ++ "/*".toList)) ++ ['*'] := by
    simp
  have hblank : isBlank '*' = false := by decide
  have htrimmed : trimBlanks ("**/" ++ name ++ "/**") = "**/" ++ name ++ "/**" := by
    rw [trimBlanks, hpattern, List.cons_append, List.dropWhile_cons_of_neg (by simp [hblank]),
      ← List.cons_append, IgnoreEntry.dropEndWhile_of_last hblank, ← hpattern, String.ofList_toList]
  have hne : ("**/" ++ name ++ "/**").isEmpty = false := by
    simp
  simp only [insert, htrimmed, hne]
  rfl

/-- What is read of the glob for all that is in the directories of a name. -/
theorem matcher_insert_inside (h : (NamesLine.ofDirectory name).IsLiteral) (root : Path) :
    (empty.insert ("**/" ++ name ++ "/**")).matcher root =
      ⟨[(NamesLine.ofDirectory name).entry.glob ++ [.depthAfter]],
        [(NamesLine.ofDirectory name).entry.glob], .ofEntries root []⟩ := by
  obtain ⟨hempty, -, hmarks⟩ := h.plain name (by simp [NamesLine.ofDirectory])
  have hdirectory : Glob.parse ("**/" ++ name) = .ok (NamesLine.ofDirectory name).entry.glob := by
    rw [Glob.parse, String.toList_append, Glob.parseChars_anyDepth false hmarks,
      NamesLine.glob_entry_ofDirectory]
  have hinside : Glob.parse ("**/" ++ name ++ "/**") =
      .ok ((NamesLine.ofDirectory name).entry.glob ++ [.depthAfter]) := by
    rw [Glob.parse, String.toList_append]
    refine (Glob.parseChars_inside hdirectory).resolve_right ?_
    -- the glob of the directory ends in a character
    obtain ⟨cs, c, hcs⟩ := (List.eq_nil_or_concat name.toList).resolve_left fun hnil =>
      hempty (String.toList_eq_nil_iff.1 hnil)
    rw [NamesLine.glob_entry_ofDirectory, hcs]
    rintro ⟨-, hfront | ⟨front, hend⟩⟩
    · simp at hfront
    · have hcut : (.depthBefore :: cs.map .literal) ++ [.literal c] = front ++ [.depthAfter] := by
        simpa using hend
      obtain ⟨-, hlast⟩ := List.append_inj' hcut rfl
      simp at hlast
  have hpaths : Glob.asked {} [(NamesLine.ofDirectory name).entry.glob ++ [.depthAfter]] =
      [(NamesLine.ofDirectory name).entry.glob ++ [.depthAfter]] := by
    refine Glob.asked_of_compiles (Glob.compiles_unlimited_iff.2 ?_)
    rw [List.forall_mem_singleton]
    refine (Glob.nesting_le _).trans ?_
    simp [Glob.levels_append, NamesLine.glob_entry_ofDirectory, Glob.levels, Glob.tokenLevels,
      Glob.levels_literals, Glob.maxNesting]
  have hdirectories : Glob.asked {} [(NamesLine.ofDirectory name).entry.glob] =
      [(NamesLine.ofDirectory name).entry.glob] :=
    Glob.asked_of_compiles (Glob.compiles_unlimited_iff.2 (by
      simpa using (NamesLine.ofDirectory name).nesting_entry_le))
  rw [matcher, insert_inside]
  simp only [validGlobs, validDirectoryGlobs, directoryGlob?_append, hinside, hdirectory,
    Except.isOk, Except.toBool, Except.toOption, List.filterMap_cons, List.filterMap_nil, if_true,
    hpaths, hdirectories]
  rfl

/-- The glob matches the files with a directory of the name above them. -/
theorem isMatch_inside_iff (h : (NamesLine.ofDirectory name).IsLiteral)
    (hnames : ∀ n ∈ above ++ [file], Path.IsName n) :
    Glob.isMatch ((NamesLine.ofDirectory name).entry.glob ++ [.depthAfter])
      (relativePath (above ++ [file])).text = true ↔ name ∈ above := by
  have hglob : (NamesLine.ofDirectory name).entry.glob ≠ [.depthBefore] := by
    have hempty := (h.plain name (by simp [NamesLine.ofDirectory])).1
    simpa [NamesLine.glob_entry_ofDirectory] using hempty
  rw [Glob.isMatch_concat_depthAfter_iff hglob]
  constructor
  · rintro ⟨d, q, htext, hmatch⟩
    obtain ⟨before, more, hsplit, hbefore, hmore, rfl⟩ := Discovery.exists_append_of_relativePath_eq
      (by simp) (fun n hn => (hnames n hn).2.2.2) htext
    obtain ⟨front, rfl⟩ := (h.isMatch_ofDirectory_iff hbefore fun n hn =>
      hnames n (by rw [hsplit]; exact List.mem_append_left _ hn)).1 hmatch
    have habove : above = front ++ [name] ++ more.dropLast := by
      rw [← List.dropLast_append_of_ne_nil hmore, ← hsplit, List.dropLast_concat]
    simp [habove]
  · intro hmem
    obtain ⟨front, more, rfl⟩ := List.append_of_mem hmem
    have hsplit : front ++ name :: more ++ [file] = (front ++ [name]) ++ (more ++ [file]) := by
      simp
    rw [hsplit] at hnames ⊢
    refine ⟨(relativePath (front ++ [name])).text, (relativePath (more ++ [file])).text, ?_, ?_⟩
    · rw [Discovery.relativePath_append (by simp) (by simp)]
    · exact (h.isMatch_ofDirectory_iff (by simp) fun n hn =>
        hnames n (List.mem_append_left _ hn)).2 ⟨front, rfl⟩

/-- The glob for all that is in the directories of a name keeps the files that are in none of them.
-/
theorem kept_insert_iff (h : (NamesLine.ofDirectory name).IsLiteral) (root : Path)
    (hnames : ∀ n ∈ above ++ [file], Path.IsName n) :
    Kept ((empty.insert ("**/" ++ name ++ "/**")).matcher root) above file ↔ name ∉ above := by
  have habove : ∀ n ∈ above, Path.IsName n := fun n hn => hnames n (List.mem_append_left _ hn)
  rw [matcher_insert_inside h]
  constructor
  · intro hkept hmem
    have hfile := hkept.file
    rw [IgnoreMatcher.isIgnored?, if_pos] at hfile
    · simp at hfile
    · simpa [IgnoreMatcher.anyMatch] using (isMatch_inside_iff h hnames).2 hmem
  · intro hmem
    refine ⟨?_, fun front directory hfront => ?_⟩
    · rw [IgnoreMatcher.isIgnored?, if_neg]
      · rfl
      · simpa [IgnoreMatcher.anyMatch] using fun hm => hmem ((isMatch_inside_iff h hnames).1 hm)
    · have hway : ∀ n ∈ front ++ [directory], Path.IsName n := fun n hn =>
        habove n (hfront.subset hn)
      rw [Bool.eq_false_iff, Ne, IgnoreMatcher.isIgnoredDirectory_iff]
      rintro (hdirectory | hinside | hlist)
      · obtain ⟨before, heq⟩ := (h.isMatch_ofDirectory_iff (by simp) hway).1 (by
          simpa [IgnoreMatcher.anyMatch] using hdirectory)
        exact hmem (hfront.subset (by simp [heq]))
      · have hfound := (isMatch_inside_iff h hway).1 (by
          simpa [IgnoreMatcher.anyMatch] using hinside)
        exact hmem (hfront.subset (List.mem_append_left _ hfound))
      · cases hlist

end IgnoreRuleSet

/-! ## Whole scans -/

theorem Discovery.isName_of_mem_sourcesBelow {m : IgnoreMatcher} (hm : m.Answers)
    {entries : List (String × Entry)} (h : (Entry.directory entries).IsSound) {l : Location}
    (hl : l ∈ sourcesBelow m entries) : ∀ name ∈ l, Path.IsName name := by
  obtain ⟨above, name, rfl, hoffered, -⟩ := (mem_sourcesBelow_iff_kept hm h l).1 hl
  exact hoffered.isName h

/-- The directories on the way from a root to a path below it. -/
def Path.directoriesBelow (root p : Path) : List Component :=
  (p.components.drop root.components.length).dropLast

theorem Discovery.directoriesBelow_pathBelow {root : Path} (hroot : root.text ≠ "") {l : Location}
    (hl : ∀ name ∈ l, Path.IsName name) :
    root.directoriesBelow (pathBelow root l) = l.dropLast.map .normal := by
  rw [Path.directoriesBelow, components_pathBelow l hroot hl, List.drop_left, List.map_dropLast]

namespace FileSystem

variable {fs : FileSystem} {root : Path} {name : String}

/-- Rules that keep the files that are in no directory of a name make a scan list these files. -/
theorem sources_eq_filter (hfs : fs.top.IsSound) {rules : IgnoreRuleSet}
    (h : ∀ above file, (∀ n ∈ above ++ [file], Path.IsName n) →
      (Discovery.Kept (rules.matcher root) above file ↔ name ∉ above)) :
    (fs.sources root rules).value = (fs.sources root .empty).value.filter fun p =>
      .normal name ∉ root.directoriesBelow p := by
  rw [value_sources, value_sources]
  unfold sourcesBy
  cases hentry : fs.entry root with
  | error _ => rfl
  | ok e =>
    cases e with
    | directory entries =>
      have hsound := isSound_of_entry hfs hentry
      have hanswers := IgnoreRuleSet.empty.answers_matcher root {}
      have hwalk := Discovery.sourcesBelow_eq_filter (rules.answers_matcher root {}) hanswers hsound
        (fun l => name ∉ l.dropLast) fun above file hnames => by
          simpa [IgnoreRuleSet.kept_empty] using h above file hnames
      have hpaths : ∀ l ∈ Discovery.sourcesBelow (IgnoreRuleSet.empty.matcher root) entries,
          (name ∈ l.dropLast ↔
            .normal name ∈ root.directoriesBelow (Discovery.pathBelow root l)) := by
        intro l hl
        rw [Discovery.directoriesBelow_pathBelow (text_ne_empty_of_entry hentry)
          (Discovery.isName_of_mem_sourcesBelow hanswers hsound hl),
          List.mem_map_of_injective fun _ _ heq => Component.normal.inj heq]
      simp only [hwalk, List.filter_map]
      refine congrArg _ (List.filter_congr fun l hl => ?_)
      simp [hpaths l hl]
    | file _ | shared _ => simp [Path.directoriesBelow]
    | link _ | device => rfl

/-- The two ways to leave out the directories of a name. Under an absolute root, a scan with the
glob for all that is in them and a scan with the line for them list the same: of the files that a
scan without rules lists, those on the way to which no directory has the name. -/
theorem wholeDirectories_exact (hfs : fs.top.IsSound) (hroot : root.isAbsolute = true)
    (hempty : name ≠ "") (hslash : '/' ∉ name.toList) (hmarks : ∀ c ∈ name.toList, c ∉ Glob.marks)
    (hfront : ∀ c ∈ name.toList.head?, c ≠ '#' ∧ c ≠ '!') :
    let kept := (fs.sources root .empty).value.filter fun p =>
      .normal name ∉ root.directoriesBelow p
    (fs.sources root (IgnoreRuleSet.empty.insert ("**/" ++ name ++ "/**"))).value = kept ∧
      (fs.sources root (IgnoreRuleSet.empty.insertLine (name ++ "/"))).value = kept := by
  have hl := NamesLine.isLiteral_ofDirectory hempty hslash hmarks hfront
  refine ⟨sources_eq_filter hfs fun above file hnames => ?_,
    sources_eq_filter hfs fun above file hnames => ?_⟩
  · exact IgnoreRuleSet.kept_insert_iff hl root hnames
  · exact IgnoreRuleSet.kept_insertLine_iff hl hroot hnames

/-- A name that a directory and a file have. -/
theorem wholeDirectories_exact_sharedName :
    let fs : FileSystem := { top := .directory [("x.js", .directory [("a.js", .file .empty)]),
                                                ("y", .directory [("x.js", .file .empty)])],
                             here := [] }
    let kept := (fs.sources ⟨"/"⟩ .empty).value.filter fun p =>
      .normal "x.js" ∉ Path.directoriesBelow ⟨"/"⟩ p
    fs.top.IsSound ∧
      (fs.sources ⟨"/"⟩ (IgnoreRuleSet.empty.insert ("**/" ++ "x.js" ++ "/**"))).value = kept ∧
      (fs.sources ⟨"/"⟩ (IgnoreRuleSet.empty.insertLine ("x.js" ++ "/"))).value = kept := by
  intro fs kept
  have hfs : fs.top.IsSound := by
    refine .directory (by decide) (by decide) ?_
    simp only [List.forall_mem_cons]
    refine ⟨.directory (by decide) (by decide) ?_, .directory (by decide) (by decide) ?_, by simp⟩
    · simpa using Entry.IsSound.file _
    · simpa using Entry.IsSound.file _
  have hroot : (⟨"/"⟩ : Path).isAbsolute = true := by decide
  have hempty : "x.js" ≠ "" := by decide
  have hmarks : ∀ c ∈ "x.js".toList, c ∉ Glob.marks := by simp [Glob.marks]
  exact ⟨hfs, wholeDirectories_exact hfs hroot hempty (by decide) hmarks (by simp)⟩

end FileSystem

end ScriptCensus
