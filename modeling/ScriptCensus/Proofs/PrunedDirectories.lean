import ScriptCensus.Ignore.Matcher
import ScriptCensus.Proofs.FurtherExcludes
import ScriptCensus.Proofs.GlobSets
import ScriptCensus.Proofs.InnerGlobs
import ScriptCensus.Proofs.RelativePaths

/-!
# Pruned directories

A glob `D/**` is about what is inside some directories, and these directories are not entered. Since
all that is inside them is ignored (`IgnoreRuleSet.isIgnored?_inside`), no file is lost by that.

This fails in two ways. `D` may be two stars and a slash, `**/`, alone: then every directory is passed
over and no path is ignored. And the globs for paths may be too much to be compiled when those for
directories are not. `FileSystem.pruning_exact` says all of it.
-/

namespace ScriptCensus

/-! ## Directories that are not entered -/

namespace Discovery

/-- Whether at a location stands a source file that is not hidden, below directories none of which
is hidden. -/
structure Offered (top : Entry) (above : Location) (name : String) : Prop where
  way : ∀ front directory, front ++ [directory] <+: above →
    (∃ entries, top.at? (front ++ [directory]) = some (.directory entries)) ∧
      directory.toList.head? ≠ some '.'
  isFile : ∃ e, top.at? (above ++ [name]) = some e ∧ e.isFile = true
  visible : name.toList.head? ≠ some '.'
  extension : ∃ stem e, stem ≠ "" ∧ e ∈ sourceExtensions ∧ name = stem ++ "." ++ e

theorem Offered.isName {top : Entry} {above : Location} {name : String} (h : Offered top above name)
    (htop : top.IsSound) : ∀ n ∈ above ++ [name], Path.IsName n := by
  obtain ⟨e, he, -⟩ := h.isFile
  exact (htop.at? he).2

/-- Whether a matcher keeps a file and all directories on the way to it. -/
structure Kept (m : IgnoreMatcher) (above : Location) (name : String) : Prop where
  file : m.isIgnored? (relativePath (above ++ [name])) = some false
  directories : ∀ front directory, front ++ [directory] <+: above →
    m.isIgnoredDirectory (relativePath (front ++ [directory])) = false

section kept

variable {m m' : IgnoreMatcher} {entries : List (String × Entry)}

/-- The walk lists what the tree offers and the matcher keeps. -/
theorem mem_sourcesBelow_iff_kept (hm : m.Answers) (h : (Entry.directory entries).IsSound)
    (l : Location) :
    l ∈ sourcesBelow m entries ↔ ∃ above name, l = above ++ [name] ∧
      Offered (.directory entries) above name ∧ Kept m above name := by
  rw [mem_sourcesBelow_iff hm h]
  constructor
  · rintro ⟨above, name, rfl, hentered, htaken⟩
    refine ⟨above, name, rfl, ⟨fun front directory hfront => ?_, htaken.isFile, htaken.visible,
      htaken.extension⟩, htaken.kept, fun front directory hfront => ?_⟩
    · have hdirectory := hentered front directory hfront
      exact ⟨hdirectory.isDirectory, hdirectory.visible⟩
    · exact (hentered front directory hfront).kept
  · rintro ⟨above, name, rfl, hoffered, hkept⟩
    refine ⟨above, name, rfl, fun front directory hfront => ?_, hoffered.isFile, hoffered.visible,
      hoffered.extension, hkept.file⟩
    obtain ⟨hdirectory, hvisible⟩ := hoffered.way front directory hfront
    exact ⟨hdirectory, hvisible, hkept.directories front directory hfront⟩

/-- Sorted lists of locations are equal if they hold the same. -/
theorem eq_of_sorted_locations {ls ls' : List Location} (h : ls.Pairwise (· < ·))
    (h' : ls'.Pairwise (· < ·)) (hmem : ∀ l, l ∈ ls ↔ l ∈ ls') : ls = ls' := by
  have hnodup : ∀ ls : List Location, ls.Pairwise (· < ·) → ls.Nodup := by
    intro ls hls
    refine hls.imp ?_
    rintro l _ hlt rfl
    exact List.lt_irrefl l hlt
  refine List.Perm.eq_of_pairwise ?_ h h' ?_
  · intro l l' _ _ hlt hlt'
    exact absurd hlt' (List.lt_asymm hlt)
  · exact (List.perm_ext_iff_of_nodup (hnodup ls h) (hnodup ls' h')).2 hmem

/-- A matcher that keeps of what another one keeps the part with a property makes the walk list that
part. -/
theorem sourcesBelow_eq_filter (hm : m.Answers) (hm' : m'.Answers)
    (hsound : (Entry.directory entries).IsSound) (q : Location → Bool)
    (h : ∀ above name, (∀ n ∈ above ++ [name], Path.IsName n) →
      (Kept m above name ↔ Kept m' above name ∧ q (above ++ [name]) = true)) :
    sourcesBelow m entries = (sourcesBelow m' entries).filter q := by
  refine eq_of_sorted_locations (pairwise_sourcesBelow hsound)
    ((pairwise_sourcesBelow hsound).filter q) fun l => ?_
  rw [List.mem_filter, mem_sourcesBelow_iff_kept hm hsound, mem_sourcesBelow_iff_kept hm' hsound]
  constructor
  · rintro ⟨above, name, rfl, hoffered, hkept⟩
    obtain ⟨hkept, hq⟩ := (h above name (hoffered.isName hsound)).1 hkept
    exact ⟨⟨above, name, rfl, hoffered, hkept⟩, hq⟩
  · rintro ⟨⟨above, name, rfl, hoffered, hkept⟩, hq⟩
    exact ⟨above, name, rfl, hoffered, (h above name (hoffered.isName hsound)).2 ⟨hkept, hq⟩⟩

end kept

end Discovery

/-- The same rules with other globs for directories of which all content is ignored. -/
def IgnoreMatcher.withDirectories (m : IgnoreMatcher) (globs : List (List GlobToken)) :
    IgnoreMatcher :=
  { m with directories := globs }

theorem IgnoreMatcher.Answers.withDirectories {m : IgnoreMatcher} (h : m.Answers)
    (globs : List (List GlobToken)) : (m.withDirectories globs).Answers :=
  h

namespace IgnoreRuleSet

variable {rules : IgnoreRuleSet} {front : String} {glob : List GlobToken}

/-- The directories that the globs of content stand for. -/
theorem anyMatch_validDirectoryGlobs_iff {patterns : List String} {p : Path} :
    IgnoreMatcher.anyMatch (validDirectoryGlobs patterns) p = true ↔
      ∃ front inside glob, front ++ "/**" ∈ patterns ∧ Glob.parse (front ++ "/**") = .ok inside ∧
        Glob.parse front = .ok glob ∧ Glob.isMatch glob p.text = true := by
  simp only [IgnoreMatcher.anyMatch, List.any_eq_true, mem_validDirectoryGlobs_iff]
  constructor
  · rintro ⟨glob, ⟨front, inside, hpattern, hinside, hfront⟩, hmatch⟩
    exact ⟨front, inside, glob, hpattern, hinside, hfront, hmatch⟩
  · rintro ⟨front, inside, glob, hpattern, hinside, hfront, hmatch⟩
    exact ⟨glob, ⟨front, inside, hpattern, hinside, hfront⟩, hmatch⟩

section compiled

variable {limit : Glob.SizeLimit}

/-- If the globs for paths can be compiled, what is inside a directory for which a glob of content
stands is ignored, unless there are only stars and slashes in front. -/
theorem isIgnored?_inside (hcompiles : Glob.compiles limit (validGlobs rules.patterns) = true)
    (hrule : front ++ "/**" ∈ rules.patterns)
    (hglob : Glob.parse front = .ok glob) (hfront : ∀ n, front.toList ≠ Glob.depths (n + 1))
    (root : Path) {d : String} (hd : Glob.isMatch glob d = true) (q : String) :
    (rules.matcher root limit).isIgnored? ⟨d ++ "/" ++ q⟩ = some true := by
  obtain ⟨inside, hinside, hmatch⟩ := Glob.isMatch_inside hglob hfront
  have hparse : Glob.parse (front ++ "/**") = .ok inside := by
    rw [Glob.parse, String.toList_append]
    exact hinside
  have hany : IgnoreMatcher.anyMatch (rules.matcher root limit).paths ⟨d ++ "/" ++ q⟩ = true := by
    refine List.any_eq_true.2 ⟨inside, Glob.mem_asked_iff.2 ⟨hcompiles, ?_⟩, hmatch d q hd⟩
    exact mem_validGlobs_iff.2 ⟨_, hrule, hparse⟩
  rw [IgnoreMatcher.isIgnored?, if_pos hany]

/-- If the globs for directories can be compiled, those for which a glob of content stands are not
entered. -/
theorem isIgnoredDirectory_of_compiles
    (hcompiles : Glob.compiles limit (validDirectoryGlobs rules.patterns) = true)
    {inside : List GlobToken} (hrule : front ++ "/**" ∈ rules.patterns)
    (hinside : Glob.parse (front ++ "/**") = .ok inside) (hglob : Glob.parse front = .ok glob)
    (root : Path) {d : Path} (hd : Glob.isMatch glob d.text = true) :
    (rules.matcher root limit).isIgnoredDirectory d = true := by
  refine (IgnoreMatcher.isIgnoredDirectory_iff _ _).2 (Or.inl ?_)
  rw [matcher, Glob.asked_of_compiles hcompiles]
  exact anyMatch_validDirectoryGlobs_iff.2 ⟨front, inside, glob, hrule, hinside, hglob, hd⟩

/-- The directory globs of some patterns may be left out, unless there are only stars and slashes in
front. -/
theorem kept_iff_of_subset {patterns : List String} (hsubset : patterns ⊆ rules.patterns)
    (hcompiles : Glob.compiles limit (validGlobs rules.patterns) = true)
    (hprunes : Glob.compiles limit (validDirectoryGlobs rules.patterns) = true)
    (hleft : ∀ n, ∀ pattern ∈ rules.patterns, pattern ∉ patterns →
      pattern.toList ≠ Glob.depths (n + 1) ++ "/**".toList)
    (root : Path) (above : Location) (name : String) :
    Discovery.Kept (rules.matcher root limit) above name ↔ Discovery.Kept
      ((rules.matcher root limit).withDirectories (validDirectoryGlobs patterns)) above name := by
  have hdirectories : (rules.matcher root limit).directories = validDirectoryGlobs rules.patterns :=
    Glob.asked_of_compiles hprunes
  refine ⟨fun h => ⟨h.file, fun before directory hbefore => ?_⟩,
    fun h => ⟨h.file, fun before directory hbefore => ?_⟩⟩
  · have hkept := h.directories before directory hbefore
    rw [Bool.eq_false_iff, Ne, IgnoreMatcher.isIgnoredDirectory_iff] at hkept ⊢
    rw [hdirectories] at hkept
    exact fun hignored => hkept
      (hignored.imp_left (IgnoreMatcher.anyMatch_mono (List.filterMap_subset _ hsubset)))
  · have hkept := h.directories before directory hbefore
    rw [Bool.eq_false_iff, Ne, IgnoreMatcher.isIgnoredDirectory_iff] at hkept ⊢
    rw [hdirectories]
    rintro (hdirectory | hother)
    · obtain ⟨front, inside, glob, hpattern, hinside, hglob, hmatch⟩ :=
        anyMatch_validDirectoryGlobs_iff.1 hdirectory
      by_cases hmem : front ++ "/**" ∈ patterns
      · exact hkept (Or.inl (anyMatch_validDirectoryGlobs_iff.2
          ⟨front, inside, glob, hmem, hinside, hglob, hmatch⟩))
      · -- then the file itself is ignored
        have hfront : ∀ n, front.toList ≠ Glob.depths (n + 1) := fun n hn =>
          hleft n _ hpattern hmem (by rw [String.toList_append, hn])
        obtain ⟨more, rfl⟩ := hbefore
        have hfile := h.file
        rw [List.append_assoc, Discovery.relativePath_append (by simp) (by simp)] at hfile
        have hignored := isIgnored?_inside hcompiles hpattern hglob hfront root hmatch
          (Discovery.relativePath (more ++ [name])).text
        exact absurd (hignored.symm.trans hfile) (by simp)
    · exact hkept (Or.inr hother)

end compiled

end IgnoreRuleSet

namespace FileSystem

/-- The source files that scanning a path with a matcher looks at. -/
def sourcesBy (fs : FileSystem) (root : Path) (m : IgnoreMatcher) : List Path :=
  match fs.entry root with
  | .ok (.file _) => [root]
  | .ok (.shared _) => [root]
  | .ok (.directory entries) => (Discovery.sourcesBelow m entries).map (Discovery.pathBelow root)
  | _ => []

theorem value_sources (fs : FileSystem) (root : Path) (rules : IgnoreRuleSet)
    (limit : Glob.SizeLimit) :
    (fs.sources root rules limit).value = fs.sourcesBy root (rules.matcher root limit) := by
  unfold sources sourcesBy
  cases fs.entry root with
  | error _ => rfl
  | ok e => cases e <;> rfl

/-- Matchers that keep the same make scanning a path look at the same. -/
theorem sourcesBy_congr {fs : FileSystem} (hfs : fs.top.IsSound) (root : Path) {m m' : IgnoreMatcher}
    (hm : m.Answers) (hm' : m'.Answers)
    (h : ∀ above name, Discovery.Kept m above name ↔ Discovery.Kept m' above name) :
    fs.sourcesBy root m = fs.sourcesBy root m' := by
  unfold sourcesBy
  cases hentry : fs.entry root with
  | error _ => rfl
  | ok e =>
    cases e with
    | directory entries =>
      have hwalk := Discovery.sourcesBelow_eq_filter hm hm' (isSound_of_entry hfs hentry)
        (fun _ => true) fun above name _ => by simpa using h above name
      rw [List.filter_true] at hwalk
      exact congrArg (List.map (Discovery.pathBelow root)) hwalk
    | file _ | shared _ | link _ | device => rfl

/-- What a glob of content, `D/**`, does with the directories for which `D` stands.

If the globs for directories can be compiled, these directories are not entered; else no glob keeps a
directory from being entered. If the globs for paths can be compiled, too, all that is inside these
directories is ignored, so that it makes no difference for a scan whether they are entered. There is one
exception: if `D` is two stars and a slash, once or several times, no directory is entered and no path
is ignored. If the globs for paths cannot be compiled, only the lines of ignore files ignore anything.
Where only the nesting counts, the globs for directories can be compiled if those for paths can. -/
theorem pruning_exact (rules : IgnoreRuleSet) (root : Path) (limit : Glob.SizeLimit) :
    let m := (rules.compile root limit).value
    let globs := IgnoreRuleSet.validGlobs rules.patterns
    let directoryGlobs := IgnoreRuleSet.validDirectoryGlobs rules.patterns
    (Glob.compiles limit directoryGlobs = true →
      ∀ front inside glob, front ++ "/**" ∈ rules.patterns → Glob.parse (front ++ "/**") = .ok inside →
        Glob.parse front = .ok glob → ∀ d : Path, Glob.isMatch glob d.text = true →
          m.isIgnoredDirectory d = true) ∧
    (Glob.compiles limit directoryGlobs = false → m.directories = []) ∧
    (Glob.compiles limit globs = true →
      ∀ front glob, front ++ "/**" ∈ rules.patterns → Glob.parse front = .ok glob →
        (∀ n, front.toList ≠ Glob.depths (n + 1)) → ∀ d q, Glob.isMatch glob d = true →
          m.isIgnored? ⟨d ++ "/" ++ q⟩ = some true) ∧
    (Glob.compiles limit globs = false →
      ∀ p, m.isIgnored? p = (m.list.fileVerdict? p).map (· == .ignored)) ∧
    (Glob.compiles limit directoryGlobs = true →
      ∀ front n, front ++ "/**" ∈ rules.patterns → front.toList = Glob.depths (n + 1) →
        (∀ d, m.isIgnoredDirectory d = true) ∧
          ∃ inside, Glob.parse (front ++ "/**") = .ok inside ∧
            ∀ p : Path, p.IsTidy → Glob.isMatch inside p.text = false) ∧
    (Glob.compiles limit globs = true → Glob.compiles limit directoryGlobs = true →
      ∀ fs : FileSystem, fs.top.IsSound → ∀ patterns ⊆ rules.patterns,
        (∀ n, ∀ pattern ∈ rules.patterns, pattern ∉ patterns →
          pattern.toList ≠ Glob.depths (n + 1) ++ "/**".toList) →
        (fs.sources root rules limit).value =
          fs.sourcesBy root (m.withDirectories (IgnoreRuleSet.validDirectoryGlobs patterns))) ∧
    (Glob.compiles {} globs = true → Glob.compiles {} directoryGlobs = true) := by
  intro m globs directoryGlobs
  refine ⟨fun hprunes front inside glob hrule hinside hglob d hd => ?_,
    fun hprunes => Glob.asked_of_not_compiles hprunes,
    fun hcompiles front glob hrule hglob hfront d q hd => ?_, fun hcompiles p => ?_,
    fun hprunes front n hrule hfront => ?_,
    fun hcompiles hprunes fs hfs patterns hsubset hleft => ?_, IgnoreRuleSet.directories_compile⟩
  · exact IgnoreRuleSet.isIgnoredDirectory_of_compiles hprunes hrule hinside hglob root hd
  · exact IgnoreRuleSet.isIgnored?_inside hcompiles hrule hglob hfront root hd q
  · have hpaths : m.paths = [] := Glob.asked_of_not_compiles hcompiles
    rw [IgnoreMatcher.isIgnored?, hpaths]
    rfl
  · have hparse : Glob.parse front = .ok [.depthBefore] := by
      rw [Glob.parse, hfront, Glob.parseChars_depths]
    have hinside : Glob.parse (front ++ "/**") = .ok [.depthBefore, .depthAfter] := by
      rw [Glob.parse, String.toList_append, hfront, Glob.parseChars_depths_inside]
    exact ⟨fun d => IgnoreRuleSet.isIgnoredDirectory_of_compiles hprunes hrule hinside hparse root rfl,
      _, hinside, fun p hp => Glob.isMatch_depths_inside hp⟩
  · have hanswers := rules.answers_matcher root limit
    rw [value_sources]
    exact sourcesBy_congr hfs root hanswers (hanswers.withDirectories _)
      (IgnoreRuleSet.kept_iff_of_subset hsubset hcompiles hprunes hleft root)

/-- What is inside a directory for which one of two alternatives stands is ignored, and a scan comes
to the same without the directory globs. -/
theorem pruning_exact_alternatives :
    let rules := IgnoreRuleSet.empty.insert "**/\x7bgen,out/**\x7d/**"
    let fs : FileSystem := { top := .directory [("gen", .directory [("a.js", .file .empty)])],
                             here := [] }
    fs.top.IsSound ∧
      (rules.compile ⟨"/"⟩).value.isIgnored? ⟨"x/out/y" ++ "/" ++ "z.js"⟩ = some true ∧
      (fs.sources ⟨"/"⟩ rules).value =
        fs.sourcesBy ⟨"/"⟩ ((rules.compile ⟨"/"⟩).value.withDirectories []) := by
  intro rules fs
  have hfs : fs.top.IsSound := by
    refine .directory (by decide) (by decide) ?_
    simp only [List.forall_mem_singleton]
    refine .directory (by decide) (by decide) ?_
    simpa using Entry.IsSound.file _
  have hpatterns : rules.patterns = ["**/\x7bgen,out/**\x7d" ++ "/**"] := by decide +kernel
  have hfront : ∀ n, "**/\x7bgen,out/**\x7d".toList ≠ Glob.depths (n + 1) := by
    rintro (_ | n) <;> simp [Glob.depths]
  have hglob : Glob.parse "**/\x7bgen,out/**\x7d" = .ok [.depthBefore, .either
      ["gen".toList.map .literal, "out".toList.map .literal ++ [.depthAfter]]] := rfl
  obtain ⟨-, -, hignored, -, -, hwalk, hboth⟩ := pruning_exact rules ⟨"/"⟩ {}
  have hcompiles : Glob.compiles {} (IgnoreRuleSet.validGlobs rules.patterns) = true := by
    decide +kernel
  refine ⟨hfs, hignored hcompiles _ _ (by simp [hpatterns]) hglob hfront "x/out/y" "z.js"
      (by decide +kernel),
    hwalk hcompiles (hboth hcompiles) fs hfs [] (by simp) fun n pattern hpattern _ htext =>
      hfront n ?_⟩
  rw [hpatterns, List.mem_singleton] at hpattern
  rw [hpattern, String.toList_append] at htext
  exact List.append_cancel_right htext

/-- Where only stars and a slash are in front, a directory is not entered though a file in it is not
ignored. -/
theorem stars_prune_unignored :
    let rules := IgnoreRuleSet.empty.insert "**//**"
    let m := (rules.compile ⟨"/project"⟩).value
    (Glob.parse "**//**").isOk = true ∧
      ((Glob.parse "**/").toOption.any fun glob => Glob.isMatch glob "a") = true ∧
      m.isIgnored? ⟨"a/b.js"⟩ = some false ∧ m.isIgnoredDirectory ⟨"a"⟩ = true := by
  decide +kernel

end FileSystem

end ScriptCensus
