import Mathlib.Data.List.DropRight
import Mathlib.Data.List.Flatten
import ScriptCensus.Proofs.DiscoveredFiles
import ScriptCensus.Proofs.RepeatedLines

/-!
# Further excludes

Excluding more brings no file in, as long as the sets of rules can still be compiled. A matcher that
ignores all that another one ignores (`IgnoreMatcher.Covers`) makes the walk list a part of what it
listed, in the same order (`Discovery.sourcesAt_sublist`).

That further rules give such a matcher is plain for globs, of which any one that matches counts. The
lines of ignore files need an argument, since the last one that applies decides: a line that is not
negated can only turn a verdict into ignoring (`IgnoreList.verdictOf_append`), also where the verdict
comes from a directory above (`IgnoreList.verdictAbove_append`). `FileSystem.sources_sublist` says it
of whole scans.

A set that cannot be compiled any more is not asked at all. `IgnoreRuleSet.KeepsSets` says that this
does not happen, and further rules that are not nested too deeply see to it
(`IgnoreRuleSet.keepsSets_of_compiles`). One glob that is nested too deeply brings files back
(`FileSystem.deep_glob_brings_back`).
-/

namespace ScriptCensus

/-! ## Matchers that ignore more -/

/-- Whether a matcher ignores all that another one ignores. -/
structure IgnoreMatcher.Covers (m' m : IgnoreMatcher) : Prop where
  files : ∀ p, m.isIgnored p = true → m'.isIgnored p = true
  directories : ∀ p, m.isIgnoredDirectory p = true → m'.isIgnoredDirectory p = true

namespace Discovery

variable {m m' : IgnoreMatcher}

theorem isTaken_of_covers (h : m'.Covers m) {location : Location} {name : String}
    (ht : isTaken m' location name = true) : isTaken m location name = true := by
  simp only [isTaken, Bool.and_eq_true, Bool.not_eq_true'] at ht ⊢
  refine ⟨ht.1, ?_⟩
  rw [Bool.eq_false_iff]
  intro hignored
  simp [h.files _ hignored] at ht

theorem isEntered_of_covers (h : m'.Covers m) {location : Location} {name : String}
    (he : isEntered m' location name = true) : isEntered m location name = true := by
  simp only [isEntered, Bool.and_eq_true, Bool.not_eq_true'] at he ⊢
  refine ⟨he.1, ?_⟩
  rw [Bool.eq_false_iff]
  intro hignored
  simp [h.directories _ hignored] at he

/-- What is listed below a directory, entry by entry in the order of their names. -/
theorem inOrder_sourcesAmong (m : IgnoreMatcher) (above : Location)
    (entries : List (String × Entry)) :
    inOrder (sourcesAmong m above entries) =
      (entries.mergeSort fun a b => a.1 ≤ b.1).flatMap fun x =>
        sourcesAt m (above ++ [x.1]) x.1 x.2 := by
  rw [inOrder, sourcesAmong_eq_map, ← List.map_mergeSort (r := fun a b => a.1 ≤ b.1)]
  · rw [List.flatMap_map]
  · intro a _ b _
    rfl

mutual

/-- With a matcher that ignores more, the walk lists a part of what it listed. -/
theorem sourcesAt_sublist (h : m'.Covers m) (location : Location) (name : String) :
    ∀ e : Entry, (sourcesAt m' location name e).Sublist (sourcesAt m location name e)
  | .file _ | .shared _ => by
    rw [sourcesAt, sourcesAt]
    by_cases ht : isTaken m' location name
    · rw [if_pos ht, if_pos (isTaken_of_covers h ht)]
    · rw [if_neg ht]
      exact List.nil_sublist _
  | .directory entries => by
    rw [sourcesAt, sourcesAt]
    by_cases he : isEntered m' location name
    · rw [if_pos he, if_pos (isEntered_of_covers h he), inOrder_sourcesAmong, inOrder_sourcesAmong]
      refine List.Sublist.flatMap_right _ fun x hx => ?_
      exact sourcesAt_sublist_of_mem h location entries x (List.mem_mergeSort.1 hx)
    · rw [if_neg he]
      exact List.nil_sublist _
  | .link _ | .device => by simp [sourcesAt]

theorem sourcesAt_sublist_of_mem (h : m'.Covers m) (above : Location) :
    ∀ (entries : List (String × Entry)), ∀ x ∈ entries,
      (sourcesAt m' (above ++ [x.1]) x.1 x.2).Sublist (sourcesAt m (above ++ [x.1]) x.1 x.2)
  | [], x, hx => by simp at hx
  | (name, e) :: rest, x, hx => by
    rcases List.mem_cons.1 hx with rfl | hx
    · exact sourcesAt_sublist h (above ++ [name]) name e
    · exact sourcesAt_sublist_of_mem h above rest x hx

end

theorem sourcesBelow_sublist (h : m'.Covers m) (entries : List (String × Entry)) :
    (sourcesBelow m' entries).Sublist (sourcesBelow m entries) := by
  rw [sourcesBelow, sourcesBelow, inOrder_sourcesAmong, inOrder_sourcesAmong]
  refine List.Sublist.flatMap_right _ fun x hx => ?_
  exact sourcesAt_sublist_of_mem h [] entries x (List.mem_mergeSort.1 hx)

end Discovery

/-! ## Entries that take nothing back in -/

namespace IgnoreEntry

theorem readFront_negated {cs : List Char} (h : (readFront cs).1 = true) : cs.head? = some '!' := by
  unfold readFront at h
  split at h <;> simp_all

/-- Only a line that starts with the mark of negation is negated. -/
theorem head?_of_negated {line : String} {e : IgnoreEntry} (h : ofLine? line = .ok (some e))
    (hneg : e.negated = true) : line.toList.head? = some '!' := by
  simp only [ofLine?] at h
  generalize hcs : (if endsWith ['\\', ' '] line.toList then line.toList
    else dropEndWhile isBlank line.toList) = cs at h
  have hinitial : cs <+: line.toList := by
    rw [← hcs]
    split
    · exact List.prefix_refl _
    · exact List.rdropWhile_prefix isBlank _
  have hhead : cs.head? = some '!' := by
    split at h
    · simp at h
    · split at h
      · simp at h
      · split at h
        · simp at h
        · obtain rfl := Option.some.inj (Except.ok.inj h)
          exact readFront_negated hneg
  obtain ⟨rest, hrest⟩ := hinitial
  rw [← hrest, List.head?_append, hhead]
  rfl

end IgnoreEntry

namespace IgnoreList

variable {more : List IgnoreEntry}

/-- Behind others, entries that are not negated ignore a path or leave what was said about it. -/
theorem verdictOf_append (hmore : ∀ e ∈ more, e.negated = false) (p : Path) (isDirectory : Bool)
    (entries : List IgnoreEntry) :
    verdictOf p isDirectory (entries ++ more) = .ignored ∨
      verdictOf p isDirectory (entries ++ more) = verdictOf p isDirectory entries := by
  simp only [verdictOf, List.reverse_append, List.find?_append]
  cases hfind : more.reverse.find? _ with
  | none => exact Or.inr (by rw [Option.none_or])
  | some e =>
    have hmem : e ∈ more := List.mem_reverse.1 (List.mem_of_find?_eq_some hfind)
    exact Or.inl (by simp [hmore e hmem])

/-- What is ignored through the directories above stays so. -/
theorem verdictAbove_append (hmore : ∀ e ∈ more, e.negated = false) (entries : List IgnoreEntry) :
    ∀ (fuel : Nat) (p : Path) (isDirectory : Bool),
      verdictAbove entries fuel p isDirectory = .ignored →
      verdictAbove (entries ++ more) fuel p isDirectory = .ignored
  | 0, _, _, h => by simp [verdictAbove] at h
  | fuel + 1, p, d, h => by
    rcases verdictOf_append hmore p d entries with hnew | hold
    · rw [verdictAbove_of_ne_silent (by simp [hnew]), hnew]
    · rw [verdictAbove] at h
      rw [verdictAbove, hold]
      cases hv : verdictOf p d entries with
      | ignored => rfl
      | included => simp [hv] at h
      | silent =>
        simp only [hv] at h
        cases hq : p.parent? with
        | none => simp [hq] at h
        | some q =>
          simp only [hq] at h
          exact verdictAbove_append hmore entries fuel q true h

theorem fileVerdict?_append (hmore : ∀ e ∈ more, e.negated = false) (root p : Path)
    {entries : List IgnoreEntry} (h : (ofEntries root entries).fileVerdict? p = some .ignored) :
    (ofEntries root (entries ++ more)).fileVerdict? p = some .ignored := by
  cases entries with
  | nil => simp [fileVerdict?] at h
  | cons e rest =>
    simp only [fileVerdict?, entries_ofEntries, strip_ofEntries, List.isEmpty_cons,
      List.cons_append, Bool.false_eq_true, if_false] at h ⊢
    by_cases habs : (matchedPart root p).isAbsolute
    · simp [habs] at h
    · rw [if_neg habs, Option.some.injEq] at h ⊢
      exact verdictAbove_append hmore (e :: rest) _ _ _ h

theorem verdict_append (hmore : ∀ e ∈ more, e.negated = false) (root p : Path) (isDirectory : Bool)
    {entries : List IgnoreEntry} (h : (ofEntries root entries).verdict p isDirectory = .ignored) :
    (ofEntries root (entries ++ more)).verdict p isDirectory = .ignored := by
  rw [verdict_ofEntries] at h ⊢
  rcases verdictOf_append hmore (matchedPart root p) isDirectory entries with hnew | hold
  · exact hnew
  · rw [hold, h]

end IgnoreList

/-! ## Rule sets with further rules -/

theorem IgnoreMatcher.isIgnored_iff (m : IgnoreMatcher) (p : Path) : m.isIgnored p = true ↔
    anyMatch m.paths p = true ∨ m.list.fileVerdict? p = some .ignored := by
  rw [isIgnored, isIgnored?]
  by_cases hmatch : anyMatch m.paths p
  · simp [hmatch]
  · cases m.list.fileVerdict? p <;> simp [hmatch]

theorem IgnoreMatcher.isIgnoredDirectory_iff (m : IgnoreMatcher) (p : Path) :
    m.isIgnoredDirectory p = true ↔ anyMatch m.directories p = true ∨ anyMatch m.paths p = true ∨
      m.list.verdict p true = .ignored := by
  simp [isIgnoredDirectory, or_assoc]

theorem IgnoreMatcher.anyMatch_mono {globs globs' : List (List GlobToken)} (h : globs ⊆ globs')
    {p : Path} (hp : anyMatch globs p = true) : anyMatch globs' p = true := by
  rw [anyMatch, List.any_eq_true] at hp ⊢
  obtain ⟨glob, hglob, hmatch⟩ := hp
  exact ⟨glob, h hglob, hmatch⟩

/-- A matcher with more globs, whose list ignores all that the list of another one ignores. -/
theorem IgnoreMatcher.covers_of_subset {m m' : IgnoreMatcher} (hpaths : m.paths ⊆ m'.paths)
    (hdirectories : m.directories ⊆ m'.directories)
    (hfile : ∀ p, m.list.fileVerdict? p = some .ignored → m'.list.fileVerdict? p = some .ignored)
    (hdirectory : ∀ p, m.list.verdict p true = .ignored → m'.list.verdict p true = .ignored) :
    m'.Covers m where
  files p hp := by
    rw [isIgnored_iff] at hp ⊢
    exact hp.imp (anyMatch_mono hpaths) (hfile p)
  directories p hp := by
    rw [isIgnoredDirectory_iff] at hp ⊢
    exact hp.imp (anyMatch_mono hdirectories) (Or.imp (anyMatch_mono hpaths) (hdirectory p))

namespace IgnoreRuleSet

/-- Whether a rule set excludes more than another one: it has further globs, and behind the lines of
the other one it has lines that are not negated. -/
structure Exceeds (r' r : IgnoreRuleSet) : Prop where
  patterns : r.patterns ⊆ r'.patterns
  lines : ∃ more, r'.lines = r.lines ++ more ∧ ∀ line ∈ more, line.toList.head? ≠ some '!'

theorem exceeds_refl (r : IgnoreRuleSet) : r.Exceeds r :=
  ⟨List.Subset.refl _, [], by simp, by simp⟩

theorem Exceeds.trans {r r' r'' : IgnoreRuleSet} (h : r''.Exceeds r') (h' : r'.Exceeds r) :
    r''.Exceeds r := by
  obtain ⟨behind, hbehind, hplain⟩ := h.lines
  obtain ⟨more, hmore, hplain'⟩ := h'.lines
  refine ⟨List.Subset.trans h'.patterns h.patterns, more ++ behind, ?_, fun line hline => ?_⟩
  · rw [hbehind, hmore, List.append_assoc]
  · rcases List.mem_append.1 hline with hline | hline
    · exact hplain' line hline
    · exact hplain line hline

theorem exceeds_insert (r : IgnoreRuleSet) (pattern : String) : (r.insert pattern).Exceeds r := by
  simp only [insert]
  split
  · exact r.exceeds_refl
  · refine ⟨fun p hp => ?_, [], by simp, by simp⟩
    exact (mem_insertSorted _ p r.patterns).2 (Or.inr hp)

/-- What is kept of a line is a front of it. -/
theorem prefix_of_significantLine? {line kept : String} (h : significantLine? line = some kept) :
    kept.toList <+: line.toList := by
  simp only [significantLine?] at h
  split at h
  · simp at h
  · obtain rfl := Option.some.inj h
    rw [String.toList_ofList]
    exact List.rdropWhile_prefix _ _

theorem exceeds_insertLine (r : IgnoreRuleSet) {line : String}
    (hline : line.toList.head? ≠ some '!') : (r.insertLine line).Exceeds r := by
  unfold insertLine
  cases hkept : significantLine? line with
  | none => exact r.exceeds_refl
  | some kept =>
    by_cases hseen : r.seenLines.contains kept
    · simpa only [hseen, if_true] using r.exceeds_refl
    · simp only [hseen, Bool.false_eq_true, if_false]
      refine ⟨List.Subset.refl _, [kept], rfl, fun x hx hhead => hline ?_⟩
      obtain rfl := List.mem_singleton.1 hx
      obtain ⟨rest, hrest⟩ := prefix_of_significantLine? hkept
      rw [← hrest, List.head?_append, hhead]
      rfl

theorem exceeds_foldl_insert (patterns : List String) (r : IgnoreRuleSet) :
    (patterns.foldl insert r).Exceeds r := by
  induction patterns generalizing r with
  | nil => exact r.exceeds_refl
  | cons pattern rest ih =>
    rw [List.foldl_cons]
    exact (ih (r.insert pattern)).trans (r.exceeds_insert pattern)

theorem exceeds_foldl_insertLine {ls : List String} (r : IgnoreRuleSet)
    (hls : ∀ line ∈ ls, line.toList.head? ≠ some '!') : (ls.foldl insertLine r).Exceeds r := by
  induction ls generalizing r with
  | nil => exact r.exceeds_refl
  | cons line rest ih =>
    obtain ⟨hline, hrest⟩ := List.forall_mem_cons.1 hls
    rw [List.foldl_cons]
    exact (ih (r.insertLine line) hrest).trans (r.exceeds_insertLine hline)

/-- Whether the sets of a rule set that can be compiled can still be with the rules of another one. -/
structure KeepsSets (r' r : IgnoreRuleSet) (limit : Glob.SizeLimit) : Prop where
  paths : Glob.compiles limit (validGlobs r.patterns) = true →
    Glob.compiles limit (validGlobs r'.patterns) = true
  directories : Glob.compiles limit (validDirectoryGlobs r.patterns) = true →
    Glob.compiles limit (validDirectoryGlobs r'.patterns) = true
  lines : LinesCompile limit r.lines → LinesCompile limit r'.lines

/-- A rule set that excludes more ignores all that the other one ignores, unless one of its sets
cannot be compiled any more. -/
theorem Exceeds.covers {r r' : IgnoreRuleSet} (h : r'.Exceeds r) {limit : Glob.SizeLimit}
    (hkeeps : r'.KeepsSets r limit) (root : Path) :
    (r'.matcher root limit).Covers (r.matcher root limit) := by
  obtain ⟨more, hlines, hplain⟩ := h.lines
  have hentries : validEntries r'.lines = validEntries r.lines ++ validEntries more := by
    rw [hlines, validEntries, validEntries, validEntries, List.filterMap_append]
  have hmore : ∀ e ∈ validEntries more, e.negated = false := by
    intro e he
    obtain ⟨line, hline, hread⟩ := List.mem_filterMap.1 he
    rw [Bool.eq_false_iff]
    intro hneg
    refine hplain line hline (IgnoreEntry.head?_of_negated ?_ hneg)
    split at hread
    · next hok => rw [hok, hread]
    · simp at hread
  have hpaths : Glob.asked limit (validGlobs r.patterns) ⊆ Glob.asked limit (validGlobs r'.patterns) :=
    Glob.asked_subset_asked (List.filterMap_subset _ h.patterns) hkeeps.paths
  have hdirectories : Glob.asked limit (validDirectoryGlobs r.patterns) ⊆
      Glob.asked limit (validDirectoryGlobs r'.patterns) :=
    Glob.asked_subset_asked (List.filterMap_subset _ h.patterns) hkeeps.directories
  by_cases hlist : LinesCompile limit r.lines
  · -- the lines of both are asked
    have hasked := askedEntries_of_linesCompile hlist
    have hasked' := askedEntries_of_linesCompile (hkeeps.lines hlist)
    rw [hentries] at hasked'
    refine IgnoreMatcher.covers_of_subset hpaths hdirectories (fun p hp => ?_) (fun p hp => ?_)
    · rw [matcher, hasked] at hp
      rw [matcher, hentries, hasked']
      exact IgnoreList.fileVerdict?_append hmore root p hp
    · rw [matcher, hasked] at hp
      rw [matcher, hentries, hasked']
      exact IgnoreList.verdict_append hmore root p true hp
  · -- no line says anything
    have hasked := askedEntries_of_not_linesCompile hlist
    refine IgnoreMatcher.covers_of_subset hpaths hdirectories (fun p hp => absurd hp ?_)
      (fun p hp => absurd hp ?_)
    · rw [matcher, hasked]
      simp [IgnoreList.fileVerdict?]
    · rw [matcher, hasked, IgnoreList.verdict_ofEntries]
      simp [IgnoreList.verdictOf]

/-! ## Further rules that are not nested too deeply -/

theorem mem_patterns_insert {r : IgnoreRuleSet} {pattern p : String} :
    p ∈ (r.insert pattern).patterns ↔ p ∈ r.patterns ∨ p = trimBlanks pattern ∧ p ≠ "" := by
  simp only [insert]
  by_cases hblank : trimBlanks pattern = ""
  · rw [if_pos (by simpa using hblank), hblank]
    simp
  · rw [if_neg (by simpa using hblank), mem_insertSorted]
    constructor
    · rintro (rfl | h)
      · exact Or.inr ⟨rfl, hblank⟩
      · exact Or.inl h
    · rintro (h | ⟨h, -⟩)
      · exact Or.inr h
      · exact Or.inl h

theorem mem_patterns_foldl_insert {p : String} (added : List String) (r : IgnoreRuleSet) :
    p ∈ (added.foldl insert r).patterns ↔
      p ∈ r.patterns ∨ p ≠ "" ∧ ∃ pattern ∈ added, p = trimBlanks pattern := by
  induction added generalizing r with
  | nil => simp
  | cons pattern rest ih =>
    rw [List.foldl_cons, ih, mem_patterns_insert]
    simp only [List.mem_cons, exists_eq_or_imp, and_or_left, or_assoc]
    rw [and_comm (a := p = trimBlanks pattern)]

theorem lines_insert (r : IgnoreRuleSet) (pattern : String) : (r.insert pattern).lines = r.lines := by
  simp only [insert]
  split <;> rfl

theorem lines_foldl_insert (added : List String) (r : IgnoreRuleSet) :
    (added.foldl insert r).lines = r.lines := by
  induction added generalizing r with
  | nil => rfl
  | cons pattern rest ih => rw [List.foldl_cons, ih, lines_insert]

theorem mem_lines_foldl_insertLine {x : String} (added : List String) (r : IgnoreRuleSet)
    (h : x ∈ (added.foldl insertLine r).lines) :
    x ∈ r.lines ∨ ∃ line ∈ added, significantLine? line = some x := by
  induction added generalizing r with
  | nil => exact Or.inl h
  | cons line rest ih =>
    rcases ih (r.insertLine line) h with hx | ⟨line', hline', hx⟩
    · unfold insertLine at hx
      cases hkept : significantLine? line with
      | none => exact Or.inl (by simpa [hkept] using hx)
      | some kept =>
        simp only [hkept] at hx
        split at hx
        · exact Or.inl hx
        · rcases List.mem_append.1 hx with hx | hx
          · exact Or.inl hx
          · obtain rfl := List.mem_singleton.1 hx
            exact Or.inr ⟨line, List.mem_cons_self, hkept⟩
    · exact Or.inr ⟨line', List.mem_cons_of_mem _ hline', hx⟩

/-- Whether a pattern, if it is a glob, is not nested too deeply to be compiled. -/
def PatternCompiles (pattern : String) : Prop :=
  ∀ glob, Glob.parse (trimBlanks pattern) = .ok glob → Glob.nesting glob ≤ Glob.maxNesting

/-- Whether a line, if it carries a rule, is not nested too deeply to be compiled. -/
def LineCompiles (line : String) : Prop :=
  ∀ kept e, significantLine? line = some kept → IgnoreEntry.read? kept = some e →
    Glob.nesting e.glob ≤ Glob.maxNesting

instance (pattern : String) : Decidable (PatternCompiles pattern) :=
  decidable_of_iff ((Glob.parse (trimBlanks pattern)).toOption.all
      (Glob.nesting · ≤ Glob.maxNesting) = true) <| by
    unfold PatternCompiles
    cases Glob.parse (trimBlanks pattern) <;> simp [Except.toOption]

instance (line : String) : Decidable (LineCompiles line) :=
  decidable_of_iff (((significantLine? line).bind IgnoreEntry.read?).all
      (Glob.nesting ·.glob ≤ Glob.maxNesting) = true) <| by
    unfold LineCompiles
    cases significantLine? line with
    | none => simp
    | some kept =>
      have hkept : (∀ k e, some kept = some k → IgnoreEntry.read? k = some e →
          Glob.nesting e.glob ≤ Glob.maxNesting) ↔
          ∀ e, IgnoreEntry.read? kept = some e → Glob.nesting e.glob ≤ Glob.maxNesting :=
        ⟨fun h e => h kept e rfl, fun h _ e hk => Option.some.inj hk ▸ h e⟩
      rw [hkept, Option.bind_some]
      cases IgnoreEntry.read? kept <;> simp

/-- Where only the nesting counts, further rules of which none is nested too deeply keep all sets. -/
theorem keepsSets_of_compiles (r : IgnoreRuleSet) {patterns lines : List String}
    (hpatterns : ∀ pattern ∈ patterns, PatternCompiles pattern)
    (hlines : ∀ line ∈ lines, LineCompiles line) :
    (lines.foldl insertLine (patterns.foldl insert r)).KeepsSets r {} := by
  have hnew : ∀ p ∈ (lines.foldl insertLine (patterns.foldl insert r)).patterns, p ∈ r.patterns ∨
      ∀ glob, Glob.parse p = .ok glob → Glob.nesting glob ≤ Glob.maxNesting := by
    intro p hp
    rw [patterns_foldl_insertLine, mem_patterns_foldl_insert] at hp
    refine hp.imp_right ?_
    rintro ⟨-, pattern, hpattern, rfl⟩
    exact hpatterns pattern hpattern
  refine ⟨fun h => ?_, fun h => ?_, fun h => ?_⟩
  · rw [Glob.compiles_unlimited_iff] at h ⊢
    intro glob hglob
    obtain ⟨p, hp, hparse⟩ := mem_validGlobs_iff.1 hglob
    rcases hnew p hp with hold | hnew
    · exact h glob (mem_validGlobs_iff.2 ⟨p, hold, hparse⟩)
    · exact hnew glob hparse
  · rw [Glob.compiles_unlimited_iff] at h ⊢
    intro glob hglob
    obtain ⟨front, inside, hp, hinside, hfront⟩ := mem_validDirectoryGlobs_iff.1 hglob
    rcases hnew _ hp with hold | hnew
    · exact h glob (mem_validDirectoryGlobs_iff.2 ⟨front, inside, hold, hinside, hfront⟩)
    · refine le_trans (Glob.nesting_le_of_inside hfront ?_) (hnew inside hinside)
      rwa [Glob.parse, String.toList_append] at hinside
  · rw [LinesCompile, Glob.compiles_unlimited_iff] at h ⊢
    intro glob hglob
    obtain ⟨e, he, rfl⟩ := List.mem_map.1 hglob
    obtain ⟨kept, hkept, hread⟩ := List.mem_filterMap.1 he
    rcases mem_lines_foldl_insertLine lines _ hkept with hold | ⟨line, hline, hnew⟩
    · rw [lines_foldl_insert] at hold
      exact h _ (List.mem_map.2 ⟨e, List.mem_filterMap.2 ⟨kept, hold, hread⟩, rfl⟩)
    · exact hlines line hline kept e hnew hread

/-! ## A glob that is nested too deeply -/

theorem trimBlanks_braced (n : Nat) (c : Char) :
    trimBlanks (String.ofList (Glob.braced (n + 1) c)) = String.ofList (Glob.braced (n + 1) c) := by
  have htext : Glob.braced (n + 1) c =
      '\x7b' :: (List.replicate n '\x7b' ++ c :: List.replicate n '\x7d') ++ ['\x7d'] := by
    rw [Glob.braced, List.replicate_succ, List.replicate_succ']
    simp
  have hopen : isBlank '\x7b' = false := by decide
  have hclose : isBlank '\x7d' = false := by decide
  rw [trimBlanks, String.toList_ofList, htext, List.cons_append,
    List.dropWhile_cons_of_neg (by simp [hopen]), ← List.cons_append]
  simp [dropEndWhile, hclose]

/-- As many braces as expressions may have levels make all globs for paths go unasked. -/
theorem paths_insert_braced (r : IgnoreRuleSet) (root : Path) {n : Nat}
    (hn : Glob.maxNesting ≤ n + 1) :
    ((r.insert (String.ofList (Glob.braced (n + 1) 'a'))).matcher root).paths = [] := by
  have hmem : String.ofList (Glob.braced (n + 1) 'a') ∈
      (r.insert (String.ofList (Glob.braced (n + 1) 'a'))).patterns := by
    rw [mem_patterns_insert, trimBlanks_braced]
    refine Or.inr ⟨rfl, fun hempty => ?_⟩
    have := congrArg String.toList hempty
    simp [Glob.braced, List.replicate_succ] at this
  have hparse : Glob.parse (String.ofList (Glob.braced (n + 1) 'a')) =
      .ok [Glob.inBraces (n + 1) (.literal 'a')] := by
    rw [Glob.parse, String.toList_ofList]
    exact Glob.parseChars_braced (by decide) (by decide) (n + 1)
  have hnesting : Glob.nesting [Glob.inBraces (n + 1) (.literal 'a')] = 0 + (n + 1) + 1 :=
    Glob.nesting_inBraces rfl (by decide) (by simp) (n + 1)
  generalize r.insert (String.ofList (Glob.braced (n + 1) 'a')) = further at hmem ⊢
  have hasked : Glob.asked {} (validGlobs further.patterns) = [] := by
    refine Glob.asked_of_not_compiles (Bool.eq_false_iff.2 fun h => ?_)
    have hle := Glob.compiles_unlimited_iff.1 h _ (mem_validGlobs_iff.2 ⟨_, hmem, hparse⟩)
    rw [hnesting] at hle
    omega
  rw [matcher, hasked]

end IgnoreRuleSet

namespace FileSystem

theorem sources_sublist_of_exceeds {rules rules' : IgnoreRuleSet} (h : rules'.Exceeds rules)
    {limit : Glob.SizeLimit} (hkeeps : rules'.KeepsSets rules limit) (fs : FileSystem) (root : Path) :
    (fs.sources root rules' limit).value.Sublist (fs.sources root rules limit).value := by
  unfold sources
  cases fs.entry root with
  | error _ => exact List.Sublist.refl _
  | ok e =>
    cases e with
    | directory entries =>
      exact (Discovery.sourcesBelow_sublist (h.covers hkeeps root) entries).map _
    | file _ | shared _ | link _ | device => exact List.Sublist.refl _

/-- With further globs, and with further lines of ignore files none of which is a negation, scanning a
path looks at a part of the files that it looked at, in the same order, as long as each set of rules
that could be compiled still can. If only the nesting counts for that, it suffices that no further rule
is nested too deeply. -/
theorem sources_sublist (fs : FileSystem) (root : Path) (rules : IgnoreRuleSet)
    (patterns : List String) {lines : List String}
    (hlines : ∀ line ∈ lines, line.toList.head? ≠ some '!') :
    let further := lines.foldl IgnoreRuleSet.insertLine (patterns.foldl IgnoreRuleSet.insert rules)
    (∀ limit, further.KeepsSets rules limit →
      (fs.sources root further limit).value.Sublist (fs.sources root rules limit).value) ∧
    ((∀ pattern ∈ patterns, IgnoreRuleSet.PatternCompiles pattern) →
      (∀ line ∈ lines, IgnoreRuleSet.LineCompiles line) →
      (fs.sources root further).value.Sublist (fs.sources root rules).value) := by
  intro further
  have hpatterns := IgnoreRuleSet.exceeds_foldl_insert patterns rules
  have hexceeds := (IgnoreRuleSet.exceeds_foldl_insertLine
    (patterns.foldl IgnoreRuleSet.insert rules) hlines).trans hpatterns
  refine ⟨fun limit hkeeps => sources_sublist_of_exceeds hexceeds hkeeps fs root,
    fun hshallow hshallow' => ?_⟩
  exact sources_sublist_of_exceeds hexceeds (rules.keepsSets_of_compiles hshallow hshallow') fs root

/-- A glob and a line each ignore a file that was taken back in before. What is no glob ignores
nothing. -/
theorem sources_sublist_reincluded :
    let fs : FileSystem := { top := .directory [("p", .directory
      [("c.js", .file .empty), ("a.js", .file .empty), ("b.js", .file .empty)])], here := [] }
    let rules := IgnoreRuleSet.empty.extend "*.js\n!?.js\n"
    let further := ["/b.js", "c/"].foldl IgnoreRuleSet.insertLine
      (["[", "a.*"].foldl IgnoreRuleSet.insert rules)
    (∀ line ∈ ["/b.js", "c/"], line.toList.head? ≠ some '!') ∧
      ["a.js", "b.js", "c.js"].map (fun name => (rules.matcher ⟨"p"⟩).isIgnored ⟨name⟩) =
        [false, false, false] ∧
      ["a.js", "b.js", "c.js"].map (fun name => (further.matcher ⟨"p"⟩).isIgnored ⟨name⟩) =
        [true, true, false] ∧
      (fs.sources ⟨"p"⟩ further).value.Sublist (fs.sources ⟨"p"⟩ rules).value := by
  intro fs rules further
  have hlines : ∀ line ∈ ["/b.js", "c/"], line.toList.head? ≠ some '!' := by decide
  have hsublist := (sources_sublist fs ⟨"p"⟩ rules ["[", "a.*"] hlines).2 (by decide +kernel)
    (by decide +kernel)
  exact ⟨hlines, by decide +kernel, by decide +kernel, hsublist⟩

/-- What scanning a directory with one file in it comes to. -/
theorem sources_single (rules : IgnoreRuleSet) :
    (sources { top := .directory [("p", .directory [("a.js", .file .empty)])], here := [] }
      ⟨"p"⟩ rules).value =
        if (rules.matcher ⟨"p"⟩).isIgnored ⟨"a.js"⟩ then [] else [⟨"p/a.js"⟩] := by
  have htaken : Discovery.isTaken (rules.matcher ⟨"p"⟩) ["a.js"] "a.js" =
      !(rules.matcher ⟨"p"⟩).isIgnored ⟨"a.js"⟩ := by
    have hlanguage : (Language.ofPath? ⟨"a.js"⟩).isSome = true := by decide
    rw [Discovery.isTaken, hlanguage]
    rfl
  rw [sources, entry_directory_p]
  have hwalk : Discovery.sourcesBelow (rules.matcher ⟨"p"⟩) [("a.js", .file .empty)] =
      if (rules.matcher ⟨"p"⟩).isIgnored ⟨"a.js"⟩ then [] else [["a.js"]] := by
    simp only [Discovery.sourcesBelow, Discovery.inOrder, Discovery.sourcesAmong,
      Discovery.sourcesAt, List.nil_append, htaken, List.mergeSort_singleton, List.flatMap_cons,
      List.flatMap_nil, List.append_nil]
    cases (rules.matcher ⟨"p"⟩).isIgnored ⟨"a.js"⟩ <;> rfl
  have hvalue : ∀ rules : IgnoreRuleSet, (rules.compile ⟨"p"⟩).value = rules.matcher ⟨"p"⟩ :=
    fun _ => rfl
  simp only [Logged.value_bind, Logged.value_pure, hvalue, hwalk]
  split
  · rfl
  · decide +kernel

/-- A glob of many braces, one in the other, empties the set of globs: a file that was ignored is
looked at. -/
theorem deep_glob_brings_back :
    let fs : FileSystem := { top := .directory [("p", .directory [("a.js", .file .empty)])],
                             here := [] }
    let rules := IgnoreRuleSet.empty.insert "*.js"
    let deep := String.ofList (Glob.braced 300 'a')
    (Glob.parse deep).isOk = true ∧ (fs.sources ⟨"p"⟩ rules).value = [] ∧
      (fs.sources ⟨"p"⟩ (rules.insert deep)).value = [⟨"p/a.js"⟩] := by
  intro fs rules deep
  have hparse : Glob.parse deep = .ok [Glob.inBraces 300 (.literal 'a')] := by
    rw [Glob.parse, String.toList_ofList]
    exact Glob.parseChars_braced (by decide) (by decide) 300
  have hlines : (rules.insert deep).lines = [] := by
    rw [IgnoreRuleSet.lines_insert, IgnoreRuleSet.lines_insert]
    rfl
  have hpaths : ((rules.insert deep).matcher ⟨"p"⟩).paths = [] :=
    rules.paths_insert_braced ⟨"p"⟩ (by decide)
  refine ⟨by rw [hparse]; rfl, ?_, ?_⟩
  · rw [sources_single, if_pos (by decide +kernel)]
  · rw [sources_single, if_neg]
    rw [IgnoreMatcher.isIgnored_iff, hpaths, IgnoreRuleSet.matcher, hlines]
    rintro (h | h)
    · simp [IgnoreMatcher.anyMatch] at h
    · simp [IgnoreRuleSet.askedEntries, IgnoreRuleSet.validEntries, IgnoreList.fileVerdict?] at h

end FileSystem

end ScriptCensus
