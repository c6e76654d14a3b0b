import ScriptCensus.Discovery
import ScriptCensus.Proofs.ByteOrder
import ScriptCensus.Proofs.IgnoreLists
import ScriptCensus.Proofs.SoundTrees

/-!
# The discovered files

Which files scanning a directory finds, said without the walk that finds them. A file counts if it is
`Discovery.Taken` where it stands and all directories on the way to it are `Discovery.Entered`, and
`FileSystem.sources_exact` says that the walk lists exactly these, each once and in the order of their
components as bytes.

The walk is followed one directory at a time. What it lists below a directory comes from one of its
entries (`Discovery.mem_sourcesUnder_cons`), and so by induction on the directories on the way from a
file that counts (`Discovery.mem_sourcesUnder_iff`). The trees are those that a file system can hold
(`Entry.IsSound`).
-/

namespace ScriptCensus

/-! ## Extensions -/

/-- The extensions of source files. -/
def sourceExtensions : List String := ["js", "mjs", "ts", "mts"]

theorem Language.ofExtension?_isSome_iff (e : String) :
    (ofExtension? e).isSome = true ↔ e ∈ sourceExtensions := by
  simp [ofExtension?, extensions, sourceExtensions, List.find?_isSome, or_assoc]

theorem Language.ofPath?_isSome_iff {name : String} (h : Path.IsName name) :
    (ofPath? ⟨name⟩).isSome = true ↔
      ∃ stem e, stem ≠ "" ∧ e ∈ sourceExtensions ∧ name = stem ++ "." ++ e := by
  rw [ofPath?, Path.extension?, Path.fileName?_of_isName h, Option.bind_some]
  simp only [Option.isSome_bind, Option.any_eq_true, ofExtension?_isSome_iff,
    Path.splitName_snd_eq_some_iff]
  have hdots : ∀ e ∈ sourceExtensions, '.' ∉ e.toList := by decide
  constructor
  · rintro ⟨e, ⟨-, stem, hstem, hname⟩, he⟩
    exact ⟨stem, e, hstem, he, hname⟩
  · rintro ⟨stem, e, hstem, he, hname⟩
    exact ⟨e, ⟨hdots e he, stem, hstem, hname⟩, he⟩

/-! ## What the walk lists -/

namespace Discovery

variable (m : IgnoreMatcher)

/-- Whether at a location stands a directory that is entered. -/
structure Entered (top : Entry) (above : Location) (name : String) : Prop where
  isDirectory : ∃ entries, top.at? (above ++ [name]) = some (.directory entries)
  visible : name.toList.head? ≠ some '.'
  kept : m.isIgnoredDirectory (relativePath (above ++ [name])) = false

/-- Whether at a location stands a file that is taken. -/
structure Taken (top : Entry) (above : Location) (name : String) : Prop where
  isFile : ∃ e, top.at? (above ++ [name]) = some e ∧ e.isFile = true
  visible : name.toList.head? ≠ some '.'
  extension : ∃ stem e, stem ≠ "" ∧ e ∈ sourceExtensions ∧ name = stem ++ "." ++ e
  kept : m.isIgnored? (relativePath (above ++ [name])) = some false

/-- The source files below the directory at a location. -/
def sourcesUnder (above : Location) (entries : List (String × Entry)) : List Location :=
  inOrder (sourcesAmong m above entries)

theorem sourcesAmong_eq_map (above : Location) : ∀ entries : List (String × Entry),
    sourcesAmong m above entries =
      entries.map fun x => (x.1, sourcesAt m (above ++ [x.1]) x.1 x.2)
  | [] => rfl
  | (name, e) :: rest => by
    rw [sourcesAmong, sourcesAmong_eq_map above rest]
    rfl

theorem mem_sourcesUnder (above l : Location) (entries : List (String × Entry)) :
    l ∈ sourcesUnder m above entries ↔
      ∃ x ∈ entries, l ∈ sourcesAt m (above ++ [x.1]) x.1 x.2 := by
  simp [sourcesUnder, inOrder, sourcesAmong_eq_map]

/-- What is listed at and below an entry: the entry itself if it is a file, or what is listed below it
if it is a directory. -/
theorem mem_sourcesAt (location l : Location) (name : String) (e : Entry) :
    l ∈ sourcesAt m location name e ↔
      (e.isFile = true ∧ isTaken m location name = true ∧ l = location) ∨
      ∃ entries, e = .directory entries ∧ isEntered m location name = true ∧
        l ∈ sourcesUnder m location entries := by
  cases e with
  | file _ | shared _ => by_cases h : isTaken m location name <;> simp [sourcesAt, Entry.isFile, h]
  | directory entries =>
    by_cases h : isEntered m location name <;> simp [sourcesAt, Entry.isFile, h, sourcesUnder]
  | link _ | device => simp [sourcesAt, Entry.isFile]

/-- What is listed at and below an entry starts with the location of the entry. -/
theorem prefix_of_mem_sourcesAt {e : Entry} (h : e.IsSound) {location l : Location} {name : String}
    (hl : l ∈ sourcesAt m location name e) : location <+: l := by
  induction h generalizing location name with
  | file _ | shared _ | link _ | device =>
    rcases (mem_sourcesAt m _ _ _ _).1 hl with ⟨_, _, rfl⟩ | ⟨_, he, _⟩
    · exact List.prefix_refl _
    · cases he
  | directory _ _ _ ih =>
    rcases (mem_sourcesAt m _ _ _ _).1 hl with ⟨he, _⟩ | ⟨_, ⟨⟩, _, hl⟩
    · simp [Entry.isFile] at he
    · obtain ⟨x, hx, hl⟩ := (mem_sourcesUnder m location l _).1 hl
      exact (List.prefix_append _ _).trans (ih x hx hl)

section step

variable {m} {entries : List (String × Entry)} {above : Location}

theorem exists_cons_of_mem_sourcesUnder (h : (Entry.directory entries).IsSound) {l : Location}
    (hl : l ∈ sourcesUnder m above entries) :
    ∃ x ∈ entries, l ∈ sourcesAt m (above ++ [x.1]) x.1 x.2 ∧ ∃ rest, l = above ++ x.1 :: rest := by
  obtain ⟨x, hx, hl⟩ := (mem_sourcesUnder m above l entries).1 hl
  cases h with
  | directory _ _ below =>
    obtain ⟨rest, rfl⟩ := prefix_of_mem_sourcesAt m (below x hx) hl
    exact ⟨x, hx, hl, rest, by simp⟩

/-- What is listed below a directory under a name comes from the entry of this name. -/
theorem mem_sourcesUnder_cons (h : (Entry.directory entries).IsSound) (name : String)
    (rest : Location) :
    above ++ name :: rest ∈ sourcesUnder m above entries ↔
      ∃ e, (Entry.directory entries).child? name = some e ∧
        above ++ name :: rest ∈ sourcesAt m (above ++ [name]) name e := by
  constructor
  · intro hl
    obtain ⟨⟨n, e⟩, hx, hl, rest', heq⟩ := exists_cons_of_mem_sourcesUnder h hl
    obtain ⟨rfl, rfl⟩ := List.cons.inj (List.append_cancel_left heq)
    exact ⟨e, h.child?_eq_some_iff.2 hx, hl⟩
  · rintro ⟨e, he, hl⟩
    exact (mem_sourcesUnder m _ _ _).2 ⟨(name, e), h.child?_eq_some_iff.1 he, hl⟩

end step

/-! ## What counts -/

end Discovery

/-- Whether a matcher answers for all tidy paths. -/
def IgnoreMatcher.Answers (m : IgnoreMatcher) : Prop :=
  ∀ p : Path, p.IsTidy → (m.isIgnored? p).isSome = true

theorem IgnoreRuleSet.answers_matcher (rules : IgnoreRuleSet) (root : Path)
    (limit : Glob.SizeLimit) : (rules.matcher root limit).Answers := by
  intro p hp
  rw [IgnoreMatcher.isIgnored?, matcher,
    IgnoreList.fileVerdict?_ofEntries (IgnoreList.matchedPart_isAbsolute root hp)]
  split <;> rfl

namespace Discovery

variable {m : IgnoreMatcher} {top : Entry} {entries : List (String × Entry)} {above : Location}

/-- A file is taken if the walk takes it when it comes to it. -/
theorem taken_iff (hm : m.Answers) (htop : top.IsSound)
    (h : top.at? above = some (.directory entries)) (name : String) :
    Taken m top above name ↔
      ∃ e, (Entry.directory entries).child? name = some e ∧ e.isFile = true ∧
        isTaken m (above ++ [name]) name = true := by
  have hat := Entry.at?_concat name h
  have hiff : ∀ e, top.at? (above ++ [name]) = some e →
      (isTaken m (above ++ [name]) name = true ↔ name.toList.head? ≠ some '.' ∧
        (∃ stem e, stem ≠ "" ∧ e ∈ sourceExtensions ∧ name = stem ++ "." ++ e) ∧
          m.isIgnored? (relativePath (above ++ [name])) = some false) := by
    intro e he
    obtain ⟨-, hnames⟩ := htop.at? he
    obtain ⟨b, hb⟩ := Option.isSome_iff_exists.1 (hm _ (Path.isTidy_intercalate hnames))
    have hb' : m.isIgnored? (relativePath (above ++ [name])) = some b := hb
    rw [← Language.ofPath?_isSome_iff (hnames name (by simp)), isTaken, IgnoreMatcher.isIgnored, hb']
    simp [isHidden, and_assoc]
  constructor
  · rintro ⟨⟨e, he, hfile⟩, hvisible, hextension, hkept⟩
    exact ⟨e, hat ▸ he, hfile, (hiff e he).2 ⟨hvisible, hextension, hkept⟩⟩
  · rintro ⟨e, he, hfile, htaken⟩
    rw [← hat] at he
    obtain ⟨hvisible, hextension, hkept⟩ := (hiff e he).1 htaken
    exact ⟨⟨e, he, hfile⟩, hvisible, hextension, hkept⟩

theorem entered_iff (h : top.at? above = some (.directory entries)) (name : String) :
    Entered m top above name ↔
      ∃ es, (Entry.directory entries).child? name = some (.directory es) ∧
        isEntered m (above ++ [name]) name = true := by
  have hat := Entry.at?_concat name h
  have hiff : isEntered m (above ++ [name]) name = true ↔ name.toList.head? ≠ some '.' ∧
      m.isIgnoredDirectory (relativePath (above ++ [name])) = false := by
    simp [isEntered, isHidden]
  rw [← hat, hiff]
  constructor
  · rintro ⟨⟨es, hes⟩, hvisible, hkept⟩
    exact ⟨es, hes, hvisible, hkept⟩
  · rintro ⟨es, hes, hvisible, hkept⟩
    exact ⟨⟨es, hes⟩, hvisible, hkept⟩

/-- Of the locations directly in a directory, those are listed at which a file is taken. -/
theorem concat_mem_sourcesUnder_iff (hm : m.Answers) (htop : top.IsSound)
    (h : top.at? above = some (.directory entries)) (name : String) :
    above ++ [name] ∈ sourcesUnder m above entries ↔ Taken m top above name := by
  have hsound := (htop.at? h).1
  rw [mem_sourcesUnder_cons hsound name [], taken_iff hm htop h]
  constructor
  · rintro ⟨e, he, hl⟩
    rcases (mem_sourcesAt m _ _ _ _).1 hl with ⟨hfile, htaken, -⟩ | ⟨es, rfl, -, hl⟩
    · exact ⟨e, he, hfile, htaken⟩
    · -- what is listed below a directory is longer than the location of the directory
      have hbelow : (Entry.directory es).IsSound := by
        refine (htop.at? (l := above ++ [name]) ?_).1
        rw [Entry.at?_concat name h, he]
      obtain ⟨x, -, -, rest, heq⟩ := exists_cons_of_mem_sourcesUnder hbelow hl
      simp at heq
  · rintro ⟨e, he, hfile, htaken⟩
    exact ⟨e, he, (mem_sourcesAt m _ _ _ _).2 (Or.inl ⟨hfile, htaken, rfl⟩)⟩

/-- Of the locations further down, those are listed that are listed below a directory that is
entered. -/
theorem cons_mem_sourcesUnder_iff (htop : top.IsSound)
    (h : top.at? above = some (.directory entries)) (name : String) {rest : Location}
    (hrest : rest ≠ []) :
    above ++ name :: rest ∈ sourcesUnder m above entries ↔
      Entered m top above name ∧ ∃ es, top.at? (above ++ [name]) = some (.directory es) ∧
        above ++ [name] ++ rest ∈ sourcesUnder m (above ++ [name]) es := by
  have hat := Entry.at?_concat name h
  have hassoc : above ++ name :: rest = above ++ [name] ++ rest := by simp
  rw [mem_sourcesUnder_cons (htop.at? h).1 name rest, entered_iff h, hat, hassoc]
  constructor
  · rintro ⟨e, he, hl⟩
    rcases (mem_sourcesAt m _ _ _ _).1 hl with ⟨-, -, heq⟩ | ⟨es, rfl, hentered, hl⟩
    · exact absurd (List.append_right_eq_self.1 heq) hrest
    · exact ⟨⟨es, he, hentered⟩, es, he, hl⟩
  · rintro ⟨⟨_, -, hentered⟩, es, he, hl⟩
    exact ⟨_, he, (mem_sourcesAt m _ _ _ _).2 (Or.inr ⟨es, rfl, hentered, hl⟩)⟩

/-- The walk below a directory lists the locations at which a file is taken, if all directories on the
way from there are entered. -/
theorem mem_sourcesUnder_iff (hm : m.Answers) (htop : top.IsSound) (name : String) :
    ∀ (way above : Location) (entries : List (String × Entry)),
      top.at? above = some (.directory entries) →
      (above ++ (way ++ [name]) ∈ sourcesUnder m above entries ↔
        (∀ front directory, front ++ [directory] <+: way →
          Entered m top (above ++ front) directory) ∧ Taken m top (above ++ way) name)
  | [], above, entries, h => by
    simp [concat_mem_sourcesUnder_iff hm htop h]
  | d :: way, above, entries, h => by
    have ih := fun es => mem_sourcesUnder_iff hm htop name way (above ++ [d]) es
    rw [List.cons_append, cons_mem_sourcesUnder_iff htop h d (by simp)]
    constructor
    · rintro ⟨hentered, es, hes, hl⟩
      obtain ⟨hway, htaken⟩ := (ih es hes).1 hl
      refine ⟨fun front directory hfront => ?_, by simpa using htaken⟩
      cases front with
      | nil =>
        obtain rfl : directory = d := by simpa using hfront
        simpa using hentered
      | cons d' front =>
        rw [List.cons_append, List.cons_prefix_cons] at hfront
        obtain ⟨rfl, hfront⟩ := hfront
        simpa using hway front directory hfront
    · rintro ⟨hway, htaken⟩
      have hentered : Entered m top above d := by
        simpa using hway [] d (by simp)
      obtain ⟨es, hes⟩ := hentered.isDirectory
      refine ⟨hentered, es, hes, (ih es hes).2 ⟨fun front directory hfront => ?_, ?_⟩⟩
      · have := hway (d :: front) directory (by simpa using hfront)
        simpa using this
      · simpa using htaken

/-- The walk below the top lists exactly what counts. -/
theorem mem_sourcesBelow_iff (hm : m.Answers) (h : (Entry.directory entries).IsSound)
    (l : Location) :
    l ∈ sourcesBelow m entries ↔ ∃ above name, l = above ++ [name] ∧
      (∀ front directory, front ++ [directory] <+: above →
        Entered m (.directory entries) front directory) ∧
      Taken m (.directory entries) above name := by
  have hiff := fun name way => mem_sourcesUnder_iff hm h name way [] entries rfl
  simp only [List.nil_append] at hiff
  constructor
  · intro hl
    rcases l.eq_nil_or_concat with rfl | ⟨above, name, rfl⟩
    · obtain ⟨x, -, -, rest, heq⟩ := exists_cons_of_mem_sourcesUnder h hl
      simp at heq
    · rw [List.concat_eq_append] at hl ⊢
      exact ⟨above, name, rfl, (hiff name above).1 hl⟩
  · rintro ⟨above, name, rfl, hcounts⟩
    exact (hiff name above).2 hcounts

/-! ## The order of the walk -/

/-- What was found under distinct names is in order, if it is for each name. -/
theorem pairwise_inOrder (above : Location) {found : List (String × List Location)}
    (hdistinct : (found.map (·.1)).Nodup) (heach : ∀ x ∈ found, x.2.Pairwise (· < ·))
    (hfront : ∀ x ∈ found, ∀ l ∈ x.2, above ++ [x.1] <+: l) :
    (inOrder found).Pairwise (· < ·) := by
  have hsorted : (found.mergeSort fun a b => a.1 ≤ b.1).Pairwise fun a b => a.1 ≤ b.1 := by
    refine (List.pairwise_mergeSort ?_ ?_ found).imp of_decide_eq_true
    · intro a b c hab hbc
      simp only [decide_eq_true_eq] at hab hbc ⊢
      exact String.le_trans hab hbc
    · intro a b
      simpa using String.le_total a.1 b.1
  have hnames : (found.mergeSort fun a b => a.1 ≤ b.1).Pairwise fun a b => a.1 ≠ b.1 := by
    rw [← List.pairwise_map]
    exact ((List.mergeSort_perm found _).map _).nodup_iff.2 hdistinct
  rw [inOrder, List.pairwise_flatMap]
  refine ⟨fun x hx => heach x (List.mem_mergeSort.1 hx), ?_⟩
  refine (hsorted.and hnames).imp_of_mem ?_
  rintro x y hx hy ⟨hle, hne⟩ l hl l' hl'
  obtain ⟨rest, rfl⟩ := hfront x (List.mem_mergeSort.1 hx) l hl
  obtain ⟨rest', rfl⟩ := hfront y (List.mem_mergeSort.1 hy) l' hl'
  have hlt : x.1 < y.1 := Std.lt_of_le_of_ne hle hne
  rw [List.append_assoc, List.append_assoc]
  exact List.append_left_lt (List.cons_lt_cons_iff.2 (Or.inl hlt))

theorem pairwise_sourcesUnder {entries : List (String × Entry)}
    (h : (Entry.directory entries).IsSound) (above : Location)
    (heach : ∀ x ∈ entries, ∀ location name, (sourcesAt m location name x.2).Pairwise (· < ·)) :
    (sourcesUnder m above entries).Pairwise (· < ·) := by
  cases h with
  | directory distinct _ below =>
    rw [sourcesUnder, sourcesAmong_eq_map]
    refine pairwise_inOrder above ?_ ?_ ?_
    · simpa [Function.comp_def] using distinct
    · simp only [List.mem_map]
      rintro _ ⟨x, hx, rfl⟩
      exact heach x hx _ _
    · simp only [List.mem_map]
      rintro _ ⟨x, hx, rfl⟩ l hl
      exact prefix_of_mem_sourcesAt m (below x hx) hl

/-- The walk lists locations in the order of their names, and none twice. -/
theorem pairwise_sourcesAt {e : Entry} (h : e.IsSound) (location : Location) (name : String) :
    (sourcesAt m location name e).Pairwise (· < ·) := by
  induction h generalizing location name with
  | file _ | shared _ => by_cases ht : isTaken m location name <;> simp [sourcesAt, ht]
  | link _ | device => simp [sourcesAt]
  | directory distinct names below ih =>
    rw [sourcesAt]
    by_cases he : isEntered m location name
    · rw [if_pos he]
      exact pairwise_sourcesUnder (.directory distinct names below) location ih
    · simp [he]

theorem pairwise_sourcesBelow (h : (Entry.directory entries).IsSound) :
    (sourcesBelow m entries).Pairwise (· < ·) := by
  refine pairwise_sourcesUnder h [] fun x hx => ?_
  cases h with
  | directory _ _ below => exact pairwise_sourcesAt (below x hx)

end Discovery

/-! ## Whole paths -/

/-- The components of a path as bytes. -/
def Path.componentBytes (p : Path) : List (List UInt8) :=
  p.components.map fun c => Glob.bytesOf c.text

namespace Discovery

theorem components_pathBelow : ∀ (l : Location) {root : Path}, root.text ≠ "" →
    (∀ name ∈ l, Path.IsName name) →
    (pathBelow root l).components = root.components ++ l.map .normal
  | [], root, _, _ => by simp [pathBelow]
  | name :: rest, root, hroot, hnames => by
    obtain ⟨hname, hrest⟩ := List.forall_mem_cons.1 hnames
    have hjoin := Path.components_join hroot hname
    have hne : (root.join ⟨name⟩).text ≠ "" := by
      intro hempty
      have hjoined : root.join ⟨name⟩ = ⟨""⟩ := congrArg Path.mk hempty
      have hnone : (⟨""⟩ : Path).components = [] := rfl
      simp [hjoined, hnone] at hjoin
    have ih : (pathBelow (root.join ⟨name⟩) rest).components = _ :=
      components_pathBelow rest hne hrest
    rw [pathBelow, List.foldl_cons, ← pathBelow, ih, hjoin]
    simp

/-- Below a root, the order of locations is the order of paths by their components as bytes. -/
theorem componentBytes_pathBelow_lt {root : Path} (hroot : root.text ≠ "") {l l' : Location}
    (hl : ∀ name ∈ l, Path.IsName name) (hl' : ∀ name ∈ l', Path.IsName name) (h : l < l') :
    (pathBelow root l).componentBytes < (pathBelow root l').componentBytes := by
  rw [Path.componentBytes, Path.componentBytes, components_pathBelow l hroot hl,
    components_pathBelow l' hroot hl', List.map_append, List.map_append, List.map_map, List.map_map]
  exact List.append_left_lt (List.map_lt (fun _ _ => Glob.bytesOf_lt) h)

end Discovery

namespace FileSystem

/-- What scanning a directory looks at. A path is listed exactly if it leads from the root, over
directories that are entered, to a file that is taken. No path is listed twice, and they stand in
lexicographic order of their components, which are compared as bytes. -/
theorem sources_exact {fs : FileSystem} (hfs : fs.top.IsSound) {root : Path}
    {entries : List (String × Entry)} (hroot : fs.entry root = .ok (.directory entries))
    (rules : IgnoreRuleSet) (limit : Glob.SizeLimit) :
    (∀ p, p ∈ (fs.sources root rules limit).value ↔ ∃ above name,
      p = Discovery.pathBelow root (above ++ [name]) ∧
      (∀ front directory, front ++ [directory] <+: above →
        Discovery.Entered (rules.compile root limit).value (.directory entries) front directory) ∧
      Discovery.Taken (rules.compile root limit).value (.directory entries) above name) ∧
    (fs.sources root rules limit).value.Nodup ∧
    (fs.sources root rules limit).value.Pairwise fun p q => p.componentBytes < q.componentBytes := by
  have hsound := isSound_of_entry hfs hroot
  have hmem := Discovery.mem_sourcesBelow_iff (rules.answers_matcher root limit) hsound
  have hvalue : (fs.sources root rules limit).value =
      (Discovery.sourcesBelow (rules.matcher root limit) entries).map (Discovery.pathBelow root) := by
    rw [sources, hroot]
    rfl
  have hnames : ∀ l ∈ Discovery.sourcesBelow (rules.matcher root limit) entries,
      ∀ name ∈ l, Path.IsName name := by
    intro l hl
    obtain ⟨above, name, rfl, -, htaken⟩ := (hmem l).1 hl
    obtain ⟨e, he, -⟩ := htaken.isFile
    exact (hsound.at? he).2
  have hordered : (fs.sources root rules limit).value.Pairwise
      fun p q => p.componentBytes < q.componentBytes := by
    rw [hvalue, List.pairwise_map]
    refine List.Pairwise.imp_of_mem ?_ (Discovery.pairwise_sourcesBelow hsound)
    intro l l' hl hl' hlt
    exact Discovery.componentBytes_pathBelow_lt (text_ne_empty_of_entry hroot) (hnames l hl)
      (hnames l' hl') hlt
  refine ⟨fun p => ?_, hordered.imp ?_, hordered⟩
  · rw [hvalue, List.mem_map]
    constructor
    · rintro ⟨l, hl, rfl⟩
      obtain ⟨above, name, rfl, hcounts⟩ := (hmem l).1 hl
      exact ⟨above, name, rfl, hcounts⟩
    · rintro ⟨above, name, rfl, hcounts⟩
      exact ⟨_, (hmem _).2 ⟨above, name, rfl, hcounts⟩, rfl⟩
  · rintro p _ hlt rfl
    exact List.lt_irrefl _ hlt

theorem entry_directory_p (entries : List (String × Entry)) :
    entry { top := .directory [("p", .directory entries)], here := [] } ⟨"p"⟩ =
      .ok (.directory entries) := by
  have hfind : find { top := .directory [("p", .directory entries)], here := [] } true ⟨"p"⟩ =
      .ok (.existing ["p"]) := by
    have hpieces : piecesOf "p" = ["p"] := by decide +kernel
    have hrelative : (⟨"p"⟩ : Path).isAbsolute = false := by decide
    have hsize : "p".utf8ByteSize = 1 := rfl
    simp [find, hpieces, startOf, hrelative, walk, hsize, Entry.at?, maxName, maxPath]
  rw [entry, hfind]
  rfl

/-- Below a directory with a link and another directory, the file in that one is listed. -/
theorem sources_exact_nested :
    let entries := [("b.js", Entry.link "a/x.ts"), ("a", .directory [("x.ts", .file .empty)])]
    let fs : FileSystem := { top := .directory [("p", .directory entries)], here := [] }
    fs.top.IsSound ∧ fs.entry ⟨"p"⟩ = .ok (.directory entries) ∧
      ⟨"p/a/x.ts"⟩ ∈ (fs.sources ⟨"p"⟩ .empty).value := by
  intro entries fs
  have hentries : (Entry.directory entries).IsSound := by
    refine .directory (by decide) (by decide) ?_
    simp only [entries, List.forall_mem_cons]
    refine ⟨.link _, .directory (by decide) (by decide) ?_, by simp⟩
    simpa using Entry.IsSound.file _
  have hfs : fs.top.IsSound :=
    .directory (by decide) (by decide) (by simpa using hentries)
  have hroot : fs.entry ⟨"p"⟩ = .ok (.directory entries) := entry_directory_p entries
  refine ⟨hfs, hroot, ((sources_exact hfs hroot .empty {}).1 _).2 ⟨["a"], "x.ts", by decide +kernel, ?_, ?_⟩⟩
  · intro front directory hfront
    obtain ⟨rfl, rfl⟩ : front = [] ∧ directory = "a" := by
      cases front <;> simp_all
    exact ⟨⟨_, rfl⟩, by decide, by decide +kernel⟩
  · refine ⟨⟨_, rfl, rfl⟩, by decide, ⟨"x", "ts", by decide, by decide, by decide⟩, by decide +kernel⟩

end FileSystem

end ScriptCensus
