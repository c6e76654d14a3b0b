import ScriptCensus.Proofs.Resolution

/-!
# What file operations change

Each operation changes the surface at one location and leaves the others as they are
(`FileSystem.SameBut`): writing (`write_spec`), taking away (`remove_spec`) and, at two locations,
renaming (`rename_spec`). Writing to a file of several names changes what is held under its number
instead of the surface, and renaming such a file to another of its names changes nothing.

Making directories only adds directories, each of them where one of the given paths leads
(`addsDirectories_makeMissing`); if it fails, the first of the paths leads to no directory
(`not_isDirectory_of_makeMissing`). The absolute path of an entry leads back to it (`find_pathOf`).
-/

namespace ScriptCensus

/-- An operation that may be refused succeeds if the tree allows it and it is not refused. -/
theorem FileError.unlessRefused_eq_ok_iff {α : Type} {refused? : Option FileError}
    {result : Except FileError α} {a : α} :
    FileError.unlessRefused refused? result = .ok a ↔ result = .ok a ∧ refused? = none := by
  cases result with
  | error e => simp [FileError.unlessRefused]
  | ok b => cases refused? <;> simp [FileError.unlessRefused]

theorem Entry.ne_directory_of_isFile {e : Entry} (h : e.isFile = true)
    (entries : List (String × Entry)) : e ≠ .directory entries := by
  rintro rfl
  simp [isFile] at h

theorem Entry.ne_link_of_isFile {e : Entry} (h : e.isFile = true) (target : String) :
    e ≠ .link target := by
  rintro rfl
  simp [isFile] at h

theorem Entry.isSameFile_iff {a b : Entry} :
    a.isSameFile b = true ↔ ∃ number, a = .shared number ∧ b = .shared number := by
  constructor
  · intro h
    cases a <;> cases b <;> simp_all [isSameFile]
  · rintro ⟨number, rfl, rfl⟩
    simp [isSameFile]

namespace FileSystem

variable {fs fs' : FileSystem} {follow : Bool} {p : Path} {d : Destination} {x : List String}

/-! ## Where paths lead -/

/-- A path that leads anywhere starts below a directory at the top. -/
theorem hasDirectory_nil_of_find (h : fs.find follow p = .ok d) : fs.HasDirectory [] := by
  obtain ⟨-, -, -, h⟩ := find_eq_ok_iff.1 h
  obtain ⟨piece, ps, hps⟩ := List.exists_cons_of_ne_nil (piecesOf_ne_nil p.text)
  rw [hps] at h
  have hstart := h.hasDirectory
  cases hl : fs.startOf p.text with
  | nil => rwa [hl] at hstart
  | cons name rest =>
    rw [hl] at hstart
    exact hasDirectory_of_append (l := []) hstart

/-- A relative path is followed from where one is. -/
theorem find_eq_walk {pieces : List String}
    (hpath : '\x00' ∉ p.text.toList ∧ p.text ≠ "" ∧ p.text.utf8ByteSize ≤ maxPath)
    (hrel : p.isAbsolute = false) (hpieces : piecesOf p.text = pieces) :
    fs.find follow p = fs.walk follow maxLinks fs.here pieces := by
  obtain ⟨hnul, hne, hlong⟩ := hpath
  have hstart : fs.startOf p.text = fs.here := by
    rw [startOf, hrel]
    simp
  simp [find, hstart, hnul, hne, Nat.not_lt.2 hlong, hpieces]

theorem exists_surface_of_find (h : fs.find follow p = .ok (.existing x)) :
    ∃ e, fs.surface? x = some e ∧ (follow = true → ∀ target, e ≠ .link target) :=
  (find_eq_ok_iff.1 h).2.2.2.exists_surface (piecesOf_ne_nil _)

/-- What is no directory is in one. -/
theorem exists_concat_of_find (h : fs.find follow p = .ok d) {e : Entry}
    (he : fs.surface? x = some e) (hdir : ¬ fs.HasDirectory x) :
    ∃ m name, x = m ++ [name] ∧ fs.HasDirectory m := by
  rcases List.eq_nil_or_concat x with rfl | ⟨m, name, rfl⟩
  · exact absurd (hasDirectory_nil_of_find h) hdir
  · rw [List.concat_eq_append] at he
    exact ⟨m, name, List.concat_eq_append, hasDirectory_of_append he⟩

theorem isDirectory_iff :
    fs.isDirectory p = true ↔ ∃ l, fs.find true p = .ok (.existing l) ∧ fs.HasDirectory l := by
  unfold isDirectory entry
  constructor
  · intro h
    cases hfind : fs.find true p with
    | error e => simp [hfind] at h
    | ok d =>
      cases d with
      | free => simp [hfind] at h
      | existing l =>
        cases hl : fs.top.at? l with
        | none => simp [hfind, hl] at h
        | some e =>
          cases e with
          | directory entries => exact ⟨l, rfl, hasDirectory_iff.2 ⟨entries, hl⟩⟩
          | file _ | shared _ | link _ | device => simp [hfind, hl, Entry.isDirectory] at h
  · rintro ⟨l, hfind, hl⟩
    obtain ⟨entries, hl⟩ := hasDirectory_iff.1 hl
    simp [hfind, hl, Entry.isDirectory]

/-- What a path means is in a directory unless it is one. -/
theorem exists_concat_of_place (h : fs.find follow p = .ok d) (hdir : ¬ fs.HasDirectory d.place) :
    ∃ m name, d.place = m ++ [name] ∧ fs.HasDirectory m := by
  cases d with
  | free m name slashed => exact ⟨m, name, rfl, (find_eq_ok_iff.1 h).2.2.2.free_spec.1⟩
  | existing x =>
    obtain ⟨e, he, -⟩ := (find_eq_ok_iff.1 h).2.2.2.exists_surface (piecesOf_ne_nil _)
    exact exists_concat_of_find h he hdir

/-- Above what a path leads to is a directory. -/
theorem isDirectory_of_parent? {q : Path} (h : fs.find follow p = .ok (.existing x))
    (hparent : p.parent? = some q) (hq : q.text ≠ "") : fs.isDirectory q = true := by
  obtain ⟨hnul, hne, hlong, hresolves⟩ := find_eq_ok_iff.1 h
  obtain ⟨habs, ⟨rest, hrest⟩, hpieces⟩ := Path.piecesOf_of_parent? hparent hq
  have htext : p.text = q.text ++ String.ofList rest := by
    rw [← String.toList_inj, String.toList_append, String.toList_ofList, hrest]
  have hstart : fs.startOf q.text = fs.startOf p.text := by
    rw [startOf, startOf, habs]
  have hq' : '\x00' ∉ q.text.toList ∧ q.text.utf8ByteSize ≤ maxPath := by
    constructor
    · exact fun h => hnul (hrest ▸ List.mem_append_left rest h)
    · rw [htext, String.utf8ByteSize_append] at hlong
      omega
  rw [isDirectory_iff]
  rcases hpieces with ⟨b, hb, hpieces⟩ | ⟨hroot, hpieces⟩
  · rw [hpieces] at hresolves
    obtain ⟨m, -, hm, hdir, -⟩ := hresolves.split (Or.inl ⟨hb, x, rfl⟩)
    exact ⟨m, find_eq_ok_iff.2 ⟨hq'.1, hq, hq'.2, hstart ▸ hm⟩, hdir⟩
  · have htop := hasDirectory_nil_of_find h
    have hl : fs.startOf q.text = [] := by
      rw [hstart, startOf, hroot]
      rfl
    refine ⟨[], find_eq_ok_iff.2 ⟨hq'.1, hq, hq'.2, ?_⟩, htop⟩
    rw [hl, hpieces]
    exact .silent htop (Or.inl rfl) (.done _ _)

/-- A path without a file name leads to a directory. -/
theorem exists_directory_of_find (hname : p.fileName? = none) (h : fs.find follow p = .ok d) :
    ∃ l, d = .existing l ∧ fs.HasDirectory l := by
  obtain ⟨-, -, -, hresolves⟩ := find_eq_ok_iff.1 h
  refine hresolves.of_no_name (fun h => absurd h (piecesOf_ne_nil _)) ?_
  intro before piece silent hpieces hsilent hstep
  have hmem : piece ∈ piecesOf p.text := by simp [hpieces]
  have hslash := (mem_piecesOf hmem).1
  have hname' := Path.fileName?_of_piecesOf hpieces
    ⟨hstep.1, hstep.2.1, hstep.2.2.1, hslash⟩ hsilent
  simp [hname] at hname'

/-- A path that ends in a name leads into a directory. -/
theorem exists_front_of_find {front : List String} {name : String}
    (hpieces : piecesOf p.text = front ++ [name]) (hname : Path.IsName name)
    (h : fs.find follow p = .ok d) : ∃ m fewer,
      fs.Resolves true maxLinks (fs.startOf p.text) front (.existing m) ∧ fs.HasDirectory m ∧
        fs.Resolves follow fewer m [name] d := by
  obtain ⟨-, -, -, hresolves⟩ := find_eq_ok_iff.1 h
  rw [hpieces] at hresolves
  exact hresolves.split (Or.inr ⟨name, List.mem_singleton_self name, hname.1⟩)

/-- A path that ends in a name that is no link leads to the entry of that name in the directory, or
to that name if it is free. -/
theorem Resolves.place_eq {m : List String} {name : String} {links : Nat}
    (h : fs.Resolves follow links m [name] d) (hname : Path.IsName name)
    (hlink : follow = true → ∀ target, fs.surface? (m ++ [name]) ≠ some (.link target)) :
    d.place = m ++ [name] := by
  rcases h.last hname hlink with ⟨rfl, -⟩ | ⟨rfl, -⟩ <;> rfl

theorem exists_find_not_following (h : fs.find true p = .ok d) :
    ∃ d', fs.find false p = .ok d' := by
  obtain ⟨hnul, hne, hlong, hresolves⟩ := find_eq_ok_iff.1 h
  obtain ⟨d', hd'⟩ := hresolves.exists_not_following
  exact ⟨d', find_eq_ok_iff.2 ⟨hnul, hne, hlong, hd'⟩⟩

/-- No link stands where a path leads to. -/
def NoLinkAt (fs : FileSystem) (p : Path) : Prop :=
  ∀ l target, fs.find false p = .ok (.existing l) → fs.surface? l ≠ some (.link target)

/-- Without a link at its end a path leads to the same whether links are followed or not. -/
theorem NoLinkAt.find_iff (h : fs.NoLinkAt p) :
    fs.find true p = .ok d ↔ fs.find false p = .ok d := by
  have hfollow : ∀ {d}, fs.find false p = .ok d → fs.find true p = .ok d := by
    intro d hd
    obtain ⟨hnul, hne, hlong, hresolves⟩ := find_eq_ok_iff.1 hd
    refine find_eq_ok_iff.2 ⟨hnul, hne, hlong, hresolves.following ?_⟩
    rintro l target rfl
    exact h l target hd
  refine ⟨fun hd => ?_, hfollow⟩
  obtain ⟨d', hd'⟩ := exists_find_not_following hd
  rw [hfollow hd'] at hd
  rwa [← Except.ok.inj hd]

section noLink

variable {y : List String} (hfind : fs.find false p = .ok (.existing x))
  (hlink : ∀ target, fs.surface? x ≠ some (.link target))

include hfind hlink

theorem noLinkAt_of_find : fs.NoLinkAt p := by
  intro l target hl
  rw [hfind] at hl
  obtain rfl := Destination.existing.inj (Except.ok.inj hl)
  exact hlink target

/-- Where no link stands, following links leads no further. -/
theorem eq_of_find (hfollow : fs.find true p = .ok (.existing y)) : y = x := by
  have hy := (noLinkAt_of_find hfind hlink).find_iff.1 hfollow
  rw [hfind] at hy
  exact (Destination.existing.inj (Except.ok.inj hy)).symm

end noLink

/-- A path leads to the same entry where entries were added. -/
theorem find_mono (hkeeps : fs.Keeps fs') (hhere : fs'.here = fs.here)
    (h : fs.find follow p = .ok (.existing x)) : fs'.find follow p = .ok (.existing x) := by
  obtain ⟨hnul, hne, hlong, hresolves⟩ := find_eq_ok_iff.1 h
  refine find_eq_ok_iff.2 ⟨hnul, hne, hlong, ?_⟩
  rw [startOf, hhere]
  exact hresolves.mono hkeeps

/-- The location that a path means, whether something is there or not. A link at its end is not
followed. -/
def Means (fs : FileSystem) (p : Path) (l : List String) : Prop :=
  ∃ d, fs.find false p = .ok d ∧ d.place = l

theorem means_of_find (h : fs.find false p = .ok (.existing x)) : fs.Means p x :=
  ⟨_, h, rfl⟩

theorem Means.unique {l l' : List String} (h : fs.Means p l) (h' : fs.Means p l') : l = l' := by
  obtain ⟨d, hd, rfl⟩ := h
  obtain ⟨d', hd', rfl⟩ := h'
  rw [hd] at hd'
  rw [Except.ok.inj hd']

/-! ## Absolute paths -/

theorem toList_pathOf (l : List String) :
    (pathOf l).text.toList = '/' :: ['/'].intercalate (l.map String.toList) := by
  rw [pathOf, String.toList_append, String.toList_intercalate]
  rfl

theorem isAbsolute_pathOf (l : List String) : (pathOf l).isAbsolute = true := by
  rw [Path.isAbsolute, toList_pathOf]
  rfl

theorem canonical_eq_ok_iff {q : Path} : fs.canonical p = .ok q ↔
    ∃ l, fs.find true p = .ok (.existing l) ∧ (pathOf l).text.utf8ByteSize ≤ maxPath ∧
      q = pathOf l := by
  rw [canonical]
  cases fs.find true p with
  | error e => simp
  | ok d =>
    cases d with
    | free => simp
    | existing l =>
      by_cases hlong : (pathOf l).text.utf8ByteSize > maxPath
      · simp [hlong, Nat.not_le.2 hlong]
      · simp [hlong, Nat.not_lt.1 hlong, eq_comm]

theorem find_pathOf_nil (h : fs.HasDirectory []) :
    fs.find follow (pathOf []) = .ok (.existing []) :=
  find_eq_ok_iff.2 ⟨by decide, by decide, by decide, .silent h (Or.inl rfl) (.done _ _)⟩

/-- The absolute path of an entry that is no link leads to the entry. -/
theorem find_pathOf (hx : x ≠ []) {e : Entry} (he : fs.surface? x = some e)
    (hlink : ∀ target, e ≠ .link target) (hnames : ∀ name ∈ x, IsEntryName name)
    (hlong : (pathOf x).text.utf8ByteSize ≤ maxPath) :
    fs.find follow (pathOf x) = .ok (.existing x) := by
  have hslash : ∀ piece ∈ x.map String.toList, '/' ∉ piece := by
    intro piece hpiece
    obtain ⟨name, hname, rfl⟩ := List.mem_map.1 hpiece
    exact (hnames name hname).1.2.2.2
  have hne : x.map String.toList ≠ [] := by simpa using hx
  have hsplit : splitAt '/' (pathOf x).text.toList = [] :: x.map String.toList := by
    rw [toList_pathOf, splitAt_slash, splitAt_intercalate hslash hne]
  obtain ⟨habs, hpieces⟩ := piecesOf_absolute hsplit hne
  have hback : (x.map String.toList).map String.ofList = x := by
    rw [List.map_map]
    exact List.map_id'' (fun _ => String.ofList_toList) x
  refine find_eq_ok_iff.2 ⟨?_, ?_, hlong, ?_⟩
  · rw [toList_pathOf, List.mem_cons, not_or]
    refine ⟨by decide, fun hmem => ?_⟩
    rcases mem_intercalate hmem with h | ⟨piece, hpiece, h⟩
    · simp at h
    · obtain ⟨name, hname, rfl⟩ := List.mem_map.1 hpiece
      exact (hnames name hname).2.1 h
  · intro h
    have := toList_pathOf x
    simp [h] at this
  · rw [startOf, habs, if_pos rfl, hpieces, hback]
    exact resolves_location hlink x [] he hnames

/-- The absolute path that is told of a path leads to the same entry. -/
theorem find_canonical (hsound : fs.IsSound) {q : Path} (h : fs.canonical p = .ok q) :
    q.isAbsolute = true ∧ ∃ l, fs.find true p = .ok (.existing l) ∧
      ∀ follow, fs.find follow q = .ok (.existing l) := by
  obtain ⟨l, hfind, hlong, rfl⟩ := canonical_eq_ok_iff.1 h
  refine ⟨isAbsolute_pathOf l, l, hfind, fun follow => ?_⟩
  obtain ⟨hnul, -, -, hresolves⟩ := find_eq_ok_iff.1 hfind
  obtain ⟨e, he, hlink⟩ := exists_surface_of_find hfind
  by_cases hl : l = []
  · rw [hl]
    exact find_pathOf_nil (hasDirectory_nil_of_find hfind)
  · refine find_pathOf hl he (hlink rfl) (hresolves.names ?_ ?_ hsound.targets) hlong
    · unfold startOf
      split
      · simp
      · exact hsound.here
    · intro piece hpiece
      obtain ⟨hslash, hsub⟩ := mem_piecesOf hpiece
      exact ⟨hslash, fun h => hnul (hsub h)⟩

/-- A file at a location, which may have other names, holds some content. -/
def Holds (fs : FileSystem) (x : List String) (content : ByteArray) : Prop :=
  fs.surface? x = some (.file content) ∨
    ∃ number, fs.surface? x = some (.shared number) ∧ fs.sharedContent number = content

theorem Holds.exists_file {content : ByteArray} (h : fs.Holds x content) :
    ∃ e, fs.surface? x = some e ∧ e.isFile = true := by
  rcases h with h | ⟨number, h, -⟩
  · exact ⟨_, h, rfl⟩
  · exact ⟨_, h, rfl⟩

theorem Holds.not_hasDirectory {content : ByteArray} (h : fs.Holds x content) :
    ¬ fs.HasDirectory x := by
  obtain ⟨e, he, hfile⟩ := h.exists_file
  rw [HasDirectory, he, Option.some.injEq]
  exact Entry.ne_directory_of_isFile hfile []

theorem Holds.not_link {content : ByteArray} (h : fs.Holds x content) (target : String) :
    fs.surface? x ≠ some (.link target) := by
  obtain ⟨e, he, hfile⟩ := h.exists_file
  rw [he, Ne, Option.some.injEq]
  exact Entry.ne_link_of_isFile hfile target

theorem Holds.of_eq {y : List String} {content : ByteArray} (h : fs.Holds x content)
    (hsurface : fs'.surface? y = fs.surface? x) (hshared : fs'.sharedContent = fs.sharedContent) :
    fs'.Holds y content := by
  rwa [Holds, hsurface, hshared]

/-- Two locations are names of one file. -/
def SameFile (fs : FileSystem) (x y : List String) : Prop :=
  ∃ number, fs.surface? x = some (.shared number) ∧ fs.surface? y = some (.shared number)

/-- A file is read by any of its names. -/
theorem Holds.of_sameFile {y : List String} {content : ByteArray} (h : fs.Holds x content)
    (hsame : fs.SameFile x y) : fs.Holds y content := by
  obtain ⟨number, hx, hy⟩ := hsame
  rcases h with hfile | ⟨n, hn, hcontent⟩
  · simp [hfile] at hx
  · obtain rfl := Entry.shared.inj (Option.some.inj (hn.symm.trans hx))
    exact Or.inr ⟨n, hy, hcontent⟩

theorem read_of_find {content : ByteArray} (h : fs.find true p = .ok (.existing x))
    (hx : fs.Holds x content) : fs.read p = .ok content := by
  rcases hx with hx | ⟨number, hx, rfl⟩
  · rw [surface?_eq_some_iff (by simp)] at hx
    simp [read, entry, h, hx]
  · rw [surface?_eq_some_iff (by simp)] at hx
    simp [read, entry, h, hx]

/-- A file system is sound if its links were links of one that is. -/
theorem IsSound.of_links (h : fs.IsSound) (hhere : fs'.here = fs.here)
    (hlinks : ∀ l target, fs'.surface? l = some (.link target) →
      ∃ m, fs.surface? m = some (.link target)) : fs'.IsSound where
  here := by
    rw [hhere]
    exact h.here
  targets l target hl := by
    obtain ⟨m, hm⟩ := hlinks l target hl
    exact h.targets m target hm

/-! ## Changes at one location -/

/-- Two file systems differ at one location only. -/
def SameBut (fs fs' : FileSystem) (x : List String) : Prop :=
  fs'.here = fs.here ∧ ∀ l, l ≠ x → fs'.surface? l = fs.surface? l

theorem sameBut_refl (fs : FileSystem) (x : List String) : fs.SameBut fs x :=
  ⟨rfl, fun _ _ => rfl⟩

theorem sameBut_put {m : List String} {name : String} {e : Entry} (hm : fs.HasDirectory m)
    (hname : ¬ fs.HasDirectory (m ++ [name])) (he : e.surface = e) :
    fs.SameBut (fs.alter m (Entry.put name e)) (m ++ [name]) ∧
      (fs.alter m (Entry.put name e)).surface? (m ++ [name]) = some e := by
  refine ⟨⟨rfl, fun l hl => ?_⟩, ?_⟩
  · rw [surface?_put hm hname he, if_neg hl]
  · rw [surface?_put hm hname he, if_pos rfl]

theorem sameBut_drop {m : List String} {name : String} (hm : fs.HasDirectory m)
    (hname : ¬ fs.HasDirectory (m ++ [name])) :
    fs.SameBut (fs.dropAt (m ++ [name])) (m ++ [name]) ∧
      (fs.dropAt (m ++ [name])).surface? (m ++ [name]) = none := by
  rw [dropAt_concat]
  refine ⟨⟨rfl, fun l hl => ?_⟩, ?_⟩
  · rw [surface?_drop hm hname, if_neg hl]
  · rw [surface?_drop hm hname, if_pos rfl]

/-- A change at a location where no directory or link was keeps the rest. -/
theorem SameBut.keeps (h : fs.SameBut fs' x) {e' : Entry} (hx : fs'.surface? x = some e')
    (hplain : ∀ e, fs.surface? x = some e → IsPlain e ∧ IsPlain e') : fs.Keeps fs' := by
  intro l e he
  by_cases hl : l = x
  · subst hl
    exact Or.inr ⟨(hplain e he).1, e', hx, (hplain e he).2⟩
  · rw [h.2 l hl]
    exact Or.inl he

theorem isPlain_file (content : ByteArray) : IsPlain (.file content) := by
  simp [IsPlain]

/-! ## Writing -/

/-- What writing to a path comes to. What is at its location is changed, which is no directory, and
the path leads there. Unless the file has several names, nothing else is changed. To a device nothing
is written. -/
structure Written (fs fs' : FileSystem) (p : Path) (content : ByteArray) (d : Destination) :
    Prop where
  find : fs.find true p = .ok d
  not_directory : ¬ fs.HasDirectory d.place
  leads : ∀ {follow}, fs.find follow p = .ok d → fs'.find follow p = .ok (.existing d.place)
  sameBut : fs.SameBut fs' d.place
  keeps : fs.Keeps fs'
  content : fs'.surface? d.place = some (.file content) ∧ fs'.sharedContent = fs.sharedContent ∨
    (∃ number, fs.surface? d.place = some (.shared number) ∧ fs' = fs.setShared number content) ∨
    fs' = fs ∧ fs.surface? d.place = some .device

section write

variable {content : ByteArray} {l m : List String} {name : String}

@[simp]
theorem surface?_setShared (fs : FileSystem) (number : Nat) (content : ByteArray)
    (l : List String) : (fs.setShared number content).surface? l = fs.surface? l :=
  rfl

@[simp]
theorem sharedContent_setShared (fs : FileSystem) (number : Nat) (content : ByteArray) :
    (fs.setShared number content).sharedContent number = content := by
  simp [setShared]

/-- A new file where a path leads to a free name. -/
theorem written_free (hfind : fs.find true p = .ok (.free m name false)) :
    fs.Written (fs.alter m (Entry.put name (.file content))) p content (.free m name false) := by
  obtain ⟨hm, hnone⟩ := (find_eq_ok_iff.1 hfind).2.2.2.free_spec
  have hname : ¬ fs.HasDirectory (m ++ [name]) := by
    rw [HasDirectory, hnone]
    simp
  obtain ⟨hsame, hfile⟩ := sameBut_put hm hname (e := .file content) rfl
  have hkeeps := hsame.keeps hfile (by simp [hnone])
  refine ⟨hfind, hname, fun hd => ?_, hsame, hkeeps, Or.inl ⟨hfile, rfl⟩⟩
  obtain ⟨hnul, hne, hlong, hresolves⟩ := find_eq_ok_iff.1 hd
  refine find_eq_ok_iff.2 ⟨hnul, hne, hlong, ?_⟩
  exact hresolves.fill hkeeps hfile (by simp) (by simp)

/-- Other content in a file that has no other name. -/
theorem written_file (hfind : fs.find true p = .ok (.existing l)) {old : ByteArray}
    (hold : fs.surface? l = some (.file old)) :
    fs.Written (fs.putAt l (.file content)) p content (.existing l) := by
  have hdir : ¬ fs.HasDirectory l := by
    rw [HasDirectory, hold]
    simp
  obtain ⟨m, name, rfl, hm⟩ := exists_concat_of_find hfind hold hdir
  rw [putAt_concat]
  obtain ⟨hsame, hfile⟩ := sameBut_put hm hdir (e := .file content) rfl
  have hkeeps : fs.Keeps _ := hsame.keeps hfile fun e he => by
    rw [hold] at he
    obtain rfl := Option.some.inj he
    exact ⟨isPlain_file old, isPlain_file content⟩
  exact ⟨hfind, hdir, fun hd => find_mono hkeeps rfl hd, hsame, hkeeps, Or.inl ⟨hfile, rfl⟩⟩

/-- Where only the content of files with several names differs, the same is found. -/
theorem written_of_surface (hfind : fs.find true p = .ok (.existing l)) (hdir : ¬ fs.HasDirectory l)
    (hhere : fs'.here = fs.here) (hsurface : ∀ l, fs'.surface? l = fs.surface? l)
    (hcontent : (∃ number, fs.surface? l = some (.shared number) ∧
      fs' = fs.setShared number content) ∨ fs' = fs ∧ fs.surface? l = some .device) :
    fs.Written fs' p content (.existing l) := by
  have hkeeps : fs.Keeps fs' := Keeps.of_surface? fun l e he => (hsurface l).trans he
  exact ⟨hfind, hdir, fun hd => find_mono hkeeps hhere hd, ⟨hhere, fun l _ => hsurface l⟩, hkeeps,
    Or.inr hcontent⟩

theorem write_spec (h : fs.write p content = .ok fs') : ∃ d, fs.Written fs' p content d := by
  unfold write at h
  split at h
  · simp at h
  · next m name slashed hfind =>
    cases slashed with
    | true => simp at h
    | false =>
      obtain rfl := Except.ok.inj h
      exact ⟨_, written_free hfind⟩
  · next l hfind =>
    obtain ⟨e, he, hlink⟩ := exists_surface_of_find hfind
    split at h
    · simp at h
    · next old hold =>
      obtain rfl := Except.ok.inj h
      exact ⟨_, written_file hfind ((surface?_eq_some_iff (by simp)).2 hold)⟩
    · next number hnumber =>
      obtain rfl := Except.ok.inj h
      have hshared := (surface?_eq_some_iff (by simp)).2 hnumber
      have hdir : ¬ fs.HasDirectory l := by
        rw [HasDirectory, hshared]
        simp
      exact ⟨_, written_of_surface hfind hdir rfl (fun _ => rfl) (Or.inl ⟨number, hshared, rfl⟩)⟩
    · next hnodir hnofile hnoshared =>
      obtain rfl := Except.ok.inj h
      have hdevice : fs.surface? l = some .device := by
        obtain ⟨c, hc, rfl⟩ := Option.map_eq_some_iff.1 he
        cases c with
        | file content => exact absurd hc (hnofile content)
        | shared number => exact absurd hc (hnoshared number)
        | directory entries => exact absurd hc (hnodir entries)
        | link target => exact absurd rfl (hlink rfl target)
        | device => exact he
      have hdir : ¬ fs.HasDirectory l := by
        rw [HasDirectory, hdevice]
        simp
      exact ⟨_, written_of_surface hfind hdir rfl (fun _ => rfl) (Or.inr ⟨rfl, hdevice⟩)⟩

/-- What was written is held there, unless it was written to a device. -/
theorem Written.holds (h : fs.Written fs' p content d)
    (hdevice : fs'.surface? d.place ≠ some .device) : fs'.Holds d.place content := by
  rcases h.content with ⟨hfile, -⟩ | ⟨number, hshared, rfl⟩ | ⟨rfl, hd⟩
  · exact Or.inl hfile
  · exact Or.inr ⟨number, hshared, sharedContent_setShared _ _ _⟩
  · exact absurd hd hdevice

/-- Writing makes no links. -/
theorem Written.isSound (h : fs.Written fs' p content d) (hsound : fs.IsSound) : fs'.IsSound := by
  refine hsound.of_links h.sameBut.1 fun l target hl => ⟨l, ?_⟩
  by_cases hplace : l = d.place
  · rw [hplace] at hl ⊢
    rcases h.content with ⟨hfile, -⟩ | ⟨number, -, rfl⟩ | ⟨rfl, -⟩
    · simp [hfile] at hl
    · exact hl
    · exact hl
  · rwa [← h.sameBut.2 l hplace]

/-- What files of several names hold stays, unless one of them was written. -/
theorem Written.sharedContent_eq (h : fs.Written fs' p content d)
    (hshared : ∀ number, fs.surface? d.place ≠ some (.shared number)) :
    fs'.sharedContent = fs.sharedContent := by
  rcases h.content with ⟨-, heq⟩ | ⟨number, hnumber, -⟩ | ⟨rfl, -⟩
  · exact heq
  · exact absurd hnumber (hshared number)
  · rfl

end write

/-! ## Taking away -/

/-- Taking away a file. -/
theorem remove_spec (h : fs.remove p = .ok fs') :
    ∃ l, fs.find false p = .ok (.existing l) ∧ ¬ fs.HasDirectory l ∧ fs.SameBut fs' l ∧
      fs'.surface? l = none ∧ fs'.sharedContent = fs.sharedContent := by
  unfold remove at h
  split at h
  · simp at h
  · simp at h
  · next l hfind =>
    obtain ⟨e, he, -⟩ := exists_surface_of_find hfind
    split at h
    · simp at h
    · next hnodir =>
      obtain rfl := Except.ok.inj h
      have hdir : ¬ fs.HasDirectory l := by
        rw [hasDirectory_iff]
        rintro ⟨entries, hentries⟩
        exact hnodir entries hentries
      obtain ⟨m, name, rfl, hm⟩ := exists_concat_of_find hfind he hdir
      obtain ⟨hsame, hnone⟩ := sameBut_drop hm hdir
      refine ⟨_, hfind, hdir, hsame, hnone, ?_⟩
      rw [dropAt_concat]
      rfl

/-- Two file systems differ at most where a path leads, and not if a directory was there. -/
def ChangesOnly (fs fs' : FileSystem) (p : Path) : Prop :=
  ∀ l, fs'.surface? l = fs.surface? l ∨ fs.Means p l ∧ ¬ fs.HasDirectory l

theorem SameBut.changesOnly (h : fs.SameBut fs' x) (hx : fs.Means p x)
    (hdir : ¬ fs.HasDirectory x) : fs.ChangesOnly fs' p := by
  intro l
  by_cases hl : l = x
  · exact Or.inr (hl ▸ ⟨hx, hdir⟩)
  · exact Or.inl (h.2 l hl)

theorem ChangesOnly.trans {fs'' : FileSystem} (h : fs.ChangesOnly fs' p)
    (h' : fs'.ChangesOnly fs'' p) (hkeeps : fs.Keeps fs')
    (hmeans : ∀ l, fs'.Means p l → fs.Means p l) : fs.ChangesOnly fs'' p := by
  intro l
  rcases h' l with hl | ⟨hl, hdir⟩
  · rw [hl]
    exact h l
  · exact Or.inr ⟨hmeans l hl, fun h => hdir (hkeeps.hasDirectory h)⟩

/-- A file is written where its path leads, unless there is a link. -/
theorem changesOnly_write {content : ByteArray} (hno : fs.NoLinkAt p)
    (h : fs.write p content = .ok fs') :
    fs.ChangesOnly fs' p ∧ fs.Keeps fs' ∧ ∀ l, fs'.Means p l → fs.Means p l := by
  obtain ⟨d, hwritten⟩ := write_spec h
  have hd := hno.find_iff.1 hwritten.find
  refine ⟨hwritten.sameBut.changesOnly ⟨d, hd, rfl⟩ hwritten.not_directory, hwritten.keeps,
    fun l hl => ?_⟩
  rw [hl.unique (means_of_find (hwritten.leads hd))]
  exact ⟨d, hd, rfl⟩

/-- No file that has other names stands where a path leads to. -/
def SoleNameAt (fs : FileSystem) (p : Path) : Prop :=
  ∀ l number, fs.find false p = .ok (.existing l) → fs.surface? l ≠ some (.shared number)

section sole

variable {content : ByteArray} (h : fs.Written fs' p content d) (hno : fs.NoLinkAt p)
  (hsole : fs.SoleNameAt p)

include h hno hsole

theorem Written.soleName_before (number : Nat) : fs.surface? d.place ≠ some (.shared number) := by
  intro hshared
  have hfind := hno.find_iff.1 h.find
  cases d with
  | existing l => exact hsole l number hfind hshared
  | free m name slashed =>
    have hnone := (find_eq_ok_iff.1 hfind).2.2.2.free_spec.2
    exact absurd (hnone.symm.trans hshared) (by simp)

theorem Written.sharedContent_eq_of_soleNameAt : fs'.sharedContent = fs.sharedContent :=
  h.sharedContent_eq (h.soleName_before hno hsole)

/-- What was written has no other name either. -/
theorem Written.not_shared_of_soleNameAt (number : Nat) :
    fs'.surface? d.place ≠ some (.shared number) := by
  rcases h.content with ⟨hfile, -⟩ | ⟨n, hn, -⟩ | ⟨rfl, hdevice⟩
  · simp [hfile]
  · exact absurd hn (h.soleName_before hno hsole n)
  · simp [hdevice]

end sole

/-! ## Renaming -/

theorem exists_source_of_rename {source target : Path} (h : fs.rename source target = .ok fs') :
    ∃ x, fs.find false source = .ok (.existing x) := by
  unfold rename at h
  cases hsource : fs.find false source with
  | error e => simp [hsource] at h
  | ok d =>
    cases d with
    | existing x => exact ⟨x, rfl⟩
    | free => cases htarget : fs.find false target <;> simp [hsource, htarget] at h

/-- What was at one location is at another one, in place of what was there. -/
structure Moves (fs fs' : FileSystem) (x y : List String) : Prop where
  here : fs'.here = fs.here
  sharedContent : fs'.sharedContent = fs.sharedContent
  surfaces : ∀ l, fs'.surface? l =
    if l = y then fs.surface? x else if l = x then none else fs.surface? l

/-- Links are moved, but no new ones are made. -/
theorem Moves.isSound {y : List String} (h : fs.Moves fs' x y) (hsound : fs.IsSound) :
    fs'.IsSound := by
  refine hsound.of_links h.here fun l target hl => ?_
  rw [h.surfaces] at hl
  split at hl
  · exact ⟨x, hl⟩
  · split at hl
    · simp at hl
    · exact ⟨l, hl⟩

/-- What is no directory is its own surface. -/
theorem at?_of_not_hasDirectory {e : Entry} (he : fs.surface? x = some e)
    (hx : ¬ fs.HasDirectory x) : fs.top.at? x = some e ∧ e.surface = e := by
  obtain ⟨c, hc, rfl⟩ := Option.map_eq_some_iff.1 he
  cases c with
  | directory entries => exact absurd he hx
  | file _ | shared _ | link _ | device => exact ⟨hc, rfl⟩

/-- An entry is moved by taking it away and putting it in a directory. -/
theorem moves_put {m dir : List String} {name n : String} {e : Entry}
    (he : fs.surface? (m ++ [name]) = some e) (hm : fs.HasDirectory m)
    (hx : ¬ fs.HasDirectory (m ++ [name])) (hdir : fs.HasDirectory dir)
    (hn : ¬ fs.HasDirectory (dir ++ [n])) (hne : m ++ [name] ≠ dir ++ [n]) :
    fs.Moves ((fs.dropAt (m ++ [name])).putAt (dir ++ [n]) e) (m ++ [name]) (dir ++ [n]) := by
  obtain ⟨hdrop, hnone⟩ := sameBut_drop hm hx
  have hdir' : (fs.dropAt (m ++ [name])).HasDirectory dir := by
    have hne' : dir ≠ m ++ [name] := by
      rintro rfl
      exact hx hdir
    rw [HasDirectory, hdrop.2 dir hne']
    exact hdir
  have hn' : ¬ (fs.dropAt (m ++ [name])).HasDirectory (dir ++ [n]) := by
    rw [HasDirectory, hdrop.2 _ hne.symm]
    exact hn
  obtain ⟨hput, hmoved⟩ := sameBut_put hdir' hn' (at?_of_not_hasDirectory he hx).2
  rw [putAt_concat]
  refine ⟨hput.1.trans hdrop.1, by rw [dropAt_concat]; rfl, fun l => ?_⟩
  by_cases hl : l = dir ++ [n]
  · rw [if_pos hl, hl, hmoved, he]
  · rw [if_neg hl, hput.2 l hl]
    by_cases hl' : l = m ++ [name]
    · rw [if_pos hl', hl', hnone]
    · rw [if_neg hl', hdrop.2 l hl']

/-- What renaming does with an entry: it stays if it is at the target already or is the same file by
another name, and else is taken away and put there. -/
theorem rename_cases {source target : Path} (h : fs.rename source target = .ok fs')
    (hsource : fs.find false source = .ok (.existing x)) {e : Entry}
    (he : fs.top.at? x = some e) :
    endsInSlash target = false ∧ endsInDots target = false ∧ ∃ d, fs.find false target = .ok d ∧
      (∀ entries, fs.top.at? d.place ≠ some (.directory entries)) ∧
      (fs' = (fs.dropAt x).putAt d.place e ∨
        fs' = fs ∧
          (d.place = x ∨ ∃ old, fs.top.at? d.place = some old ∧ e.isSameFile old = true)) := by
  unfold rename at h
  rw [hsource] at h
  cases htarget : fs.find false target with
  | error e => simp [htarget] at h
  | ok d =>
    simp only [htarget, he] at h
    by_cases hdots : endsInDots target = true
    · simp [hdots] at h
    by_cases hslash : endsInSlash target = true
    · simp [hdots, hslash] at h
    rw [if_neg hdots, if_neg hslash] at h
    refine ⟨by simpa using hslash, by simpa using hdots, d, rfl, ?_⟩
    cases d with
    | free dir n slashed =>
      obtain rfl := Except.ok.inj h
      obtain ⟨-, hnone⟩ := (find_eq_ok_iff.1 htarget).2.2.2.free_spec
      rw [surface?, Option.map_eq_none_iff] at hnone
      rw [Destination.place, putAt_concat, hnone]
      exact ⟨by simp, Or.inl rfl⟩
    | existing place =>
      dsimp only at h
      split at h
      · simp at h
      · next hnodir =>
        refine ⟨hnodir, ?_⟩
        split at h
        · next hstays =>
          rw [Bool.or_eq_true, decide_eq_true_eq, Option.any_eq_true] at hstays
          exact Or.inr ⟨(Except.ok.inj h).symm, hstays⟩
        · exact Or.inl (Except.ok.inj h).symm

/-- Renaming what is no directory moves it; what was at the target, no directory either, is
replaced. If both are names of one file, both stay. -/
theorem rename_spec {source target : Path} (h : fs.rename source target = .ok fs') {x : List String}
    (hsource : fs.find false source = .ok (.existing x)) (hx : ¬ fs.HasDirectory x) :
    ∃ d, fs.find false target = .ok d ∧ endsInSlash target = false ∧ endsInDots target = false ∧
      ¬ fs.HasDirectory d.place ∧
        (x ≠ d.place → fs.Moves fs' x d.place ∨ fs' = fs ∧ fs.SameFile x d.place) := by
  obtain ⟨e, he, -⟩ := exists_surface_of_find hsource
  obtain ⟨m, name, rfl, hm⟩ := exists_concat_of_find hsource he hx
  obtain ⟨hentry, hbare⟩ := at?_of_not_hasDirectory he hx
  obtain ⟨hslash, hdots, d, hd, hnodir, hcases⟩ := rename_cases h hsource hentry
  have hplace : ¬ fs.HasDirectory d.place := by
    rw [hasDirectory_iff]
    rintro ⟨entries, hentries⟩
    exact hnodir entries hentries
  refine ⟨d, hd, hslash, hdots, hplace, fun hne => ?_⟩
  rcases hcases with rfl | ⟨rfl, heq | ⟨old, hold, hsame⟩⟩
  · obtain ⟨dir, n, hdn, hdir⟩ := exists_concat_of_place hd hplace
    rw [hdn] at hne hplace ⊢
    exact Or.inl (moves_put he hm hx hdir hplace hne)
  · exact absurd heq.symm hne
  · obtain ⟨number, rfl, rfl⟩ := Entry.isSameFile_iff.1 hsame
    refine Or.inr ⟨rfl, number, he, (surface?_eq_some_iff (by simp)).2 hold⟩

/-! ## Making directories -/

/-- Nothing but directories was added, each of them where one of some paths leads. -/
structure AddsDirectories (fs fs' : FileSystem) (paths : List Path) : Prop where
  here : fs'.here = fs.here
  sharedContent : fs'.sharedContent = fs.sharedContent
  surfaces : ∀ l, fs'.surface? l = fs.surface? l ∨
    fs.surface? l = none ∧ fs'.HasDirectory l ∧ ∃ q ∈ paths, fs'.find true q = .ok (.existing l)

theorem addsDirectories_refl (fs : FileSystem) (paths : List Path) : fs.AddsDirectories fs paths :=
  ⟨rfl, rfl, fun _ => Or.inl rfl⟩

theorem AddsDirectories.keeps {paths : List Path} (h : fs.AddsDirectories fs' paths) :
    fs.Keeps fs' := by
  refine Keeps.of_surface? fun l e he => ?_
  rcases h.surfaces l with hl | ⟨hnone, -⟩
  · rw [hl, he]
  · rw [hnone] at he
    simp at he

theorem AddsDirectories.trans {fs'' : FileSystem} {paths more : List Path}
    (h : fs.AddsDirectories fs' paths) (h' : fs'.AddsDirectories fs'' more) (hsub : paths ⊆ more) :
    fs.AddsDirectories fs'' more := by
  refine ⟨h'.here.trans h.here, h'.sharedContent.trans h.sharedContent, fun l => ?_⟩
  rcases h'.surfaces l with hl | ⟨hnone, hdir, hq⟩
  · rcases h.surfaces l with hl' | ⟨hnone, hdir, q, hq, hfind⟩
    · exact Or.inl (hl.trans hl')
    · exact Or.inr ⟨hnone, hl.trans hdir, q, hsub hq, find_mono h'.keeps h'.here hfind⟩
  · rcases h.surfaces l with hl' | ⟨-, hdir', -⟩
    · exact Or.inr ⟨hl'.symm.trans hnone, hdir, hq⟩
    · rw [HasDirectory, hnone] at hdir'
      simp at hdir'

theorem AddsDirectories.isSound {paths : List Path} (h : fs.AddsDirectories fs' paths)
    (hsound : fs.IsSound) : fs'.IsSound := by
  refine hsound.of_links h.here fun l target hl => ⟨l, ?_⟩
  rcases h.surfaces l with heq | ⟨-, hdir, -⟩
  · exact heq.symm.trans hl
  · rw [HasDirectory, hl] at hdir
    simp at hdir

theorem addsDirectories_makeDirectory (h : fs.makeDirectory p = .ok fs') :
    fs.AddsDirectories fs' [p] := by
  unfold makeDirectory at h
  split at h
  · simp at h
  · simp at h
  · next m name slashed hfind =>
    obtain ⟨hnul, hne, hlong, hresolves⟩ := find_eq_ok_iff.1 hfind
    obtain ⟨hm, hnone⟩ := hresolves.free_spec
    have hname : ¬ fs.HasDirectory (m ++ [name]) := by
      rw [HasDirectory, hnone]
      simp
    obtain rfl := Except.ok.inj h
    obtain ⟨hsame, hdir⟩ := sameBut_put hm hname (e := .directory []) rfl
    have hkeeps := hsame.keeps hdir (by simp [hnone])
    refine ⟨rfl, rfl, fun l => ?_⟩
    by_cases hl : l = m ++ [name]
    · subst hl
      refine Or.inr ⟨hnone, hdir, p, List.mem_singleton_self p, ?_⟩
      refine find_eq_ok_iff.2 ⟨hnul, hne, hlong, ?_⟩
      exact (hresolves.following (by simp)).fill hkeeps hdir (by simp) fun _ => rfl
    · exact Or.inl (hsame.2 l hl)

theorem addsDirectories_ensureDirectory {refused? : Path → Option FileError}
    (h : fs.ensureDirectory p refused? = .ok fs') : fs.AddsDirectories fs' [p] := by
  unfold ensureDirectory at h
  split at h
  · next changed hmade =>
    obtain rfl := Except.ok.inj h
    exact addsDirectories_makeDirectory (FileError.unlessRefused_eq_ok_iff.1 hmade).1
  · split at h
    · obtain rfl := Except.ok.inj h
      exact addsDirectories_refl fs [p]
    · simp at h

theorem not_isDirectory_of_ensureDirectory {refused? : Path → Option FileError} {e : FileError}
    (h : fs.ensureDirectory p refused? = .error e) : fs.isDirectory p = false := by
  unfold ensureDirectory at h
  split at h
  · simp at h
  · split at h
    · simp at h
    · next hdir => simpa using hdir

/-- Making missing directories adds directories, also if it fails. -/
theorem addsDirectories_makeMissing (refused? : Path → Option FileError) (fs : FileSystem) :
    ∀ paths : List Path, fs.AddsDirectories (makeMissing refused? fs paths).2 paths
  | [] => addsDirectories_refl fs []
  | p :: above => by
    have ih := addsDirectories_makeMissing refused? fs above
    have hsub : above ⊆ p :: above := List.subset_cons_self p above
    have hone : [p] ⊆ p :: above := by simp
    rw [makeMissing]
    split
    · next changed hmade =>
      exact (addsDirectories_ensureDirectory hmade).trans (addsDirectories_refl changed _) hone
    · split
      · next e changed hchanged =>
        rw [hchanged] at ih
        exact ih.trans (addsDirectories_refl changed _) hsub
      · next changed hchanged =>
        rw [hchanged] at ih
        have ih := ih.trans (addsDirectories_refl changed _) hsub
        split
        · next more hmore =>
          have hmore :=
            (addsDirectories_ensureDirectory hmore).trans (addsDirectories_refl more _) hone
          exact ih.trans hmore (List.Subset.refl _)
        · exact ih
    · exact addsDirectories_refl fs _

theorem upFrom_empty (hp : p.text = "") : ∀ fuel : Nat, Path.ancestors.upFrom fuel p = []
  | 0 => rfl
  | fuel + 1 => by
    rw [Path.ancestors.upFrom]
    split
    · rfl
    · simp [hp]

/-- If missing directories cannot be made, the path itself leads to no directory. -/
theorem not_isDirectory_of_makeMissing {refused? : Path → Option FileError} {e : FileError} :
    ∀ {fuel : Nat} {p : Path} {fs fs' : FileSystem},
      makeMissing refused? fs (Path.ancestors.upFrom fuel p) = (.error e, fs') →
        fs'.isDirectory p = false
  | 0, p, fs, fs', h => by simp [Path.ancestors.upFrom, makeMissing] at h
  | fuel + 1, p, fs, fs', h => by
    rw [Path.ancestors.upFrom] at h
    split at h
    · simp [makeMissing] at h
    · next q hparent =>
      split at h
      · simp [makeMissing] at h
      · rw [makeMissing] at h
        split at h
        · simp at h
        · split at h
          · -- the directories above cannot be made
            next e' changed habove =>
            obtain ⟨-, rfl⟩ := Prod.mk.inj h
            by_cases hq : q.text = ""
            · rw [upFrom_empty hq] at habove
              simp [makeMissing] at habove
            · have hnot := not_isDirectory_of_makeMissing habove
              by_contra hdir
              obtain ⟨l, hfind, -⟩ := isDirectory_iff.1 (by simpa using hdir)
              rw [isDirectory_of_parent? hfind hparent hq] at hnot
              simp at hnot
          · split at h
            · simp at h
            · next changed _ e' hagain =>
              obtain ⟨-, rfl⟩ := Prod.mk.inj h
              exact not_isDirectory_of_ensureDirectory hagain
        · next e' _ hfirst =>
          obtain ⟨-, rfl⟩ := Prod.mk.inj h
          exact not_isDirectory_of_ensureDirectory hfirst

end FileSystem

end ScriptCensus
