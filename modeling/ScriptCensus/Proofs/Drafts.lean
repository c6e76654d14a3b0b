import ScriptCensus.Proofs.FileOperations
import ScriptCensus.Report.Store

/-!
# Drafts of reports

A report is written to a draft next to its destination, which is then renamed. `Report.Renamed` says
what is where after that, whatever the draft was before, unless it was the same file as the
destination by another name, which `Report.SharesFile` is about
(`Report.exists_renamed_of_writeAndRename`). The destination then leads to the whole content, if it
leads anywhere (`Report.Renamed.holds_of_find`). If the draft was no link, it was renamed itself
(`Report.Renamed.find_destination`). If anything fails, nothing has changed but the draft
(`Report.changesOnly_cleanUp`), and the destination is not the draft
(`Report.hasDirectory_of_means`).
-/

namespace ScriptCensus.Report

open FileSystem

variable {fs prepared written stored : FileSystem} {destination : Path} {refusals : Refusals}

/-! ## The directories above -/

/-- The paths of the directories that are made for a destination: the one that it is in, and those
above it. -/
def directoriesAbove (destination : Path) : List Path :=
  match destination.parent? with
  | some parent => if parent.text.isEmpty then [] else parent.ancestors
  | none => []

theorem prepare_eq (fs : FileSystem) (destination : Path) (refusals : Refusals) :
    prepare fs destination refusals =
      makeMissing refusals.directory? fs (directoriesAbove destination) := by
  unfold prepare directoriesAbove
  cases destination.parent? with
  | none => rfl
  | some parent =>
    dsimp only
    split
    · rfl
    · rfl

theorem addsDirectories_prepare (fs : FileSystem) (destination : Path) (refusals : Refusals) :
    fs.AddsDirectories (prepare fs destination refusals).2 (directoriesAbove destination) := by
  rw [prepare_eq]
  exact addsDirectories_makeMissing _ _ _

/-- The draft of a destination with a file name differs from it in its name. -/
theorem differsInName_draftPath {name : String} (h : destination.fileName? = some name) :
    ∃ front other silent,
      Path.DiffersInName destination (draftPath destination) front name other silent :=
  Path.differsInName_withExtension h (by decide) (by decide)

theorem draftPath_of_fileName?_none (h : destination.fileName? = none) :
    draftPath destination = destination := by
  rw [draftPath, Path.withExtension, h]

theorem draftPath_parent? (destination : Path) :
    (draftPath destination).parent? = destination.parent? := by
  cases h : destination.fileName? with
  | none => rw [draftPath_of_fileName?_none h]
  | some name =>
    obtain ⟨front, other, silent, hdiff⟩ := differsInName_draftPath h
    exact hdiff.parent?

/-- If the directories above cannot be made, the draft leads nowhere. -/
theorem not_find_draft_of_prepare {e : FileError}
    (h : prepare fs destination refusals = (.error e, prepared)) (follow : Bool) (x : List String) :
    prepared.find follow (draftPath destination) ≠ .ok (.existing x) := by
  intro hfind
  rw [prepare_eq, directoriesAbove, ← draftPath_parent?] at h
  split at h
  · next parent hparent =>
    split at h
    · simp [makeMissing] at h
    · next hne =>
      have hnot := not_isDirectory_of_makeMissing h
      rw [isDirectory_of_parent? hfind hparent (by simpa using hne)] at hnot
      simp at hnot
  · simp [makeMissing] at h

/-! ## Writing and renaming -/

section steps

variable {draft : Path} {content : ByteArray} {result : Except FileError Unit} {left : FileSystem}

/-- Of a draft nothing was written, or a part, or all of it if that succeeds. -/
theorem writeDraft_cases (h : writeDraft fs draft content refusals = (result, left)) :
    (left = fs ∧ ∃ e, result = .error e) ∨
      ∃ kept, fs.write draft kept = .ok left ∧
        (result = .ok () → kept = content ∧ left.sync draft = .ok ()) := by
  unfold writeDraft at h
  dsimp only at h
  split at h
  · obtain ⟨rfl, rfl⟩ := Prod.mk.inj h
    exact Or.inl ⟨rfl, _, rfl⟩
  · next written hopened =>
    obtain ⟨rfl, rfl⟩ := Prod.mk.inj h
    refine Or.inr ⟨_, (FileError.unlessRefused_eq_ok_iff.1 hopened).1, fun hsynced => ?_⟩
    obtain ⟨hsync, hwriting⟩ := FileError.unlessRefused_eq_ok_iff.1 hsynced
    rw [Option.map_eq_none_iff] at hwriting
    rw [hwriting]
    exact ⟨rfl, hsync⟩

theorem writeAndRename_cases
    (h : writeAndRename fs draft destination content refusals = (result, left)) :
    (∃ e, result = .error e ∧ (left = fs ∨ ∃ kept, fs.write draft kept = .ok left)) ∨
      ∃ written, result = .ok () ∧ fs.write draft content = .ok written ∧
        written.sync draft = .ok () ∧ written.rename draft destination = .ok left := by
  rw [writeAndRename] at h
  cases hdraft : writeDraft fs draft content refusals with
  | mk drafted written =>
    have hcases := writeDraft_cases hdraft
    rw [hdraft] at h
    cases drafted with
    | error e =>
      obtain ⟨rfl, rfl⟩ := Prod.mk.inj h
      refine Or.inl ⟨e, rfl, hcases.imp And.left ?_⟩
      exact fun ⟨kept, hwrite, _⟩ => ⟨kept, hwrite⟩
    | ok =>
      obtain ⟨kept, hwrite, hall⟩ := hcases.resolve_left (by simp)
      obtain ⟨rfl, hsync⟩ := hall rfl
      dsimp only at h
      split at h
      · obtain ⟨rfl, rfl⟩ := Prod.mk.inj h
        exact Or.inl ⟨_, rfl, Or.inr ⟨kept, hwrite⟩⟩
      · next renamed hrenamed =>
        obtain ⟨rfl, rfl⟩ := Prod.mk.inj h
        exact Or.inr ⟨written, rfl, hwrite, hsync, (FileError.unlessRefused_eq_ok_iff.1 hrenamed).1⟩

/-- A draft that was written and made sure of is a file. -/
theorem holds_of_sync {written : FileSystem} {d : Destination}
    (hwritten : fs.Written written draft content d) (hsync : written.sync draft = .ok ()) :
    written.Holds d.place content := by
  refine hwritten.holds fun hdevice => ?_
  have hfind := hwritten.leads hwritten.find
  rw [surface?_eq_some_iff (by simp)] at hdevice
  simp [sync, entry, hfind, hdevice] at hsync

end steps

/-- What is where after a draft was written and renamed. The destination and the draft are `name`
and `other` in the directory at `m`; `x` is where the content was written, which is elsewhere if the
draft was a link. -/
structure Renamed (prepared written stored : FileSystem) (destination : Path) (content : ByteArray)
    (front : List String) (name other : String) (m x : List String) : Prop where
  drafted : ∃ d, prepared.Written written (draftPath destination) content d ∧ d.place = x
  eq_source : prepared.NoLinkAt (draftPath destination) → x = m ++ [other]
  draft : written.find true (draftPath destination) = .ok (.existing x)
  holds : written.Holds x content
  way : written.Resolves true maxLinks (written.startOf destination.text) front (.existing m)
  directory : written.HasDirectory m
  pieces : piecesOf destination.text = front ++ [name]
  isStep : IsStep name
  source : written.find false (draftPath destination) = .ok (.existing (m ++ [other]))
  target : ∃ d, written.find false destination = .ok d
  source_not_directory : ¬ written.HasDirectory (m ++ [other])
  not_directory : ¬ written.HasDirectory (m ++ [name])
  moves : written.Moves stored (m ++ [other]) (m ++ [name])

/-- What is where after a draft was written that is the same file as the destination by another name:
both are still there. -/
structure SharesFile (prepared stored : FileSystem) (destination : Path) (content : ByteArray)
    (x y : List String) : Prop where
  drafted : ∃ d, prepared.Written stored (draftPath destination) content d ∧ d.place = x
  draft : stored.find true (draftPath destination) = .ok (.existing x)
  holds : stored.Holds x content
  target : stored.find true destination = .ok (.existing y)
  sameFile : stored.SameFile x y

/-- A draft that is renamed to another name of the same file stays, and is no link. -/
theorem sharesFile_of_rename {content : ByteArray} {d t : Destination}
    (hwritten : prepared.Written written (draftPath destination) content d)
    (hholds : written.Holds d.place content) {y : List String}
    (hsource : written.find false (draftPath destination) = .ok (.existing y))
    (ht : written.find false destination = .ok t) (hsame : written.SameFile y t.place) :
    SharesFile prepared written destination content d.place t.place := by
  obtain ⟨number, hy, hplace⟩ := hsame
  have hdraft := hwritten.leads hwritten.find
  obtain rfl : d.place = y := eq_of_find hsource (by simp [hy]) hdraft
  have htarget : t = .existing t.place := by
    cases t with
    | existing l => rfl
    | free dir n slashed =>
      have hnone := (find_eq_ok_iff.1 ht).2.2.2.free_spec.2
      exact absurd (hnone.symm.trans hplace) (by simp)
  rw [htarget] at ht
  have hfollow := (noLinkAt_of_find ht (by simp [hplace])).find_iff.2 ht
  exact ⟨⟨d, hwritten, rfl⟩, hdraft, hholds, hfollow, number, hy, hplace⟩

section renamed

variable {front silent : List String} {name other : String} {content : ByteArray}
  (hdiff : Path.DiffersInName destination (draftPath destination) front name other silent)

include hdiff

theorem startOf_draftPath (fs : FileSystem) :
    fs.startOf (draftPath destination).text = fs.startOf destination.text := by
  rw [startOf, startOf, hdiff.isAbsolute]

theorem exists_renamed
    (h : writeAndRename prepared (draftPath destination) destination content refusals =
      (.ok (), stored)) :
    (∃ written m x, Renamed prepared written stored destination content front name other m x) ∨
      ∃ x y, SharesFile prepared stored destination content x y := by
  obtain ⟨written, -, hwrite, hsync, hrename⟩ :=
    (writeAndRename_cases h).resolve_left (by simp)
  obtain ⟨d, hwritten⟩ := write_spec hwrite
  have hholds := holds_of_sync hwritten hsync
  have hdraft := hwritten.leads hwritten.find
  obtain ⟨y, hsource⟩ := exists_source_of_rename hrename
  obtain ⟨m, fewer, hfront, hm, hlast⟩ :=
    exists_front_of_find hdiff.pieces_other hdiff.isName_other hsource
  obtain rfl : y = m ++ [other] := hlast.place_eq hdiff.isName_other (by simp)
  have heq : prepared.NoLinkAt (draftPath destination) → d.place = m ++ [other] := by
    intro hno
    have hfind := hwritten.leads (hno.find_iff.1 hwritten.find)
    rw [hsource] at hfind
    exact (Destination.existing.inj (Except.ok.inj hfind)).symm
  -- the draft is a link, or what was written
  have hnotdir : ¬ written.HasDirectory (m ++ [other]) := by
    intro hdir
    have hlink : ∀ target, written.surface? (m ++ [other]) ≠ some (.link target) := by
      rw [HasDirectory] at hdir
      simp [hdir]
    exact hholds.not_hasDirectory (eq_of_find hsource hlink hdraft ▸ hdir)
  obtain ⟨t, ht, hslash, hdots, hnot, hcases⟩ := rename_spec hrename hsource hnotdir
  have hsilent : silent = [] := by
    by_contra hne
    rcases Path.endsInSlash_or_endsInDots hdiff.pieces hdiff.silent hne with h | h
    · simp [hslash] at h
    · simp [hdots] at h
  have hpieces := hdiff.pieces
  rw [hsilent] at hpieces
  rw [startOf_draftPath hdiff] at hfront
  obtain ⟨m', fewer', hfront', -, hlast'⟩ := exists_front_of_find hpieces hdiff.isName ht
  obtain rfl : m = m' := Destination.existing.inj (hfront.unique hfront')
  have hplace := hlast'.place_eq hdiff.isName (by simp)
  have hne : m ++ [other] ≠ t.place := by
    rw [hplace]
    simpa using hdiff.ne
  rcases hcases hne with hmoves | ⟨rfl, hsame⟩
  · rw [hplace] at hmoves hnot
    exact Or.inl ⟨written, m, d.place, ⟨d, hwritten, rfl⟩, heq, hdraft, hholds, hfront, hm, hpieces,
      hlast'.isStep hdiff.isName, hsource, ⟨t, ht⟩, hnotdir, hnot, hmoves⟩
  · exact Or.inr ⟨d.place, t.place, sharesFile_of_rename hwritten hholds hsource ht hsame⟩

end renamed

/-- A draft is renamed only if the destination has a file name, and not if it is the same file by
another name. -/
theorem exists_renamed_of_writeAndRename {content : ByteArray}
    (h : writeAndRename prepared (draftPath destination) destination content refusals =
      (.ok (), stored)) :
    (∃ front name other silent written m x,
      Path.DiffersInName destination (draftPath destination) front name other silent ∧
        Renamed prepared written stored destination content front name other m x) ∨
      ∃ x y, SharesFile prepared stored destination content x y := by
  cases hname : destination.fileName? with
  | none =>
    rw [draftPath_of_fileName?_none hname] at h
    obtain ⟨written, -, hwrite, -, -⟩ := (writeAndRename_cases h).resolve_left (by simp)
    obtain ⟨d, hwritten⟩ := write_spec hwrite
    obtain ⟨l, rfl, hl⟩ := exists_directory_of_find hname hwritten.find
    exact absurd hl hwritten.not_directory
  | some name =>
    obtain ⟨front, other, silent, hdiff⟩ := differsInName_draftPath hname
    refine (exists_renamed hdiff h).imp_left ?_
    rintro ⟨written, m, x, hrenamed⟩
    exact ⟨front, name, other, silent, written, m, x, hdiff, hrenamed⟩

namespace Renamed

variable {front silent : List String} {name other : String} {content : ByteArray}
  {m x : List String}
  (h : Renamed prepared written stored destination content front name other m x)

include h

theorem startOf_eq : stored.startOf destination.text = written.startOf destination.text := by
  rw [startOf, startOf, h.moves.here]

theorem surface?_place : stored.surface? (m ++ [name]) = written.surface? (m ++ [other]) := by
  rw [h.moves.surfaces, if_pos rfl]

theorem surface?_of_ne {l : List String} {e : Entry} (hl : l ≠ m ++ [name])
    (he : stored.surface? l = some e) : written.surface? l = some e := by
  rw [h.moves.surfaces, if_neg hl] at he
  split at he
  · simp at he
  · exact he

theorem hasDirectory {l : List String} (hl : stored.HasDirectory l) : written.HasDirectory l := by
  refine h.surface?_of_ne ?_ hl
  rintro rfl
  rw [HasDirectory, h.surface?_place] at hl
  exact h.source_not_directory hl

section noLink

variable (hlink : ∀ target, written.surface? (m ++ [other]) ≠ some (.link target))

include hlink

/-- The content was written to the draft itself unless that was a link. -/
theorem written_eq : x = m ++ [other] :=
  eq_of_find h.source hlink h.draft

theorem holds_place : stored.Holds (m ++ [name]) content := by
  refine h.holds.of_eq ?_ h.moves.sharedContent
  rw [h.surface?_place, h.written_eq hlink]

/-- The way to the destination is what it was. -/
theorem front_eq {links : Nat} {y : List String} (hy : stored.HasDirectory y)
    (hfront : stored.Resolves true links (stored.startOf destination.text) front (.existing y)) :
    y = m := by
  have hlinks : ∀ l target, stored.surface? l = some (.link target) →
      written.surface? l = some (.link target) := by
    intro l target hl
    refine h.surface?_of_ne ?_ hl
    rintro rfl
    rw [h.surface?_place] at hl
    exact hlink target hl
  have hway := hfront.mono_directory hy (fun _ => h.hasDirectory) hlinks
  rw [h.startOf_eq] at hway
  exact Destination.existing.inj (hway.unique h.way)

end noLink

section found

variable (hdiff : Path.DiffersInName destination (draftPath destination) front name other silent)

include hdiff

/-- Unless the draft was a link, the destination leads to what was the draft. -/
theorem find_destination (hlink : ∀ target, written.surface? (m ++ [other]) ≠ some (.link target))
    {follow : Bool} {d : Destination} (hfind : stored.find follow destination = .ok d) :
    d = .existing (m ++ [name]) := by
  obtain ⟨y, fewer, hfront, hy, hlast⟩ := exists_front_of_find h.pieces hdiff.isName hfind
  obtain rfl := h.front_eq hlink hy hfront
  have hholds := h.holds_place hlink
  rcases hlast.last hdiff.isName fun _ => hholds.not_link with ⟨rfl, -⟩ | ⟨-, hnone⟩
  · rfl
  · obtain ⟨e, he, -⟩ := hholds.exists_file
    simp [he] at hnone

/-- Unless the draft was a link, nothing is left where it was. -/
theorem not_find_draft (hlink : ∀ target, written.surface? (m ++ [other]) ≠ some (.link target))
    (follow : Bool) (l : List String) :
    stored.find follow (draftPath destination) ≠ .ok (.existing l) := by
  intro hfind
  obtain ⟨y, fewer, hfront, hy, hlast⟩ :=
    exists_front_of_find hdiff.pieces_other hdiff.isName_other hfind
  rw [startOf_draftPath hdiff] at hfront
  obtain rfl := h.front_eq hlink hy hfront
  have hnone : stored.surface? (y ++ [other]) = none := by
    rw [h.moves.surfaces, if_neg (by simpa using hdiff.ne), if_pos rfl]
  rcases hlast.last hdiff.isName_other fun _ target => by simp [hnone] with ⟨-, e, he⟩ | ⟨hd, -⟩
  · simp [hnone] at he
  · simp at hd

/-- If the draft was a link, the destination is one now, with the same target, and leads to what was
written if it leads anywhere. It leads nowhere if it leads through itself. -/
theorem holds_of_link {target : String}
    (hlink : written.surface? (m ++ [other]) = some (.link target)) {l : List String}
    (hfind : stored.find true destination = .ok (.existing l)) :
    stored.Holds l content := by
  have hplace : stored.surface? (m ++ [name]) = some (.link target) := h.surface?_place.trans hlink
  have hother : ∀ l e, l ≠ m ++ [name] → stored.surface? l = some e → written.surface? l = some e :=
    fun _ _ => h.surface?_of_ne
  -- the draft led to what was written by way of the target
  obtain ⟨m', _, hfront, -, hlast⟩ :=
    exists_front_of_find hdiff.pieces_other hdiff.isName_other h.draft
  rw [startOf_draftPath hdiff] at hfront
  obtain rfl : m' = m := Destination.existing.inj (hfront.unique h.way)
  obtain ⟨_, htarget⟩ := hlast.of_link hdiff.isName_other hlink
  obtain ⟨y, _, hfront', hy, hlast'⟩ := exists_front_of_find h.pieces hdiff.isName hfind
  rcases hfront'.avoid_unless hplace hother hy with hway | ⟨_, z, hz, hzdir⟩
  · rw [h.startOf_eq] at hway
    obtain rfl : y = m' := Destination.existing.inj (hway.unique h.way)
    obtain ⟨_, htarget'⟩ := hlast'.of_link hdiff.isName hplace
    have hstart : (y ++ [name]).dropLast = y := List.dropLast_concat
    rw [← hstart] at htarget'
    obtain ⟨_, hl⟩ := htarget'.of_target hplace hother
    rw [hstart] at hl
    obtain rfl : l = x := Destination.existing.inj (hl.unique htarget)
    obtain ⟨e, he, hnolink⟩ := exists_surface_of_find hfind
    have hne : l ≠ y ++ [name] := by
      rintro rfl
      exact hnolink rfl target (Option.some.inj (he.symm.trans hplace))
    exact h.holds.of_eq (he.trans (h.surface?_of_ne hne he).symm) h.moves.sharedContent
  · -- the target would be a directory, but there is a file
    rw [List.dropLast_concat] at hz
    obtain rfl : z = x := Destination.existing.inj (hz.unique htarget)
    exact absurd (h.hasDirectory hzdir) h.holds.not_hasDirectory

/-- The destination leads to the whole content, if it leads anywhere. -/
theorem holds_of_find {l : List String} (hfind : stored.find true destination = .ok (.existing l)) :
    stored.Holds l content := by
  by_cases hlink : ∃ target, written.surface? (m ++ [other]) = some (.link target)
  · obtain ⟨target, hlink⟩ := hlink
    exact h.holds_of_link hdiff hlink hfind
  · rw [not_exists] at hlink
    obtain rfl := Destination.existing.inj (h.find_destination hdiff hlink hfind)
    exact h.holds_place hlink

end found

end Renamed

theorem Renamed.isSound {content : ByteArray} {front m x : List String} {name other : String}
    (h : Renamed prepared written stored destination content front name other m x)
    (hsound : prepared.IsSound) : stored.IsSound := by
  obtain ⟨d, hwritten, -⟩ := h.drafted
  exact h.moves.isSound (hwritten.isSound hsound)

/-! ## Taking a draft away -/

/-- A draft that is taken away is no file any more, and nothing else has changed. -/
theorem cleanUp_spec (left : FileSystem) (draft : Path) (refusals : Refusals) :
    left.ChangesOnly (cleanUp left draft refusals).1 draft ∧
      (cleanUp left draft refusals).1.sharedContent = left.sharedContent ∧
      (refusals.removal? = none → ∀ l e,
        (cleanUp left draft refusals).1.find false draft = .ok (.existing l) →
          (cleanUp left draft refusals).1.surface? l = some e → e.isFile = false) := by
  unfold cleanUp
  split
  · split
    · next cleaned hremoved =>
      obtain ⟨y, hy, hdir, hsame, hnone, hshared⟩ :=
        remove_spec (FileError.unlessRefused_eq_ok_iff.1 hremoved).1
      refine ⟨hsame.changesOnly (means_of_find hy) hdir, hshared, fun _ l e hl he => ?_⟩
      -- the path would have led there before
      have hkeeps : cleaned.Keeps left := Keeps.of_surface? fun m e he => by
        rw [← hsame.2 m, he]
        rintro rfl
        simp [hnone] at he
      have hl' := find_mono hkeeps hsame.1.symm hl
      rw [hy] at hl'
      rw [← Destination.existing.inj (Except.ok.inj hl'), hnone] at he
      simp at he
    · next _ hkept =>
      refine ⟨fun l => Or.inl rfl, rfl, fun hremoval l e hl he => ?_⟩
      by_contra hfile
      rw [Bool.not_eq_false] at hfile
      rw [surface?_eq_some_iff (Entry.ne_directory_of_isFile hfile)] at he
      have hremove : left.remove draft = .ok (left.dropAt l) := by
        cases e with
        | file _ | shared _ => simp [remove, hl, he]
        | directory _ | link _ | device => simp [Entry.isFile] at hfile
      simp [hremoval, hremove, FileError.unlessRefused] at hkept
  · next hnot =>
    refine ⟨fun l => Or.inl rfl, rfl, fun _ l e hl he => ?_⟩
    by_contra hfile
    rw [Bool.not_eq_false] at hfile
    have hno : left.NoLinkAt draft := noLinkAt_of_find hl fun target => by
      rw [he, Ne, Option.some.injEq]
      exact Entry.ne_link_of_isFile hfile target
    rw [surface?_eq_some_iff (Entry.ne_directory_of_isFile hfile)] at he
    simp [leadsSomewhere, entry, hno.find_iff.2 hl, he] at hnot

/-- What is left of a draft that was no link and had no other name, whatever was written. -/
theorem changesOnly_cleanUp {left : FileSystem} {draft : Path} (hno : prepared.NoLinkAt draft)
    (hsole : prepared.SoleNameAt draft)
    (h : left = prepared ∨ ∃ kept, prepared.write draft kept = .ok left) (refusals : Refusals) :
    prepared.ChangesOnly (cleanUp left draft refusals).1 draft ∧
      (cleanUp left draft refusals).1.sharedContent = prepared.sharedContent := by
  obtain ⟨hclean, hshared, -⟩ := cleanUp_spec left draft refusals
  rcases h with rfl | ⟨kept, hwrite⟩
  · exact ⟨hclean, hshared⟩
  · obtain ⟨hwritten, hkeeps, hmeans⟩ := changesOnly_write hno hwrite
    obtain ⟨d, hwritten'⟩ := write_spec hwrite
    exact ⟨hwritten.trans hclean hkeeps hmeans,
      hshared.trans (hwritten'.sharedContent_eq_of_soleNameAt hno hsole)⟩

/-- What a destination leads to is a directory if the draft leads to the same. -/
theorem hasDirectory_of_means {l : List String}
    (hfind : fs.find false destination = .ok (.existing l))
    (hdraft : fs.Means (draftPath destination) l) : fs.HasDirectory l := by
  cases hname : destination.fileName? with
  | none =>
    obtain ⟨l', hl, hdir⟩ := exists_directory_of_find hname hfind
    obtain rfl := Destination.existing.inj hl
    exact hdir
  | some name =>
    obtain ⟨front, other, silent, hdiff⟩ := differsInName_draftPath hname
    obtain ⟨d, hd, rfl⟩ := hdraft
    obtain ⟨m, _, hfront, -, hlast⟩ := exists_front_of_find hdiff.pieces_other hdiff.isName_other hd
    rw [startOf_draftPath hdiff] at hfront
    obtain ⟨-, -, -, hresolves⟩ := find_eq_ok_iff.1 hfind
    rw [hdiff.pieces] at hresolves
    obtain ⟨m', _, hfront', -, hrest⟩ := hresolves.split (Or.inl ⟨by simp, _, rfl⟩)
    obtain rfl : m = m' := Destination.existing.inj (hfront.unique hfront')
    cases hsilent : silent with
    | nil =>
      rw [hsilent] at hrest
      have hplace := hrest.place_eq hdiff.isName (by simp)
      rw [Destination.place, hlast.place_eq hdiff.isName_other (by simp)] at hplace
      simp [hdiff.ne] at hplace
    | cons q rest =>
      -- behind the name stand pieces that lead nowhere else, but only from a directory
      rw [hsilent, ← List.singleton_append] at hrest
      obtain ⟨_, _, -, -, hend⟩ := hrest.split (Or.inl ⟨by simp, _, rfl⟩)
      obtain ⟨l, hl, hdir⟩ := hend.of_no_name (by simp) fun before piece after hpieces _ hstep => by
        have hmem : piece ∈ silent := by simp [hsilent, hpieces]
        exact absurd (hdiff.silent piece hmem) (not_or.2 ⟨hstep.1, hstep.2.1⟩)
      rw [Destination.existing.inj hl]
      exact hdir

end ScriptCensus.Report
