import Mathlib
import ScriptCensus.Proofs.Drafts

/-!
# Reports are stored whole or not at all

If a report is put in its place, the destination holds the whole of it and nothing else has changed
but for directories made above it (`Report.InPlace`). If that fails, nothing has changed but for
these directories and the draft (`Report.Untouched`). It is one or the other
(`Report.store_atomic`), as long as the draft is neither a link nor a file of several names once the
directories above are made; that it is no link before is not enough (`Report.store_through_draft`).
-/

namespace ScriptCensus.Report

open FileSystem

variable {fs prepared written stored : FileSystem} {destination : Path} {refusals : Refusals}

/-! ## What has changed -/

/-- A location where nothing has changed, unless nothing was there and it is now a directory above
the destination. -/
def Undisturbed (fs prepared files : FileSystem) (destination : Path) (l : List String) : Prop :=
  files.surface? l = fs.surface? l ∨ fs.surface? l = none ∧ files.HasDirectory l ∧
    ∃ q ∈ directoriesAbove destination, prepared.find true q = .ok (.existing l)

/-- The whole report is at a location, which is that of the destination once the directories above
are made. Nothing is left of the draft, and nothing else has changed. -/
structure InPlace (r : Report) (fs prepared files : FileSystem) (destination : Path)
    (place : List String) : Prop where
  means : prepared.Means destination place
  holds : files.top.at? place = some (.file (r.render ++ "\n").toUTF8)
  draft : ∀ l, files.find false (draftPath destination) ≠ .ok (.existing l)
  others : ∀ l, l ≠ place → ¬ prepared.Means (draftPath destination) l →
    Undisturbed fs prepared files destination l
  sharedContent : files.sharedContent = fs.sharedContent

/-- What was at the destination is still there, nothing is left of the draft unless that is refused,
and nothing else has changed. -/
structure Untouched (fs prepared files : FileSystem) (destination : Path) (refusals : Refusals) :
    Prop where
  previous : ∀ l, fs.find false destination = .ok (.existing l) → files.surface? l = fs.surface? l
  draft : refusals.removal? = none → ∀ l e,
    files.find false (draftPath destination) = .ok (.existing l) → files.surface? l = some e →
      e.isFile = false
  others : ∀ l, ¬ prepared.Means (draftPath destination) l →
    Undisturbed fs prepared files destination l
  sharedContent : files.sharedContent = fs.sharedContent

theorem undisturbed_of_eq {files : FileSystem} {l : List String}
    (hadds : fs.AddsDirectories prepared (directoriesAbove destination))
    (h : files.surface? l = prepared.surface? l) : Undisturbed fs prepared files destination l := by
  rcases hadds.surfaces l with hl | ⟨hnone, hdir, hq⟩
  · exact Or.inl (h.trans hl)
  · exact Or.inr ⟨hnone, h.trans hdir, hq⟩

/-- A draft that is no link and has no other name is a file of its own once it is written. -/
theorem Renamed.holds_alone {content : ByteArray} {front m x : List String} {name other : String}
    (h : Renamed prepared written stored destination content front name other m x)
    (hno : prepared.NoLinkAt (draftPath destination))
    (hsole : prepared.SoleNameAt (draftPath destination)) :
    written.surface? x = some (.file content) ∧
      stored.sharedContent = prepared.sharedContent := by
  obtain ⟨d, hwritten, rfl⟩ := h.drafted
  have hshared := hwritten.sharedContent_eq_of_soleNameAt hno hsole
  refine ⟨?_, h.moves.sharedContent.trans hshared⟩
  rcases h.holds with hfile | ⟨number, hnumber, -⟩
  · exact hfile
  · exact absurd hnumber (hwritten.not_shared_of_soleNameAt hno hsole number)

/-- A report is in its place after the draft was renamed, if that was no link and had no other
name. -/
theorem Renamed.inPlace {r : Report} {front silent m x : List String} {name other : String}
    (h : Renamed prepared written stored destination r.content front name other m x)
    (hdiff : Path.DiffersInName destination (draftPath destination) front name other silent)
    (hno : prepared.NoLinkAt (draftPath destination))
    (hsole : prepared.SoleNameAt (draftPath destination))
    (hadds : fs.AddsDirectories prepared (directoriesAbove destination)) :
    (∀ target, written.surface? (m ++ [other]) ≠ some (.link target)) ∧
      InPlace r fs prepared stored destination (m ++ [name]) := by
  obtain ⟨hfile, hshared⟩ := h.holds_alone hno hsole
  obtain ⟨d, hwritten, hx⟩ := h.drafted
  have hlink : ∀ target, written.surface? (m ++ [other]) ≠ some (.link target) := by
    rw [← h.eq_source hno]
    exact h.holds.not_link
  have hsame : ∀ l, l ≠ x → written.surface? l = prepared.surface? l := hx ▸ hwritten.sameBut.2
  refine ⟨hlink, ?_, ?_, h.not_find_draft hdiff hlink false, ?_, hshared.trans hadds.sharedContent⟩
  · -- where the destination leads has not changed with the draft
    have hback : ∀ l e, (∀ c, e ≠ .file c) → written.surface? l = some e →
        prepared.surface? l = some e := by
      intro l e hnofile he
      rw [← hsame l, he]
      rintro rfl
      exact hnofile r.content (Option.some.inj (he.symm.trans hfile))
    have hway := h.way.mono_directory h.directory (fun l => hback l _ (by simp))
      fun l target => hback l _ (by simp)
    have hm := hback m _ (by simp) h.directory
    obtain ⟨d, hd, hplace⟩ := hway.concat hm h.isStep
    obtain ⟨t, ht⟩ := h.target
    obtain ⟨hnul, hne, hlong, -⟩ := find_eq_ok_iff.1 ht
    refine ⟨d, find_eq_ok_iff.2 ⟨hnul, hne, hlong, ?_⟩, hplace⟩
    rw [h.pieces, startOf, ← hwritten.sameBut.1]
    exact hd
  · rw [h.eq_source hno, ← h.surface?_place] at hfile
    exact (surface?_eq_some_iff (by simp)).1 hfile
  · intro l hl hdraft
    have hne : l ≠ x := by
      rintro rfl
      exact hdraft ⟨d, hno.find_iff.1 hwritten.find, hx⟩
    refine undisturbed_of_eq hadds ?_
    rw [h.moves.surfaces, if_neg hl, if_neg (h.eq_source hno ▸ hne), hsame l hne]

/-- A draft that has no other name is not the same file as the destination. -/
theorem not_sharesFile {content : ByteArray} {x y : List String}
    (hno : prepared.NoLinkAt (draftPath destination))
    (hsole : prepared.SoleNameAt (draftPath destination)) :
    ¬ SharesFile prepared stored destination content x y := by
  intro h
  obtain ⟨d, hwritten, rfl⟩ := h.drafted
  obtain ⟨number, hx, -⟩ := h.sameFile
  exact hwritten.not_shared_of_soleNameAt hno hsole number hx

/-- Where only the draft has changed, the destination has not. -/
theorem untouched_of_changesOnly {files : FileSystem}
    (hadds : fs.AddsDirectories prepared (directoriesAbove destination))
    (hchanges : prepared.ChangesOnly files (draftPath destination))
    (hshared : files.sharedContent = prepared.sharedContent)
    (hdraft : refusals.removal? = none → ∀ l e,
      files.find false (draftPath destination) = .ok (.existing l) → files.surface? l = some e →
        e.isFile = false) :
    Untouched fs prepared files destination refusals where
  previous l hl := by
    obtain ⟨e, he, -⟩ := exists_surface_of_find hl
    have hprepared : prepared.surface? l = fs.surface? l :=
      (hadds.surfaces l).resolve_right fun h => by simp [he] at h
    rcases hchanges l with hl' | ⟨hmeans, hdir⟩
    · rw [hl', hprepared]
    · exact absurd (hasDirectory_of_means (find_mono hadds.keeps hadds.here hl) hmeans) hdir
  draft := hdraft
  others l hl := undisturbed_of_eq hadds ((hchanges l).resolve_right fun h => hl h.1)
  sharedContent := hshared.trans hadds.sharedContent

/-! ## The steps -/

/-- The steps of storing: the directories above cannot be made, or the draft is not renamed and
taken away, or it is renamed. -/
theorem putInPlace_cases (r : Report) (destination : Path) (fs : FileSystem) (refusals : Refusals) :
    ∃ prepared, (prepare fs destination refusals).2 = prepared ∧
      ((∃ e, prepare fs destination refusals = (.error e, prepared) ∧
          r.putInPlace destination fs refusals = (.error e, prepared, [])) ∨
        ∃ result left,
          writeAndRename prepared (draftPath destination) destination r.content refusals =
            (result, left) ∧
          ((∃ e, result = .error e ∧ r.putInPlace destination fs refusals =
              (.error e, cleanUp left (draftPath destination) refusals)) ∨
            result = .ok () ∧ r.putInPlace destination fs refusals = (.ok (), left, []))) := by
  cases hprepare : prepare fs destination refusals with
  | mk made prepared =>
    refine ⟨prepared, rfl, ?_⟩
    rw [putInPlace, hprepare]
    cases made with
    | error e => exact Or.inl ⟨e, rfl, rfl⟩
    | ok =>
      dsimp only
      cases writeAndRename prepared (draftPath destination) destination r.content refusals with
      | mk result left =>
        refine Or.inr ⟨result, left, rfl, ?_⟩
        cases result with
        | error e => exact Or.inl ⟨e, rfl, rfl⟩
        | ok => exact Or.inr ⟨rfl, rfl⟩

theorem store_files (r : Report) (destination : Path) (fs : FileSystem) (refusals : Refusals) :
    (r.store destination fs refusals).files = (r.putInPlace destination fs refusals).2.1 := by
  rw [store]
  rcases r.putInPlace destination fs refusals with ⟨_ | _, files, warnings⟩ <;> rfl

theorem store_result (r : Report) (destination : Path) (fs : FileSystem) (refusals : Refusals) :
    (r.store destination fs refusals).result =
      match (r.putInPlace destination fs refusals).1 with
      | .error e => .error e
      | .ok () => FileError.unlessRefused refusals.resolving?
          ((r.store destination fs refusals).files.canonical destination) := by
  rw [store]
  rcases r.putInPlace destination fs refusals with ⟨_ | _, files, warnings⟩ <;> rfl

/-- A report that was put in its place was renamed, unless the draft is the destination by another
name. -/
theorem exists_renamed_of_putInPlace {r : Report}
    (h : (r.putInPlace destination fs refusals).1 = .ok ()) :
    (∃ front name other silent written m x,
      Path.DiffersInName destination (draftPath destination) front name other silent ∧
        Renamed (prepare fs destination refusals).2 written (r.store destination fs refusals).files
          destination r.content front name other m x) ∨
      ∃ x y, SharesFile (prepare fs destination refusals).2
        (r.store destination fs refusals).files destination r.content x y := by
  rw [store_files]
  obtain ⟨prepared, rfl, hcases⟩ := putInPlace_cases r destination fs refusals
  rcases hcases with ⟨e, -, hput⟩ | ⟨result, left, hrename, ⟨e, -, hput⟩ | ⟨rfl, hput⟩⟩
  · simp [hput] at h
  · simp [hput] at h
  · rw [hput]
    exact exists_renamed_of_writeAndRename hrename

theorem putInPlace_of_store {r : Report} {path : Path}
    (h : (r.store destination fs refusals).result = .ok path) :
    (r.putInPlace destination fs refusals).1 = .ok () ∧
      (r.store destination fs refusals).files.canonical destination = .ok path := by
  rw [store_result] at h
  split at h
  · simp at h
  · next hput => exact ⟨hput, (FileError.unlessRefused_eq_ok_iff.1 h).1⟩

/-- The path that is told of a stored report is absolute, and the report is read there. -/
theorem read_of_store {r : Report} {path : Path} (hsound : fs.IsSound)
    (h : (r.store destination fs refusals).result = .ok path) :
    path.isAbsolute = true ∧ (r.store destination fs refusals).files.read path = .ok r.content := by
  obtain ⟨hput, hcanonical⟩ := putInPlace_of_store h
  have hprepared := (addsDirectories_prepare fs destination refusals).isSound hsound
  rcases exists_renamed_of_putInPlace hput with
    ⟨front, name, other, silent, written, m, x, hdiff, hrenamed⟩ | ⟨x, y, hshares⟩
  · obtain ⟨habs, l, hl, hpath⟩ := find_canonical (hrenamed.isSound hprepared) hcanonical
    exact ⟨habs, read_of_find (hpath true) (hrenamed.holds_of_find hdiff hl)⟩
  · obtain ⟨d, hwritten, -⟩ := hshares.drafted
    obtain ⟨habs, l, hl, hpath⟩ := find_canonical (hwritten.isSound hprepared) hcanonical
    have hy := hshares.target
    rw [hl] at hy
    obtain rfl := Destination.existing.inj (Except.ok.inj hy)
    exact ⟨habs, read_of_find (hpath true) (hshares.holds.of_sameFile hshares.sameFile)⟩

/-- If a report cannot be put in its place, nothing is touched but the draft. -/
theorem untouched_of_putInPlace {r : Report} {e : FileError}
    (hno : (prepare fs destination refusals).2.NoLinkAt (draftPath destination))
    (hsole : (prepare fs destination refusals).2.SoleNameAt (draftPath destination))
    (h : (r.putInPlace destination fs refusals).1 = .error e) :
    Untouched fs (prepare fs destination refusals).2 (r.store destination fs refusals).files
      destination refusals := by
  have hadds := addsDirectories_prepare fs destination refusals
  rw [store_files]
  obtain ⟨prepared, rfl, hcases⟩ := putInPlace_cases r destination fs refusals
  rcases hcases with ⟨e', hprepare, hput⟩ | ⟨result, left, hrename, ⟨e', rfl, hput⟩ | ⟨rfl, hput⟩⟩
  · rw [hput]
    refine untouched_of_changesOnly hadds (fun l => Or.inl rfl) rfl fun _ l e hl => ?_
    exact absurd hl (not_find_draft_of_prepare hprepare false l)
  · rw [hput]
    obtain ⟨-, -, hleft⟩ := (writeAndRename_cases hrename).resolve_right (by simp)
    obtain ⟨hchanges, hshared⟩ := changesOnly_cleanUp hno hsole hleft refusals
    exact untouched_of_changesOnly hadds hchanges hshared
      (cleanUp_spec left (draftPath destination) refusals).2.2
  · simp [hput] at h

/-! ## Whole or not at all -/

/-- A report is stored whole or not at all. Once the directories above the destination are there,
let the draft be no link and no file that has other names. If storing succeeds, the destination is a
file that holds the report, the path that is told is absolute and leads to it, and nothing is left of
the draft. If the report cannot be put in its place, what was at the destination is still there, and
the draft is not, unless taking it away is refused. It may also be that the report is in its place
but no absolute path can be told. Everywhere else only directories above the destination are new. The
draft is never the destination. -/
theorem store_atomic (r : Report) (destination : Path) (fs : FileSystem) (refusals : Refusals)
    (hsound : fs.IsSound)
    (hno : (prepare fs destination refusals).2.NoLinkAt (draftPath destination))
    (hsole : (prepare fs destination refusals).2.SoleNameAt (draftPath destination)) :
    let prepared := (prepare fs destination refusals).2
    let storage := r.store destination fs refusals
    (∀ path, storage.result = .ok path → ∃ place,
      InPlace r fs prepared storage.files destination place ∧
        storage.files.find false destination = .ok (.existing place) ∧
        path.isAbsolute = true ∧ storage.files.find false path = .ok (.existing place)) ∧
    (∀ e, (r.putInPlace destination fs refusals).1 = .error e →
      storage.result = .error e ∧ Untouched fs prepared storage.files destination refusals) ∧
    (∀ e, (r.putInPlace destination fs refusals).1 = .ok () → storage.result = .error e →
      ∃ place, InPlace r fs prepared storage.files destination place) ∧
    (destination.fileName? ≠ none →
      (draftPath destination).components ≠ destination.components) := by
  intro prepared storage
  have hadds := addsDirectories_prepare fs destination refusals
  have hrename : (r.putInPlace destination fs refusals).1 = .ok () →
      ∃ front name other silent written m x,
        Path.DiffersInName destination (draftPath destination) front name other silent ∧
          Renamed prepared written storage.files destination r.content front name other m x :=
    fun hput => (exists_renamed_of_putInPlace hput).resolve_right
      fun ⟨_, _, hshares⟩ => not_sharesFile hno hsole hshares
  refine ⟨fun path hpath => ?_, fun e he => ⟨?_, untouched_of_putInPlace hno hsole he⟩,
    fun e hput _ => ?_, fun hname heq => ?_⟩
  · obtain ⟨hput, hcanonical⟩ := putInPlace_of_store hpath
    obtain ⟨front, name, other, silent, written, m, x, hdiff, hrenamed⟩ := hrename hput
    obtain ⟨hlink, hin⟩ := hrenamed.inPlace hdiff hno hsole hadds
    obtain ⟨habs, l, hl, hpath⟩ :=
      find_canonical (hrenamed.isSound (hadds.isSound hsound)) hcanonical
    obtain ⟨d, hd⟩ := exists_find_not_following hl
    obtain rfl := hrenamed.find_destination hdiff hlink hd
    obtain rfl := Destination.existing.inj (hrenamed.find_destination hdiff hlink hl)
    exact ⟨_, hin, hd, habs, hpath false⟩
  · rw [store_result, he]
  · obtain ⟨front, name, other, silent, written, m, x, hdiff, hrenamed⟩ := hrename hput
    exact ⟨_, (hrenamed.inPlace hdiff hno hsole hadds).2⟩
  · obtain ⟨name, hname⟩ := Option.ne_none_iff_exists'.1 hname
    obtain ⟨front, other, silent, hdiff⟩ := differsInName_draftPath hname
    have hother := Path.fileName?_of_piecesOf hdiff.pieces_other hdiff.isName_other (by simp)
    rw [Path.fileName?, heq, ← Path.fileName?, hname] at hother
    exact hdiff.ne (Option.some.inj hother).symm

/-- A file system with an old report in it. -/
def oldReport : FileSystem :=
  { top := .directory [("out.json", .file "[]".toUTF8)], here := [] }

theorem surface?_oldReport {l : List String} {e : Entry} (h : oldReport.surface? l = some e) :
    e = .directory [] ∨ e = .file "[]".toUTF8 := by
  rcases l with _ | ⟨name, rest⟩
  · exact Or.inl (Option.some.inj h).symm
  · by_cases hname : name = "out.json"
    · cases rest with
      | nil =>
        simp [surface?, oldReport, Entry.at?, Entry.child?, hname, Entry.surface] at h
        exact Or.inr h.symm
      | cons => simp [surface?, oldReport, Entry.at?, Entry.child?, hname] at h
    · simp [surface?, oldReport, Entry.at?, Entry.child?, List.lookup,
        beq_eq_false_iff_ne.2 hname] at h

theorem isSound_oldReport : oldReport.IsSound :=
  ⟨by simp [oldReport], fun l target h => by simpa using surface?_oldReport h⟩

theorem draftPath_out : draftPath ⟨"out.json"⟩ = ⟨"out.json.tmp"⟩ := by decide

theorem prepare_out (fs : FileSystem) : prepare fs ⟨"out.json"⟩ = (.ok (), fs) := by
  have hparent : (⟨"out.json"⟩ : Path).parent? = some ⟨""⟩ := by decide
  simp [prepare, hparent]

theorem find_out (fs : FileSystem) (follow : Bool) :
    fs.find follow ⟨"out.json"⟩ = fs.walk follow maxLinks fs.here ["out.json"] :=
  find_eq_walk (by decide) (by decide) (by decide)

theorem find_draft_out (fs : FileSystem) (follow : Bool) :
    fs.find follow ⟨"out.json.tmp"⟩ = fs.walk follow maxLinks fs.here ["out.json.tmp"] :=
  find_eq_walk (by decide) (by decide) (by decide)

theorem ends_out : endsInDots ⟨"out.json"⟩ = false ∧ endsInSlash ⟨"out.json"⟩ = false := by
  decide

/-- A report takes the place of the old one. -/
theorem store_oldReport : (store ⟨[]⟩ ⟨"out.json"⟩ oldReport).result = .ok ⟨"/out.json"⟩ := by
  have hrename : ∀ content, writeAndRename oldReport ⟨"out.json.tmp"⟩ ⟨"out.json"⟩ content =
      (.ok (), { top := .directory [("out.json", .file content)], here := [] }) := by
    intro content
    simp only [writeAndRename, writeDraft, write, sync, rename, entry, find_out, find_draft_out,
      ends_out.1, ends_out.2, Bool.false_eq_true, if_false]
    cbv
  have hcanonical : ∀ content, canonical
      { top := .directory [("out.json", .file content)], here := [] } ⟨"out.json"⟩ =
        .ok ⟨"/out.json"⟩ := by
    intro content
    simp only [canonical, find_out]
    cbv
  simp only [store, putInPlace, prepare_out, draftPath_out, hrename, hcanonical]
  rfl

theorem store_atomic_oldReport : ∃ place,
    InPlace ⟨[]⟩ oldReport (prepare oldReport ⟨"out.json"⟩).2
        (store ⟨[]⟩ ⟨"out.json"⟩ oldReport).files ⟨"out.json"⟩ place ∧
      (store ⟨[]⟩ ⟨"out.json"⟩ oldReport).files.find false ⟨"out.json"⟩ = .ok (.existing place) ∧
      (⟨"/out.json"⟩ : Path).isAbsolute = true ∧
      (store ⟨[]⟩ ⟨"out.json"⟩ oldReport).files.find false ⟨"/out.json"⟩ =
        .ok (.existing place) := by
  have hno : (prepare oldReport ⟨"out.json"⟩).2.NoLinkAt (draftPath ⟨"out.json"⟩) := by
    rw [prepare_out]
    exact fun l target _ h => by simpa using surface?_oldReport h
  have hsole : (prepare oldReport ⟨"out.json"⟩).2.SoleNameAt (draftPath ⟨"out.json"⟩) := by
    rw [prepare_out]
    exact fun l number _ h => by simpa using surface?_oldReport h
  exact (store_atomic ⟨[]⟩ ⟨"out.json"⟩ oldReport {} isSound_oldReport hno hsole).1 _ store_oldReport

/-! ## Drafts that stand for something else -/

/-- A file system with a link where a draft is going to be. -/
def lateLink : FileSystem :=
  { top := .directory [("out.json.tmp", .link "x")], here := [] }

/-- What is there once a report was stored: it is where the link led, and the link was renamed. -/
def lateLinkStored (content : ByteArray) : FileSystem :=
  { top := .directory [("n", .directory []), ("x", .file content), ("out.json", .link "x")],
    here := [] }

theorem store_lateLink (r : Report) :
    r.store ⟨"n/../out.json"⟩ lateLink = ⟨.ok ⟨"/x"⟩, lateLinkStored r.content, []⟩ := by
  have hdraft : draftPath ⟨"n/../out.json"⟩ = ⟨"n/../out.json.tmp"⟩ := by decide
  have hfind : ∀ fs follow, find fs follow ⟨"n/../out.json"⟩ =
      fs.walk follow maxLinks fs.here ["n", "..", "out.json"] :=
    fun _ _ => find_eq_walk (by decide) (by decide) (by decide)
  have hfind' : ∀ fs follow, find fs follow ⟨"n/../out.json.tmp"⟩ =
      fs.walk follow maxLinks fs.here ["n", "..", "out.json.tmp"] :=
    fun _ _ => find_eq_walk (by decide) (by decide) (by decide)
  have hprepare : prepare lateLink ⟨"n/../out.json"⟩ =
      (.ok (), { top := .directory [("out.json.tmp", .link "x"), ("n", .directory [])],
                 here := [] }) := by
    have hparent : (⟨"n/../out.json"⟩ : Path).parent? = some ⟨"n/.."⟩ := by decide
    have habove : Path.ancestors ⟨"n/.."⟩ = [⟨"n/.."⟩, ⟨"n"⟩] := by decide
    have hup : ∀ fs follow, find fs follow ⟨"n/.."⟩ = fs.walk follow maxLinks fs.here ["n", ".."] :=
      fun _ _ => find_eq_walk (by decide) (by decide) (by decide)
    have hn : ∀ fs follow, find fs follow ⟨"n"⟩ = fs.walk follow maxLinks fs.here ["n"] :=
      fun _ _ => find_eq_walk (by decide) (by decide) (by decide)
    simp only [prepare, hparent, makeDirectories, habove, makeMissing, ensureDirectory,
      makeDirectory, isDirectory, entry, hup, hn]
    cbv
  have hends : endsInDots ⟨"n/../out.json"⟩ = false ∧ endsInSlash ⟨"n/../out.json"⟩ = false := by
    decide
  have hrename : ∀ content, writeAndRename
      { top := .directory [("out.json.tmp", .link "x"), ("n", .directory [])], here := [] }
        ⟨"n/../out.json.tmp"⟩ ⟨"n/../out.json"⟩ content = (.ok (), lateLinkStored content) := by
    intro content
    simp only [writeAndRename, writeDraft, write, sync, rename, entry, hfind, hfind', hends.1,
      hends.2, Bool.false_eq_true, if_false]
    cbv
  have hcanonical : ∀ content,
      (lateLinkStored content).canonical ⟨"n/../out.json"⟩ = .ok ⟨"/x"⟩ := by
    intro content
    simp only [canonical, hfind]
    cbv
  simp only [store, putInPlace, hprepare, hdraft, hrename, hcanonical]
  rfl

/-- A file system in which a draft is going to be a file that has another name. -/
def sharedDraft (name : String) : FileSystem :=
  { top := .directory [(name, .shared 0), ("out.json.tmp", .shared 0)], here := [] }

/-- If the other name is the destination, nothing is renamed. -/
theorem store_sharedDraft_out (r : Report) : r.store ⟨"out.json"⟩ (sharedDraft "out.json") =
    ⟨.ok ⟨"/out.json"⟩, (sharedDraft "out.json").setShared 0 r.content, []⟩ := by
  have hrename : ∀ content,
      writeAndRename (sharedDraft "out.json") ⟨"out.json.tmp"⟩ ⟨"out.json"⟩ content =
        (.ok (), (sharedDraft "out.json").setShared 0 content) := by
    intro content
    simp only [writeAndRename, writeDraft, write, sync, rename, entry, find_out, find_draft_out,
      ends_out.1, ends_out.2, Bool.false_eq_true, if_false]
    cbv
  have hcanonical : ∀ content,
      ((sharedDraft "out.json").setShared 0 content).canonical ⟨"out.json"⟩ =
        .ok ⟨"/out.json"⟩ := by
    intro content
    simp only [canonical, find_out]
    cbv
  simp only [store, putInPlace, prepare_out, draftPath_out, hrename, hcanonical]
  rfl

/-- What is there once a report was stored if the other name is not the destination. -/
def sharedDraftStored (content : ByteArray) : FileSystem :=
  { top := .directory [("notes.txt", .shared 0), ("out.json", .shared 0)], here := [],
    sharedContent := fun n => if n = 0 then content else .empty }

theorem store_sharedDraft_notes (r : Report) : r.store ⟨"out.json"⟩ (sharedDraft "notes.txt") =
    ⟨.ok ⟨"/out.json"⟩, sharedDraftStored r.content, []⟩ := by
  have hrename : ∀ content,
      writeAndRename (sharedDraft "notes.txt") ⟨"out.json.tmp"⟩ ⟨"out.json"⟩ content =
        (.ok (), sharedDraftStored content) := by
    intro content
    simp only [writeAndRename, writeDraft, write, sync, rename, entry, find_out, find_draft_out,
      ends_out.1, ends_out.2, Bool.false_eq_true, if_false]
    cbv
  have hcanonical : ∀ content,
      (sharedDraftStored content).canonical ⟨"out.json"⟩ = .ok ⟨"/out.json"⟩ := by
    intro content
    simp only [canonical, find_out]
    cbv
  simp only [store, putInPlace, prepare_out, draftPath_out, hrename, hcanonical]
  rfl

/-- Three drafts, none of which is a link before a report is stored. The path of the first one leads
through a directory that is not there, but once that is made it leads to a link: the destination
becomes a link. The second one is the destination by another name: it stays. The third one is another
file by another name: that file is overwritten. -/
theorem store_through_draft :
    (lateLink.find false (draftPath ⟨"n/../out.json"⟩) = .error .notFound ∧
      (store ⟨[]⟩ ⟨"n/../out.json"⟩ lateLink).result = .ok ⟨"/x"⟩ ∧
      (store ⟨[]⟩ ⟨"n/../out.json"⟩ lateLink).files.top.at? ["out.json"] = some (.link "x")) ∧
    ((store ⟨[]⟩ ⟨"out.json"⟩ (sharedDraft "out.json")).result = .ok ⟨"/out.json"⟩ ∧
      (store ⟨[]⟩ ⟨"out.json"⟩ (sharedDraft "out.json")).files.find false (draftPath ⟨"out.json"⟩) =
        .ok (.existing ["out.json.tmp"])) ∧
    ((store ⟨[]⟩ ⟨"out.json"⟩ (sharedDraft "notes.txt")).result = .ok ⟨"/out.json"⟩ ∧
      (sharedDraft "notes.txt").read ⟨"notes.txt"⟩ = .ok .empty ∧
      (store ⟨[]⟩ ⟨"out.json"⟩ (sharedDraft "notes.txt")).files.read ⟨"notes.txt"⟩ =
        .ok (content ⟨[]⟩) ∧ content ⟨[]⟩ ≠ .empty) := by
  have hnotes : ∀ fs : FileSystem, fs.find true ⟨"notes.txt"⟩ =
      fs.walk true maxLinks fs.here ["notes.txt"] :=
    fun _ => find_eq_walk (by decide) (by decide) (by decide)
  rw [store_lateLink, store_sharedDraft_out, store_sharedDraft_notes]
  refine ⟨⟨?_, rfl, rfl⟩, ⟨rfl, ?_⟩, rfl, ?_, ?_, fun hempty => ?_⟩
  · have hdraft : draftPath ⟨"n/../out.json"⟩ = ⟨"n/../out.json.tmp"⟩ := by decide
    rw [hdraft, find_eq_walk (by decide) (by decide) rfl]
    cbv
  · rw [draftPath_out, find_draft_out]
    generalize content ⟨[]⟩ = content
    cbv
  · simp only [FileSystem.read, entry, hnotes]
    cbv
  · simp only [FileSystem.read, entry, hnotes]
    generalize content ⟨[]⟩ = content
    cbv
  · have hsize := congrArg ByteArray.size hempty
    simp [content] at hsize

end ScriptCensus.Report
