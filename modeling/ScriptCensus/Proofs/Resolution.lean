import ScriptCensus.Proofs.PathPieces
import ScriptCensus.Proofs.Surfaces

/-!
# What a path leads to

`FileSystem.Resolves` says by rules what pieces of a path lead to; `walk_eq_ok_iff` says that this
is what `FileSystem.walk` finds. The rules speak of surfaces only, so that what a path leads to can
be followed through changes of the file system.

* Where entries are added, a path that leads to an entry still does so (`Resolves.mono`).
* A path that leads to a free name leads to the entry that is put there (`Resolves.fill`).
* A path that leads somewhere leads to directories on its way (`Resolves.split`).
* A path that leads to an entry of which the way leads through a certain link also does so from the
  target of that link (`Resolves.avoid`); so a link whose target leads through that very link leads
  nowhere (`Resolves.of_target`).
* An entry is found by the names of its location (`resolves_location`).
-/

namespace ScriptCensus

/-- The location that is meant, whether something is there or not. -/
def Destination.place : Destination → List String
  | existing l => l
  | free directory name _ => directory ++ [name]

namespace FileSystem

/-- A piece of a path that names an entry in a directory. -/
def IsStep (piece : String) : Prop :=
  piece ≠ "" ∧ piece ≠ "." ∧ piece ≠ ".." ∧ piece.utf8ByteSize ≤ maxName

/-- Where the target of a link starts, if the link is in the directory at a location. -/
def targetStart (target : String) (l : List String) : List String :=
  if (⟨target⟩ : Path).isAbsolute then [] else l

/-- What pieces of a path lead to from a location, if at most so many links are followed. -/
inductive Resolves (fs : FileSystem) (follow : Bool) :
    Nat → List String → List String → Destination → Prop
  | done (links : Nat) (l : List String) : Resolves fs follow links l [] (.existing l)
  | silent {links : Nat} {l ps : List String} {piece : String} {d : Destination}
      (hl : fs.HasDirectory l) (hp : piece = "" ∨ piece = ".")
      (h : Resolves fs follow links l ps d) : Resolves fs follow links l (piece :: ps) d
  | up {links : Nat} {l ps : List String} {d : Destination} (hl : fs.HasDirectory l)
      (h : Resolves fs follow links l.dropLast ps d) : Resolves fs follow links l (".." :: ps) d
  | free {links : Nat} {l ps : List String} {piece : String} (hl : fs.HasDirectory l)
      (hp : IsStep piece) (hnone : fs.surface? (l ++ [piece]) = none) (hps : ∀ q ∈ ps, q = "") :
      Resolves fs follow links l (piece :: ps) (.free l piece (!ps.isEmpty))
  | enter {links : Nat} {l ps : List String} {piece : String} {e : Entry} {d : Destination}
      (hl : fs.HasDirectory l) (hp : IsStep piece) (he : fs.surface? (l ++ [piece]) = some e)
      (hlink : ∀ target, e ≠ .link target) (h : Resolves fs follow links (l ++ [piece]) ps d) :
      Resolves fs follow links l (piece :: ps) d
  | stop {links : Nat} {l : List String} {piece target : String} (hl : fs.HasDirectory l)
      (hp : IsStep piece) (ht : fs.surface? (l ++ [piece]) = some (.link target))
      (hf : follow = false) : Resolves fs follow links l [piece] (.existing (l ++ [piece]))
  | jump {links : Nat} {l ps : List String} {piece target : String} {d : Destination}
      (hl : fs.HasDirectory l) (hp : IsStep piece)
      (ht : fs.surface? (l ++ [piece]) = some (.link target)) (hf : ps ≠ [] ∨ follow = true)
      (h : Resolves fs follow links (targetStart target l) (piecesOf target ++ ps) d) :
      Resolves fs follow (links + 1) l (piece :: ps) d

variable {fs : FileSystem} {follow : Bool} {links : Nat} {l ps : List String} {d : Destination}

/-! ## The rules and the walk -/

theorem lookup_eq_of_surface? {entries : List (String × Entry)} {piece : String}
    (hl : fs.top.at? l = some (.directory entries)) {e : Entry}
    (he : fs.surface? (l ++ [piece]) = some e) :
    ∃ c, entries.lookup piece = some c ∧ c.surface = e := by
  rw [surface?_concat hl] at he
  exact Option.map_eq_some_iff.1 he

theorem lookup_eq_link {entries : List (String × Entry)} {piece target : String}
    (hl : fs.top.at? l = some (.directory entries))
    (ht : fs.surface? (l ++ [piece]) = some (.link target)) :
    entries.lookup piece = some (.link target) := by
  obtain ⟨c, hc, hs⟩ := lookup_eq_of_surface? hl ht
  cases c with
  | link t =>
    rw [hc]
    exact congrArg some hs
  | file _ | shared _ | directory _ | device => simp [Entry.surface] at hs

theorem isStep_of_not {piece : String} (h : ¬ (decide (piece = "") || decide (piece = ".")) = true)
    (hup : ¬ piece = "..") (hsize : ¬ piece.utf8ByteSize > maxName) : IsStep piece := by
  simp only [Bool.or_eq_true, decide_eq_true_eq, not_or] at h
  exact ⟨h.1, h.2, hup, Nat.not_lt.1 hsize⟩

theorem resolves_of_walk (h : fs.walk follow links l ps = .ok d) :
    fs.Resolves follow links l ps d := by
  fun_induction walk fs follow links l ps with
  | case1 links l =>
    obtain rfl := Except.ok.inj h
    exact .done links l
  | case2 links l piece ps entries hl hp ih =>
    exact .silent (hasDirectory_iff.2 ⟨entries, hl⟩) (by simpa using hp) (ih h)
  | case3 links l ps entries hl _ ih =>
    exact .up (hasDirectory_iff.2 ⟨entries, hl⟩) (ih h)
  | case4 | case6 | case8 | case11 => simp at h
  | case5 links l piece ps entries hl hp hup hsize hnone hps =>
    obtain rfl := Except.ok.inj h
    refine .free (hasDirectory_iff.2 ⟨entries, hl⟩) (isStep_of_not hp hup hsize) ?_ ?_
    · rw [surface?_concat hl, hnone, Option.map_none]
    · simpa using hps
  | case7 links l piece ps entries hl hp hup hsize target ht hf =>
    obtain rfl := Except.ok.inj h
    simp only [Bool.and_eq_true, List.isEmpty_iff, Bool.not_eq_true'] at hf
    have hsurface : fs.surface? (l ++ [piece]) = some (.link target) := by
      rw [surface?_concat hl, ht]
      rfl
    rw [hf.1]
    exact .stop (hasDirectory_iff.2 ⟨entries, hl⟩) (isStep_of_not hp hup hsize) hsurface hf.2
  | case9 l piece ps entries hl hp hup hsize target ht hf links start ih =>
    have hsurface : fs.surface? (l ++ [piece]) = some (.link target) := by
      rw [surface?_concat hl, ht]
      rfl
    refine .jump (hasDirectory_iff.2 ⟨entries, hl⟩) (isStep_of_not hp hup hsize) hsurface ?_ (ih h)
    simpa [Decidable.imp_iff_not_or] using hf
  | case10 links l piece ps entries hl hp hup hsize e hlink he ih =>
    have hsurface : fs.surface? (l ++ [piece]) = some e.surface := by
      rw [surface?_concat hl, he, Option.map_some]
    refine .enter (hasDirectory_iff.2 ⟨entries, hl⟩) (isStep_of_not hp hup hsize) hsurface ?_ (ih h)
    intro target heq
    cases e with
    | link t => exact hlink t rfl
    | file _ | shared _ | directory _ | device => simp [Entry.surface] at heq

theorem walk_of_resolves (h : fs.Resolves follow links l ps d) :
    fs.walk follow links l ps = .ok d := by
  induction h with
  | done links l => rw [walk]
  | silent hl hp _ ih =>
    obtain ⟨entries, hl⟩ := hasDirectory_iff.1 hl
    simp [walk, hl, hp, ih]
  | up hl _ ih =>
    obtain ⟨entries, hl⟩ := hasDirectory_iff.1 hl
    simp [walk, hl, ih]
  | free hl hp hnone hps =>
    obtain ⟨entries, hl⟩ := hasDirectory_iff.1 hl
    rw [surface?_concat hl, Option.map_eq_none_iff] at hnone
    simp [walk, hl, hp.1, hp.2.1, hp.2.2.1, Nat.not_lt.2 hp.2.2.2, hnone]
    exact hps
  | @enter links l ps piece e d hl hp he hlink _ ih =>
    obtain ⟨entries, hl⟩ := hasDirectory_iff.1 hl
    obtain ⟨c, hc, rfl⟩ := lookup_eq_of_surface? hl he
    have hcase : ∀ target, c = .link target → False := by
      rintro target rfl
      exact hlink target rfl
    rw [walk, hl]
    simp only [hp.1, hp.2.1, hp.2.2.1, Nat.not_lt.2 hp.2.2.2, hc]
    cases c with
    | link t => exact absurd rfl (hcase t)
    | file _ | shared _ | directory _ | device => simpa using ih
  | stop hl hp ht hf =>
    obtain ⟨entries, hl⟩ := hasDirectory_iff.1 hl
    have ht := lookup_eq_link hl ht
    simp [walk, hl, hp.1, hp.2.1, hp.2.2.1, Nat.not_lt.2 hp.2.2.2, ht, hf]
  | @jump links l ps piece target d hl hp ht hf _ ih =>
    obtain ⟨entries, hl⟩ := hasDirectory_iff.1 hl
    have ht := lookup_eq_link hl ht
    have hgo : (ps.isEmpty && !follow) = false := by
      rw [Bool.eq_false_iff]
      simpa [Decidable.imp_iff_not_or] using hf
    rw [walk, hl]
    simp only [hp.1, hp.2.1, hp.2.2.1, Nat.not_lt.2 hp.2.2.2, ht, hgo]
    simpa [targetStart] using ih

/-- The rules say what the walk finds. -/
theorem walk_eq_ok_iff : fs.walk follow links l ps = .ok d ↔ fs.Resolves follow links l ps d :=
  ⟨resolves_of_walk, walk_of_resolves⟩

/-- A path leads to one destination only, whatever number of links may be followed. -/
theorem Resolves.more (h : fs.Resolves follow links l ps d) {more : Nat} (hle : links ≤ more) :
    fs.Resolves follow more l ps d := by
  induction h generalizing more with
  | done links l => exact .done more l
  | silent hl hp _ ih => exact .silent hl hp (ih hle)
  | up hl _ ih => exact .up hl (ih hle)
  | free hl hp hnone hps => exact .free hl hp hnone hps
  | enter hl hp he hlink _ ih => exact .enter hl hp he hlink (ih hle)
  | stop hl hp ht hf => exact .stop hl hp ht hf
  | jump hl hp ht hf _ ih =>
    obtain ⟨fewer, rfl⟩ : ∃ fewer, more = fewer + 1 := ⟨more - 1, by omega⟩
    exact .jump hl hp ht hf (ih (by omega))

theorem Resolves.unique {d' : Destination} {links' : Nat} (h : fs.Resolves follow links l ps d)
    (h' : fs.Resolves follow links' l ps d') : d = d' := by
  have hmax := walk_of_resolves (h.more (Nat.le_max_left links links'))
  rw [walk_of_resolves (h'.more (Nat.le_max_right links links'))] at hmax
  exact (Except.ok.inj hmax).symm

theorem Resolves.hasDirectory {piece : String} (h : fs.Resolves follow links l (piece :: ps) d) :
    fs.HasDirectory l := by
  cases h <;> assumption

theorem piecesOf_ne_nil (text : String) : piecesOf text ≠ [] := by
  unfold piecesOf
  split
  · split <;> simp_all
  · simp [splitAt_ne_nil]

/-- What a path leads to, as long as it can be the path of something. -/
theorem find_eq_ok_iff {p : Path} : fs.find follow p = .ok d ↔
    '\x00' ∉ p.text.toList ∧ p.text ≠ "" ∧ p.text.utf8ByteSize ≤ maxPath ∧
      fs.Resolves follow maxLinks (fs.startOf p.text) (piecesOf p.text) d := by
  rw [← walk_eq_ok_iff, find]
  by_cases hnul : '\x00' ∈ p.text.toList
  · simp [hnul]
  by_cases hempty : p.text = ""
  · simp [hempty]
  by_cases hlong : p.text.utf8ByteSize > maxPath
  · simp [hnul, hempty, hlong, Nat.not_le.2 hlong]
  · simp [hnul, hempty, hlong, Nat.not_lt.1 hlong]

/-! ## Where a path ends -/

/-- The entry that a path leads to is there, and it is no link if links are followed. -/
theorem Resolves.exists_surface {x : List String} (h : fs.Resolves follow links l ps (.existing x))
    (hps : ps ≠ []) :
    ∃ e, fs.surface? x = some e ∧ (follow = true → ∀ target, e ≠ .link target) := by
  have hstart : ps = [] →
      ∃ e, fs.surface? l = some e ∧ (follow = true → ∀ target, e ≠ .link target) :=
    fun h => absurd h hps
  clear hps
  generalize hd : Destination.existing x = d at h
  induction h with
  | done links l =>
    obtain rfl := Destination.existing.inj hd
    exact hstart rfl
  | silent hl _ _ ih => exact ih (fun _ => ⟨_, hl, fun _ _ => by simp⟩) hd
  | up hl _ ih => exact ih (fun _ => ⟨_, hl.dropLast, fun _ _ => by simp⟩) hd
  | free => simp at hd
  | enter _ _ he hlink _ ih => exact ih (fun _ => ⟨_, he, fun _ => hlink⟩) hd
  | stop _ _ ht hf =>
    obtain rfl := Destination.existing.inj hd
    exact ⟨_, ht, fun h => absurd h (by simp [hf])⟩
  | jump _ _ _ _ _ ih => exact ih (fun h => absurd h (by simp [piecesOf_ne_nil])) hd

/-- A free name is in a directory, in which nothing has that name. -/
theorem Resolves.free_spec {m : List String} {name : String} {slashed : Bool}
    (h : fs.Resolves follow links l ps (.free m name slashed)) :
    fs.HasDirectory m ∧ fs.surface? (m ++ [name]) = none := by
  generalize hd : Destination.free m name slashed = d at h
  induction h with
  | done => simp at hd
  | silent _ _ _ ih => exact ih hd
  | up _ _ ih => exact ih hd
  | free hl _ hnone _ =>
    obtain ⟨rfl, rfl, -⟩ := Destination.free.inj hd
    exact ⟨hl, hnone⟩
  | enter _ _ _ _ _ ih => exact ih hd
  | stop => simp at hd
  | jump _ _ _ _ _ ih => exact ih hd

/-- A path that leads to no link leads to the same if links are followed. -/
theorem Resolves.following (h : fs.Resolves false links l ps d)
    (hlink : ∀ x target, d = .existing x → fs.surface? x ≠ some (.link target)) :
    fs.Resolves true links l ps d := by
  generalize hf : false = follow at h
  induction h with
  | done links l => exact .done links l
  | silent hl hp _ ih => exact .silent hl hp (ih hlink)
  | up hl _ ih => exact .up hl (ih hlink)
  | free hl hp hnone hps => exact .free hl hp hnone hps
  | enter hl hp he hnolink _ ih => exact .enter hl hp he hnolink (ih hlink)
  | stop _ _ ht _ => exact absurd ht (hlink _ _ rfl)
  | jump hl hp ht _ _ ih => exact .jump hl hp ht (Or.inr rfl) (ih hlink)

/-- A path that leads somewhere if links are followed does so if a link at its end is not. -/
theorem Resolves.exists_not_following (h : fs.Resolves true links l ps d) :
    ∃ d', fs.Resolves false links l ps d' := by
  generalize hf : true = follow at h
  induction h with
  | done links l => exact ⟨_, .done links l⟩
  | silent hl hp _ ih => exact ih.imp fun _ h => .silent hl hp h
  | up hl _ ih => exact ih.imp fun _ h => .up hl h
  | free hl hp hnone hps => exact ⟨_, .free hl hp hnone hps⟩
  | enter hl hp he hlink _ ih => exact ih.imp fun _ h => .enter hl hp he hlink h
  | stop hl hp ht _ => exact ⟨_, .stop hl hp ht rfl⟩
  | @jump links l ps piece target d hl hp ht _ _ ih =>
    by_cases hps : ps = []
    · rw [hps]
      exact ⟨_, .stop hl hp ht rfl⟩
    · exact ih.imp fun _ h => .jump hl hp ht (Or.inl hps) h

theorem resolves_silent (hl : fs.HasDirectory l) :
    ∀ ps : List String, (∀ q ∈ ps, q = "") → fs.Resolves follow links l ps (.existing l)
  | [], _ => .done links l
  | q :: ps, h => by
    obtain ⟨hq, hps⟩ := List.forall_mem_cons.1 h
    exact .silent hl (Or.inl hq) (resolves_silent hl ps hps)

/-- A path leads to directories on its way. -/
theorem Resolves.split {a b : List String} (h : fs.Resolves follow links l (a ++ b) d)
    (hb : (b ≠ [] ∧ ∃ x, d = .existing x) ∨ ∃ q ∈ b, q ≠ "") :
    ∃ m fewer, fs.Resolves true links l a (.existing m) ∧ fs.HasDirectory m ∧
      fs.Resolves follow fewer m b d := by
  have hne : b ≠ [] := by
    rcases hb with hb | ⟨q, hq, -⟩
    · exact hb.1
    · exact List.ne_nil_of_mem hq
  generalize hps : a ++ b = ps at h
  induction h generalizing a with
  | done => simp [hne] at hps
  | @silent links l ps piece d hl hp h ih =>
    rcases List.append_eq_cons_iff.1 hps with ⟨rfl, rfl⟩ | ⟨a, rfl, rfl⟩
    · exact ⟨l, links, .done _ _, hl, .silent hl hp h⟩
    · obtain ⟨m, fewer, hm, hrest⟩ := ih hb rfl
      exact ⟨m, fewer, .silent hl hp hm, hrest⟩
  | @up links l ps d hl h ih =>
    rcases List.append_eq_cons_iff.1 hps with ⟨rfl, rfl⟩ | ⟨a, rfl, rfl⟩
    · exact ⟨l, links, .done _ _, hl, .up hl h⟩
    · obtain ⟨m, fewer, hm, hrest⟩ := ih hb rfl
      exact ⟨m, fewer, .up hl hm, hrest⟩
  | @free links l ps piece hl hp hnone hempty =>
    rcases List.append_eq_cons_iff.1 hps with ⟨rfl, rfl⟩ | ⟨a, rfl, rfl⟩
    · exact ⟨l, links, .done _ _, hl, .free hl hp hnone hempty⟩
    · rcases hb with ⟨-, x, hx⟩ | ⟨q, hq, hq'⟩
      · simp at hx
      · exact absurd (hempty q (List.mem_append_right a hq)) hq'
  | @enter links l ps piece e d hl hp he hlink h ih =>
    rcases List.append_eq_cons_iff.1 hps with ⟨rfl, rfl⟩ | ⟨a, rfl, rfl⟩
    · exact ⟨l, links, .done _ _, hl, .enter hl hp he hlink h⟩
    · obtain ⟨m, fewer, hm, hrest⟩ := ih hb rfl
      exact ⟨m, fewer, .enter hl hp he hlink hm, hrest⟩
  | @stop links l piece target hl hp ht hf =>
    rcases List.append_eq_cons_iff.1 hps with ⟨rfl, rfl⟩ | ⟨a, rfl, h⟩
    · exact ⟨l, links, .done _ _, hl, .stop hl hp ht hf⟩
    · simp [hne] at h
  | @jump links l ps piece target d hl hp ht hf h ih =>
    rcases List.append_eq_cons_iff.1 hps with ⟨rfl, rfl⟩ | ⟨a, rfl, rfl⟩
    · exact ⟨l, links + 1, .done _ _, hl, .jump hl hp ht hf h⟩
    · obtain ⟨m, fewer, hm, hrest⟩ := ih hb (List.append_assoc _ _ _)
      exact ⟨m, fewer, .jump hl hp ht (Or.inr rfl) hm, hrest⟩

/-- A path whose last piece names an entry, which is no link that is followed, leads to that entry
or to that free name. -/
theorem Resolves.last {piece : String} (h : fs.Resolves follow links l [piece] d)
    (hpiece : Path.IsName piece)
    (hlink : follow = true → ∀ target, fs.surface? (l ++ [piece]) ≠ some (.link target)) :
    (d = .existing (l ++ [piece]) ∧ ∃ e, fs.surface? (l ++ [piece]) = some e) ∨
      (d = .free l piece false ∧ fs.surface? (l ++ [piece]) = none) := by
  cases h with
  | silent _ hp _ => exact absurd hp (not_or.2 ⟨hpiece.1, hpiece.2.1⟩)
  | up => exact absurd rfl hpiece.2.2.1
  | free _ _ hnone _ => exact Or.inr ⟨rfl, hnone⟩
  | enter _ _ he _ h =>
    cases h with
    | done => exact Or.inl ⟨rfl, _, he⟩
  | stop _ _ ht _ => exact Or.inl ⟨rfl, _, ht⟩
  | jump _ _ ht hf _ => exact absurd ht (hlink (hf.resolve_left (by simp)) _)

theorem Resolves.isStep {piece : String} (h : fs.Resolves follow links l (piece :: ps) d)
    (hpiece : Path.IsName piece) : IsStep piece := by
  cases h with
  | silent _ hp _ => exact absurd hp (not_or.2 ⟨hpiece.1, hpiece.2.1⟩)
  | up => exact absurd rfl hpiece.2.2.1
  | free _ hp _ _ | enter _ hp _ _ _ | stop _ hp _ _ | jump _ hp _ _ _ => exact hp

/-- A link at the end of a path is followed to where its target leads. -/
theorem Resolves.of_link {piece target : String} (h : fs.Resolves true links l [piece] d)
    (hpiece : Path.IsName piece) (ht : fs.surface? (l ++ [piece]) = some (.link target)) :
    ∃ fewer, fs.Resolves true fewer (targetStart target l) (piecesOf target) d := by
  cases h with
  | silent _ hp _ => exact absurd hp (not_or.2 ⟨hpiece.1, hpiece.2.1⟩)
  | up => exact absurd rfl hpiece.2.2.1
  | free _ _ hnone _ => simp [ht] at hnone
  | enter _ _ he hlink _ => exact absurd (Option.some.inj (he.symm.trans ht)) (hlink target)
  | stop _ _ _ hf => simp at hf
  | jump _ _ ht' _ h =>
    obtain rfl := Entry.link.inj (Option.some.inj (ht'.symm.trans ht))
    rw [List.append_nil] at h
    exact ⟨_, h⟩

/-- Behind a path that leads to a directory a name leads to its place in that directory. -/
theorem Resolves.concat {m : List String} {name : String}
    (h : fs.Resolves true links l ps (.existing m)) (hm : fs.HasDirectory m) (hname : IsStep name) :
    ∃ d, fs.Resolves false links l (ps ++ [name]) d ∧ d.place = m ++ [name] := by
  generalize hd : Destination.existing m = d at h
  generalize hf : true = follow at h
  induction h with
  | done links l =>
    obtain rfl := Destination.existing.inj hd
    cases he : fs.surface? (m ++ [name]) with
    | none => exact ⟨_, .free hm hname he (by simp), rfl⟩
    | some e =>
      by_cases hlink : ∃ target, e = .link target
      · obtain ⟨target, rfl⟩ := hlink
        exact ⟨_, .stop hm hname he rfl, rfl⟩
      · exact ⟨_, .enter hm hname he (not_exists.1 hlink) (.done _ _), rfl⟩
  | silent hl hp _ ih => exact (ih hd).imp fun _ => .imp_left (.silent hl hp)
  | up hl _ ih => exact (ih hd).imp fun _ => .imp_left (.up hl)
  | free => simp at hd
  | enter hl hp he hlink _ ih => exact (ih hd).imp fun _ => .imp_left (.enter hl hp he hlink)
  | stop _ _ _ hf' => simp [← hf] at hf'
  | jump hl hp ht _ _ ih =>
    obtain ⟨d, h, hplace⟩ := ih hd
    rw [List.append_assoc] at h
    exact ⟨d, .jump hl hp ht (Or.inl (by simp)) h, hplace⟩

/-- A path in which no name is the last piece that counts leads to a directory. -/
theorem Resolves.of_no_name (h : fs.Resolves follow links l ps d)
    (hl : ps = [] → fs.HasDirectory l)
    (hname : ∀ before piece silent, ps = before ++ piece :: silent →
      (∀ q ∈ silent, q = "" ∨ q = ".") → ¬ IsStep piece) :
    ∃ x, d = .existing x ∧ fs.HasDirectory x := by
  induction h with
  | done links l => exact ⟨l, rfl, hl rfl⟩
  | silent h _ _ ih =>
    exact ih (fun _ => h) fun before piece silent hps =>
      hname (_ :: before) piece silent (by rw [hps, List.cons_append])
  | up h _ ih =>
    exact ih (fun _ => h.dropLast) fun before piece silent hps =>
      hname (_ :: before) piece silent (by rw [hps, List.cons_append])
  | @free links l ps piece _ hp _ hps =>
    exact absurd hp (hname [] piece ps rfl fun q hq => Or.inl (hps q hq))
  | @enter links l ps piece e d _ hp _ _ _ ih =>
    refine ih (fun hnil => ?_) fun before q silent hps =>
      hname (piece :: before) q silent (by rw [hps, List.cons_append])
    exact absurd hp (hname [] piece [] (by rw [hnil, List.nil_append]) (by simp))
  | @stop links l piece _ _ hp _ _ => exact absurd hp (hname [] piece [] rfl (by simp))
  | @jump links l ps piece target d _ hp _ _ _ ih =>
    refine ih (fun h => absurd h (by simp [piecesOf_ne_nil])) fun before q silent heq hsilent => ?_
    -- behind the target stands a piece that counts, since the name of the link is not the last one
    rcases List.append_eq_append_iff.1 heq with ⟨c, -, hps⟩ | ⟨c, -, hps⟩
    · exact hname (piece :: c) q silent (by rw [hps, List.cons_append]) hsilent
    · cases c with
      | nil => exact hname [piece] q silent (by rw [hps]; rfl) hsilent
      | cons b c =>
        obtain ⟨-, rfl⟩ := List.cons.inj hps
        exact absurd hp (hname [] piece ps rfl fun r hr => hsilent r (List.mem_append_right c hr))

/-! ## Where the file system changes -/

/-- Neither a directory nor a link, so that a path can end there but neither goes on nor is led
elsewhere. -/
def IsPlain (e : Entry) : Prop :=
  (∀ entries, e ≠ .directory entries) ∧ ∀ target, e ≠ .link target

/-- What is there in one file system is there in another one, though a file may hold something
else. -/
def Keeps (fs fs' : FileSystem) : Prop :=
  ∀ l e, fs.surface? l = some e →
    fs'.surface? l = some e ∨ IsPlain e ∧ ∃ e', fs'.surface? l = some e' ∧ IsPlain e'

variable {fs' : FileSystem}

theorem Keeps.of_surface? (h : ∀ l e, fs.surface? l = some e → fs'.surface? l = some e) :
    fs.Keeps fs' :=
  fun l e he => Or.inl (h l e he)

theorem Keeps.hasDirectory (h : fs.Keeps fs') (hl : fs.HasDirectory l) : fs'.HasDirectory l := by
  rcases h l _ hl with h | ⟨h, -⟩
  · exact h
  · exact absurd rfl (h.1 [])

theorem Keeps.link (h : fs.Keeps fs') {target : String} (hl : fs.surface? l = some (.link target)) :
    fs'.surface? l = some (.link target) := by
  rcases h l _ hl with h | ⟨h, -⟩
  · exact h
  · exact absurd rfl (h.2 target)

theorem Keeps.exists_surface (h : fs.Keeps fs') {e : Entry} (he : fs.surface? l = some e)
    (hlink : ∀ target, e ≠ .link target) :
    ∃ e', fs'.surface? l = some e' ∧ ∀ target, e' ≠ .link target := by
  rcases h l e he with h | ⟨-, e', h, hplain⟩
  · exact ⟨e, h, hlink⟩
  · exact ⟨e', h, hplain.2⟩

/-- A path that leads to an entry still does so where entries were added. -/
theorem Resolves.mono {x : List String} (h : fs.Resolves follow links l ps (.existing x))
    (hkeeps : fs.Keeps fs') : fs'.Resolves follow links l ps (.existing x) := by
  generalize hd : Destination.existing x = d at h ⊢
  induction h with
  | done links l => exact .done links l
  | silent hl hp _ ih => exact .silent (hkeeps.hasDirectory hl) hp (ih hd)
  | up hl _ ih => exact .up (hkeeps.hasDirectory hl) (ih hd)
  | free => simp at hd
  | enter hl hp he hlink _ ih =>
    obtain ⟨e', he', hlink'⟩ := hkeeps.exists_surface he hlink
    exact .enter (hkeeps.hasDirectory hl) hp he' hlink' (ih hd)
  | stop hl hp ht hf => exact .stop (hkeeps.hasDirectory hl) hp (hkeeps.link ht) hf
  | jump hl hp ht hf _ ih =>
    exact .jump (hkeeps.hasDirectory hl) hp (hkeeps.link ht) hf (ih hd)

/-- A path that leads to a directory still does so where directories and links are the same. -/
theorem Resolves.mono_directory {x : List String} (h : fs.Resolves follow links l ps (.existing x))
    (hx : fs.HasDirectory x) (hdir : ∀ m, fs.HasDirectory m → fs'.HasDirectory m)
    (hlink : ∀ m target, fs.surface? m = some (.link target) →
      fs'.surface? m = some (.link target)) : fs'.Resolves follow links l ps (.existing x) := by
  generalize hd : Destination.existing x = d at h ⊢
  induction h with
  | done links l => exact .done links l
  | silent hl hp _ ih => exact .silent (hdir _ hl) hp (ih hd)
  | up hl _ ih => exact .up (hdir _ hl) (ih hd)
  | free => simp at hd
  | @enter links l ps piece e d hl hp _ _ h ih =>
    -- the path goes on from there, or ends there; either way it is a directory
    have hentered : fs.HasDirectory (l ++ [piece]) := by
      cases ps with
      | nil =>
        cases h with
        | done =>
          obtain rfl := Destination.existing.inj hd
          exact hx
      | cons q ps => exact h.hasDirectory
    exact .enter (hdir _ hl) hp (hdir _ hentered) (by simp) (ih hd)
  | stop hl hp ht hf => exact .stop (hdir _ hl) hp (hlink _ _ ht) hf
  | jump hl hp ht hf _ ih => exact .jump (hdir _ hl) hp (hlink _ _ ht) hf (ih hd)

/-- A path that leads to a free name leads to the entry that is put there. -/
theorem Resolves.fill {m : List String} {name : String} {slashed : Bool}
    (h : fs.Resolves follow links l ps (.free m name slashed)) (hkeeps : fs.Keeps fs') {e : Entry}
    (he : fs'.surface? (m ++ [name]) = some e) (hlink : ∀ target, e ≠ .link target)
    (hslashed : slashed = true → e = .directory []) :
    fs'.Resolves follow links l ps (.existing (m ++ [name])) := by
  generalize hd : Destination.free m name slashed = d at h
  induction h with
  | done => simp at hd
  | silent hl hp _ ih => exact .silent (hkeeps.hasDirectory hl) hp (ih hd)
  | up hl _ ih => exact .up (hkeeps.hasDirectory hl) (ih hd)
  | @free links l ps piece hl hp _ hps =>
    obtain ⟨rfl, rfl, hs⟩ := Destination.free.inj hd
    refine .enter (hkeeps.hasDirectory hl) hp he hlink ?_
    cases ps with
    | nil => exact .done _ _
    | cons q ps =>
      obtain rfl := hslashed hs
      exact resolves_silent he _ hps
  | enter hl hp he hlink _ ih =>
    obtain ⟨e', he', hlink'⟩ := hkeeps.exists_surface he hlink
    exact .enter (hkeeps.hasDirectory hl) hp he' hlink' (ih hd)
  | stop => simp at hd
  | jump hl hp ht hf _ ih =>
    exact .jump (hkeeps.hasDirectory hl) hp (hkeeps.link ht) hf (ih hd)

/-! ## Links that lead through themselves -/

section link

variable {p x : List String} {target : String} (hlink : fs.surface? p = some (.link target))
  (hother : ∀ m e, m ≠ p → fs.surface? m = some e → fs'.surface? m = some e)

include hlink hother

/-- A path that leads to an entry does so without a certain link, or leads on from the target of
that link. -/
theorem Resolves.avoid (h : fs.Resolves true links l ps (.existing x)) :
    fs'.Resolves true links l ps (.existing x) ∨
      ∃ fewer < links, ∃ rest, fs.Resolves true fewer (targetStart target p.dropLast)
        (piecesOf target ++ rest) (.existing x) := by
  have hdir : ∀ {l}, fs.HasDirectory l → fs'.HasDirectory l := by
    intro l hl
    have hne : l ≠ p := by
      rintro rfl
      rw [HasDirectory, hlink] at hl
      simp at hl
    exact hother l _ hne hl
  generalize hd : Destination.existing x = d at h ⊢
  induction h with
  | done links l => exact Or.inl (.done links l)
  | silent hl hp _ ih => exact (ih hd).imp_left (.silent (hdir hl) hp)
  | up hl _ ih => exact (ih hd).imp_left (.up (hdir hl))
  | free => simp at hd
  | @enter links l ps piece e d hl hp he hnolink _ ih =>
    have hne : l ++ [piece] ≠ p := by
      rintro rfl
      exact hnolink target (Option.some.inj (he.symm.trans hlink))
    exact (ih hd).imp_left (.enter (hdir hl) hp (hother _ _ hne he) hnolink)
  | stop _ _ _ hf => simp at hf
  | @jump links l ps piece t d hl hp ht hf h ih =>
    by_cases hp' : l ++ [piece] = p
    · obtain rfl : t = target := by
        rw [hp', hlink] at ht
        exact (Entry.link.inj (Option.some.inj ht)).symm
      refine Or.inr ⟨links, Nat.lt_succ_self _, ps, ?_⟩
      rw [← hp', List.dropLast_concat]
      exact h
    · rcases ih hd with ih | ⟨fewer, hlt, rest, hrest⟩
      · exact Or.inl (.jump (hdir hl) hp (hother _ _ hp' ht) hf ih)
      · exact Or.inr ⟨fewer, Nat.lt_succ_of_lt hlt, rest, hrest⟩

/-- If the target of a link leads to an entry, it does so without that link. -/
theorem Resolves.of_target
    (h : fs.Resolves true links (targetStart target p.dropLast) (piecesOf target) (.existing x)) :
    ∃ fewer, fs'.Resolves true fewer (targetStart target p.dropLast) (piecesOf target)
      (.existing x) := by
  induction links using Nat.strongRecOn with
  | ind links ih =>
    rcases h.avoid hlink hother with h | ⟨fewer, hlt, rest, hrest⟩
    · exact ⟨links, h⟩
    · -- the way leads through the link once more: the target has been followed with fewer links
      by_cases hne : rest = []
      · rw [hne, List.append_nil] at hrest
        exact ih fewer hlt hrest
      · obtain ⟨m, -, hm, -, -⟩ := hrest.split (Or.inl ⟨hne, x, rfl⟩)
        obtain rfl : x = m := Destination.existing.inj (h.unique hm)
        exact ih fewer hlt hm

/-- A path that leads to a directory does so without a certain link, unless the target of that link
is a directory. -/
theorem Resolves.avoid_unless (h : fs.Resolves true links l ps (.existing x))
    (hx : fs.HasDirectory x) : fs'.Resolves true links l ps (.existing x) ∨
      ∃ fewer y, fs'.Resolves true fewer (targetStart target p.dropLast) (piecesOf target)
        (.existing y) ∧ fs.HasDirectory y := by
  rcases h.avoid hlink hother with h | ⟨fewer, -, rest, hrest⟩
  · exact Or.inl h
  · right
    by_cases hne : rest = []
    · rw [hne, List.append_nil] at hrest
      obtain ⟨fewer, h⟩ := hrest.of_target hlink hother
      exact ⟨fewer, x, h, hx⟩
    · obtain ⟨y, -, hy, hdir, -⟩ := hrest.split (Or.inl ⟨hne, x, rfl⟩)
      obtain ⟨fewer, h⟩ := hy.of_target hlink hother
      exact ⟨fewer, y, h, hdir⟩

end link

/-! ## Names on the way -/

/-- What the name of an entry can be. -/
def IsEntryName (name : String) : Prop :=
  Path.IsName name ∧ '\x00' ∉ name.toList ∧ name.utf8ByteSize ≤ maxName

instance : DecidablePred IsEntryName := fun _ => inferInstanceAs (Decidable (_ ∧ _))

/-- File systems as they are: one is at a location that can be one, and targets of links are texts
that can be paths. -/
structure IsSound (fs : FileSystem) : Prop where
  here : ∀ name ∈ fs.here, IsEntryName name
  targets : ∀ l target, fs.surface? l = some (.link target) → '\x00' ∉ target.toList

/-- The names on the way to an entry can be names of entries. -/
theorem Resolves.names {x : List String} (h : fs.Resolves follow links l ps (.existing x))
    (hl : ∀ name ∈ l, IsEntryName name)
    (hps : ∀ piece ∈ ps, '/' ∉ piece.toList ∧ '\x00' ∉ piece.toList)
    (htargets : ∀ l target, fs.surface? l = some (.link target) → '\x00' ∉ target.toList) :
    ∀ name ∈ x, IsEntryName name := by
  have hconcat : ∀ {l : List String} {piece : String}, (∀ name ∈ l, IsEntryName name) →
      IsStep piece → '/' ∉ piece.toList ∧ '\x00' ∉ piece.toList →
        ∀ name ∈ l ++ [piece], IsEntryName name := by
    intro l piece hl hp hpiece name hname
    rcases List.mem_append.1 hname with h | h
    · exact hl name h
    · rw [List.mem_singleton.1 h]
      exact ⟨⟨hp.1, hp.2.1, hp.2.2.1, hpiece.1⟩, hpiece.2, hp.2.2.2⟩
  generalize hd : Destination.existing x = d at h
  induction h with
  | done links l =>
    obtain rfl := Destination.existing.inj hd
    exact hl
  | silent _ _ _ ih => exact ih hl (List.forall_mem_cons.1 hps).2 hd
  | up _ _ ih =>
    exact ih (fun name h => hl name (List.dropLast_subset _ h)) (List.forall_mem_cons.1 hps).2 hd
  | free => simp at hd
  | enter _ hp _ _ _ ih =>
    obtain ⟨hpiece, hps⟩ := List.forall_mem_cons.1 hps
    exact ih (hconcat hl hp hpiece) hps hd
  | stop _ hp _ _ =>
    obtain rfl := Destination.existing.inj hd
    exact hconcat hl hp (List.forall_mem_cons.1 hps).1
  | @jump links l ps piece target d _ _ ht _ _ ih =>
    refine ih ?_ ?_ hd
    · unfold targetStart
      split
      · simp
      · exact hl
    · intro q hq
      rcases List.mem_append.1 hq with hq | hq
      · obtain ⟨hslash, hsub⟩ := mem_piecesOf hq
        exact ⟨hslash, fun h => htargets _ _ ht (hsub h)⟩
      · exact (List.forall_mem_cons.1 hps).2 q hq

/-- An entry that is no link is found by the names of its location. -/
theorem resolves_location {e : Entry} (hlink : ∀ target, e ≠ .link target) :
    ∀ (m l : List String), fs.surface? (l ++ m) = some e → (∀ name ∈ m, IsEntryName name) →
      fs.Resolves follow links l m (.existing (l ++ m))
  | [], l, _, _ => by
    rw [List.append_nil]
    exact .done links l
  | name :: m, l, he, hnames => by
    obtain ⟨hname, hnames⟩ := List.forall_mem_cons.1 hnames
    have hstep : IsStep name := ⟨hname.1.1, hname.1.2.1, hname.1.2.2.1, hname.2.2⟩
    have hdir := hasDirectory_of_append he
    rw [← List.singleton_append, ← List.append_assoc] at he ⊢
    have hrest := resolves_location hlink m (l ++ [name]) he hnames
    cases m with
    | nil =>
      rw [List.append_nil] at he
      exact .enter hdir hstep he hlink hrest
    | cons n m => exact .enter hdir hstep (hasDirectory_of_append he) (by simp) hrest

end FileSystem

end ScriptCensus
