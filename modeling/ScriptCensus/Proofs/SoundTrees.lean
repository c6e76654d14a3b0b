import ScriptCensus.FileSystem.Basic
import ScriptCensus.Proofs.Paths

/-!
# Sound trees

In the directories of a file system no name stands twice, and every name can be the last part of a
path. `Entry.IsSound` says so of a whole tree. In such a tree the entry of a name is the only one of
that name (`Entry.IsSound.child?_eq_some_iff`), and what stands at a location is sound again
(`Entry.IsSound.at?`).
-/

namespace ScriptCensus

namespace Entry

/-- Trees as file systems hold them: the names in a directory are different from each other, and each
can be the name of an entry. -/
inductive IsSound : Entry → Prop
  | file (content : ByteArray) : IsSound (.file content)
  | shared (number : Nat) : IsSound (.shared number)
  | link (target : String) : IsSound (.link target)
  | device : IsSound .device
  | directory {entries : List (String × Entry)} (distinct : (entries.map (·.1)).Nodup)
      (names : ∀ x ∈ entries, Path.IsName x.1) (below : ∀ x ∈ entries, IsSound x.2) :
      IsSound (.directory entries)

theorem lookup_eq_some_iff_mem {name : String} {e : Entry} :
    ∀ {entries : List (String × Entry)}, (entries.map (·.1)).Nodup →
      (entries.lookup name = some e ↔ (name, e) ∈ entries)
  | [], _ => by simp
  | (n, c) :: rest, h => by
    obtain ⟨hn, hrest⟩ := List.nodup_cons.1 h
    by_cases heq : name = n
    · subst heq
      have hnot : (name, e) ∉ rest := fun hmem => hn (List.mem_map.2 ⟨_, hmem, rfl⟩)
      simp [hnot, eq_comm]
    · have hne : (name == n) = false := beq_eq_false_iff_ne.2 heq
      simp [List.lookup_cons, hne, heq, lookup_eq_some_iff_mem hrest]

/-- The entry of a name in a sound directory. -/
theorem IsSound.child?_eq_some_iff {entries : List (String × Entry)}
    (h : IsSound (.directory entries)) {name : String} {e : Entry} :
    (Entry.directory entries).child? name = some e ↔ (name, e) ∈ entries := by
  cases h with
  | directory distinct => exact lookup_eq_some_iff_mem distinct

theorem at?_concat (name : String) : ∀ {l : List String} {e c : Entry}, e.at? l = some c →
    e.at? (l ++ [name]) = c.child? name
  | [], e, c, h => by
    obtain rfl : e = c := Option.some.inj h
    rw [List.nil_append, at?]
    cases e.child? name <;> rfl
  | n :: rest, e, c, h => by
    rw [at?] at h
    rw [List.cons_append, at?]
    cases hd : e.child? n with
    | none => simp [hd] at h
    | some d =>
      rw [hd] at h
      exact at?_concat name h

/-- All that stands below a sound entry is sound, and the names on the way to it are names. -/
theorem IsSound.at? {e c : Entry} (h : e.IsSound) {l : List String} (hl : e.at? l = some c) :
    c.IsSound ∧ ∀ name ∈ l, Path.IsName name := by
  induction l generalizing e with
  | nil =>
    obtain rfl : e = c := Option.some.inj hl
    exact ⟨h, by simp⟩
  | cons name rest ih =>
    rw [Entry.at?] at hl
    cases hd : e.child? name with
    | none => simp [hd] at hl
    | some d =>
      rw [hd] at hl
      cases e with
      | file _ | shared _ | link _ | device => simp [child?] at hd
      | directory entries =>
        have hmem := h.child?_eq_some_iff.1 hd
        cases h with
        | directory _ names below =>
          obtain ⟨hc, hrest⟩ := ih (below _ hmem) hl
          exact ⟨hc, List.forall_mem_cons.2 ⟨names _ hmem, hrest⟩⟩

end Entry

namespace FileSystem

/-- A path that leads somewhere is not spelled by nothing. -/
theorem text_ne_empty_of_entry {fs : FileSystem} {p : Path} {e : Entry} (h : fs.entry p = .ok e) :
    p.text ≠ "" := by
  intro hempty
  simp [entry, find, hempty] at h

theorem isSound_of_entry {fs : FileSystem} (hfs : fs.top.IsSound) {p : Path} {e : Entry}
    (h : fs.entry p = .ok e) : e.IsSound := by
  unfold entry at h
  split at h
  · simp at h
  · simp at h
  · next location _ =>
    split at h
    · next c hc =>
      obtain rfl : c = e := by simpa using h
      exact (hfs.at? hc).1
    · simp at h

end FileSystem

end ScriptCensus
