import ScriptCensus.Proofs.SoundTrees

/-!
# What stands at a location

The surface of an entry is the entry without what is below it. A file system is known by the
surfaces at its locations (`FileSystem.surface?`), and the operations on it change them one at a
time: putting an entry at a location changes the surface there and nowhere else (`surface?_put`),
and so does taking one away (`surface?_drop`). Both ask that no directory is there, since all that
is below a directory would go with it.
-/

namespace ScriptCensus

namespace Entry

/-- An entry without what is below it. -/
def surface : Entry → Entry
  | directory _ => directory []
  | e => e

theorem lookup_put (name n : String) (e : Entry) :
    ∀ entries : List (String × Entry),
      (put name e entries).lookup n = if n = name then some e else entries.lookup n
  | [] => by
    rw [put, List.lookup_cons]
    by_cases h : n = name
    · simp [h]
    · simp [h, beq_eq_false_iff_ne.2 h]
  | (m, old) :: rest => by
    rw [put]
    by_cases hm : m = name
    · rw [if_pos hm, hm, List.lookup_cons, List.lookup_cons]
      by_cases h : n = name
      · simp [h]
      · simp [h, beq_eq_false_iff_ne.2 h]
    · rw [if_neg hm, List.lookup_cons, List.lookup_cons, lookup_put name n e rest]
      by_cases h : n = m
      · have hne : n ≠ name := fun heq => hm (h ▸ heq)
        simp [h, hm]
      · simp [beq_eq_false_iff_ne.2 h]

theorem lookup_drop (name n : String) :
    ∀ entries : List (String × Entry),
      (drop name entries).lookup n = if n = name then none else entries.lookup n
  | [] => by simp [drop]
  | (m, old) :: rest => by
    have ih := lookup_drop name n rest
    rw [drop] at ih ⊢
    rw [List.filter_cons, List.lookup_cons]
    by_cases hm : m = name
    · rw [if_neg (by simp [hm]), ih]
      by_cases h : n = name
      · simp [h]
      · have hne : (n == m) = false := beq_eq_false_iff_ne.2 (hm ▸ h)
        simp [h, hne]
    · rw [if_pos (by simp [hm]), List.lookup_cons, ih]
      by_cases h : n = m
      · simp [h, hm]
      · simp [beq_eq_false_iff_ne.2 h]

theorem at?_append (m : List String) : ∀ (l : List String) (e : Entry),
    e.at? (l ++ m) = (e.at? l).bind (·.at? m)
  | [], e => rfl
  | name :: rest, e => by
    rw [List.cons_append, at?, at?]
    cases e.child? name with
    | none => rfl
    | some c => exact at?_append m rest c

theorem at?_directory_cons (entries : List (String × Entry)) (name : String) (rest : List String) :
    (directory entries).at? (name :: rest) = (entries.lookup name).bind (·.at? rest) := by
  rw [at?, child?]
  cases entries.lookup name <;> rfl

/-- Nothing stands below what is no directory. -/
theorem at?_cons_eq_none {e : Entry} (h : ∀ entries, e ≠ directory entries) (name : String)
    (rest : List String) : e.at? (name :: rest) = none := by
  have hchild : e.child? name = none := by
    cases e with
    | directory entries => exact absurd rfl (h entries)
    | _ => rfl
  rw [at?, hchild]

/-- Nothing stands below an entry that is its own surface. -/
theorem at?_cons_of_surface_eq {e : Entry} (h : e.surface = e) (name : String)
    (rest : List String) : e.at? (name :: rest) = none := by
  cases e with
  | directory entries =>
    obtain rfl : [] = entries := by simpa [surface] using h
    rfl
  | file _ | shared _ | link _ | device => exact at?_cons_eq_none (by simp) name rest

/-- A changed directory holds what the change says. -/
theorem at?_alter_append (change : List (String × Entry) → List (String × Entry))
    (m : List String) :
    ∀ (l : List String) {e : Entry} {entries : List (String × Entry)},
      e.at? l = some (directory entries) →
        (alter change l e).at? (l ++ m) = (directory (change entries)).at? m
  | [], e, entries, h => by
    obtain rfl : e = directory entries := Option.some.inj h
    rfl
  | name :: rest, e, entries, h => by
    cases e with
    | file _ | shared _ | link _ | device => simp [at?, child?] at h
    | directory es =>
      rw [at?_directory_cons] at h
      obtain ⟨c, hc, hrest⟩ := Option.bind_eq_some_iff.1 h
      rw [alter, hc, List.cons_append, at?_directory_cons, lookup_put, if_pos rfl, Option.bind_some]
      exact at?_alter_append change m rest hrest

/-- Outside a changed directory all surfaces stay. -/
theorem surface_at?_alter (change : List (String × Entry) → List (String × Entry)) :
    ∀ (l m : List String) (e : Entry), ¬ l <+: m →
      ((alter change l e).at? m).map surface = (e.at? m).map surface
  | [], m, e, h => absurd (List.nil_prefix) h
  | name :: rest, m, e, h => by
    cases e with
    | file _ | shared _ | link _ | device => rfl
    | directory es =>
      rw [alter]
      cases hc : es.lookup name with
      | none => rfl
      | some c =>
        cases m with
        | nil => rfl
        | cons n ms =>
          simp only [at?_directory_cons, lookup_put]
          by_cases hn : n = name
          · have hms : ¬ rest <+: ms := by
              intro hp
              exact h (hn ▸ List.cons_prefix_cons.2 ⟨rfl, hp⟩)
            rw [if_pos hn, hn, hc, Option.bind_some, Option.bind_some]
            exact surface_at?_alter change rest ms c hms
          · rw [if_neg hn]

end Entry

namespace FileSystem

/-- What stands at a location, without what is below it. -/
def surface? (fs : FileSystem) (l : List String) : Option Entry :=
  (fs.top.at? l).map Entry.surface

/-- A directory stands at a location. -/
def HasDirectory (fs : FileSystem) (l : List String) : Prop :=
  fs.surface? l = some (.directory [])

variable {fs : FileSystem} {l m : List String} {name : String} {e : Entry}

theorem hasDirectory_iff :
    fs.HasDirectory l ↔ ∃ entries, fs.top.at? l = some (.directory entries) := by
  rw [HasDirectory, surface?]
  constructor
  · intro h
    obtain ⟨e, he, hs⟩ := Option.map_eq_some_iff.1 h
    cases e with
    | directory entries => exact ⟨entries, he⟩
    | file _ | shared _ | link _ | device => simp [Entry.surface] at hs
  · rintro ⟨entries, h⟩
    rw [h]
    rfl

/-- What is no directory is its own surface. -/
theorem surface?_eq_some_iff (h : ∀ entries, e ≠ .directory entries) :
    fs.surface? l = some e ↔ fs.top.at? l = some e := by
  rw [surface?, Option.map_eq_some_iff]
  constructor
  · rintro ⟨c, hc, rfl⟩
    cases c with
    | directory entries => exact absurd rfl (h [])
    | file _ | shared _ | link _ | device => exact hc
  · intro he
    refine ⟨e, he, ?_⟩
    cases e with
    | directory entries => exact absurd rfl (h entries)
    | file _ | shared _ | link _ | device => rfl

/-- The surface of an entry in a directory. -/
theorem surface?_concat {entries : List (String × Entry)}
    (h : fs.top.at? l = some (.directory entries)) :
    fs.surface? (l ++ [name]) = (entries.lookup name).map Entry.surface := by
  rw [surface?, Entry.at?_concat name h]
  rfl

/-- What stands at a location stands in directories all the way. -/
theorem hasDirectory_of_append (h : fs.surface? (l ++ name :: m) = some e) : fs.HasDirectory l := by
  rw [surface?, Entry.at?_append] at h
  cases hl : fs.top.at? l with
  | none => simp [hl] at h
  | some c =>
    rw [hl, Option.bind_some] at h
    cases c with
    | directory entries => exact hasDirectory_iff.2 ⟨entries, hl⟩
    | file _ | shared _ | link _ | device => simp [Entry.at?, Entry.child?] at h

theorem HasDirectory.dropLast (h : fs.HasDirectory l) : fs.HasDirectory l.dropLast := by
  rcases List.eq_nil_or_concat l with rfl | ⟨front, last, rfl⟩
  · exact h
  · rw [List.concat_eq_append] at h
    rw [List.concat_eq_append, List.dropLast_concat]
    exact hasDirectory_of_append h

/-- Nothing stands below a location without a directory. -/
theorem surface?_append_eq_none (h : ¬ fs.HasDirectory l) :
    fs.surface? (l ++ name :: m) = none := by
  rw [Option.eq_none_iff_forall_not_mem]
  exact fun e he => h (hasDirectory_of_append he)

/-! ## Changes at one location -/

/-- A change that concerns one name in a directory, where no directory stands before or after,
changes the surface there and nowhere else. -/
theorem surface?_alter {d : List String} (hd : fs.HasDirectory d)
    (hname : ¬ fs.HasDirectory (d ++ [name]))
    {change : List (String × Entry) → List (String × Entry)} {new? : Option Entry}
    (hchange : ∀ entries n, (change entries).lookup n = if n = name then new? else entries.lookup n)
    (hnew : ∀ e ∈ new?, e.surface = e) (l : List String) :
    (fs.alter d change).surface? l = if l = d ++ [name] then new? else fs.surface? l := by
  obtain ⟨entries, hentries⟩ := hasDirectory_iff.1 hd
  by_cases hprefix : d <+: l
  · obtain ⟨m, rfl⟩ := hprefix
    rw [surface?, alter, Entry.at?_alter_append change m d hentries]
    cases m with
    | nil =>
      rw [if_neg (by simp), List.append_nil, hd]
      rfl
    | cons n rest =>
      rw [Entry.at?_directory_cons, hchange]
      by_cases hn : n = name
      · rw [if_pos hn, hn]
        cases rest with
        | nil =>
          rw [if_pos rfl]
          cases new? with
          | none => rfl
          | some e => exact congrArg some (hnew e rfl)
        | cons k rest =>
          have hbelow : fs.surface? ((d ++ [name]) ++ k :: rest) = none :=
            surface?_append_eq_none hname
          rw [List.append_assoc, List.singleton_append] at hbelow
          rw [if_neg (by simp), hbelow]
          cases new? with
          | none => rfl
          | some e =>
            rw [Option.bind_some, Entry.at?_cons_of_surface_eq (hnew e rfl), Option.map_none]
      · rw [if_neg hn, if_neg (by simp [hn]), surface?, Entry.at?_append, hentries,
          Option.bind_some, Entry.at?_directory_cons]
  · have hne : l ≠ d ++ [name] := fun h => hprefix (h ▸ List.prefix_append _ _)
    rw [if_neg hne]
    exact Entry.surface_at?_alter change d l fs.top hprefix

/-- Putting an entry where no directory is. -/
theorem surface?_put {d : List String} (hd : fs.HasDirectory d)
    (hname : ¬ fs.HasDirectory (d ++ [name])) (he : e.surface = e) (l : List String) :
    (fs.alter d (Entry.put name e)).surface? l =
      if l = d ++ [name] then some e else fs.surface? l :=
  surface?_alter hd hname (fun entries n => Entry.lookup_put name n e entries)
    (by rintro e ⟨⟩; exact he) l

/-- Taking away what is no directory. -/
theorem surface?_drop {d : List String} (hd : fs.HasDirectory d)
    (hname : ¬ fs.HasDirectory (d ++ [name])) (l : List String) :
    (fs.alter d (Entry.drop name)).surface? l =
      if l = d ++ [name] then none else fs.surface? l :=
  surface?_alter hd hname (fun entries n => Entry.lookup_drop name n entries) (by simp) l

theorem putAt_concat (d : List String) (name : String) (e : Entry) :
    fs.putAt (d ++ [name]) e = fs.alter d (Entry.put name e) := by
  rw [putAt, List.getLast?_concat, List.dropLast_concat]

theorem dropAt_concat (d : List String) (name : String) :
    fs.dropAt (d ++ [name]) = fs.alter d (Entry.drop name) := by
  rw [dropAt, List.getLast?_concat, List.dropLast_concat]

end FileSystem

end ScriptCensus
