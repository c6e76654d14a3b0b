import ScriptCensus.Proofs.EffectiveSettings
import ScriptCensus.Proofs.FaithfulShapes
import ScriptCensus.Proofs.ReadShapes

/-!
# Configurations as they are written

A configuration stands in a file of its own or in a package file, where it is one member of a larger
value. The first is read straight from the text, the second by way of a value. Both come to the
configuration that the written value stands for, if nothing is wrong with it
(`FileSystem.configFile_of_written`, `FileSystem.packageConfig?_of_written`), so a configuration means
the same in either place.

Every configuration can be told from its own text, whether or not anything is wrong with it, and what
was read from any text is such a configuration (`Config.parse_text`).
-/

namespace ScriptCensus

open JsonReader

theorem Config.within_shape (levels : Nat) : Config.shape.Within (levels + 2) :=
  ⟨rfl, levels + 1, rfl, ⟨levels, rfl, trivial⟩, trivial, trivial, ⟨levels, rfl, trivial⟩, Nat.le_refl 64,
    trivial, trivial⟩

/-! ## In either place -/

/-- An object with one member is read as one with that member. -/
theorem JsonValue.Like.exists_member {key : String} {v w : JsonValue}
    (h : (JsonValue.object [(key, v)]).Like w) : ∃ u, w = .object [(key, u)] ∧ v.Like u := by
  cases h with
  | object _ hms hperm =>
    cases hms with
    | cons _ hv hrest =>
      cases hrest
      exact ⟨_, congrArg JsonValue.object (List.singleton_perm.1 hperm).symm, hv⟩

namespace FileSystem

variable {fs fs' : FileSystem} {path path' : Path} {text text' : String} {v : JsonValue}

theorem configFile_of_written (hread : fs.readText path = .ok text) (htext : v.Written text)
    (c : Config) :
    fs.configFile path = .ok c ↔ Config.ofValue v = .ok c ∧ c.fault? = none := by
  have hparse := Config.shape.readText_eq_ok_iff (Config.within_shape 125) htext c
  rw [configFile_eq_ok_iff]
  constructor
  · rintro ⟨⟨hread', hok⟩, hfault⟩
    cases hread'.symm.trans hread
    exact ⟨hparse.1 hok, hfault⟩
  · rintro ⟨hok, hfault⟩
    exact ⟨.file hread (hparse.2 hok), hfault⟩

theorem packageConfig?_of_written (hv : v.Distinct) (hread : fs.readText path = .ok text)
    (htext : (JsonValue.object [(packageKey, v)]).Written text) (c? : Option Config) :
    fs.packageConfig? path = .ok c? ↔
      ∃ c, c? = some c ∧ Config.ofValue v = .ok c ∧ c.fault? = none := by
  have hpackage := htext.readAs (.object (by simp) (by simpa using hv))
  cases hjson : readJson text with
  | error fault =>
    rw [hjson] at hpackage
    simp only [packageConfig?, hread, hjson, reduceCtorEq, false_iff]
    rintro ⟨c, -, hok, -⟩
    have hplain := Config.shape.plain_of_ofValue 126 (Config.within_shape 124) hok
    exact absurd (hpackage.2 (.object (by simpa using hplain))) (by simp [Except.toOption])
  | ok package =>
    rw [hjson] at hpackage
    obtain ⟨u, rfl, hlike⟩ := (hpackage.1 package rfl).exists_member
    have hmember : (JsonValue.object [(packageKey, u)]).member? packageKey = some u := by
      simp [JsonValue.member?]
    have hfits := Config.shape.ofValue_eq_ok_iff (Config.within_shape 0) hlike
    simp only [packageConfig?, hread, hjson, hmember]
    constructor
    · intro h
      split at h
      · cases h
      · next c hok =>
        split at h
        · cases h
        · next hfault =>
          cases h
          exact ⟨c, rfl, (hfits c).2 hok, hfault⟩
    · rintro ⟨c, rfl, hok, hfault⟩
      have hok' : Config.ofValue u = .ok c := (hfits c).1 hok
      rw [hok']
      simp only [hfault]

/-- A configuration means the same in a file of its own and in a package file. -/
theorem configFile_agrees_packageConfig? (hv : v.Distinct) (hread : fs.readText path = .ok text)
    (htext : v.Written text) (hread' : fs'.readText path' = .ok text')
    (htext' : (JsonValue.object [(packageKey, v)]).Written text') :
    (∃ c, fs.configFile path = .ok c ∧ fs'.packageConfig? path' = .ok (some c)) ∨
      (∃ e, fs.configFile path = .error e) ∧ ∃ e, fs'.packageConfig? path' = .error e := by
  have hfile := configFile_of_written hread htext
  have hpackage := packageConfig?_of_written hv hread' htext'
  by_cases hc : ∃ c, Config.ofValue v = .ok c ∧ c.fault? = none
  · obtain ⟨c, hc⟩ := hc
    exact Or.inl ⟨c, (hfile c).2 hc, (hpackage (some c)).2 ⟨c, rfl, hc⟩⟩
  · refine Or.inr ⟨?_, ?_⟩
    · cases h : fs.configFile path with
      | error e => exact ⟨e, rfl⟩
      | ok c => exact absurd ⟨c, (hfile c).1 h⟩ hc
    · cases h : fs'.packageConfig? path' with
      | error e => exact ⟨e, rfl⟩
      | ok c? =>
        obtain ⟨c, -, hok⟩ := (hpackage c?).1 h
        exact absurd ⟨c, hok⟩ hc

/-- A directory that has the same value in both places, in different layouts. -/
def inBothPlaces (v : JsonValue) : FileSystem :=
  { top := .directory [(".funcscanrc.json", .file v.compact.toUTF8),
      ("package.json", .file (JsonValue.object [(packageKey, v)]).pretty.toUTF8)],
    here := [] }

theorem readText_inBothPlaces (v : JsonValue) :
    (inBothPlaces v).readText ⟨".funcscanrc.json"⟩ = .ok v.compact ∧
      (inBothPlaces v).readText ⟨"package.json"⟩ =
        .ok (JsonValue.object [(packageKey, v)]).pretty := by
  have hown : piecesOf ".funcscanrc.json" = [".funcscanrc.json"] := by decide +kernel
  have hpackage : piecesOf "package.json" = ["package.json"] := by decide +kernel
  constructor
  · exact (readText_of_lookup (by decide +kernel) (by decide) ⟨Or.inl hown, by decide +kernel⟩
      rfl).2
  · exact (readText_of_lookup (by decide +kernel) (by decide) ⟨Or.inl hpackage, by decide +kernel⟩
      rfl).2

/-- An array gives the members in order, and those at the end may be missing. -/
theorem configFile_agrees_packageConfig?_array :
    let v := JsonValue.array [.array [], .string "r.json", .null, .null, .number (.natural 30)]
    let c : Config := { output? := some ⟨"r.json"⟩, timeout? := some 30 }
    (inBothPlaces v).configFile ⟨".funcscanrc.json"⟩ = .ok c ∧
      (inBothPlaces v).packageConfig? ⟨"package.json"⟩ = .ok (some c) := by
  intro v c
  have hv : v.Distinct := by
    refine .array fun u hu => ?_
    simp only [List.mem_cons, List.not_mem_nil, or_false] at hu
    rcases hu with rfl | rfl | rfl | rfl | rfl
    · exact .array (by simp)
    · exact .string _
    · exact .null
    · exact .null
    · exact .number _
  obtain ⟨hown, hpackage⟩ := readText_inBothPlaces v
  have hfile : (inBothPlaces v).configFile ⟨".funcscanrc.json"⟩ = .ok c :=
    (configFile_of_written hown v.written_compact c).2 ⟨rfl, rfl⟩
  rcases configFile_agrees_packageConfig? hv hown v.written_compact hpackage
    (JsonValue.written_pretty _) with ⟨c', hc', hsame⟩ | ⟨⟨e, he⟩, -⟩
  · cases hfile.symm.trans hc'
    exact ⟨hfile, hsame⟩
  · cases hfile.symm.trans he

end FileSystem

/-! ## There and back -/

theorem Shape.fits_optional {α : Type} {item : Shape α} {levels : Nat} {a? : Option α}
    (hnull : ∀ a, item.toValue a ≠ .null) (h : ∀ a ∈ a?, item.Fits levels a) :
    (Shape.optional item).Fits levels a? := by
  cases a? with
  | none => trivial
  | some a => exact ⟨h a rfl, hnull a⟩

namespace Config

/-- Every configuration whose time is a number of 64 bits can be told from its text. -/
theorem fits_shape (levels : Nat) {c : Config} (h : ∀ n, c.timeout? = some n → n < 2 ^ 64) :
    shape.Fits (levels + 2) c := by
  have hkeys : fields.keys.Nodup := by decide
  refine ⟨rfl, levels + 1, rfl, hkeys, ⟨levels, rfl, fun _ _ => trivial⟩, ?_, ?_, ?_, ?_, ?_, trivial⟩
  · exact Shape.fits_optional (fun _ => by simp [pathShape, Shape.toValue]) fun _ _ => ⟨rfl, trivial⟩
  · exact Shape.fits_optional (fun _ => by simp [Shape.toValue]) fun _ _ => trivial
  · exact Shape.fits_optional (fun _ => by simp [Shape.toValue])
      fun _ _ => ⟨levels, rfl, fun _ _ => trivial⟩
  · exact Shape.fits_optional (fun _ => by simp [Shape.toValue])
      fun n hn => ⟨h n hn, le_maxNatural_of_lt (Nat.le_refl 64) (h n hn)⟩
  · exact Shape.fits_optional (fun _ => by simp [Shape.toValue]) fun _ _ => trivial

/-- What is left out stands for what fits, so nothing that is read is lost. -/
theorem faithful_shape (levels : Nat) : shape.Faithful (levels + 2) := by
  have hkeys : fields.keys.Nodup := by decide
  have habsent : ∀ {α : Type} (item : Shape α), ∀ a? ∈ some (none : Option α),
      (Shape.optional item).Fits (levels + 1) a? := by
    rintro α item _ ⟨⟩
    trivial
  have hlist : (Shape.list (.text "a string")).Faithful (levels + 1) := ⟨levels, rfl, trivial⟩
  refine ⟨fun _ => rfl, levels + 1, rfl, hkeys, ⟨hlist, ?_⟩, ⟨⟨⟨fun _ => rfl, trivial⟩, ?_⟩, habsent _⟩,
    ⟨⟨trivial, ?_⟩, habsent _⟩, ⟨⟨hlist, ?_⟩, habsent _⟩, ⟨⟨Nat.le_refl 64, ?_⟩, habsent _⟩,
    ⟨⟨trivial, ?_⟩, habsent _⟩, trivial⟩
  · rintro _ ⟨⟩
    exact ⟨levels, rfl, by simp⟩
  all_goals
    intro a
    simp [pathShape, Shape.toValue]

/-- A configuration is read back from its own text, and so is every one that was ever read. -/
theorem parse_text :
    (∀ c : Config, (∀ n, c.timeout? = some n → n < 2 ^ 64) → parse c.text = .ok c) ∧
      ∀ (s : String) (c : Config), parse s = .ok c → parse c.text = .ok c := by
  constructor
  · intro c h
    exact shape.readText_compact (fits_shape 125 h)
  · intro s c h
    exact shape.readText_compact (Shape.fits_of_readText (faithful_shape 125) h)

/-- A configuration in which nothing is valid is read back all the same, and so is one that was given as
an array. -/
theorem parse_text_invalid_array :
    let invalid : Config :=
      { exclude := ["["], output? := some ⟨""⟩, endpoint? := some "\n\"", command? := some [],
        timeout? := some (2 ^ 64 - 1) }
    let given : Config := { exclude := ["a"], output? := some ⟨"b"⟩ }
    parse invalid.text = .ok invalid ∧ parse "[[\"a\"], \"b\"]" = .ok given ∧
      parse given.text = .ok given := by
  intro invalid given
  have hgiven : parse "[[\"a\"], \"b\"]" = .ok given := by cbv
  refine ⟨parse_text.1 invalid ?_, hgiven, parse_text.2 _ given hgiven⟩
  rintro _ ⟨⟩
  decide

end Config

end ScriptCensus
