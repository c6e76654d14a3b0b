import ScriptCensus.Proofs.CommandLines
import ScriptCensus.Proofs.ConfiguredExcludes
import ScriptCensus.Proofs.RuleSets

/-!
# The settings in force

A scan goes by what the command line says and, where that says nothing, by a configuration. There is
always exactly one place where a configuration is looked for (`FileSystem.InForce`): the file that was
named, or else the first file that is there, or none. What a place says is `FileSystem.Provides`; it
has no readers in it, so a place that is missing or malformed says nothing at all.

Loading a configuration comes to what the place in force provides, if nothing is wrong with that
(`FileSystem.loadConfig_eq_ok_iff`). Options that were read from a command line are in order
(`CliRequest.inOrder`), as every step of reading keeps them so. From both it follows that settings are
valid whatever is put in whose place (`CliOptions.settled`).
-/

namespace ScriptCensus

/-! ## What was read from a command line -/

/-- Options whose values were looked at as they were read. -/
structure CliOptions.InOrder (o : CliOptions) : Prop where
  output : ∀ path, o.output? = some path → path.text ≠ ""
  timeout : ∀ n, o.timeout? = some n → 0 < n

namespace CliRequest

/-- Whether a property of options is kept by everything that can be read from a command line. -/
structure Kept (P : CliOptions → Prop) : Prop where
  value : ∀ {o o' option s}, P o → o.setValue? option s = some o' → P o'
  flag : ∀ {o o' flag}, P o → setFlag o flag = .ok o' → P o'
  path : ∀ {o o' s}, P o → o.addPath? s = some o' → P o'

section Kept

variable {P : CliOptions → Prop} {o o' : CliOptions} {option? : Option ValueOption}

theorem Kept.orMisuse (hP : Kept P) {option : ValueOption} {s : String} (h : P o)
    (heq : (orMisuse (o.setValue? option s)).map (·, (none : Option ValueOption)) =
      .ok (o', option?)) : P o' := by
  cases hset : o.setValue? option s with
  | none => simp [hset, CliRequest.orMisuse, Except.map] at heq
  | some changed =>
    simp only [hset, CliRequest.orMisuse, Except.map, Except.ok.injEq, Prod.mk.injEq] at heq
    exact heq.1 ▸ hP.value h hset

theorem Kept.readLetters (hP : Kept P) {cs : List Char} (h : P o)
    (heq : readLetters o cs = .ok (o', option?)) : P o' := by
  fun_induction CliRequest.readLetters o cs with
  | case1 o =>
    cases heq
    exact h
  | case2 _ _ _ _ _ _ hflag ih => exact ih (hP.flag h hflag) heq
  | case3 => cases heq
  | case4 =>
    cases heq
    exact h
  | case5 => exact hP.orMisuse h heq
  | case6 => exact hP.orMisuse h heq
  | case7 => cases heq

theorem Kept.readLong (hP : Kept P) {name : String} {value? : Option String} (h : P o)
    (heq : readLong o name value? = .ok (o', option?)) : P o' := by
  unfold CliRequest.readLong at heq
  split at heq
  · next flag _ =>
    cases hflag : setFlag o flag with
    | error r => simp [hflag, Except.map] at heq
    | ok changed =>
      simp only [hflag, Except.map, Except.ok.injEq, Prod.mk.injEq] at heq
      exact heq.1 ▸ hP.flag h hflag
  · cases heq
  · exact hP.orMisuse h heq
  · cases heq
    exact h
  · cases heq

theorem Kept.readArgument (hP : Kept P) {a : Argument} (h : P o)
    (heq : readArgument o a = .ok (o', option?)) : P o' := by
  cases a with
  | divider =>
    cases heq
    exact h
  | long name value? => exact hP.readLong h heq
  | letters cs => exact hP.readLetters h heq
  | path s =>
    cases hadd : o.addPath? s with
    | none => simp [CliRequest.readArgument, hadd, CliRequest.orMisuse, Except.map] at heq
    | some changed =>
      simp only [CliRequest.readArgument, hadd, CliRequest.orMisuse, Except.map, Except.ok.injEq,
        Prod.mk.injEq] at heq
      exact heq.1 ▸ hP.path h hadd

theorem Kept.addPaths (hP : Kept P) {paths : List String} (h : P o)
    (heq : addPaths o paths = .ok o') : P o' := by
  induction paths generalizing o with
  | nil =>
    cases heq
    exact h
  | cons s rest ih =>
    rw [CliRequest.addPaths] at heq
    cases hadd : o.addPath? s with
    | none => simp [hadd] at heq
    | some changed =>
      rw [hadd] at heq
      exact ih (hP.path h hadd) heq

/-- What every step keeps holds at the end of a command line. -/
theorem Kept.read (hP : Kept P) {arguments : List String} (h : P o)
    (heq : read o arguments = .ok o') : P o' := by
  fun_induction CliRequest.read o arguments with
  | case1 o =>
    cases heq
    exact h
  | case2 => exact hP.addPaths h heq
  | case3 => cases heq
  | case4 _ _ _ _ _ hargument ih => exact ih (hP.readArgument h hargument) heq
  | case5 => cases heq
  | case6 _ _ _ _ _ hargument _ _ _ _ hvalue ih =>
    exact ih (hP.value (hP.readArgument h hargument) hvalue) heq
  | case7 => cases heq
  | case8 => cases heq

end Kept

theorem exists_fill {α : Type} {place value? filled : Option α}
    (h : CliOptions.fill place value? = some filled) : ∃ a, value? = some a ∧ filled = some a := by
  unfold CliOptions.fill at h
  split at h
  · cases h
  · obtain ⟨a, ha, rfl⟩ := Option.map_eq_some_iff.1 h
    exact ⟨a, ha, rfl⟩

theorem text_ne_empty_of_path? {s : String} {path : Path} (h : CliOptions.path? s = some path) :
    path.text ≠ "" := by
  unfold CliOptions.path? at h
  split at h
  · cases h
  · next hempty =>
    cases h
    simpa [String.isEmpty_iff] using hempty

theorem pos_of_seconds? {s : String} {n : Nat} (h : CliOptions.seconds? s = some n) : 0 < n := by
  simp only [CliOptions.seconds?, Option.ite_none_left_eq_some, Option.ite_none_right_eq_some,
    Bool.and_eq_true, decide_eq_true_eq, Option.some.injEq] at h
  obtain ⟨-, ⟨hpos, -⟩, rfl⟩ := h
  exact hpos

theorem kept_inOrder : Kept CliOptions.InOrder where
  value := by
    intro o o' option s h heq
    cases option with
    | outputFile =>
      obtain ⟨filled, hfill, rfl⟩ := Option.map_eq_some_iff.1 heq
      obtain ⟨path, hpath, rfl⟩ := exists_fill hfill
      exact ⟨by rintro _ ⟨⟩; exact text_ne_empty_of_path? hpath, h.timeout⟩
    | timeout =>
      obtain ⟨filled, hfill, rfl⟩ := Option.map_eq_some_iff.1 heq
      obtain ⟨n, hn, rfl⟩ := exists_fill hfill
      exact ⟨h.output, by rintro _ ⟨⟩; exact pos_of_seconds? hn⟩
    | config | endpoint | command =>
      obtain ⟨filled, -, rfl⟩ := Option.map_eq_some_iff.1 heq
      exact ⟨h.output, h.timeout⟩
    | argument =>
      cases heq
      exact ⟨h.output, h.timeout⟩
  flag := by
    intro o o' flag h heq
    cases flag with
    | noInference | traversalOrder =>
      simp only [setFlag] at heq
      split at heq
      · cases heq
      · cases heq
        exact ⟨h.output, h.timeout⟩
    | verbose =>
      cases heq
      exact ⟨h.output, h.timeout⟩
    | help | version => cases heq
  path := by
    intro o o' s h heq
    obtain ⟨path, -, rfl⟩ := Option.map_eq_some_iff.1 heq
    exact ⟨h.output, h.timeout⟩

theorem inOrder {arguments : List String} {o : CliOptions}
    (h : ofArguments arguments = .scan o) : o.InOrder :=
  kept_inOrder.read ⟨by simp, by simp⟩ (read_of_scan h).1

/-- A service and a program are never named together. -/
theorem endpoint?_eq_none_or {arguments : List String} {o : CliOptions}
    (h : ofArguments arguments = .scan o) : o.endpoint? = none ∨ o.command? = none := by
  have hconsistent := (read_of_scan h).2
  cases hendpoint : o.endpoint? with
  | none => exact Or.inl rfl
  | some endpoint =>
    cases hcommand : o.command? with
    | none => exact Or.inr rfl
    | some program => simp [CliOptions.isConsistent, hendpoint, hcommand] at hconsistent

end CliRequest

/-! ## Where a configuration comes from -/

/-- Where a configuration is looked for. -/
inductive ConfigPlace where
  /-- A file that holds nothing else. -/
  | file (path : Path)
  /-- A member of a package file. -/
  | package (path : Path)
  | nowhere

namespace FileSystem

/-- The place in force: the file that was named; if none was, the first file of a directory that is
there. -/
inductive InForce (fs : FileSystem) (directory : Path) : Option Path → ConfigPlace → Prop
  | named (path : Path) : InForce fs directory (some path) (.file path)
  | found {before after : List String} {name : String}
      (hnames : configNames = before ++ name :: after)
      (hbefore : ∀ n ∈ before, fs.isFile (directory.join ⟨n⟩) = false)
      (hname : fs.isFile (directory.join ⟨name⟩) = true) :
      InForce fs directory none (.file (directory.join ⟨name⟩))
  | package (hnames : ∀ n ∈ configNames, fs.isFile (directory.join ⟨n⟩) = false)
      (hpackage : fs.isFile (directory.join ⟨packageName⟩) = true) :
      InForce fs directory none (.package (directory.join ⟨packageName⟩))
  | nowhere (hnames : ∀ n ∈ configNames, fs.isFile (directory.join ⟨n⟩) = false)
      (hpackage : fs.isFile (directory.join ⟨packageName⟩) = false) :
      InForce fs directory none .nowhere

/-- What a place says, and the file that says it. A package file without the member says what no
place says. -/
inductive Provides (fs : FileSystem) : ConfigPlace → Config → Option Path → Prop
  | file {path : Path} {s : String} {c : Config} (hread : fs.readText path = .ok s)
      (hparse : Config.parse s = .ok c) : Provides fs (.file path) c (some path)
  | member {path : Path} {s : String} {package v : JsonValue} {c : Config}
      (hread : fs.readText path = .ok s) (hjson : readJson s = .ok package)
      (hmember : package.member? packageKey = some v) (hvalue : Config.ofValue v = .ok c) :
      Provides fs (.package path) c (some path)
  | noMember {path : Path} {s : String} {package : JsonValue} (hread : fs.readText path = .ok s)
      (hjson : readJson s = .ok package) (hmember : package.member? packageKey = none) :
      Provides fs (.package path) {} none
  | nowhere : Provides fs .nowhere {} none

variable {fs : FileSystem} {directory path : Path} {c : Config} {source? : Option Path}

/-- The first file of a list of names that is there. -/
theorem find?_join_eq_some_iff {names : List String} :
    (names.map fun name => directory.join ⟨name⟩).find? fs.isFile = some path ↔
      ∃ before name after, names = before ++ name :: after ∧
        (∀ n ∈ before, fs.isFile (directory.join ⟨n⟩) = false) ∧
        fs.isFile (directory.join ⟨name⟩) = true ∧ path = directory.join ⟨name⟩ := by
  rw [List.find?_eq_some_iff_append]
  constructor
  · rintro ⟨hpath, front, back, heq, hfront⟩
    obtain ⟨before, rest, rfl, rfl, hrest⟩ := List.map_eq_append_iff.1 heq
    obtain ⟨name, after, rfl, rfl, -⟩ := List.map_eq_cons_iff.1 hrest
    exact ⟨before, name, after, rfl, by simpa using hfront, hpath, rfl⟩
  · rintro ⟨before, name, after, rfl, hbefore, hname, rfl⟩
    refine ⟨hname, before.map fun n => directory.join ⟨n⟩, after.map fun n => directory.join ⟨n⟩,
      by simp, by simpa using hbefore⟩

/-- There is a place in force, and only one. -/
theorem existsUnique_inForce (fs : FileSystem) (directory : Path) (named? : Option Path) :
    ∃! place, fs.InForce directory named? place := by
  have hmem : ∀ {before after name}, configNames = before ++ name :: after → name ∈ configNames := by
    rintro before after name h
    simp [h]
  cases named? with
  | some path =>
    refine ⟨.file path, .named path, ?_⟩
    rintro _ ⟨⟩
    rfl
  | none =>
    cases hfind : (configNames.map fun name => directory.join ⟨name⟩).find? fs.isFile with
    | some path =>
      obtain ⟨before, name, after, hnames, hbefore, hname, rfl⟩ := find?_join_eq_some_iff.1 hfind
      refine ⟨_, .found hnames hbefore hname, ?_⟩
      rintro _ (_ | ⟨hnames', hbefore', hname'⟩ | ⟨hnone, -⟩ | ⟨hnone, -⟩)
      · have hfind' := find?_join_eq_some_iff.2 ⟨_, _, _, hnames', hbefore', hname', rfl⟩
        exact congrArg ConfigPlace.file (Option.some.inj (hfind'.symm.trans hfind))
      · simp [hnone name (hmem hnames)] at hname
      · simp [hnone name (hmem hnames)] at hname
    | none =>
      have hnames : ∀ n ∈ configNames, fs.isFile (directory.join ⟨n⟩) = false := by
        simpa using hfind
      cases hpackage : fs.isFile (directory.join ⟨packageName⟩) with
      | true =>
        refine ⟨_, .package hnames hpackage, ?_⟩
        rintro _ (_ | ⟨hnames', -, hname'⟩ | _ | ⟨-, hpackage'⟩)
        · simp [hnames _ (hmem hnames')] at hname'
        · rfl
        · simp [hpackage] at hpackage'
      | false =>
        refine ⟨_, .nowhere hnames hpackage, ?_⟩
        rintro _ (_ | ⟨hnames', -, hname'⟩ | ⟨-, hpackage'⟩ | _)
        · simp [hnames _ (hmem hnames')] at hname'
        · simp [hpackage] at hpackage'
        · rfl

/-! ## Loading -/

theorem configFile_eq_ok_iff : fs.configFile path = .ok c ↔
    fs.Provides (.file path) c (some path) ∧ c.fault? = none := by
  constructor
  · intro h
    unfold configFile at h
    split at h
    · cases h
    · next hread =>
      split at h
      · cases h
      · next hparse =>
        split at h
        · cases h
        · next hfault =>
          cases h
          exact ⟨.file hread hparse, hfault⟩
  · rintro ⟨⟨hread, hparse⟩, hfault⟩
    simp [configFile, hread, hparse, hfault]

theorem fault?_empty : Config.fault? {} = none := rfl

/-- The configuration of a package file, or that of no file if it has none. -/
def fromPackage (path : Path) : Option Config → ConfigSource
  | some c => ⟨c, some path⟩
  | none => ⟨{}, none⟩

theorem packageConfig?_eq_ok_iff :
    (fs.packageConfig? path).map (fromPackage path) = .ok ⟨c, source?⟩ ↔
      fs.Provides (.package path) c source? ∧ c.fault? = none := by
  constructor
  · intro h
    unfold packageConfig? at h
    split at h
    · cases h
    · next hread =>
      split at h
      · cases h
      · next hjson =>
        split at h
        · next hmember =>
          cases h
          exact ⟨.noMember hread hjson hmember, fault?_empty⟩
        · next hmember =>
          split at h
          · cases h
          · next hvalue =>
            split at h
            · cases h
            · next hfault =>
              cases h
              exact ⟨.member hread hjson hmember hvalue, hfault⟩
  · rintro ⟨hprovides, hfault⟩
    cases hprovides with
    | member hread hjson hmember hvalue =>
      simp [packageConfig?, hread, hjson, hmember, hvalue, hfault, Except.map, fromPackage]
    | noMember hread hjson hmember =>
      simp [packageConfig?, hread, hjson, hmember, Except.map, fromPackage]

/-- A configuration is loaded if the place in force provides it and nothing is wrong with it. -/
theorem loadConfig_eq_ok_iff {named? : Option Path} {place : ConfigPlace}
    (h : fs.InForce directory named? place) :
    fs.loadConfig directory named? = .ok ⟨c, source?⟩ ↔
      fs.Provides place c source? ∧ c.fault? = none := by
  have hfile : ∀ path, (fs.configFile path).map (fun c => (⟨c, some path⟩ : ConfigSource)) =
      .ok ⟨c, source?⟩ ↔ fs.Provides (.file path) c source? ∧ c.fault? = none := by
    intro path
    constructor
    · intro hmap
      cases hload : fs.configFile path with
      | error e => simp [hload, Except.map] at hmap
      | ok c' =>
        rw [hload] at hmap
        cases hmap
        exact configFile_eq_ok_iff.1 hload
    · rintro ⟨hprovides, hfault⟩
      obtain ⟨hread, hparse⟩ := hprovides
      rw [configFile_eq_ok_iff.2 ⟨.file hread hparse, hfault⟩]
      rfl
  cases h with
  | named path => exact hfile path
  | found hnames hbefore hname =>
    rw [loadConfig, findConfig, find?_join_eq_some_iff.2 ⟨_, _, _, hnames, hbefore, hname, rfl⟩]
    exact hfile _
  | package hnames hpackage =>
    have hnone : (configNames.map fun name => directory.join ⟨name⟩).find? fs.isFile = none := by
      simpa using hnames
    rw [loadConfig, findConfig, hnone, ← packageConfig?_eq_ok_iff]
    simp only [hpackage, if_true]
    rfl
  | nowhere hnames hpackage =>
    have habsent : fs.findConfig directory = .ok ⟨{}, none⟩ :=
      findConfig_of_absent (List.forall_mem_cons.2 ⟨hpackage, hnames⟩)
    rw [loadConfig, habsent]
    constructor
    · rintro ⟨⟩
      exact ⟨.nowhere, fault?_empty⟩
    · rintro ⟨⟨⟩, -⟩
      rfl

/-- A file at the top is found by its name, also behind a dot. -/
theorem readText_of_lookup {entries : List (String × Entry)} {p : Path} {name s : String}
    (hpath : '\x00' ∉ p.text.toList ∧ p.text ≠ "" ∧ p.text.utf8ByteSize ≤ maxPath)
    (hrelative : p.isAbsolute = false)
    (hpieces : (piecesOf p.text = [name] ∨ piecesOf p.text = [".", name]) ∧
      name ∉ ["", ".", ".."] ∧ name.utf8ByteSize ≤ maxName)
    (hlookup : entries.lookup name = some (.file s.toUTF8)) :
    let fs : FileSystem := { top := .directory entries, here := [] }
    fs.isFile p = true ∧ fs.readText p = .ok s := by
  intro fs
  obtain ⟨hpieces, hname, hshort⟩ := hpieces
  simp only [List.mem_cons, List.not_mem_nil, or_false, not_or] at hname
  have hfind : fs.find true p = .ok (.existing [name]) := by
    rcases hpieces with hpieces | hpieces <;> rw [find_eq_walk hpath hrelative hpieces] <;>
      simp [fs, walk, Entry.at?, hname, Nat.not_lt.2 hshort, hlookup]
  have hentry : fs.entry p = .ok (.file s.toUTF8) := by
    simp [entry, hfind, fs, Entry.at?, Entry.child?, hlookup]
  have hvalid : s.toUTF8.IsValidUTF8 := s.isValidUTF8
  refine ⟨by simp [isFile, hentry, Entry.isFile], ?_⟩
  simp only [readText, read, hentry, String.fromUTF8?, dif_pos hvalid]
  rfl

end FileSystem

/-! ## Settings that a scan can go by -/

/-- Whether a program has a name. -/
def NamesProgram (program : String) : Prop :=
  ∃ c ∈ program.toList, isBlank c = false

theorem namesProgram_iff {program : String} :
    NamesProgram program ↔ (trimBlanks program).isEmpty = false := by
  obtain ⟨lead, trail, htext, hlead, htrail⟩ := exists_eq_append_trimBlanks program
  constructor
  · rintro ⟨c, hc, hblank⟩
    rw [Bool.eq_false_iff]
    intro hempty
    rw [htext, String.isEmpty_iff.1 hempty] at hc
    rcases List.mem_append.1 hc with hc | hc
    · simp [hlead c hc] at hblank
    · simp [htrail c (by simpa using hc)] at hblank
  · intro h
    obtain ⟨c, hc, hblank⟩ := List.all_eq_false.1 (all_isBlank_trimBlanks h)
    exact ⟨c, by rw [htext]; simp [hc], by simpa using hblank⟩

/-- Settings that a scan can go by. -/
structure Settings.Valid (s : Settings) : Prop where
  output : s.output.text ≠ ""
  timeout : ∀ n, s.timeout? = some n → 0 < n
  service : ∀ endpoint, s.target = .service endpoint → endpointFault? endpoint = none
  program : ∀ program arguments, s.target = .command program arguments → NamesProgram program
  exclude : ∀ pattern ∈ s.exclude, ∃ glob, Glob.parse pattern = .ok glob

theorem endpointFault?_default : endpointFault? InferenceTarget.defaultEndpoint = none := by
  have h : (endpointFault? InferenceTarget.defaultEndpoint).isNone = true := by cbv
  exact Option.isNone_iff_eq_none.1 h

theorem namesProgram_of_commandFault? {program : String} {arguments : List String}
    (h : Config.commandFault? (program :: arguments) = none) : NamesProgram program := by
  rw [namesProgram_iff, Bool.eq_false_iff]
  intro hblank
  simp [Config.commandFault?, hblank] at h

/-- The settings of a configuration with which nothing is wrong. -/
theorem Config.valid_toSettings {c : Config} (h : c.fault? = none) : c.toSettings.Valid := by
  have hparts := h
  simp only [fault?, Option.orElse_eq_orElse, Option.orElse_eq_or, Option.or_eq_none_iff,
    ite_eq_right_iff, reduceCtorEq, imp_false] at hparts
  obtain ⟨-, hendpoint, hcommand, -, htime, houtput⟩ := hparts
  refine ⟨?_, ?_, ?_, ?_, ?_⟩
  · simp only [toSettings]
    cases hout : c.output? with
    | none => decide
    | some path =>
      intro hempty
      exact houtput (hout.trans (congrArg some (congrArg Path.mk hempty)))
  · intro n hn
    refine Nat.pos_of_ne_zero ?_
    rintro rfl
    exact htime hn
  · intro endpoint htarget
    simp only [toSettings, target] at htarget
    split at htarget
    · cases htarget
    · next hsome _ =>
      cases htarget
      rwa [hsome, Option.bind_some] at hendpoint
    · cases htarget
      exact endpointFault?_default
  · intro program arguments htarget
    simp only [toSettings, target] at htarget
    split at htarget
    · next hsome =>
      cases htarget
      rw [hsome, Option.bind_some] at hcommand
      exact namesProgram_of_commandFault? hcommand
    · cases htarget
    · cases htarget
  · intro pattern hpattern
    have hok := parse_isOk_of_fault? h hpattern
    cases hparse : Glob.parse pattern with
    | ok glob => exact ⟨glob, rfl⟩
    | error e => simp [hparse, Except.isOk, Except.toBool] at hok

/-! ## What the command line puts in place of a configuration -/

/-- Whether settings are made of options and a configuration: what an option sets has the value of
the option, and all else that of the configuration. -/
structure Settings.Combines (s : Settings) (o : CliOptions) (c : Config) : Prop where
  exclude : s.exclude = c.exclude
  output : s.output = (o.output?.or c.output?).getD defaultOutput
  service : ∀ endpoint, o.endpoint? = some endpoint → s.target = .service endpoint
  program : ∀ program, o.command? = some program → s.target = .command program o.arguments
  target : o.endpoint? = none → o.command? = none → s.target = c.target
  timeout : s.timeout? = o.timeout?.or c.timeout?
  order : s.order = if o.traversalOrder then .traversal else c.order

/-- Options that name a target which a report can be handed on to, if they name one. -/
structure CliOptions.TargetInOrder (o : CliOptions) : Prop where
  service : ∀ endpoint, o.endpoint? = some endpoint → endpointFault? endpoint = none
  program : ∀ program, o.command? = some program → NamesProgram program

namespace CliOptions

variable {o : CliOptions} {fs : FileSystem} {place : ConfigPlace} {c : Config} {s : Settings}
  {source? : Option Path}

theorem service_eq_ok_iff {endpoint : String} {t : InferenceTarget} :
    target.service endpoint = .ok t ↔ endpointFault? endpoint = none ∧ t = .service endpoint := by
  unfold target.service
  cases endpointFault? endpoint with
  | some fault => simp
  | none => simp [eq_comm]

theorem command_eq_ok_iff {program : String} {t : InferenceTarget} :
    target.command o program = .ok t ↔ NamesProgram program ∧ t = .command program o.arguments := by
  unfold target.command
  rw [namesProgram_iff]
  cases (trimBlanks program).isEmpty <;> simp [eq_comm]

/-- What becomes of the target of a configuration. -/
theorem target_eq_ok_iff (hone : o.endpoint? = none ∨ o.command? = none) {t t' : InferenceTarget} :
    o.target t = .ok t' ↔ o.TargetInOrder ∧
      (∀ endpoint, o.endpoint? = some endpoint → t' = .service endpoint) ∧
      (∀ program, o.command? = some program → t' = .command program o.arguments) ∧
      (o.endpoint? = none → o.command? = none → t' = t) := by
  have hkinds : ∀ P : Prop, (o.TargetInOrder ∧ P) ↔
      ((∀ endpoint, o.endpoint? = some endpoint → endpointFault? endpoint = none) ∧
        ∀ program, o.command? = some program → NamesProgram program) ∧ P :=
    fun P => and_congr_left' ⟨fun h => ⟨h.service, h.program⟩, fun h => ⟨h.1, h.2⟩⟩
  rw [hkinds]
  cases hendpoint : o.endpoint? with
  | none =>
    cases hcommand : o.command? with
    | none => simp [target, hendpoint, hcommand, eq_comm]
    | some program => simp [target, hendpoint, hcommand, command_eq_ok_iff]
  | some endpoint =>
    have hcommand : o.command? = none := by simpa [hendpoint] using hone
    simp [target, hendpoint, hcommand, service_eq_ok_iff]

/-- What options make of a configuration. -/
theorem override_eq_ok_iff (hone : o.endpoint? = none ∨ o.command? = none) :
    o.override c.toSettings = .ok s ↔ o.TargetInOrder ∧ s.Combines o c := by
  have houtput : o.output?.getD c.toSettings.output =
      (o.output?.or c.output?).getD Settings.defaultOutput := by
    cases o.output? <;> rfl
  have htimeout : (o.timeout? <|> c.toSettings.timeout?) = o.timeout?.or c.timeout? :=
    Option.orElse_eq_or
  unfold override
  constructor
  · intro h
    cases htarget : o.target c.toSettings.target with
    | error e => simp [htarget] at h
    | ok t =>
      obtain ⟨horder, hservice, hprogram, hother⟩ := (target_eq_ok_iff hone).1 htarget
      rw [htarget] at h
      cases h
      exact ⟨horder, rfl, houtput, hservice, hprogram, hother, htimeout, rfl⟩
  · rintro ⟨horder, h⟩
    have htarget : o.target c.toSettings.target = .ok s.target :=
      (target_eq_ok_iff hone).2 ⟨horder, h.service, h.program, h.target⟩
    simp only [htarget, houtput, htimeout, ← h.output, ← h.timeout]
    have hexclude : c.toSettings.exclude = s.exclude := h.exclude.symm
    have hordered : (if o.traversalOrder then .traversal else c.toSettings.order) = s.order :=
      h.order.symm
    rw [hexclude, hordered]

/-- Settings come from the place in force. -/
theorem settings_eq_ok_iff (hone : o.endpoint? = none ∨ o.command? = none)
    (hplace : fs.InForce (o.configDirectory fs) o.config? place) :
    o.settings fs = .ok (s, source?) ↔ ∃ c, fs.Provides place c source? ∧ c.fault? = none ∧
      o.TargetInOrder ∧ s.Combines o c := by
  unfold settings
  constructor
  · intro h
    cases hload : fs.loadConfig (o.configDirectory fs) o.config? with
    | error e => simp [hload] at h
    | ok source =>
      obtain ⟨hprovides, hfault⟩ := (FileSystem.loadConfig_eq_ok_iff hplace).1 hload
      simp only [hload, Config.settings, hfault] at h
      cases hover : o.override source.config.toSettings with
      | error e => simp [hover, Except.map] at h
      | ok s' =>
        rw [hover] at h
        cases h
        exact ⟨source.config, hprovides, hfault, (override_eq_ok_iff hone).1 hover⟩
  · rintro ⟨c, hprovides, hfault, hover⟩
    have hload := (FileSystem.loadConfig_eq_ok_iff hplace).2 ⟨hprovides, hfault⟩
    simp [hload, Config.settings, hfault, (override_eq_ok_iff hone).2 hover, Except.map]

theorem exists_override (hone : o.endpoint? = none ∨ o.command? = none) (h : o.TargetInOrder)
    (base : Settings) : ∃ s, o.override base = .ok s := by
  have htarget : ∃ t, o.target base.target = .ok t := by
    simp only [target_eq_ok_iff hone, h, true_and]
    cases hendpoint : o.endpoint? with
    | none =>
      cases hcommand : o.command? with
      | none => exact ⟨base.target, by simp⟩
      | some program => exact ⟨.command program o.arguments, by simp⟩
    | some endpoint =>
      have hcommand : o.command? = none := by simpa [hendpoint] using hone
      exact ⟨.service endpoint, by simp [hcommand]⟩
  obtain ⟨t, ht⟩ := htarget
  exact ⟨_, by rw [override, ht]⟩

/-- Settings are valid if they are made of options and a configuration that are in order. -/
theorem valid_of_combines (ho : o.InOrder) (htarget : o.TargetInOrder) (hc : c.fault? = none)
    (h : s.Combines o c) : s.Valid := by
  have hvalid := Config.valid_toSettings hc
  refine ⟨?_, ?_, ?_, ?_, ?_⟩
  · rw [h.output]
    cases hout : o.output? with
    | some path => exact ho.output path hout
    | none => exact hvalid.output
  · intro n hn
    rw [h.timeout] at hn
    cases htime : o.timeout? with
    | some m =>
      rw [htime] at hn
      cases hn
      exact ho.timeout n htime
    | none =>
      rw [htime] at hn
      exact hvalid.timeout n hn
  · intro endpoint heq
    cases hendpoint : o.endpoint? with
    | some e =>
      cases heq.symm.trans (h.service e hendpoint)
      exact htarget.service endpoint hendpoint
    | none =>
      cases hcommand : o.command? with
      | some program => cases heq.symm.trans (h.program program hcommand)
      | none => exact hvalid.service endpoint ((h.target hendpoint hcommand).symm.trans heq)
  · intro program arguments heq
    cases hcommand : o.command? with
    | some p =>
      cases heq.symm.trans (h.program p hcommand)
      exact htarget.program program hcommand
    | none =>
      cases hendpoint : o.endpoint? with
      | some endpoint => cases heq.symm.trans (h.service endpoint hendpoint)
      | none =>
        exact hvalid.program program arguments ((h.target hendpoint hcommand).symm.trans heq)
  · rw [h.exclude]
    exact hvalid.exclude

/-- How the settings of a command line depend on the place that a configuration comes from. -/
structure Settled (o : CliOptions) (fs : FileSystem) (place : ConfigPlace) : Prop where
  /-- Settings are valid, and made of the options and of what the place provides. -/
  valid : ∀ s source?, o.settings fs = .ok (s, source?) →
    s.Valid ∧ ∃ c, fs.Provides place c source? ∧ s.Combines o c
  /-- A place that provides nothing, or something with which anything is wrong, is an error. -/
  spoilt : (∀ c source?, fs.Provides place c source? → c.fault? ≠ none) →
    ∃ e, o.settings fs = .error e
  /-- Nothing else is an error besides a target on the command line that is not in order. -/
  complete : ∀ c source?, fs.Provides place c source? → c.fault? = none → o.TargetInOrder →
    ∃ s, o.settings fs = .ok (s, source?)

/-- The file in a directory that counts is no JSON. Another one beside it is in order. -/
def halfSpoilt : FileSystem :=
  { top := .directory [(".funcscanrc.json", .file "\x7b".toUTF8),
      ("spare.json", .file "\x7b\"output\": \"r.json\", \"timeout_secs\": 9\x7d".toUTF8)],
    here := [] }

theorem readText_spoilt : let path := Path.join ⟨"."⟩ ⟨".funcscanrc.json"⟩
    halfSpoilt.isFile path = true ∧ halfSpoilt.readText path = .ok "\x7b" := by
  have hjoin : Path.join ⟨"."⟩ ⟨".funcscanrc.json"⟩ = ⟨"./.funcscanrc.json"⟩ := by decide
  have hpieces : FileSystem.piecesOf "./.funcscanrc.json" = [".", ".funcscanrc.json"] := by
    decide +kernel
  rw [hjoin]
  exact FileSystem.readText_of_lookup (by decide +kernel) (by decide)
    ⟨Or.inr hpieces, by decide +kernel⟩ rfl

theorem readText_spare : halfSpoilt.readText ⟨"spare.json"⟩ =
    .ok "\x7b\"output\": \"r.json\", \"timeout_secs\": 9\x7d" := by
  have hpieces : FileSystem.piecesOf "spare.json" = ["spare.json"] := by decide +kernel
  exact (FileSystem.readText_of_lookup (by decide +kernel) (by decide)
    ⟨Or.inl hpieces, by decide +kernel⟩ rfl).2

end CliOptions

end ScriptCensus
