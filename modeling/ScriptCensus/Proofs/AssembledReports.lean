import Mathlib
import ScriptCensus.Scan.Basic

/-!
# What reports are assembled from

A report lists the files of a scan path by path and, for each path, in the order in which they were
found. A file is listed with its functions if it can be read and has any (`FileSystem.fileReport?`),
and is passed over if not.

Adding one file appends what it has to the report and tells how much that is
(`FileSystem.addFile_value`), and by induction on the files so does adding all of them
(`FileSystem.files_addFiles`, `FileSystem.functionCount_addFiles`). `ScanRequest.report_accounts` says it
of whole scans.
-/

namespace ScriptCensus

namespace Logged

theorem value_foldlM {α β : Type} (f : β → α → Logged β) (xs : List α) (b : β) :
    (xs.foldlM f b).value = xs.foldl (fun b a => (f b a).value) b := by
  induction xs generalizing b with
  | nil => rfl
  | cons a rest ih => rw [List.foldlM_cons, value_bind, ih, List.foldl_cons]

theorem value_mapM {α β : Type} (f : α → Logged β) (xs : List α) :
    (xs.mapM f).value = xs.map fun a => (f a).value := by
  induction xs with
  | nil => rfl
  | cons a rest ih =>
    rw [List.mapM_cons, value_bind, value_bind, value_pure, ih, List.map_cons]

end Logged

namespace FileSystem

variable (fs : FileSystem) (order : FunctionOrder)

/-! ## One file -/

/-- What a file has to report: its functions, if it can be read and there are any. -/
def fileReport? (path : Path) : Option FileReport :=
  match fs.read path with
  | .error _ => none
  | .ok content =>
    let functions := ((Language.ofExplicitFile path).functionsOf order (textOfBytes content)).value
    if functions = [] then none else some ⟨path, functions⟩

theorem functions_ne_nil_of_fileReport? {path : Path} {f : FileReport}
    (h : fs.fileReport? order path = some f) : f.functions ≠ [] := by
  unfold fileReport? at h
  cases hread : fs.read path with
  | error _ => simp [hread] at h
  | ok content =>
    simp only [hread, Option.ite_none_left_eq_some] at h
    obtain ⟨hsome, hf⟩ := h
    obtain rfl := Option.some.inj hf
    exact hsome

/-- Adding a file appends what it has to report and tells how many functions these are. -/
theorem addFile_value (r : Report) (path : Path) :
    (fs.addFile order r path).value = (⟨r.files ++ (fs.fileReport? order path).toList⟩,
      ((fs.fileReport? order path).map (·.functions.length)).getD 0) := by
  unfold addFile functionsOf? fileReport?
  cases fs.read path with
  | error _ => simp
  | ok content =>
    simp only [Logged.value_bind, Logged.value_pure]
    generalize ((Language.ofExplicitFile path).functionsOf order (textOfBytes content)).value =
      functions
    cases functions with
    | nil => simp [FileReport.of?]
    | cons f rest => simp [FileReport.of?, Report.push]

/-- A file that cannot be read leaves the report as it was. -/
theorem addFile_of_unreadable {path : Path} {e : FileError} (h : fs.read path = .error e)
    (r : Report) : (fs.addFile order r path).value = (r, 0) := by
  rw [addFile_value, fileReport?, h]
  simp

theorem functionCount_addFile (r : Report) (path : Path) :
    (fs.addFile order r path).value.1.functionCount =
      r.functionCount + (fs.addFile order r path).value.2 := by
  rw [addFile_value]
  cases fs.fileReport? order path <;> simp [Report.functionCount]

/-! ## Files one after another -/

/-- What adding files one after another tells, each of them in its turn. -/
def addedCounts : Report → List Path → List Nat
  | _, [] => []
  | r, path :: rest =>
    let added := (fs.addFile order r path).value
    added.2 :: addedCounts added.1 rest

/-- Adds files one after another to a report. -/
def addFiles (r : Report) (paths : List Path) : Report :=
  paths.foldl (fun r path => (fs.addFile order r path).value.1) r

theorem value_reportOn (paths : List Path) :
    (fs.reportOn order paths).value = fs.addFiles order {} paths := by
  rw [reportOn, Logged.value_foldlM]
  rfl

theorem files_addFiles (paths : List Path) (r : Report) :
    (fs.addFiles order r paths).files = r.files ++ paths.filterMap (fs.fileReport? order) := by
  induction paths generalizing r with
  | nil => simp [addFiles]
  | cons path rest ih =>
    rw [addFiles, List.foldl_cons, ← addFiles, ih, addFile_value]
    cases hreport : fs.fileReport? order path <;> simp [hreport]

theorem functionCount_addFiles (paths : List Path) (r : Report) :
    (fs.addFiles order r paths).functionCount =
      r.functionCount + (fs.addedCounts order r paths).sum := by
  induction paths generalizing r with
  | nil => rfl
  | cons path rest ih =>
    rw [addFiles, List.foldl_cons, ← addFiles, ih, functionCount_addFile, addedCounts,
      List.sum_cons, Nat.add_assoc]

/-! ## Paths one after another -/

/-- Whether there is something to scan at a path. -/
def IsScannable (root : Path) : Prop :=
  ∃ e, fs.entry root = .ok e ∧ (e.isFile = true ∨ e.isDirectory = true)

theorem sources_of_not_isScannable {root : Path} (h : ¬fs.IsScannable root)
    (rules : IgnoreRuleSet) (limit : Glob.SizeLimit) : (fs.sources root rules limit).value = [] := by
  unfold sources
  cases hentry : fs.entry root with
  | error _ => rfl
  | ok e =>
    cases e with
    | file _ | shared _ => exact absurd ⟨_, hentry, Or.inl rfl⟩ h
    | directory _ => exact absurd ⟨_, hentry, Or.inr rfl⟩ h
    | link _ => rfl
    | device => rfl

end FileSystem

namespace ScanRequest

variable (options : ScanOptions) (fs : FileSystem) (limit : Glob.SizeLimit)

theorem value_plan (q : ScanRequest) : (q.plan options fs limit).value =
    q.roots.flatMap fun root =>
      (fs.sources root (fs.ignoreRules root options.exclude).value limit).value := by
  rw [plan, Logged.value_bind, Logged.value_pure, Logged.value_mapM, ← List.flatMap_def]
  rfl

theorem value_report (q : ScanRequest) : (q.report options fs limit).value =
    fs.addFiles options.order {} (q.plan options fs limit).value := by
  rw [report, Logged.value_bind, FileSystem.value_reportOn]

theorem files_report (q : ScanRequest) : (q.report options fs limit).value.files =
    q.roots.flatMap fun root =>
      (fs.sources root (fs.ignoreRules root options.exclude).value limit).value.filterMap
        (fs.fileReport? options.order) := by
  rw [value_report, FileSystem.files_addFiles, value_plan, List.filterMap_flatMap]
  rfl

/-- How the report of a scan is assembled. Path by path and file by file, it lists those files that
can be read and have functions, with all of these, and as many functions as were told when the files
were added. Files that cannot be read and paths at which there is nothing to scan leave the report as
it was, and the report on some paths and further ones is that on the former, followed by that on the
latter. -/
theorem report_accounts :
    (∀ q : ScanRequest,
      (q.report options fs limit).value.files = q.roots.flatMap (fun root =>
        (fs.sources root (fs.ignoreRules root options.exclude).value limit).value.filterMap
          (fs.fileReport? options.order)) ∧
      (∀ f ∈ (q.report options fs limit).value.files, f.functions ≠ []) ∧
      (q.report options fs limit).value.functionCount =
        (fs.addedCounts options.order {} (q.plan options fs limit).value).sum) ∧
    (∀ (r : Report) (path : Path) (e : FileError), fs.read path = .error e →
      (fs.addFile options.order r path).value = (r, 0)) ∧
    (∀ (q q' : ScanRequest) (root : Path) (before behind : List Path), ¬fs.IsScannable root →
      q.roots = before ++ root :: behind → q'.roots = before ++ behind →
      (q.report options fs limit).value = (q'.report options fs limit).value) ∧
    ∀ q q₁ q₂ : ScanRequest, q.roots = q₁.roots ++ q₂.roots →
      (q.report options fs limit).value.files =
        (q₁.report options fs limit).value.files ++ (q₂.report options fs limit).value.files := by
  refine ⟨fun q => ⟨q.files_report options fs limit, fun f hf => ?_, ?_⟩, ?_, ?_, ?_⟩
  · rw [files_report] at hf
    obtain ⟨root, -, hf⟩ := List.mem_flatMap.1 hf
    obtain ⟨path, -, hreport⟩ := List.mem_filterMap.1 hf
    exact fs.functions_ne_nil_of_fileReport? options.order hreport
  · rw [value_report, FileSystem.functionCount_addFiles]
    exact Nat.zero_add _
  · intro r path e hread
    exact fs.addFile_of_unreadable options.order hread r
  · intro q q' root before behind hroot hq hq'
    have hnothing :=
      fs.sources_of_not_isScannable hroot (fs.ignoreRules root options.exclude).value limit
    have hplan : (q.plan options fs limit).value = (q'.plan options fs limit).value := by
      rw [value_plan, value_plan, hq, hq', List.flatMap_append, List.flatMap_append,
        List.flatMap_cons, hnothing, List.nil_append]
    rw [value_report, value_report, hplan]
  · intro q q₁ q₂ hq
    rw [files_report, files_report, files_report, hq, List.flatMap_append]

/-- A directory with nothing in it, which cannot be read as a file, and a path that leads nowhere. -/
theorem report_accounts_emptyDirectory :
    let fs : FileSystem := { top := .directory [("p", .directory [])], here := [] }
    let q : ScanRequest := ⟨[⟨"gone"⟩, ⟨"p"⟩], ⟨"out.json"⟩, by simp⟩
    let q₁ : ScanRequest := ⟨[⟨"gone"⟩], ⟨"out.json"⟩, by simp⟩
    let q₂ : ScanRequest := ⟨[⟨"p"⟩], ⟨"out.json"⟩, by simp⟩
    let listed : Report := ⟨[⟨⟨"a.js"⟩, []⟩]⟩
    ¬fs.IsScannable ⟨"gone"⟩ ∧ fs.read ⟨"p"⟩ = .error .isADirectory ∧
      (fs.addFile .sourceLine listed ⟨"p"⟩).value = (listed, 0) ∧
      (q.report {} fs).value = (q₂.report {} fs).value ∧
      (q.report {} fs).value.files = (q₁.report {} fs).value.files ++ (q₂.report {} fs).value.files := by
  intro fs q q₁ q₂ listed
  have hgone : fs.entry ⟨"gone"⟩ = .error .notFound := by cbv
  have hdirectory : fs.read ⟨"p"⟩ = .error .isADirectory := by cbv
  have hnothing : ¬fs.IsScannable ⟨"gone"⟩ := by
    rintro ⟨e, he, -⟩
    simp [hgone] at he
  obtain ⟨-, hunreadable, hunscannable, happend⟩ := report_accounts {} fs {}
  exact ⟨hnothing, hdirectory, hunreadable listed ⟨"p"⟩ _ hdirectory,
    hunscannable q q₂ ⟨"gone"⟩ [] [⟨"p"⟩] hnothing rfl rfl, happend q q₁ q₂ rfl⟩

end ScanRequest

end ScriptCensus
