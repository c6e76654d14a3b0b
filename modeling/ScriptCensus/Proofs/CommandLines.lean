import ScriptCensus.Cli.Run
import ScriptCensus.Proofs.AssembledReports
import ScriptCensus.Proofs.StoredReports

/-!
# Command lines come to what runs come to

A command line goes through a scan in stages of its own: it settles what to go by, looks at the files
one after another, and then either stores the report or delivers it. `Cli.Refines` says what this has
to come to in terms of `Report.store` and `ScanRequest.run`, and `Cli.refines_run` that it does,
whatever the inference side does and whatever stands in the way.

The stages are compared one by one. A command line for a scan names something to scan
(`CliRequest.paths_ne_nil`), so there is a request as soon as there are settings (`Cli.exists_asks`).
Looking at the files gives the report of the request (`Cli.value_extract`), and there are four ways to
go on from there (`Cli.refines_of_rejected`, `Cli.refines_of_noInference`, `Cli.refines_of_obstacle`,
`Cli.refines_of_dispatcher`).
-/

namespace ScriptCensus

/-! ## Reading a command line -/

namespace CliRequest

/-- Whether reading a command line, if it stops early, stops with a request that is no scan. -/
def StopsApart {α : Type} (reading : Except CliRequest α) : Prop :=
  ∀ o, reading ≠ .error (.scan o)

theorem stopsApart_ok {α : Type} (a : α) : StopsApart (.ok a) := by
  intro o h
  cases h

theorem stopsApart_misuse {α : Type} : StopsApart (.error .misuse : Except CliRequest α) := by
  intro o h
  cases h

theorem StopsApart.map {α β : Type} {reading : Except CliRequest α} (h : StopsApart reading)
    (f : α → β) : StopsApart (reading.map f) := by
  intro o heq
  cases reading with
  | ok a => cases heq
  | error r =>
    cases heq
    exact h o rfl

theorem stopsApart_orMisuse (o? : Option CliOptions) : StopsApart (orMisuse o?) := by
  cases o? with
  | none => exact stopsApart_misuse
  | some o => exact stopsApart_ok o

theorem stopsApart_setFlag (o : CliOptions) (flag : FlagOption) : StopsApart (setFlag o flag) := by
  intro o' h
  cases flag with
  | noInference =>
    simp only [setFlag] at h
    split at h <;> cases h
  | traversalOrder =>
    simp only [setFlag] at h
    split at h <;> cases h
  | verbose | help | version => cases h

theorem stopsApart_readLetters (o : CliOptions) (cs : List Char) :
    StopsApart (readLetters o cs) := by
  fun_induction readLetters o cs with
  | case1 o => exact stopsApart_ok _
  | case2 _ _ _ _ _ _ _ ih => exact ih
  | case3 o _ _ flag _ r hflag =>
    intro o' h
    cases h
    exact stopsApart_setFlag o flag o' hflag
  | case4 => exact stopsApart_ok _
  | case5 => exact (stopsApart_orMisuse _).map _
  | case6 => exact (stopsApart_orMisuse _).map _
  | case7 => exact stopsApart_misuse

theorem stopsApart_readLong (o : CliOptions) (name : String) (value? : Option String) :
    StopsApart (readLong o name value?) := by
  unfold readLong
  split
  · exact (stopsApart_setFlag _ _).map _
  · exact stopsApart_misuse
  · exact (stopsApart_orMisuse _).map _
  · exact stopsApart_ok _
  · exact stopsApart_misuse

theorem stopsApart_addPaths (o : CliOptions) (paths : List String) :
    StopsApart (addPaths o paths) := by
  induction paths generalizing o with
  | nil => exact stopsApart_ok o
  | cons s rest ih =>
    rw [addPaths]
    cases o.addPath? s with
    | some o' => exact ih o'
    | none => exact stopsApart_misuse

theorem stopsApart_readArgument (o : CliOptions) (a : Argument) :
    StopsApart (readArgument o a) := by
  cases a with
  | divider => exact stopsApart_ok _
  | long name value? => exact stopsApart_readLong o name value?
  | letters cs => exact stopsApart_readLetters o cs
  | path s => exact (stopsApart_orMisuse _).map _

theorem stopsApart_read (o : CliOptions) (arguments : List String) :
    StopsApart (read o arguments) := by
  fun_induction read o arguments with
  | case1 o => exact stopsApart_ok o
  | case2 => exact stopsApart_addPaths _ _
  | case3 o s _ _ r hargument =>
    intro o' h
    cases h
    exact stopsApart_readArgument o _ o' hargument
  | case4 _ _ _ _ _ _ ih => exact ih
  | case5 => exact stopsApart_misuse
  | case6 _ _ _ _ _ _ _ _ _ _ _ ih => exact ih
  | case7 => exact stopsApart_misuse
  | case8 => exact stopsApart_misuse

/-- A command line for a scan was read to its end. -/
theorem read_of_scan {arguments : List String} {o : CliOptions}
    (h : ofArguments arguments = .scan o) :
    read {} arguments = .ok o ∧ o.isConsistent = true := by
  unfold ofArguments at h
  cases hread : read {} arguments with
  | error r =>
    simp only [hread] at h
    exact absurd (hread.trans (congrArg _ h)) (stopsApart_read {} arguments o)
  | ok last =>
    simp only [hread] at h
    split at h
    · next hconsistent =>
      cases h
      exact ⟨rfl, hconsistent⟩
    · cases h

/-- A command line for a scan names something to scan. -/
theorem paths_ne_nil {arguments : List String} {o : CliOptions}
    (h : ofArguments arguments = .scan o) : o.paths ≠ [] := by
  intro hnil
  have hconsistent := (read_of_scan h).2
  simp [CliOptions.isConsistent, hnil] at hconsistent

end CliRequest

theorem ScanRequest.of?_eq_some_iff {roots : List Path} {destination : Path} {q : ScanRequest} :
    of? roots (some destination) = some q ↔ q.roots = roots ∧ q.destination = destination := by
  obtain ⟨roots', destination', hroots⟩ := q
  cases roots with
  | nil => simp [of?, hroots]
  | cons root more =>
    simp only [of?, Option.getD_some, Option.some.injEq, mk.injEq]
    exact ⟨fun h => ⟨h.1.symm, h.2.symm⟩, fun h => ⟨h.1.symm, h.2.symm⟩⟩

/-- Where none of the files is there, nothing is configured. -/
theorem FileSystem.findConfig_of_absent {fs : FileSystem} {directory : Path}
    (h : ∀ name ∈ packageName :: configNames, fs.isFile (directory.join ⟨name⟩) = false) :
    fs.findConfig directory = .ok ⟨{}, none⟩ := by
  obtain ⟨hpackage, hnames⟩ := List.forall_mem_cons.1 h
  have hnone : (configNames.map fun name => directory.join ⟨name⟩).find? fs.isFile = none := by
    simpa using hnames
  simp [findConfig, hnone, hpackage]

namespace Cli

/-! ## What a command line has to come to -/

/-- Whether options ask for a request under some settings, which come from a file or from none. -/
structure Asks (o : CliOptions) (fs : FileSystem) (settings : Settings) (source? : Option Path)
    (q : ScanRequest) : Prop where
  settled : o.settings fs = .ok (settings, source?)
  roots : q.roots = o.paths
  destination : q.destination = settings.output

/-- The dispatcher that settings ask for. -/
def dispatcherFor (collaborator : Collaborator) (settings : Settings) : Dispatcher :=
  collaborator settings.target (settings.timeout?.map (· * 1000))

/-- The run of a request under some settings. -/
def runUnder (collaborator : Collaborator) (fs : FileSystem) (obstacles : Obstacles)
    (settings : Settings) (q : ScanRequest) : Delivery :=
  q.run settings.scanOptions (dispatcherFor collaborator settings) fs obstacles.refusals
    obstacles.limit

/-- Storing the report of a request under some settings. -/
def storeUnder (fs : FileSystem) (obstacles : Obstacles) (settings : Settings) (q : ScanRequest) :
    Storage :=
  (q.report settings.scanOptions fs obstacles.limit).value.store q.destination fs obstacles.refusals

/-- Whether every stage of a scan succeeds: the settings, the dispatcher if there has to be one, and
storing the report or running the request. -/
def Succeeds (collaborator : Collaborator) (o : CliOptions) (fs : FileSystem)
    (obstacles : Obstacles) : Prop :=
  ∃ settings source? q, Asks o fs settings source? q ∧
    if o.noInference then ∃ path, (storeUnder fs obstacles settings q).result = .ok path
    else obstacles.between? settings.target = none ∧
      ∃ outcome, (runUnder collaborator fs obstacles settings q).result = .ok outcome

/-- Whether the inference side answers a scan with a payload. -/
def Answers (collaborator : Collaborator) (o : CliOptions) (fs : FileSystem) (obstacles : Obstacles)
    (payload : Payload) : Prop :=
  ∃ settings source? q outcome, Asks o fs settings source? q ∧ o.noInference = false ∧
    obstacles.between? settings.target = none ∧
    (runUnder collaborator fs obstacles settings q).result = .ok outcome ∧ outcome.payload = payload

/-- What a command line for a scan ought to come to. -/
structure Refines (out : CliOutcome) (collaborator : Collaborator) (o : CliOptions)
    (fs : FileSystem) (obstacles : Obstacles) : Prop where
  /-- Settings that cannot be had leave everything as it was. -/
  rejected : ∀ e, o.settings fs = .error e → out.code = 1 ∧ out.files = fs ∧ out.calls = []
  /-- Other settings give a request for the paths that were named. -/
  asked : ∀ settings source?, o.settings fs = .ok (settings, source?) →
    ∃ q, Asks o fs settings source? q
  /-- Without inference the report is stored and not handed on. -/
  stored : ∀ settings source? q, Asks o fs settings source? q → o.noInference = true →
    out.files = (storeUnder fs obstacles settings q).files ∧ out.calls = []
  /-- A dispatcher that cannot be had leaves everything as it was. -/
  obstructed : ∀ settings source? q reason, Asks o fs settings source? q → o.noInference = false →
    obstacles.between? settings.target = some reason →
    out.code = 1 ∧ out.files = fs ∧ out.calls = []
  /-- In all other cases the files, the calls and the result are those of the run. -/
  run : ∀ settings source? q, Asks o fs settings source? q → o.noInference = false →
    obstacles.between? settings.target = none →
    out.files = (runUnder collaborator fs obstacles settings q).files ∧
      out.calls = (runUnder collaborator fs obstacles settings q).calls ∧
      match (runUnder collaborator fs obstacles settings q).result with
      | .ok outcome => out.output = outcome.payload.shown ++ "\n" ∧
          out.complaints = sourceText source? ++ storedText outcome.reportPath
      | .error e => out.output = "" ∧
          out.complaints = sourceText source? ++ errorText (.run q.destination e)
  code : out.code = 0 ∧ Succeeds collaborator o fs obstacles ∨
    out.code = 1 ∧ ¬Succeeds collaborator o fs obstacles
  output : (∀ payload, Answers collaborator o fs obstacles payload →
      out.output = payload.shown ++ "\n") ∧
    ((¬∃ payload, Answers collaborator o fs obstacles payload) → out.output = "")

/-! ## Stages -/

theorem value_analyze (fs : FileSystem) (order : FunctionOrder) (paths : List Path) (r : Report) :
    (analyze fs order r paths).value = fs.addFiles order r paths := by
  induction paths generalizing r with
  | nil => rfl
  | cons path rest ih =>
    rw [analyze, Logged.value_bind, ih, FileSystem.addFiles, FileSystem.addFiles, List.foldl_cons]

/-- Looking at the files of a request one after another gives its report. -/
theorem value_extract (q : ScanRequest) (options : ScanOptions) (fs : FileSystem)
    (limit : Glob.SizeLimit) :
    (extract q options fs limit).value = (q.report options fs limit).value := by
  rw [ScanRequest.value_report, ← value_analyze, extract]
  simp only [Logged.value_bind]
  split <;> rfl

/-- Storing the report of a scan tells whether it was stored, and hands nothing on. -/
theorem storeOnly_spec (report : Logged Report) (q : ScanRequest) (before : String)
    (fs : FileSystem) (refusals : Refusals) :
    let out := storeOnly report q before fs refusals
    let storage := report.value.store q.destination fs refusals
    out.files = storage.files ∧ out.calls = [] ∧ out.output = "" ∧
      (out.code = 0 ∧ (∃ path, storage.result = .ok path) ∨
        out.code = 1 ∧ ¬∃ path, storage.result = .ok path) := by
  intro out storage
  simp only [out, storage, storeOnly]
  cases (report.value.store q.destination fs refusals).result with
  | ok path => exact ⟨rfl, rfl, rfl, Or.inl ⟨rfl, path, rfl⟩⟩
  | error cause => exact ⟨rfl, rfl, rfl, Or.inr ⟨rfl, by simp⟩⟩

/-- Delivering the report of a scan tells what the delivery came to. -/
theorem handOn_spec (dispatcher : Dispatcher) (report : Logged Report) (q : ScanRequest)
    (before : String) (fs : FileSystem) (refusals : Refusals) :
    let out := handOn dispatcher report q before fs refusals
    let delivery := report.value.deliver q.destination dispatcher fs refusals
    out.files = delivery.files ∧ out.calls = delivery.calls ∧
      ((∃ outcome, delivery.result = .ok outcome ∧ out.code = 0 ∧
          out.output = outcome.payload.shown ++ "\n" ∧
          out.complaints = before ++ storedText outcome.reportPath) ∨
        ∃ e, delivery.result = .error e ∧ out.code = 1 ∧ out.output = "" ∧
          out.complaints = before ++ errorText (.run q.destination e)) := by
  intro out delivery
  simp only [out, delivery, handOn]
  cases (report.value.deliver q.destination dispatcher fs refusals).result with
  | ok outcome => exact ⟨rfl, rfl, Or.inl ⟨outcome, rfl, rfl, rfl, rfl⟩⟩
  | error e => exact ⟨rfl, rfl, Or.inr ⟨e, rfl, rfl, rfl, rfl⟩⟩

/-! ## Whole command lines -/

section scan

variable {collaborator : Collaborator} {o : CliOptions} {fs : FileSystem} {obstacles : Obstacles}
  {settings settings' : Settings} {source? source?' : Option Path} {q q' : ScanRequest}

/-- Options ask for one request at most. -/
theorem Asks.unique (h : Asks o fs settings source? q) (h' : Asks o fs settings' source?' q') :
    settings' = settings ∧ source?' = source? ∧ q' = q := by
  have hsettled := h'.settled.symm.trans h.settled
  simp only [Except.ok.injEq, Prod.mk.injEq] at hsettled
  obtain ⟨rfl, rfl⟩ := hsettled
  have hq := ScanRequest.of?_eq_some_iff.2 ⟨h.roots, h.destination⟩
  have hq' := ScanRequest.of?_eq_some_iff.2 ⟨h'.roots, h'.destination⟩
  exact ⟨rfl, rfl, Option.some.inj (hq'.symm.trans hq)⟩

theorem exists_asks (hpaths : o.paths ≠ []) (h : o.settings fs = .ok (settings, source?)) :
    ∃ q, Asks o fs settings source? q :=
  ⟨⟨o.paths, settings.output, hpaths⟩, h, rfl, rfl⟩

theorem succeeds_iff (h : Asks o fs settings source? q) :
    Succeeds collaborator o fs obstacles ↔
      if o.noInference then ∃ path, (storeUnder fs obstacles settings q).result = .ok path
      else obstacles.between? settings.target = none ∧
        ∃ outcome, (runUnder collaborator fs obstacles settings q).result = .ok outcome := by
  constructor
  · rintro ⟨settings', source?', q', h', hstages⟩
    obtain ⟨rfl, rfl, rfl⟩ := h.unique h'
    exact hstages
  · intro hstages
    exact ⟨settings, source?, q, h, hstages⟩

theorem answers_iff (h : Asks o fs settings source? q) (payload : Payload) :
    Answers collaborator o fs obstacles payload ↔ o.noInference = false ∧
      obstacles.between? settings.target = none ∧
      ∃ outcome, (runUnder collaborator fs obstacles settings q).result = .ok outcome ∧
        outcome.payload = payload := by
  constructor
  · rintro ⟨settings', source?', q', outcome, h', hinference, hfree, hresult, hpayload⟩
    obtain ⟨rfl, rfl, rfl⟩ := h.unique h'
    exact ⟨hinference, hfree, outcome, hresult, hpayload⟩
  · rintro ⟨hinference, hfree, outcome, hresult, hpayload⟩
    exact ⟨settings, source?, q, outcome, h, hinference, hfree, hresult, hpayload⟩

/-- What a scan comes to has to be compared with the one request that is asked for. -/
theorem Refines.of_asks {out : CliOutcome} (h : Asks o fs settings source? q)
    (stored : o.noInference = true →
      out.files = (storeUnder fs obstacles settings q).files ∧ out.calls = [])
    (obstructed : ∀ reason, o.noInference = false →
      obstacles.between? settings.target = some reason →
      out.code = 1 ∧ out.files = fs ∧ out.calls = [])
    (run : o.noInference = false → obstacles.between? settings.target = none →
      out.files = (runUnder collaborator fs obstacles settings q).files ∧
      out.calls = (runUnder collaborator fs obstacles settings q).calls ∧
      match (runUnder collaborator fs obstacles settings q).result with
      | .ok outcome => out.output = outcome.payload.shown ++ "\n" ∧
          out.complaints = sourceText source? ++ storedText outcome.reportPath
      | .error e => out.output = "" ∧
          out.complaints = sourceText source? ++ errorText (.run q.destination e))
    (code : out.code = 0 ∧ Succeeds collaborator o fs obstacles ∨
      out.code = 1 ∧ ¬Succeeds collaborator o fs obstacles)
    (silent : (¬∃ payload, Answers collaborator o fs obstacles payload) → out.output = "") :
    Refines out collaborator o fs obstacles where
  rejected e he := by simp [h.settled] at he
  asked settings' source?' h' := by
    rw [h.settled] at h'
    obtain ⟨rfl, rfl⟩ : settings = settings' ∧ source? = source?' := by simpa using h'
    exact ⟨q, h⟩
  stored settings' source?' q' h' := by
    obtain ⟨rfl, rfl, rfl⟩ := h.unique h'
    exact stored
  obstructed settings' source?' q' reason h' := by
    obtain ⟨rfl, rfl, rfl⟩ := h.unique h'
    exact obstructed reason
  run settings' source?' q' h' := by
    obtain ⟨rfl, rfl, rfl⟩ := h.unique h'
    exact run
  code := code
  output := by
    refine ⟨fun payload hpayload => ?_, silent⟩
    obtain ⟨hinference, hfree, outcome, hresult, rfl⟩ := (answers_iff h payload).1 hpayload
    have htold := (run hinference hfree).2.2
    rw [hresult] at htold
    exact htold.1

/-- How a scan goes on once there is a request. -/
theorem scan_of_asks (h : Asks o fs settings source? q) :
    scan collaborator o fs obstacles =
      if o.noInference then
        storeOnly (extract q settings.scanOptions fs obstacles.limit) q (sourceText source?) fs
          obstacles.refusals
      else
        match obstacles.between? settings.target with
        | some reason => failing (.noClient reason) (sourceText source?) fs
            (extract q settings.scanOptions fs obstacles.limit).warnings []
        | none => handOn (dispatcherFor collaborator settings)
            (extract q settings.scanOptions fs obstacles.limit) q (sourceText source?) fs
            obstacles.refusals := by
  simp only [scan, h.settled, ScanRequest.of?_eq_some_iff.2 ⟨h.roots, h.destination⟩]
  rfl

theorem refines_of_rejected {e : CliError} (h : o.settings fs = .error e) :
    Refines (scan collaborator o fs obstacles) collaborator o fs obstacles := by
  have hscan : scan collaborator o fs obstacles = failing e "" fs [] [] := by
    simp only [scan, h]
  have hnone : ∀ settings source? q, ¬Asks o fs settings source? q := by
    intro settings source? q hasks
    have hsettled := hasks.settled
    simp [h] at hsettled
  rw [hscan]
  refine ⟨fun _ _ => ⟨rfl, rfl, rfl⟩, fun settings source? hsettled => ?_,
    fun settings source? q hasks => absurd hasks (hnone settings source? q),
    fun settings source? q _ hasks => absurd hasks (hnone settings source? q),
    fun settings source? q hasks => absurd hasks (hnone settings source? q),
    Or.inr ⟨rfl, ?_⟩, ?_, fun _ => rfl⟩
  · simp [h] at hsettled
  · rintro ⟨settings, source?, q, hasks, -⟩
    exact hnone settings source? q hasks
  · rintro payload ⟨settings, source?, q, -, hasks, -⟩
    exact absurd hasks (hnone settings source? q)

theorem refines_of_noInference (h : Asks o fs settings source? q) (hno : o.noInference = true) :
    Refines (scan collaborator o fs obstacles) collaborator o fs obstacles := by
  obtain ⟨hfiles, hcalls, houtput, hcode⟩ := storeOnly_spec
    (extract q settings.scanOptions fs obstacles.limit) q (sourceText source?) fs obstacles.refusals
  rw [value_extract] at hfiles hcode
  rw [scan_of_asks h, if_pos hno]
  refine .of_asks h (fun _ => ⟨hfiles, hcalls⟩) ?_ ?_ ?_ fun _ => houtput
  · intro reason hinference
    simp [hno] at hinference
  · intro hinference
    simp [hno] at hinference
  · rw [succeeds_iff h, if_pos hno]
    exact hcode

theorem refines_of_obstacle (h : Asks o fs settings source? q) (hinference : o.noInference = false)
    {reason : String} (hreason : obstacles.between? settings.target = some reason) :
    Refines (scan collaborator o fs obstacles) collaborator o fs obstacles := by
  have hno : ¬o.noInference = true := by simp [hinference]
  rw [scan_of_asks h, if_neg hno, hreason]
  refine .of_asks h ?_ (fun _ _ _ => ⟨rfl, rfl, rfl⟩) ?_ (Or.inr ⟨rfl, ?_⟩) fun _ => rfl
  · exact fun hno' => absurd hno' hno
  · intro _ hfree
    simp [hreason] at hfree
  · rw [succeeds_iff h, if_neg hno, hreason]
    simp

theorem refines_of_dispatcher (h : Asks o fs settings source? q)
    (hinference : o.noInference = false)
    (hfree : obstacles.between? settings.target = none) :
    Refines (scan collaborator o fs obstacles) collaborator o fs obstacles := by
  have hno : ¬o.noInference = true := by simp [hinference]
  obtain ⟨hfiles, hcalls, htold⟩ := handOn_spec (dispatcherFor collaborator settings)
    (extract q settings.scanOptions fs obstacles.limit) q (sourceText source?) fs obstacles.refusals
  -- a run differs from a delivery of its report in its warnings only
  have hresult : ((q.report settings.scanOptions fs obstacles.limit).value.deliver q.destination
      (dispatcherFor collaborator settings) fs obstacles.refusals).result =
        (runUnder collaborator fs obstacles settings q).result := rfl
  rw [value_extract] at hfiles hcalls htold
  rw [hresult] at htold
  rw [scan_of_asks h, if_neg hno, hfree]
  refine .of_asks h (fun hno' => absurd hno' hno) ?_ (fun _ _ => ⟨hfiles, hcalls, ?_⟩) ?_ ?_
  · intro reason _ hreason
    simp [hfree] at hreason
  · rcases htold with ⟨outcome, hok, -, htold⟩ | ⟨e, herror, -, htold⟩
    · rw [hok]
      exact htold
    · rw [herror]
      exact htold
  · rw [succeeds_iff h, if_neg hno]
    rcases htold with ⟨outcome, hok, hcode, -⟩ | ⟨e, herror, hcode, -⟩
    · exact Or.inl ⟨hcode, hfree, outcome, hok⟩
    · exact Or.inr ⟨hcode, by simp [herror]⟩
  · intro hsilent
    rcases htold with ⟨outcome, hok, -, -⟩ | ⟨e, -, -, houtput, -⟩
    · exact absurd ⟨_, (answers_iff h _).2 ⟨hinference, hfree, outcome, hok, rfl⟩⟩ hsilent
    · exact houtput

end scan

/-- A command line for a scan comes to what storing the report or running the request comes to. It
ends with zero exactly if every stage succeeds, and prints the payload of the inference side and
nothing else. -/
theorem refines_run {arguments : List String} {o : CliOptions}
    (h : CliRequest.ofArguments arguments = .scan o) (collaborator : Collaborator) (fs : FileSystem)
    (obstacles : Obstacles) :
    Refines (run collaborator arguments fs obstacles) collaborator o fs obstacles := by
  simp only [run, h]
  cases hsettings : o.settings fs with
  | error e => exact refines_of_rejected hsettings
  | ok settled =>
    obtain ⟨q, hasks⟩ := exists_asks (CliRequest.paths_ne_nil h) hsettings
    cases hinference : o.noInference with
    | true => exact refines_of_noInference hasks hinference
    | false =>
      cases hobstacle : obstacles.between? settled.1.target with
      | some reason => exact refines_of_obstacle hasks hinference hobstacle
      | none => exact refines_of_dispatcher hasks hinference hobstacle

/-! ## A command line that is answered -/

open FileSystem

theorem entry_gone : Report.oldReport.entry ⟨"gone"⟩ = .error .notFound := by
  cbv

theorem findConfig_oldReport : Report.oldReport.findConfig ⟨"."⟩ = .ok ⟨{}, none⟩ := by
  refine findConfig_of_absent fun name hname => ?_
  have hnames : ∀ name ∈ packageName :: configNames,
      let path := Path.join ⟨"."⟩ ⟨name⟩
      ('\x00' ∉ path.text.toList ∧ path.text ≠ "" ∧ path.text.utf8ByteSize ≤ maxPath) ∧
        path.isAbsolute = false ∧ piecesOf path.text = [".", name] ∧
        name ∉ ["", ".", ".."] ∧ name.utf8ByteSize ≤ maxName ∧ name ≠ "out.json" := by
    decide +kernel
  obtain ⟨hpath, hrelative, hpieces, hname, hshort, hother⟩ := hnames name hname
  simp only [List.mem_cons, List.not_mem_nil, or_false, not_or] at hname
  rw [isFile, entry, find_eq_walk hpath hrelative hpieces]
  simp [Report.oldReport, walk, Entry.at?, hname, Nat.not_lt.2 hshort, List.lookup,
    beq_eq_false_iff_ne.2 hother]

/-- A path that leads nowhere is to be scanned, and a program is to be asked. -/
def scoreOptions : CliOptions :=
  { paths := [⟨"gone"⟩], output? := some ⟨"out.json"⟩, command? := some "score" }

/-- The settings of these options where nothing is configured. -/
def scoreSettings : Settings :=
  { Settings.defaults with output := ⟨"out.json"⟩, target := .command "score" [] }

theorem settings_scoreOptions :
    scoreOptions.settings Report.oldReport = .ok (scoreSettings, none) := by
  have hdirectory : scoreOptions.configDirectory Report.oldReport = ⟨"."⟩ := by
    have hparent : (⟨"gone"⟩ : Path).parent? = some ⟨""⟩ := by decide
    simp [scoreOptions, CliOptions.configDirectory, isDirectory, entry_gone, hparent]
  have hnamed : (trimBlanks "score").isEmpty = false := by decide +kernel
  rw [CliOptions.settings, hdirectory]
  simp only [scoreOptions, loadConfig, findConfig_oldReport, CliOptions.override, CliOptions.target,
    CliOptions.target.command, hnamed]
  rfl

theorem report_gone {q : ScanRequest} (hq : q.roots = [⟨"gone"⟩]) (options : ScanOptions) :
    (q.report options Report.oldReport).value = ⟨[]⟩ := by
  have hnothing : ¬Report.oldReport.IsScannable ⟨"gone"⟩ := by
    rintro ⟨e, he, -⟩
    simp [entry_gone] at he
  have hfiles : (q.report options Report.oldReport).value.files = [] := by
    rw [ScanRequest.files_report, hq]
    simp [sources_of_not_isScannable _ hnothing]
  exact congrArg Report.mk hfiles

/-- Everything that is handed on is answered in the same way. -/
def answering : Collaborator :=
  fun _ _ _ fs => (.ok (.text "low"), fs)

theorem runUnder_answering {q : ScanRequest}
    (h : Asks scoreOptions Report.oldReport scoreSettings none q) :
    let d := runUnder answering Report.oldReport {} scoreSettings q
    let stored := (Report.store ⟨[]⟩ ⟨"out.json"⟩ Report.oldReport).files
    d.result = .ok ⟨⟨"/out.json"⟩, 0, 0, .text "low"⟩ ∧ d.files = stored ∧
      d.calls = [⟨⟨"/out.json"⟩, stored⟩] := by
  have hdestination : q.destination = ⟨"out.json"⟩ := h.destination
  simp [runUnder, ScanRequest.run, report_gone h.roots, hdestination, Report.deliver,
    Report.store_oldReport, dispatcherFor, answering, Report.functionCount]

/-- A program is handed a new report in place of an old one, and its answer is printed. -/
theorem refines_run_score :
    let out := run answering ["gone", "--command", "score", "-o", "out.json"] Report.oldReport
    let stored := (Report.store ⟨[]⟩ ⟨"out.json"⟩ Report.oldReport).files
    out.code = 0 ∧ out.output = "low\n" ∧ out.files = stored ∧
      out.calls = [⟨⟨"/out.json"⟩, stored⟩] := by
  have harguments : CliRequest.ofArguments ["gone", "--command", "score", "-o", "out.json"] =
      .scan scoreOptions := by
    decide +kernel
  have h := refines_run harguments answering Report.oldReport {}
  obtain ⟨q, hasks⟩ := h.asked _ _ settings_scoreOptions
  obtain ⟨hresult, hfiles, hcalls⟩ := runUnder_answering hasks
  have hsucceeds : Succeeds answering scoreOptions Report.oldReport {} :=
    (succeeds_iff hasks).2 ⟨rfl, _, hresult⟩
  have hanswers : Answers answering scoreOptions Report.oldReport {} (.text "low") :=
    (answers_iff hasks _).2 ⟨rfl, rfl, _, hresult, rfl⟩
  obtain ⟨hfiles', hcalls', -⟩ := h.run _ _ q hasks rfl rfl
  refine ⟨?_, h.output.1 _ hanswers, hfiles'.trans hfiles, hcalls'.trans hcalls⟩
  rcases h.code with ⟨hcode, -⟩ | ⟨-, hfails⟩
  · exact hcode
  · exact absurd hsucceeds hfails

end Cli

end ScriptCensus
