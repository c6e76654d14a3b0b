import ScriptCensus.Cli.Help
import ScriptCensus.Cli.Options
import ScriptCensus.Config.Load
import ScriptCensus.Scan.Run

/-!
# What a command line does

`Cli.run` carries out a command line on a file system. Options on the command line count more than a
configuration file (`CliOptions.settings`). What the inference side does is a parameter, and so is what
stands in the way (`Obstacles`).
-/

namespace ScriptCensus

/-- Why a scan that was asked for on a command line fails. -/
inductive CliError where
  | config (cause : ConfigError)
  | fault (cause : ConfigFault)
  /-- The endpoint on the command line is wrong. -/
  | invalidEndpoint (cause : ConfigFault)
  /-- The program on the command line has no name. -/
  | blankCommand
  /-- Services cannot be asked. -/
  | noClient (reason : String)
  | run (destination : Path) (cause : RunError)
deriving Inhabited

/-- The wording of an error, followed by those of its causes. -/
def CliError.chain : CliError → List String
  | config cause => cause.chain
  | fault cause => cause.chain
  | invalidEndpoint cause => "invalid --endpoint" :: cause.chain
  | blankCommand => ["--command must name a program"]
  | noClient reason => ["could not build HTTP client: " ++ reason, reason]
  | run destination (.notHandedOn cause) =>
    ("could not run inference for " ++ destination.text) :: cause.chain
  | run _ cause => cause.chain

/-- What a command line comes to. -/
structure CliOutcome where
  code : Nat
  output : String
  complaints : String
  files : FileSystem
  warnings : List Warning
  /-- The calls of the dispatcher, in order. -/
  calls : List DispatchCall
deriving Inhabited

namespace CliOptions

/-- The directory in which a configuration is looked for: the first path, or the one above it. -/
def configDirectory (o : CliOptions) (fs : FileSystem) : Path :=
  match o.paths with
  | [] => ⟨"."⟩
  | path :: _ =>
    if fs.isDirectory path then path
    else
      match path.parent? with
      | some parent => if parent.text.isEmpty then ⟨"."⟩ else parent
      | none => ⟨"."⟩

/-- The target that the command line names instead of the one of the configuration. -/
def target (o : CliOptions) (configured : InferenceTarget) : Except CliError InferenceTarget :=
  match o.endpoint?, o.command? with
  | none, none => .ok configured
  | some endpoint, none => service endpoint
  | none, some program => command program
  | some endpoint, some program =>
    match service endpoint with
    | .error e => .error e
    | .ok _ => command program
where
  /-- A service, if the endpoint is that of one. -/
  service (endpoint : String) : Except CliError InferenceTarget :=
    match endpointFault? endpoint with
    | some fault => .error (.invalidEndpoint fault)
    | none => .ok (.service endpoint)
  /-- A program, if it has a name. -/
  command (program : String) : Except CliError InferenceTarget :=
    if (trimBlanks program).isEmpty then .error .blankCommand
    else .ok (.command program o.arguments)

/-- Puts what the command line says in place of what the configuration says. -/
def override (o : CliOptions) (s : Settings) : Except CliError Settings :=
  match o.target s.target with
  | .error e => .error e
  | .ok target => .ok { s with
      output := o.output?.getD s.output
      target
      timeout? := o.timeout? <|> s.timeout?
      order := if o.traversalOrder then .traversal else s.order }

/-- The settings in force, and the file that they come from. -/
def settings (o : CliOptions) (fs : FileSystem) : Except CliError (Settings × Option Path) :=
  match fs.loadConfig (o.configDirectory fs) o.config? with
  | .error e => .error (.config e)
  | .ok source =>
    match source.config.settings with
    | .error fault => .error (.fault fault)
    | .ok s => (o.override s).map fun s => (s, source.path?)

end CliOptions

namespace Cli

/-- Puts something in front of every line but the first. -/
def indentBy (indent : String) (s : String) : String :=
  String.ofList (s.toList.flatMap fun c => if c == '\n' then c :: indent.toList else [c])

/-- Causes, one below the other. Several of them are numbered. -/
def causesText (causes : List String) : String :=
  match causes with
  | [] => ""
  | [cause] => "\n\nCaused by:\n    " ++ indentBy "    " cause
  | _ =>
    let rows := causes.zipIdx.map fun (cause, n) => s!"    {n}: " ++ indentBy "       " cause
    "\n\nCaused by:\n" ++ "\n".intercalate rows

/-- What is printed for an error. -/
def errorText (e : CliError) : String :=
  match e.chain with
  | [] => ""
  | first :: causes => "Error: " ++ first ++ causesText causes ++ "\n"

/-- Makes a dispatcher for a target, given how many milliseconds handing on may take. -/
abbrev Collaborator := InferenceTarget → Option Nat → Dispatcher

/-- What stands in the way of a command line besides what is in the file system. -/
structure Obstacles where
  /-- What is refused when the report is stored. -/
  refusals : Refusals := {}
  /-- Why services cannot be asked. -/
  client? : Option String := none
  /-- How large the automata of ignore rules may become. -/
  limit : Glob.SizeLimit := {}

/-- Why there can be no dispatcher for a target. Programs need nothing to be started. -/
def Obstacles.between? (obstacles : Obstacles) : InferenceTarget → Option String
  | .service _ => obstacles.client?
  | .command _ _ => none

/-- What is printed for the file that the settings come from. -/
def sourceText : Option Path → String
  | some path => "Using config: " ++ path.text ++ "\n"
  | none => ""

/-- What is printed for a report that was stored. -/
def storedText (path : Path) : String :=
  "Report written to: " ++ path.text ++ "\n"

/-- The outcome of something that failed. -/
def failing (e : CliError) (before : String) (fs : FileSystem) (warnings : List Warning)
    (calls : List DispatchCall) : CliOutcome :=
  ⟨1, "", before ++ errorText e, fs, warnings, calls⟩

/-- Looks at files one after another; the report grows with each of them. -/
def analyze (fs : FileSystem) (order : FunctionOrder) (r : Report) : List Path → Logged Report
  | [] => pure r
  | file :: rest => do
    let (r, _) ← fs.addFile order r file
    analyze fs order r rest

/-- The report of a scan. It is warned of if there is nothing to report. -/
def extract (q : ScanRequest) (options : ScanOptions) (fs : FileSystem)
    (limit : Glob.SizeLimit := {}) : Logged Report := do
  let files ← q.plan options fs limit
  let report ← analyze fs options.order {} files
  if report.files.isEmpty then Logged.warn .nothingFound
  return report

/-- Stores the report of a scan. -/
def storeOnly (report : Logged Report) (q : ScanRequest) (before : String) (fs : FileSystem)
    (refusals : Refusals) : CliOutcome :=
  let storage := report.value.store q.destination fs refusals
  let warnings := report.warnings ++ storage.warnings
  match storage.result with
  | .ok path => ⟨0, "", before ++ storedText path, storage.files, warnings, []⟩
  | .error cause =>
    failing (.run q.destination (.notStored q.destination cause)) before storage.files warnings []

/-- Stores the report of a scan and hands it on. -/
def handOn (dispatcher : Dispatcher) (report : Logged Report) (q : ScanRequest) (before : String)
    (fs : FileSystem) (refusals : Refusals) : CliOutcome :=
  let delivery := report.value.deliver q.destination dispatcher fs refusals
  let warnings := report.warnings ++ delivery.warnings
  match delivery.result with
  | .ok outcome =>
    ⟨0, outcome.payload.shown ++ "\n", before ++ storedText outcome.reportPath, delivery.files,
     warnings, delivery.calls⟩
  | .error e => failing (.run q.destination e) before delivery.files warnings delivery.calls

/-- Carries out a scan. -/
def scan (collaborator : Collaborator) (o : CliOptions) (fs : FileSystem) (obstacles : Obstacles) :
    CliOutcome :=
  match o.settings fs with
  | .error e => failing e "" fs [] []
  | .ok (settings, source?) =>
    let before := sourceText source?
    match ScanRequest.of? o.paths (some settings.output) with
    | none => failing (.run settings.output .nothingToScan) before fs [] []
    | some q =>
      let report := extract q settings.scanOptions fs obstacles.limit
      if o.noInference then storeOnly report q before fs obstacles.refusals
      else
        match obstacles.between? settings.target with
        | some reason => failing (.noClient reason) before fs report.warnings []
        | none =>
          let dispatcher := collaborator settings.target (settings.timeout?.map (· * 1000))
          handOn dispatcher report q before fs obstacles.refusals

/-- Carries out a command line. What is said of one that cannot be understood is left out. -/
def run (collaborator : Collaborator) (arguments : List String) (fs : FileSystem)
    (obstacles : Obstacles := {}) : CliOutcome :=
  match CliRequest.ofArguments arguments with
  | .help => ⟨0, helpText, "", fs, [], []⟩
  | .version => ⟨0, versionText, "", fs, [], []⟩
  | .misuse => ⟨2, "", "", fs, [], []⟩
  | .scan o => scan collaborator o fs obstacles

end Cli

end ScriptCensus
