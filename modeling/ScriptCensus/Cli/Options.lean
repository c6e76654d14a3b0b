import ScriptCensus.FileSystem.Path

/-!
# Command lines

`CliRequest.ofArguments` reads a command line: some paths to scan, and options before, between and
behind them.
-/

namespace ScriptCensus

/-- What a command line asks for. -/
structure CliOptions where
  /-- The paths to scan. -/
  paths : List Path := []
  /-- Where the report goes. -/
  output? : Option Path := none
  /-- The configuration file. -/
  config? : Option Path := none
  /-- The service that the report is handed on to. -/
  endpoint? : Option String := none
  /-- The program that the report is handed on to. -/
  command? : Option String := none
  /-- The arguments of the program. -/
  arguments : List String := []
  /-- How many seconds handing on may take. -/
  timeout? : Option Nat := none
  /-- The report is only stored. -/
  noInference : Bool := false
  /-- The functions of a file stay in the order in which they were met. -/
  traversalOrder : Bool := false
  verbosity : Nat := 0
deriving Repr, BEq, DecidableEq, Inhabited

/-- What a command line is for. -/
inductive CliRequest where
  | scan (options : CliOptions)
  | help
  | version
  /-- It cannot be understood. -/
  | misuse
deriving Repr, BEq, DecidableEq, Inhabited

/-- An option that is followed by a value. -/
inductive ValueOption where
  | outputFile
  | config
  | endpoint
  | command
  | argument
  | timeout
deriving Repr, BEq, DecidableEq, Inhabited

/-- An option that stands alone. -/
inductive FlagOption where
  | noInference
  | traversalOrder
  | verbose
  | help
  | version
deriving Repr, BEq, DecidableEq, Inhabited

namespace ValueOption

/-- All options with a value. -/
def all : List ValueOption := [outputFile, config, endpoint, command, argument, timeout]

/-- The long name of an option. -/
def name : ValueOption → String
  | outputFile => "output-file"
  | config => "config"
  | endpoint => "endpoint"
  | command => "command"
  | argument => "arg"
  | timeout => "timeout"

/-- The letter of an option. -/
def letter? : ValueOption → Option Char
  | outputFile => some 'o'
  | _ => none

/-- Whether the value may look like an option. -/
def takesAnything : ValueOption → Bool
  | argument => true
  | _ => false

end ValueOption

namespace FlagOption

/-- All options without a value. -/
def all : List FlagOption := [noInference, traversalOrder, verbose, help, version]

/-- The long name of an option. -/
def name : FlagOption → String
  | noInference => "no-inference"
  | traversalOrder => "traversal-order"
  | verbose => "verbose"
  | help => "help"
  | version => "version"

/-- The letter of an option. -/
def letter? : FlagOption → Option Char
  | verbose => some 'v'
  | help => some 'h'
  | version => some 'V'
  | _ => none

end FlagOption

namespace CliOptions

/-- A number of seconds: digits, maybe behind a plus sign, for a positive number of 64 bits. -/
def seconds? (s : String) : Option Nat :=
  let digits := match s.toList with
    | '+' :: rest => rest
    | cs => cs
  if digits.isEmpty || !digits.all Char.isDigit then none
  else
    let n := digits.foldl (fun n d => n * 10 + (d.toNat - '0'.toNat)) 0
    if 1 ≤ n && n < Nat.pow 2 64 then some n else none

/-- A path, which may not be empty. -/
def path? (s : String) : Option Path :=
  if s.isEmpty then none else some ⟨s⟩

/-- Fills a place that has to be free. -/
def fill {α : Type} (place : Option α) (value? : Option α) : Option (Option α) :=
  if place.isSome then none else value?.map some

/-- Sets an option to a value; none if the value does not fit or the option was set before. -/
def setValue? (o : CliOptions) (option : ValueOption) (value : String) : Option CliOptions :=
  match option with
  | .outputFile => (fill o.output? (path? value)).map fun v => { o with output? := v }
  | .config => (fill o.config? (path? value)).map fun v => { o with config? := v }
  | .endpoint => (fill o.endpoint? (some value)).map fun v => { o with endpoint? := v }
  | .command => (fill o.command? (some value)).map fun v => { o with command? := v }
  | .argument => some { o with arguments := o.arguments ++ [value] }
  | .timeout => (fill o.timeout? (seconds? value)).map fun v => { o with timeout? := v }

/-- Adds a path; none if it is empty. -/
def addPath? (o : CliOptions) (s : String) : Option CliOptions :=
  (path? s).map fun p => { o with paths := o.paths ++ [p] }

/-- Whether the options fit together. -/
def isConsistent (o : CliOptions) : Bool :=
  !o.paths.isEmpty && !(o.endpoint?.isSome && o.command?.isSome) &&
    !(o.noInference && (o.endpoint?.isSome || o.command?.isSome)) &&
    (o.arguments.isEmpty || o.command?.isSome)

end CliOptions

namespace CliRequest

/-- What was understood so far: the options, or that nothing else counts. -/
abbrev Reading := Except CliRequest CliOptions

/-- Gives the options, or gives up. -/
def orMisuse : Option CliOptions → Reading
  | some o => .ok o
  | none => .error .misuse

/-- Sets an option without a value. Those that switch something on may be given only once. -/
def setFlag (o : CliOptions) : FlagOption → Reading
  | .noInference => if o.noInference then .error .misuse else .ok { o with noInference := true }
  | .traversalOrder =>
    if o.traversalOrder then .error .misuse else .ok { o with traversalOrder := true }
  | .verbose => .ok { o with verbosity := o.verbosity + 1 }
  | .help => .error .help
  | .version => .error .version

/-- An argument, by its look. -/
inductive Argument where
  /-- Two dashes: what follows are paths. -/
  | divider
  | long (name : String) (value? : Option String)
  | letters (cs : List Char)
  | path (s : String)
deriving Repr, BEq, Inhabited

/-- Tells what an argument looks like. -/
def Argument.of (s : String) : Argument :=
  match s.toList with
  | ['-', '-'] => .divider
  | '-' :: '-' :: rest =>
    let name := rest.takeWhile (· != '=')
    match rest.drop name.length with
    | [] => .long (String.ofList name) none
    | _ :: value => .long (String.ofList name) (some (String.ofList value))
  | '-' :: c :: rest => .letters (c :: rest)
  | _ => .path s

/-- Whether an argument can be the value of an option. -/
def isValueFor (option : ValueOption) (s : String) : Bool :=
  option.takesAnything ||
    match Argument.of s with
    | .path _ => true
    | _ => false

/-- Reads letters behind a dash. The last one may be an option whose value is the next argument. -/
def readLetters (o : CliOptions) : List Char → Except CliRequest (CliOptions × Option ValueOption)
  | [] => .ok (o, none)
  | c :: rest =>
    match FlagOption.all.find? (·.letter? == some c), ValueOption.all.find? (·.letter? == some c) with
    | some flag, _ =>
      match setFlag o flag with
      | .ok o => readLetters o rest
      | .error r => .error r
    | none, some option =>
      match rest with
      | [] => .ok (o, some option)
      | '=' :: value => (orMisuse (o.setValue? option (String.ofList value))).map (·, none)
      | value => (orMisuse (o.setValue? option (String.ofList value))).map (·, none)
    | none, none => .error .misuse

/-- Reads an option with a long name. Its value may be the next argument. -/
def readLong (o : CliOptions) (name : String) (value? : Option String) :
    Except CliRequest (CliOptions × Option ValueOption) :=
  match FlagOption.all.find? (·.name == name), ValueOption.all.find? (·.name == name), value? with
  | some flag, _, none => (setFlag o flag).map (·, none)
  | some _, _, some _ => .error .misuse
  | none, some option, some value => (orMisuse (o.setValue? option value)).map (·, none)
  | none, some option, none => .ok (o, some option)
  | none, none, _ => .error .misuse

/-- Adds paths. -/
def addPaths (o : CliOptions) : List String → Reading
  | [] => .ok o
  | s :: rest =>
    match o.addPath? s with
    | some o => addPaths o rest
    | none => .error .misuse

/-- Reads one argument. The value of an option may be the next argument. -/
def readArgument (o : CliOptions) : Argument → Except CliRequest (CliOptions × Option ValueOption)
  | .divider => .ok (o, none)
  | .long name value? => readLong o name value?
  | .letters cs => readLetters o cs
  | .path s => (orMisuse (o.addPath? s)).map (·, none)

/-- Reads arguments one after another. -/
def read (o : CliOptions) : List String → Reading
  | [] => .ok o
  | s :: rest =>
    if Argument.of s == .divider then addPaths o rest
    else
      match readArgument o (.of s) with
      | .error r => .error r
      | .ok (o, none) => read o rest
      | .ok (o, some option) =>
        match rest with
        | [] => .error .misuse
        | value :: rest =>
          if isValueFor option value then
            match o.setValue? option value with
            | some o => read o rest
            | none => .error .misuse
          else .error .misuse

/-- Reads a command line, without the name of the program. -/
def ofArguments (arguments : List String) : CliRequest :=
  match read {} arguments with
  | .error r => r
  | .ok o => if o.isConsistent then .scan o else .misuse

end CliRequest

end ScriptCensus
