import ScriptCensus.Config.Basic
import ScriptCensus.Glob.Parse
import ScriptCensus.Inference.Error
import ScriptCensus.Inference.Target
import ScriptCensus.Text.Blank
import ScriptCensus.Tree.Functions

/-!
# Settings

`Config.fault?` tells what is wrong with a configuration, and `Config.settings` gives what a scan goes
by: the configuration with the defaults filled in.
-/

namespace ScriptCensus

/-- What is wrong with a configuration. -/
inductive ConfigFault where
  | invalidExclude (pattern : String) (cause : GlobError)
  | invalidEndpoint (endpoint : String) (cause : Url.ParseError)
  | wrongScheme (scheme : String)
  | noProgram
  | blankProgram
  | endpointAndCommand
  | noTime
  | emptyOutput
deriving Inhabited

/-- The wording of a fault, followed by that of its cause if it has one. -/
def ConfigFault.chain : ConfigFault → List String
  | invalidExclude pattern cause => ["invalid exclude pattern: " ++ pattern, cause.message pattern]
  | invalidEndpoint endpoint cause => ["invalid endpoint: " ++ endpoint, cause.message]
  | wrongScheme scheme => ["endpoint must use http or https (got " ++ scheme ++ ")"]
  | noProgram => ["command must name a program"]
  | blankProgram => ["command program must not be blank"]
  | endpointAndCommand => ["endpoint and command are mutually exclusive"]
  | noTime => ["timeout_secs must be positive (got 0)"]
  | emptyOutput => ["output must not be empty"]

/-- What is wrong with the endpoint of a service. -/
def endpointFault? (endpoint : String) : Option ConfigFault :=
  match Url.parse endpoint with
  | .error cause => some (.invalidEndpoint endpoint cause)
  | .ok url => if url.isWeb then none else some (.wrongScheme (String.ofList url.scheme))

/-- What a scan goes by. -/
structure Settings where
  exclude : List String
  output : Path
  target : InferenceTarget
  /-- How many seconds handing on may take. -/
  timeout? : Option Nat
  order : FunctionOrder
deriving Repr, BEq, DecidableEq

namespace Settings

/-- Where the report is stored if nothing else is said. -/
def defaultOutput : Path := ⟨"result.json"⟩

end Settings

namespace Config

/-- What is wrong with an exclude pattern. -/
def excludeFault? (pattern : String) : Option ConfigFault :=
  match Glob.parse pattern with
  | .error cause => some (.invalidExclude pattern cause)
  | .ok _ => none

/-- What is wrong with a command. -/
def commandFault? : List String → Option ConfigFault
  | [] => some .noProgram
  | program :: _ => if (trimBlanks program).isEmpty then some .blankProgram else none

/-- The first thing that is wrong with a configuration. -/
def fault? (c : Config) : Option ConfigFault :=
  c.exclude.findSome? excludeFault?
    <|> c.endpoint?.bind endpointFault?
    <|> c.command?.bind commandFault?
    <|> (if c.endpoint?.isSome && c.command?.isSome then some .endpointAndCommand else none)
    <|> (if c.timeout? = some 0 then some .noTime else none)
    <|> (if c.output? = some ⟨""⟩ then some .emptyOutput else none)

/-- The target that a configuration names. -/
def target (c : Config) : InferenceTarget :=
  match c.command?, c.endpoint? with
  | some (program :: arguments), _ => .command program arguments
  | _, some endpoint => .service endpoint
  | _, none => default

/-- The order that a configuration asks for. -/
def order (c : Config) : FunctionOrder :=
  if c.sortByLine?.getD true then .sourceLine else .traversal

/-- The settings of a configuration, whether anything is wrong with it or not. -/
def toSettings (c : Config) : Settings :=
  { exclude := c.exclude, output := c.output?.getD Settings.defaultOutput, target := c.target,
    timeout? := c.timeout?, order := c.order }

/-- The settings of a configuration with which nothing is wrong. -/
def settings (c : Config) : Except ConfigFault Settings :=
  match c.fault? with
  | some fault => .error fault
  | none => .ok c.toSettings

end Config

/-- The settings of a scan that is not configured. -/
def Settings.defaults : Settings :=
  Config.toSettings {}

end ScriptCensus
