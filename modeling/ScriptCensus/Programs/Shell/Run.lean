import ScriptCensus.Programs.Shell.Script
import ScriptCensus.Programs.Tools
import ScriptCensus.Source.Utf8

/-!
# Running shell scripts

`Shell.run` runs a script, one pipeline after another. A script runs other scripts only inside
substitutions and through the shell itself, to a bounded depth.
-/

namespace ScriptCensus

/-- The state of a running script. -/
structure Shell where
  /-- The name that the script runs under. -/
  name : String
  parameters : List String
  bindings : List (String × String)
  status : Nat
  input : List UInt8
  output : List UInt8
  complaints : List UInt8
  files : FileSystem
  milliseconds : Nat
  /-- How the script ended, once it has. -/
  ended? : Option ExitStatus
deriving Inhabited

namespace Shell

/-- A script that has not done anything yet. -/
def start (name : String) (parameters : List String) (input : List UInt8) (fs : FileSystem) : Shell :=
  ⟨name, parameters, [], 0, input, [], [], fs, 0, none⟩

/-- What a script leaves behind. -/
def result (sh : Shell) : ProgramRun :=
  ⟨sh.ended?.getD (.code sh.status), sh.output, sh.complaints, sh.files, sh.milliseconds⟩

/-- Complains about a line. -/
def complain (sh : Shell) (line : Nat) (message : String) : Shell :=
  let text := sh.name ++ s!": {line}: " ++ message ++ "\n"
  { sh with complaints := sh.complaints ++ textBytes text }

/-! ## Expansion -/

/-- The number by which a script is known to the system. -/
def processNumber : String := "4242"

/-- The value of a parameter. -/
def valueOf (sh : Shell) (name : String) : String :=
  match name with
  | "@" => " ".intercalate sh.parameters
  | "*" => " ".intercalate sh.parameters
  | "#" => toString sh.parameters.length
  | "?" => toString sh.status
  | "$" => processNumber
  | "0" => sh.name
  | _ =>
    if name.toList.all Char.isDigit then
      sh.parameters.getD ((Format.readNumber name.toList).1 - 1) ""
    else (sh.bindings.lookup name).getD ""

/-- What a word expands to: texts, and the places where a new word starts. -/
inductive Fragment where
  | text (s : String)
  | cut
deriving Repr, Inhabited

/-- Whether a character divides words. -/
def dividesWords (c : Char) : Bool :=
  c == ' ' || c == '\t' || c == '\n'

/-- Divides a value into words. -/
def divided : List Char → List Fragment
  | [] => []
  | c :: rest => (if dividesWords c then .cut else .text (String.singleton c)) :: divided rest

/-- The fragments of a value. -/
def fragments (quoted : Bool) (value : String) : List Fragment :=
  if quoted then [.text value] else divided value.toList

/-- The words that fragments make up, given the word so far. -/
def joinFragments (soFar? : Option String) : List Fragment → List String
  | [] => soFar?.toList
  | .cut :: rest => soFar?.toList ++ joinFragments none rest
  | .text s :: rest => joinFragments (some (soFar?.getD "" ++ s)) rest

/-- The output of a script, as it is put into a word. -/
def outputText (bytes : List UInt8) : String :=
  String.ofList (decodeUtf8 ((bytes.reverse.dropWhile (· == 10)).reverse.filter (· != 0)))

/-- Expands the parts of a word, given how scripts run. -/
def expandParts (runScript : Shell → String → Shell) : Shell → Word → Shell × List Fragment
  | sh, [] => (sh, [])
  | sh, part :: rest =>
    let (sh, first) := match part with
      | .text s _ => (sh, [Fragment.text s])
      | .parameter "@" true => (sh, (sh.parameters.map Fragment.text).intersperse .cut)
      | .parameter name quoted => (sh, fragments quoted (sh.valueOf name))
      | .output script quoted =>
        let inner := runScript { sh with output := [] } script
        let outer := { sh with
          status := inner.status, complaints := inner.complaints, files := inner.files,
          milliseconds := inner.milliseconds }
        (outer, fragments quoted (outputText inner.output))
    let (sh, more) := expandParts runScript sh rest
    (sh, first ++ more)

/-- Expands words. -/
def expandWords (runScript : Shell → String → Shell) : Shell → List Word → Shell × List String
  | sh, [] => (sh, [])
  | sh, w :: rest =>
    let (sh, first) := expandParts runScript sh w
    let (sh, more) := expandWords runScript sh rest
    (sh, joinFragments none first ++ more)

/-- The name and the value of a word that sets a variable. -/
def assignment? (w : Word) : Option (String × Word) :=
  let isPlain : WordPart → Bool
    | .text _ false => true
    | _ => false
  let front := w.takeWhile isPlain
  let chars := front.flatMap fun part => match part with
    | .text s _ => s.toList
    | _ => []
  let name := chars.takeWhile Script.isNameChar
  match chars.drop name.length with
  | '=' :: rest =>
    if name.isEmpty || (name.head?.map Char.isDigit).getD true then none
    else some (String.ofList name, .text (String.ofList rest) true :: w.drop front.length)
  | _ => none

/-! ## Redirection -/

/-- Where a stream goes. -/
inductive Sink where
  | output
  | complaints
  | file (path : Path)
deriving Repr, BEq, Inhabited

/-- The streams of a command. -/
structure Streams where
  input : List UInt8
  output : Sink
  complaints : Sink
deriving Inhabited

/-- Why a file cannot be opened or created. -/
def openMessage (creating : Bool) (name : String) (e : FileError) : String :=
  match creating, e with
  | true, .notFound => "cannot create " ++ name ++ ": Directory nonexistent"
  | true, e => "cannot create " ++ name ++ ": " ++ Program.plainMessage e
  | false, .notFound => "cannot open " ++ name ++ ": No such file"
  | false, e => "cannot open " ++ name ++ ": " ++ Program.plainMessage e

/-- Sets where a stream goes. -/
def Streams.set (s : Streams) (stream : Nat) (sink : Sink) : Streams :=
  if stream = 2 then { s with complaints := sink } else { s with output := sink }

/-- Opens what a redirection names. -/
def applyRedirection (sh : Shell) (s : Streams) (r : Redirection) (name : String) :
    Except String (Shell × Streams) :=
  match r with
  | .read _ =>
    match sh.files.read ⟨name⟩ with
    | .ok content => .ok (sh, { s with input := content.data.toList })
    | .error e => .error (openMessage false name e)
  | .write stream _ =>
    match sh.files.write ⟨name⟩ ByteArray.empty with
    | .ok files => .ok ({ sh with files }, s.set stream (.file ⟨name⟩))
    | .error e => .error (openMessage true name e)
  | .append stream _ =>
    match sh.files.read ⟨name⟩ with
    | .ok _ => .ok (sh, s.set stream (.file ⟨name⟩))
    | .error .notFound =>
      match sh.files.write ⟨name⟩ ByteArray.empty with
      | .ok files => .ok ({ sh with files }, s.set stream (.file ⟨name⟩))
      | .error e => .error (openMessage true name e)
    | .error e => .error (openMessage true name e)
  | .copy stream _ => .ok (sh, s.set stream (if name = "2" then s.complaints else s.output))

/-- The target of a redirection. -/
def targetOf : Redirection → Word
  | .read w => w
  | .write _ w => w
  | .append _ w => w
  | .copy _ w => w

/-- Opens what redirections name, one after another. -/
def applyRedirections (runScript : Shell → String → Shell) (sh : Shell) (s : Streams) :
    List Redirection → Shell × Except String Streams
  | [] => (sh, .ok s)
  | r :: rest =>
    let (sh, fragments) := expandParts runScript sh (targetOf r)
    let name := String.join (joinFragments none fragments)
    match applyRedirection sh s r name with
    | .error message => (sh, .error message)
    | .ok (sh, s) => applyRedirections runScript sh s rest

/-- Sends bytes to where a stream goes. -/
def send (sh : Shell) (bytes : List UInt8) : Sink → Shell
  | .output => { sh with output := sh.output ++ bytes }
  | .complaints => { sh with complaints := sh.complaints ++ bytes }
  | .file path =>
    let before := ((sh.files.read path).toOption.map (·.data.toList)).getD []
    match sh.files.write path ⟨(before ++ bytes).toArray⟩ with
    | .ok files => { sh with files }
    | .error _ => sh

/-! ## Commands -/

/-- Whether a condition on files, texts or numbers holds; none if it is none. -/
def holds? (fs : FileSystem) : List String → Option Bool
  | [] => some false
  | [s] => some (s != "")
  | ["!", s] => some (s == "")
  | ["-f", s] => some (fs.isFile ⟨s⟩)
  | ["-d", s] => some (fs.isDirectory ⟨s⟩)
  | ["-e", s] => some (fs.leadsSomewhere ⟨s⟩)
  | ["-r", s] => some (fs.leadsSomewhere ⟨s⟩)
  | ["-s", s] => some (((fs.read ⟨s⟩).toOption.map (·.size != 0)).getD (fs.isDirectory ⟨s⟩))
  | ["-n", s] => some (s != "")
  | ["-z", s] => some (s == "")
  | [a, "=", b] => some (a == b)
  | [a, "!=", b] => some (a != b)
  | [a, op, b] =>
    match Format.number? a, Format.number? b, op with
    | some m, some n, "-eq" => some (m == n)
    | some m, some n, "-ne" => some (m != n)
    | some m, some n, "-lt" => some (m < n)
    | some m, some n, "-le" => some (m ≤ n)
    | some m, some n, "-gt" => some (m > n)
    | some m, some n, "-ge" => some (m ≥ n)
    | _, _, _ => none
  | "!" :: rest => (holds? fs rest).map (!·)
  | _ => none

/-- Tells by its status whether a condition holds. -/
def condition : Program := fun arguments _ fs =>
  match holds? fs arguments with
  | some true => Program.ending 0 [] [] fs
  | some false => Program.ending 1 [] [] fs
  | none => Program.ending 2 [] [] fs

/-- Prints its arguments, with escapes expanded. -/
def echo : Program := fun arguments _ fs =>
  let quiet := arguments.head? == some "-n"
  let rest := if quiet then arguments.drop 1 else arguments
  Program.ending 0 (Program.printArguments true (!quiet) rest) [] fs

/-- The programs that the shell finds. -/
def programs : List (String × Program) :=
  [("cat", Program.cat), ("echo", Program.echo), ("false", Program.idle 1),
   ("printf", Program.printf), ("sleep", Program.sleep), ("true", Program.idle 0),
   ("wc", Program.wc)]

/-- The commands that the shell knows itself and that only print or tell a status. -/
def builtins : List (String × Program) :=
  [("echo", echo), ("printf", Program.printf), ("true", Program.idle 0), (":", Program.idle 0),
   ("false", Program.idle 1), ("test", condition),
   ("[", fun arguments => condition (arguments.take (arguments.length - 1)))]

/-- The signals by number and name. -/
def signals : List (Nat × String) :=
  [(1, "HUP"), (2, "INT"), (6, "ABRT"), (9, "KILL"), (13, "PIPE"), (14, "ALRM"), (15, "TERM")]

/-- The signal that an argument names by number or name. -/
def signalOf? (s : String) : Option (Nat × String) :=
  signals.find? fun (number, name) => s == toString number || s == name || s == "SIG" ++ name

/-- The signal that the arguments of a command send to the script, if they do. -/
def signalTo? : List String → Option (Nat × String)
  | [target] => if target == processNumber then signalOf? "TERM" else none
  | ["-s", s, target] => if target == processNumber then signalOf? s else none
  | [s, target] =>
    if target == processNumber then signalOf? (String.ofList (s.toList.drop 1)) else none
  | _ => none

/-- Takes over what a program left behind. -/
def absorb (sh : Shell) (s : Streams) (run : ProgramRun) : Shell :=
  let status := match run.status with
    | .code n => n
    | .signal n _ => 128 + n
  let sh := { sh with files := run.files, status, milliseconds := sh.milliseconds + run.milliseconds }
  (sh.send run.output s.output).send run.complaints s.complaints

/-- Runs a command whose words and streams are known. -/
def runCommand (runShell : Program) (sh : Shell) (s : Streams) (line : Nat) :
    List String → Shell
  | [] => sh
  | "exit" :: rest =>
    let status := match rest with
      | [] => sh.status
      | n :: _ => (Format.readNumber n.toList).1 % 256
    { sh with status, ended? := some (.code status) }
  | "exec" :: rest =>
    match rest with
    | [] => sh
    | name :: arguments =>
      let sh := external name arguments
      { sh with ended? := some (.code sh.status) }
  | "kill" :: rest =>
    match signalTo? rest with
    | some (number, name) => { sh with ended? := some (.signal number ("SIG" ++ name)) }
    | none => { sh with status := 1 }
  | "shift" :: _ => { sh with parameters := sh.parameters.drop 1, status := 0 }
  | name :: arguments =>
    match builtins.lookup name with
    | some program => sh.absorb s (program arguments s.input sh.files)
    | none => external name arguments
where
  /-- Runs a program that the shell finds. -/
  external (name : String) (arguments : List String) : Shell :=
    match (("sh", runShell) :: programs).lookup name with
    | some program => sh.absorb s (program arguments s.input sh.files)
    | none =>
      let text := sh.name ++ s!": {line}: " ++ name ++ ": not found\n"
      { sh.send (textBytes text) s.complaints with status := 127 }

/-- Runs a command. -/
def runSimple (runScript : Shell → String → Shell) (runShell : Program) (sh : Shell)
    (c : SimpleCommand) : Shell :=
  let settings := (c.words.map assignment?).takeWhile Option.isSome
  let (sh, words) := expandWords runScript sh (c.words.drop settings.length)
  let (sh, streams) :=
    applyRedirections runScript sh ⟨sh.input, .output, .complaints⟩ c.redirections
  match streams with
  | .error message => { sh.complain c.line message with status := 2 }
  | .ok s =>
    if words.isEmpty then
      let set (sh : Shell) (setting : Option (String × Word)) : Shell := match setting with
        | some (name, w) =>
          let (sh, fragments) := expandParts runScript sh w
          let value := String.join (joinFragments none fragments)
          { sh with bindings := (name, value) :: sh.bindings }
        | none => sh
      settings.foldl set { sh with status := 0 }
    else runCommand runShell sh s c.line words

/-- Runs the commands of a pipeline; each reads what the one before it writes. -/
def runPiped (runScript : Shell → String → Shell) (runShell : Program) (sh : Shell) :
    List SimpleCommand → Shell
  | [] => sh
  | [c] => runSimple runScript runShell sh c
  | c :: rest =>
    let ran := runSimple runScript runShell { sh with output := [] } c
    let next := runPiped runScript runShell
      { sh with input := ran.output, complaints := ran.complaints, files := ran.files,
                milliseconds := ran.milliseconds } rest
    { next with input := sh.input, ended? := none }

/-- Whether a pipeline runs. -/
def mayRun (sh : Shell) : Condition → Bool
  | .always => true
  | .onSuccess => sh.status == 0
  | .onFailure => sh.status != 0

/-- Runs a pipeline, unless the script has ended. -/
def runPipeline (runScript : Shell → String → Shell) (runShell : Program) (sh : Shell)
    (p : Pipeline) : Shell :=
  if sh.ended?.isSome || !sh.mayRun p.condition then sh
  else
    let sh := runPiped runScript runShell sh p.commands
    if p.negated then { sh with status := if sh.status == 0 then 1 else 0 } else sh

mutual

/-- Runs the text of a script, with scripts inside it to the given depth. -/
def runText (depth : Nat) (sh : Shell) (text : String) : Shell :=
  match depth with
  | 0 => sh
  | depth + 1 =>
    match Script.parse text with
    | .error e => { sh.complain 1 e.message with status := 2, ended? := some (.code 2) }
    | .ok script => script.foldl (runPipeline (runText depth) (runArguments depth)) sh

/-- Runs the shell with arguments: a script itself, or the path of one. -/
def runArguments (depth : Nat) (arguments : List String) (input : List UInt8) (fs : FileSystem) :
    ProgramRun :=
  match depth with
  | 0 => Program.ending 0 [] [] fs
  | depth + 1 =>
    match arguments with
    | [] => (runText depth (start "sh" [] [] fs) (outputText input)).result
    | option :: rest =>
      if option.toList.head? == some '-' then
        match rest with
        | [] => Program.ending 2 [] (textBytes "sh: 0: -c requires an argument\n") fs
        | script :: more =>
          (runText depth (start (more.headD "sh") (more.drop 1) input fs) script).result
      else
        match fs.read ⟨option⟩ with
        | .ok content =>
          (runText depth (start option rest input fs) (textOfBytes content)).result
        | .error e =>
          Program.ending 2 [] (textBytes ("sh: 0: " ++ openMessage false option e ++ "\n")) fs

end

/-- How deep scripts may be nested. -/
def maxDepth : Nat := 64

/-- Runs a script. -/
def run : Program := runArguments maxDepth

end Shell

end ScriptCensus
