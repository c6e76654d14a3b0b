/-!
# Shell scripts

A script is a list of pipelines of simple commands. `Script.parse` reads one.
-/

namespace ScriptCensus

/-- A part of a word. Parts that are not quoted may fall into several words when they are expanded. -/
inductive WordPart where
  | text (s : String) (quoted : Bool)
  | parameter (name : String) (quoted : Bool)
  /-- The output of a script. -/
  | output (script : String) (quoted : Bool)
deriving Repr, BEq, Inhabited

/-- A word, before its parameters are expanded. -/
abbrev Word := List WordPart

/-- What becomes of a stream of a command. -/
inductive Redirection where
  | read (target : Word)
  | write (stream : Nat) (target : Word)
  | append (stream : Nat) (target : Word)
  /-- The stream goes where another one goes. -/
  | copy (stream : Nat) (target : Word)
deriving Repr, BEq, Inhabited

/-- A command without further structure, and the line that it ends on. -/
structure SimpleCommand where
  words : List Word
  redirections : List Redirection
  line : Nat
deriving Repr, BEq, Inhabited

/-- When a pipeline runs, as the status of the one before it tells. -/
inductive Condition where
  | always
  | onSuccess
  | onFailure
deriving Repr, BEq, DecidableEq, Inhabited

/-- Commands of which each reads what the one before it writes. -/
structure Pipeline where
  condition : Condition
  negated : Bool
  commands : List SimpleCommand
deriving Repr, BEq, Inhabited

/-- A script that can be run. -/
abbrev Script := List Pipeline

/-- Why a script cannot be run. -/
inductive ScriptError where
  | unterminatedQuote
  | unterminatedSubstitution
  | unexpected (token : String)
deriving Repr, BEq, DecidableEq, Inhabited

/-- The wording of an error. -/
def ScriptError.message : ScriptError → String
  | unterminatedQuote => "Syntax error: Unterminated quoted string"
  | unterminatedSubstitution => "Syntax error: end of file unexpected (expecting \")\")"
  | unexpected token => "Syntax error: " ++ token ++ " unexpected"

namespace Script

/-! ## Words -/

/-- Whether a character ends a word. -/
def endsWord (c : Char) : Bool :=
  " \t\n;&|<>()".toList.contains c

/-- Whether a character may stand in a name. -/
def isNameChar (c : Char) : Bool :=
  c.isAlphanum || c == '_'

/-- Splits at the bracket that closes one that was opened before. -/
def splitClosing : Nat → List Char → Option (List Char × List Char)
  | _, [] => none
  | depth, c :: rest =>
    match c, depth with
    | ')', 0 => some ([], rest)
    | ')', n + 1 => (splitClosing n rest).map fun (inside, after) => (c :: inside, after)
    | '(', n => (splitClosing (n + 1) rest).map fun (inside, after) => (c :: inside, after)
    | _, n => (splitClosing n rest).map fun (inside, after) => (c :: inside, after)

/-- Reads what is behind a dollar sign. -/
def readDollar (quoted : Bool) : List Char → Except ScriptError (WordPart × List Char)
  | '(' :: rest =>
    match splitClosing 0 rest with
    | some (inside, after) => .ok (.output (String.ofList inside) quoted, after)
    | none => .error .unterminatedSubstitution
  | '\x7b' :: rest =>
    let name := rest.takeWhile (· != '\x7d')
    .ok (.parameter (String.ofList name) quoted, rest.drop (name.length + 1))
  | [] => .ok (.text "$" quoted, [])
  | c :: rest =>
    if c.isDigit || "@*#?$!-".toList.contains c then
      .ok (.parameter (String.singleton c) quoted, rest)
    else if isNameChar c then
      let name := (c :: rest).takeWhile isNameChar
      .ok (.parameter (String.ofList name) quoted, (c :: rest).drop name.length)
    else .ok (.text "$" quoted, c :: rest)

/-- Reads what is between double quotes. The first argument bounds the number of steps. -/
def readQuoted : Nat → List Char → Except ScriptError (Word × List Char)
  | 0, _ => .error .unterminatedQuote
  | _, [] => .error .unterminatedQuote
  | _, '"' :: rest => .ok ([], rest)
  | fuel + 1, '\\' :: c :: rest => do
    let (more, after) ← readQuoted fuel rest
    let s := if c == '\n' then ""
      else if "$`\"\\".toList.contains c then String.singleton c
      else String.ofList ['\\', c]
    return (.text s true :: more, after)
  | fuel + 1, '$' :: rest => do
    let (part, rest) ← readDollar true rest
    let (more, after) ← readQuoted fuel rest
    return (part :: more, after)
  | fuel + 1, c :: rest => do
    let (more, after) ← readQuoted fuel rest
    return (.text (String.singleton c) true :: more, after)

/-- Reads a word. The first argument bounds the number of steps. -/
def readWord : Nat → List Char → Except ScriptError (Word × List Char)
  | 0, cs => .ok ([], cs)
  | _, [] => .ok ([], [])
  | fuel + 1, '\\' :: rest =>
    match rest with
    | [] => .ok ([.text "\\" true], [])
    | '\n' :: rest => readWord fuel rest
    | c :: rest => do
      let (more, after) ← readWord fuel rest
      return (.text (String.singleton c) true :: more, after)
  | fuel + 1, '\x27' :: rest =>
    let inside := rest.takeWhile (· != '\x27')
    match rest.drop inside.length with
    | [] => .error .unterminatedQuote
    | _ :: rest => do
      let (more, after) ← readWord fuel rest
      return (.text (String.ofList inside) true :: more, after)
  | fuel + 1, '"' :: rest => do
    let (inside, rest) ← readQuoted (rest.length + 1) rest
    let (more, after) ← readWord fuel rest
    return ((if inside.isEmpty then [.text "" true] else inside) ++ more, after)
  | fuel + 1, '$' :: rest => do
    let (part, rest) ← readDollar false rest
    let (more, after) ← readWord fuel rest
    return (part :: more, after)
  | fuel + 1, c :: rest =>
    if endsWord c then .ok ([], c :: rest)
    else do
      let (more, after) ← readWord fuel rest
      return (.text (String.singleton c) false :: more, after)

/-! ## Tokens -/

/-- A token of a script. -/
inductive Token where
  | word (w : Word)
  | operator (symbol : String)
  /-- The start of a redirection of a stream. -/
  | arrow (symbol : String) (stream? : Option Nat)
  | newline
deriving Repr, BEq, Inhabited

/-- The operators, longer ones first. -/
def operators : List String := ["&&", "||", ";", "|", "&", "(", ")"]

/-- The symbols that start a redirection, longer ones first. -/
def arrows : List String := [">>", ">&", "<&", "<", ">"]

/-- The symbol of a list that characters start with, and what is behind it. -/
def readSymbol (symbols : List String) (cs : List Char) : Option (String × List Char) :=
  (symbols.find? fun s => s.toList.isPrefixOf cs).map fun s => (s, cs.drop s.length)

/-- The number of a stream in front of an arrow. -/
def readStream (cs : List Char) : Option (Nat × List Char) :=
  match cs with
  | d :: c :: rest =>
    if d.isDigit && (c == '<' || c == '>') then some (d.toNat - '0'.toNat, c :: rest) else none
  | _ => none

/-- Splits a script into tokens. The first argument bounds the number of steps. -/
def tokens : Nat → List Char → Except ScriptError (List Token)
  | 0, _ => .ok []
  | _, [] => .ok []
  | fuel + 1, c :: rest =>
    if c == ' ' || c == '\t' then tokens fuel rest
    else if c == '\n' then do return .newline :: (← tokens fuel rest)
    else if c == '#' then tokens fuel (rest.dropWhile (· != '\n'))
    else
      match readSymbol operators (c :: rest) with
      | some (symbol, after) => do return .operator symbol :: (← tokens fuel after)
      | none =>
        let (stream?, cs) := match readStream (c :: rest) with
          | some (n, cs) => (some n, cs)
          | none => (none, c :: rest)
        match readSymbol arrows cs with
        | some (symbol, after) => do return .arrow symbol stream? :: (← tokens fuel after)
        | none => do
          let (w, after) ← readWord (rest.length + 2) (c :: rest)
          return .word w :: (← tokens fuel after)

/-! ## Commands -/

/-- Adds a redirection to a command. -/
def redirect (c : SimpleCommand) (symbol : String) (stream? : Option Nat) (target : Word) :
    SimpleCommand :=
  let r := match symbol with
    | "<" => Redirection.read target
    | ">>" => .append (stream?.getD 1) target
    | ">&" => .copy (stream?.getD 1) target
    | "<&" => .copy (stream?.getD 0) target
    | _ => .write (stream?.getD 1) target
  { c with redirections := c.redirections ++ [r] }

/-- A pipeline that is being read: its commands so far, and the last one. -/
structure Draft where
  condition : Condition
  negated : Bool
  done : List SimpleCommand
  last : SimpleCommand
deriving Inhabited

/-- The start of a pipeline. -/
def Draft.start (condition : Condition) (line : Nat) : Draft :=
  ⟨condition, false, [], ⟨[], [], line⟩⟩

/-- Whether nothing was read of the last command. -/
def Draft.isBlank (d : Draft) : Bool :=
  d.last.words.isEmpty && d.last.redirections.isEmpty

/-- The pipeline that was read, if there is one. -/
def Draft.pipelines (d : Draft) : List Pipeline :=
  if d.isBlank then [] else [⟨d.condition, d.negated, d.done ++ [d.last]⟩]

/-- Reads commands. -/
def commands (line : Nat) (d : Draft) : List Token → Except ScriptError Script
  | [] =>
    if d.isBlank && (!d.done.isEmpty || d.condition != .always) then
      .error (.unexpected "end of file")
    else .ok d.pipelines
  | .newline :: rest =>
    if d.isBlank then commands (line + 1) { d with last := { d.last with line := line + 1 } } rest
    else do return d.pipelines ++ (← commands (line + 1) (.start .always (line + 1)) rest)
  | .operator symbol :: rest =>
    if d.isBlank then .error (.unexpected ("\"" ++ symbol ++ "\""))
    else
      match symbol with
      | "|" => commands line { d with done := d.done ++ [d.last], last := ⟨[], [], line⟩ } rest
      | "&&" => do return d.pipelines ++ (← commands line (.start .onSuccess line) rest)
      | "||" => do return d.pipelines ++ (← commands line (.start .onFailure line) rest)
      | "(" => .error (.unexpected "\"(\"")
      | ")" => .error (.unexpected "\")\"")
      | _ => do return d.pipelines ++ (← commands line (.start .always line) rest)
  | .arrow symbol stream? :: .word target :: rest =>
    commands line { d with last := redirect d.last symbol stream? target } rest
  | .arrow .. :: .newline :: _ => .error (.unexpected "newline")
  | .arrow .. :: _ => .error (.unexpected "end of file")
  | .word w :: rest =>
    if w == [.text "!" false] && d.isBlank && d.done.isEmpty then
      commands line { d with negated := !d.negated } rest
    else commands line { d with last := { d.last with words := d.last.words ++ [w] } } rest

/-- Reads a script. -/
def parse (s : String) : Except ScriptError Script := do
  commands 1 (.start .always 1) (← tokens (s.length + 1) s.toList)

end Script

end ScriptCensus
