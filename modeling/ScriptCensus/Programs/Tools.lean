import ScriptCensus.Programs.Escape

/-!
# Tools

Programs that print their arguments, files or counts.
-/

namespace ScriptCensus

namespace Program

/-- Arguments with blanks between them. -/
def spaced (arguments : List String) : List UInt8 :=
  textBytes (" ".intercalate arguments)

/-! ## Printing arguments -/

/-- Whether an argument consists of a dash and some of the given letters. -/
def isOption (letters : List Char) (argument : String) : Bool :=
  match argument.toList with
  | '-' :: c :: rest => (c :: rest).all letters.contains
  | _ => false

/-- Prints arguments, with escapes expanded if so wanted. -/
def printArguments (escapes newline : Bool) (arguments : List String) : List UInt8 :=
  let (bytes, stopped) :=
    if escapes then Escape.expandAll .zeroLed (" ".intercalate arguments)
    else (spaced arguments, false)
  if newline && !stopped then bytes ++ [10] else bytes

/-- Prints its arguments. -/
def echo : Program := fun arguments _ fs =>
  let options := arguments.takeWhile (isOption ['n', 'e', 'E'])
  let letters := (options.map (·.toList.drop 1)).flatten
  let escapes := letters.reverse.find? (· != 'n') == some 'e'
  let rest := arguments.drop options.length
  ending 0 (printArguments escapes (!letters.contains 'n') rest) [] fs

/-- Prints its arguments as the first of them says. -/
def printf : Program := fun arguments _ fs =>
  match arguments with
  | [] => ending 1 [] (textBytes "printf: missing operand\n") fs
  | "--" :: [] => ending 1 [] (textBytes "printf: missing operand\n") fs
  | "--" :: format :: rest => finish (Format.expand format rest) fs
  | format :: rest => finish (Format.expand format rest) fs
where
  /-- The run of which the format made the output. -/
  finish (p : Format.Progress) (fs : FileSystem) : ProgramRun :=
    ending (if p.failed then 1 else 0) p.bytes [] fs

/-! ## Printing files -/

/-- The wording of an error without its number. -/
def plainMessage (e : FileError) : String :=
  String.ofList ((e.message.toList.reverse.dropWhile (· != '(')).drop 2).reverse

/-- The bytes that an operand stands for: those of a file, or the input. -/
def operand (input : List UInt8) (fs : FileSystem) (name : String) : Except FileError (List UInt8) :=
  if name = "-" then .ok input else (fs.read ⟨name⟩).map (·.data.toList)

/-- A complaint about an operand. -/
def complaint (program name : String) (e : FileError) : List UInt8 :=
  textBytes (program ++ ": " ++ name ++ ": " ++ plainMessage e ++ "\n")

/-- Prints files, or the input. -/
def cat : Program := fun arguments input fs =>
  let names := arguments.filter (· != "--")
  let results := (if names.isEmpty then ["-"] else names).map fun name =>
    (name, operand input fs name)
  let output := results.flatMap fun (_, r) => r.toOption.getD []
  let complaints := results.flatMap fun (name, r) => match r with
    | .error e => complaint "cat" name e
    | .ok _ => []
  ending (if complaints.isEmpty then 0 else 1) output complaints fs

/-! ## Counting -/

/-- The number of words. -/
def wordCount (bytes : List UInt8) : Nat :=
  let isBlankByte (b : UInt8) : Bool := b == 32 || (9 ≤ b && b ≤ 13)
  let starts := (bytes.zip ((32 : UInt8) :: bytes)).filter fun (b, before) =>
    !isBlankByte b && isBlankByte before
  starts.length

/-- The counts that were asked for: lines, words, characters, bytes. -/
def counts (letters : List Char) (bytes : List UInt8) : List Nat :=
  let wanted := if letters.isEmpty then ['l', 'w', 'c'] else letters
  let lines := (bytes.filter (· == 10)).length
  let characters := (bytes.filter fun b => b < 0x80 || 0xC0 ≤ b).length
  [('l', lines), ('w', wordCount bytes), ('m', characters), ('c', bytes.length)].filterMap
    fun (letter, n) => if wanted.contains letter then some n else none

/-- Numbers in columns of a width. -/
def columns (width : Nat) (numbers : List Nat) : String :=
  " ".intercalate (numbers.map fun n =>
    let s := toString n
    String.ofList (List.replicate (width - s.length) ' ') ++ s)

/-- Counts lines, words and bytes of files, or of the input. -/
def wc : Program := fun arguments input fs =>
  let isCount (a : String) : Bool := isOption ['l', 'w', 'm', 'c'] a
  let letters := ((arguments.filter isCount).map (·.toList.drop 1)).flatten
  let names := arguments.filter fun a => !isCount a && a != "--"
  let single := (counts letters []).length == 1
  if names.isEmpty then
    ending 0 (textBytes (columns (if single then 1 else 7) (counts letters input) ++ "\n")) [] fs
  else
    let results := names.map fun name => (name, operand input fs name)
    let sizes := results.map fun (_, r) => (r.toOption.getD []).length
    let width := if single && names.length == 1 then 1 else (toString (sizes.foldl (· + ·) 0)).length
    let rows := results.filterMap fun (name, r) => r.toOption.map fun bytes =>
      (counts letters bytes, name)
    let total := rows.foldl (fun sums (row, _) => List.zipWith (· + ·) sums row) (counts letters [])
    let all := if names.length > 1 then rows ++ [(total, "total")] else rows
    let output := String.join (all.map fun (row, name) => columns width row ++ " " ++ name ++ "\n")
    let complaints := results.flatMap fun (name, r) => match r with
      | .error e => complaint "wc" name e
      | .ok _ => []
    ending (if complaints.isEmpty then 0 else 1) (textBytes output) complaints fs

/-! ## Waiting -/

/-- The milliseconds that a number of seconds stands for. -/
def milliseconds? (s : String) : Option Nat :=
  let whole := s.toList.takeWhile Char.isDigit
  let behind := s.toList.drop whole.length
  let decimals := match behind with
    | '.' :: rest => rest.takeWhile Char.isDigit
    | _ => []
  let rest := if behind.head? == some '.' then behind.drop (decimals.length + 1) else behind
  let amount := (Format.readNumber whole).1 * 1000 +
    (Format.readNumber ((decimals ++ ['0', '0', '0']).take 3)).1
  if whole.isEmpty && decimals.isEmpty then none
  else if rest = [] || rest = ['s'] then some amount
  else if rest = ['m'] then some (amount * 60)
  else none

/-- Waits for some seconds. -/
def sleep : Program := fun arguments _ fs =>
  match arguments.mapM milliseconds? with
  | some amounts => { ending 0 [] [] fs with milliseconds := amounts.foldl (· + ·) 0 }
  | none =>
    let bad := (arguments.find? fun a => (milliseconds? a).isNone).getD ""
    ending 1 [] (textBytes ("sleep: invalid time interval '" ++ bad ++
      "'\nTry 'sleep --help' for more information.\n")) fs

end Program

end ScriptCensus
