import ScriptCensus.Programs.Basic

/-!
# Escapes and formats

How programs that print their arguments expand backslashes (`Escape.expand`) and per cent signs
(`Format.expand`).
-/

namespace ScriptCensus

namespace Escape

/-- Which octal escapes are known. -/
inductive Octal where
  /-- Up to three digits behind a backslash; a quote may be escaped too. -/
  | bare
  /-- Up to three digits behind a backslash and a zero. -/
  | zeroLed
deriving Repr, BEq, DecidableEq, Inhabited

/-- The character that a letter behind a backslash stands for. -/
def letter? : Char → Option Nat
  | 'a' => some 7
  | 'b' => some 8
  | 't' => some 9
  | 'n' => some 10
  | 'v' => some 11
  | 'f' => some 12
  | 'r' => some 13
  | '\\' => some 92
  | _ => none

/-- The value of an octal digit. -/
def octalDigit? (c : Char) : Option Nat :=
  if '0' ≤ c && c ≤ '7' then some (c.toNat - '0'.toNat) else none

/-- Reads at most the given number of octal digits. -/
def readOctal : Nat → Nat → List Char → Nat × List Char
  | n + 1, value, c :: rest =>
    match octalDigit? c with
    | some d => readOctal n (value * 8 + d) rest
    | none => (value, c :: rest)
  | _, value, cs => (value, cs)

/-- Reads what is behind a backslash: the bytes that it stands for, if it is an escape, and the
rest. -/
def readOne (octal : Octal) : List Char → List UInt8 × List Char
  | [] => ([92], [])
  | c :: rest =>
    match octal, octalDigit? c, letter? c with
    | .bare, some _, _ =>
      let (value, rest) := readOctal 3 0 (c :: rest)
      ([value.toUInt8], rest)
    | .zeroLed, some 0, _ =>
      let (value, rest) := readOctal 3 0 rest
      ([value.toUInt8], rest)
    | _, _, some n => ([n.toUInt8], rest)
    | .bare, _, none => (if c == '"' then [34] else 92 :: textBytes (String.singleton c), rest)
    | .zeroLed, _, none => (92 :: textBytes (String.singleton c), rest)

/-- Expands the escapes in a text. The flag tells whether an escape asked to stop there. The first
argument bounds the number of steps. -/
def expand (octal : Octal) : Nat → List Char → List UInt8 × Bool
  | 0, _ => ([], false)
  | _, [] => ([], false)
  | _, '\\' :: 'c' :: _ => ([], true)
  | fuel + 1, '\\' :: rest =>
    let (bytes, rest) := readOne octal rest
    let (more, stopped) := expand octal fuel rest
    (bytes ++ more, stopped)
  | fuel + 1, c :: rest =>
    let (more, stopped) := expand octal fuel rest
    (textBytes (String.singleton c) ++ more, stopped)

/-- Expands the escapes in a text. -/
def expandAll (octal : Octal) (s : String) : List UInt8 × Bool :=
  expand octal (s.length + 1) s.toList

end Escape

namespace Format

/-- What a per cent sign starts. -/
structure Directive where
  left : Bool
  zeros : Bool
  width : Nat
  precision? : Option Nat
  conversion : Option Char
deriving Repr, Inhabited

/-- Reads digits. -/
def readNumber (cs : List Char) : Nat × List Char :=
  let digits := cs.takeWhile Char.isDigit
  (digits.foldl (fun n d => n * 10 + (d.toNat - '0'.toNat)) 0, cs.dropWhile Char.isDigit)

/-- Reads what is behind a per cent sign. -/
def readDirective (cs : List Char) : Directive × List Char :=
  let isFlag (c : Char) : Bool := c == '-' || c == '0'
  let flags := cs.takeWhile isFlag
  let (width, cs) := readNumber (cs.dropWhile isFlag)
  let (precision?, cs) := match cs with
    | '.' :: rest =>
      let (n, rest) := readNumber rest
      (some n, rest)
    | _ => (none, cs)
  (⟨flags.contains '-', flags.contains '0', width, precision?, cs.head?⟩, cs.drop 1)

/-- Fills up to a width. -/
def pad (d : Directive) (fill : UInt8) (bytes : List UInt8) : List UInt8 :=
  let missing := d.width - bytes.length
  if d.left then bytes ++ List.replicate missing 32 else List.replicate missing fill ++ bytes

/-- The number that an argument stands for; none if it is not a number. -/
def number? (s : String) : Option Int :=
  match s.toList with
  | '-' :: digits => if digits.isEmpty then none else (numeral? digits).map (- Int.ofNat ·)
  | '+' :: digits => if digits.isEmpty then none else (numeral? digits).map Int.ofNat
  | [] => some 0
  | digits => (numeral? digits).map Int.ofNat
where
  /-- The number that digits stand for. -/
  numeral? (digits : List Char) : Option Nat :=
    if digits.all Char.isDigit then some (readNumber digits).1 else none

/-- The digits of a number in a base. -/
def digits (base : Nat) (n : Int) : List UInt8 :=
  let sign := if n < 0 then [45] else []
  sign ++ textBytes (String.ofList (Nat.toDigits base n.natAbs))

/-- What came out of a format so far. -/
structure Progress where
  bytes : List UInt8
  /-- The arguments that are left. -/
  arguments : List String
  /-- Whether any argument was asked for. -/
  asked : Bool
  failed : Bool
  stopped : Bool
deriving Inhabited

/-- Writes an argument as a directive says. -/
def writeArgument (p : Progress) (d : Directive) : Progress :=
  let argument := p.arguments.headD ""
  let taken := { p with arguments := p.arguments.drop 1, asked := true }
  let writeNumber (base : Nat) : Progress :=
    let n := number? argument
    { taken with
      bytes := p.bytes ++ pad d (if d.zeros then 48 else 32) (digits base (n.getD 0)),
      failed := p.failed || n.isNone }
  let cut (bytes : List UInt8) : List UInt8 := match d.precision? with
    | some n => bytes.take n
    | none => bytes
  match d.conversion with
  | some '%' => { p with bytes := p.bytes ++ [37] }
  | some 's' => { taken with bytes := p.bytes ++ pad d 32 (cut (textBytes argument)) }
  | some 'c' => { taken with bytes := p.bytes ++ pad d 32 ((textBytes argument).take 1) }
  | some 'b' =>
    let (bytes, stopped) := Escape.expandAll .zeroLed argument
    { taken with bytes := p.bytes ++ pad d 32 (cut bytes), stopped }
  | some 'd' => writeNumber 10
  | some 'i' => writeNumber 10
  | some 'u' => writeNumber 10
  | some 'o' => writeNumber 8
  | some 'x' => writeNumber 16
  | _ => { p with failed := true, stopped := true }

/-- Goes once through a format. The first argument bounds the number of steps. -/
def once : Nat → List Char → Progress → Progress
  | 0, _, p => p
  | _, [], p => p
  | fuel + 1, '%' :: rest, p =>
    let (d, rest) := readDirective rest
    let p := writeArgument p d
    if p.stopped then p else once fuel rest p
  | _, '\\' :: 'c' :: _, p => { p with stopped := true }
  | fuel + 1, '\\' :: rest, p =>
    let (bytes, rest) := Escape.readOne .bare rest
    once fuel rest { p with bytes := p.bytes ++ bytes }
  | fuel + 1, c :: rest, p =>
    once fuel rest { p with bytes := p.bytes ++ textBytes (String.singleton c) }

/-- Goes through a format again and again until there are no arguments left. The first argument bounds
the number of rounds. -/
def rounds (format : List Char) : Nat → Progress → Progress
  | 0, p => p
  | n + 1, p =>
    let q := once (format.length + 1) format { p with asked := false }
    if q.stopped || !q.asked || q.arguments.isEmpty then q else rounds format n q

/-- Writes arguments as a format says. -/
def expand (format : String) (arguments : List String) : Progress :=
  rounds format.toList (arguments.length + 1) ⟨[], arguments, false, false, false⟩

end Format

end ScriptCensus
