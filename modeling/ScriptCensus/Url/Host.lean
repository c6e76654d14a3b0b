import ScriptCensus.FileSystem.Path
import ScriptCensus.Source.Utf8
import ScriptCensus.Text.Blank
import ScriptCensus.Url.Percent
import ScriptCensus.Url.Punycode

/-!
# Hosts

The host of a URL is a name or an address. A name that ends in a number is an address of four bytes,
one in square brackets an address of eight groups.
-/

namespace ScriptCensus.Url

/-- Why a text is no URL. -/
inductive ParseError where
  | relativeWithoutBase
  | emptyHost
  | invalidName
  | invalidNameCharacter
  | invalidPort
  | invalidIpv4
  | invalidIpv6
deriving Repr, BEq, DecidableEq, Inhabited

/-- The wording of an error. -/
def ParseError.message : ParseError → String
  | relativeWithoutBase => "relative URL without a base"
  | emptyHost => "empty host"
  | invalidName => "invalid international domain name"
  | invalidNameCharacter => "invalid domain character"
  | invalidPort => "invalid port number"
  | invalidIpv4 => "invalid IPv4 address"
  | invalidIpv6 => "invalid IPv6 address"

/-- The host of a URL. -/
inductive Host where
  | name (chars : List Char)
  | ipv4 (address : Nat)
  | ipv6 (groups : List Nat)
deriving Repr, BEq, DecidableEq, Inhabited

/-! ## Addresses of four bytes -/

/-- The number that digits stand for. -/
def numberOf (radix : Nat) (cs : List Char) : Option Nat :=
  cs.foldl (fun n? c => match n?, hexValue? c with
    | some n, some d => if d < radix then some (n * radix + d) else none
    | _, _ => none) (some 0)

/-- A part of an address: hexadecimal after `0x`, octal after a zero, else decimal. -/
def ipv4Part : List Char → Option Nat
  | [] => none
  | '0' :: 'x' :: rest => numberOf 16 rest
  | '0' :: 'X' :: rest => numberOf 16 rest
  | '0' :: c :: rest => numberOf 8 (c :: rest)
  | cs => numberOf 10 cs

/-- The parts of a name between its dots; a dot at the end does not count. -/
def nameParts (cs : List Char) : List (List Char) :=
  let parts := splitAt '.' cs
  if parts.length > 1 && parts.getLast? == some [] then parts.dropLast else parts

/-- Whether a name ends in a number. -/
def endsInNumber (cs : List Char) : Bool :=
  match (nameParts cs).getLast? with
  | none => false
  | some last => (!last.isEmpty && last.all Char.isDigit) || (ipv4Part last).isSome

/-- Reads an address of four bytes; the last part fills the bytes that are left. -/
def ipv4Of (cs : List Char) : Except ParseError Host :=
  let parts := nameParts cs
  if parts.length > 4 then .error .invalidIpv4
  else
    match parts.mapM ipv4Part with
    | none => .error .invalidIpv4
    | some numbers =>
      let front := numbers.dropLast
      let last := numbers.getLastD 0
      if last ≥ Nat.pow 256 (4 - front.length) || front.any (· > 255) then .error .invalidIpv4
      else .ok (.ipv4 (front.zipIdx.foldl (fun n (x, i) => n + x * Nat.pow 256 (3 - i)) last))

/-! ## Addresses of eight groups -/

/-- A group of up to four hexadecimal digits. -/
def ipv6Group (cs : List Char) : Option Nat :=
  if cs.isEmpty || cs.length > 4 then none else numberOf 16 cs

/-- A byte in decimal without leading zeros. -/
def plainByte (cs : List Char) : Option Nat :=
  match cs with
  | [] => none
  | '0' :: _ :: _ => none
  | cs => if cs.length > 3 || !cs.all Char.isDigit then none else
    (numberOf 10 cs).bind fun n => if n ≤ 255 then some n else none

/-- The groups of a part of an address; four bytes at its end count as two groups. -/
def ipv6Groups : List (List Char) → Option (List Nat)
  | [] => some []
  | [last] =>
    match splitAt '.' last with
    | [a, b, c, d] => do
      let a ← plainByte a
      let b ← plainByte b
      let c ← plainByte c
      let d ← plainByte d
      return [a * 256 + b, c * 256 + d]
    | _ => (ipv6Group last).map ([·])
  | g :: rest => do
    let n ← ipv6Group g
    let ns ← ipv6Groups rest
    return n :: ns

/-- Splits at the first pair of colons. -/
def splitAtColons : List Char → Option (List Char × List Char)
  | [] => none
  | ':' :: ':' :: rest => some ([], rest)
  | c :: rest => (splitAtColons rest).map fun (a, b) => (c :: a, b)

/-- The groups of a text between colons; an empty text has none. -/
def colonGroups (cs : List Char) : Option (List Nat) :=
  if cs.isEmpty then some [] else ipv6Groups (splitAt ':' cs)

/-- Reads an address of eight groups; a pair of colons stands for as many zeros as are missing. -/
def ipv6Of (cs : List Char) : Except ParseError Host :=
  let groups := match splitAtColons cs with
    | some (front, back) =>
      match (if front.contains '.' then none else colonGroups front), colonGroups back with
      | some a, some b =>
        if a.length + b.length < 8 then some (a ++ List.replicate (8 - a.length - b.length) 0 ++ b)
        else none
      | _, _ => none
    | none => (colonGroups cs).bind fun a => if a.length = 8 then some a else none
  match groups with
  | some gs => .ok (.ipv6 gs)
  | none => .error .invalidIpv6

/-! ## Names -/

/-- Whether a character may not stand in a name. -/
def isForbidden (c : Char) : Bool :=
  c.toNat ≤ 0x20 || c.toNat == 0x7F ||
    ['%', '#', '/', ':', '<', '>', '?', '@', '[', '\\', ']', '^', '|'].contains c

/-- Whether a character carries no meaning in a name. Only the soft hyphen, the blank and the
joiner of no width and the mark of byte order are known here. -/
def isIgnored (c : Char) : Bool :=
  [0xAD, 0x200B, 0x2060, 0xFEFF].contains c.toNat

/-- The form of a character that is used in names: small letters, and plain forms of wide ones. This
is known of a few blocks only: ASCII and its wide forms, the full stops of wide scripts, and the
capitals of Latin-1, of Greek without accents and of Cyrillic. All other characters stay. -/
def foldChar (c : Char) : Char :=
  let n := c.toNat
  if n < 0x80 then c.toLower
  else if 0xFF01 ≤ n && n ≤ 0xFF5E then (Char.ofNat (n - 0xFEE0)).toLower
  else if n == 0x3002 || n == 0xFF61 then '.'
  else if (0xC0 ≤ n && n ≤ 0xDE && n != 0xD7) || (0x391 ≤ n && n ≤ 0x3A9) || (0x410 ≤ n && n ≤ 0x42F)
  then Char.ofNat (n + 32)
  else if 0x400 ≤ n && n ≤ 0x40F then Char.ofNat (n + 80)
  else c

/-- Whether a character beyond ASCII may not stand in a name. Only blanks, control characters and the
character for what could not be read are known here; all others are let through. -/
def isOutlaw (c : Char) : Bool :=
  0x80 ≤ c.toNat && (isBlank c || c.toNat < 0xA0 || c == replacementChar)

/-- A part of a name in ASCII. -/
def asciiLabel (cs : List Char) : List Char :=
  if cs.all (·.toNat < 0x80) then cs else "xn--".toList ++ Punycode.encode cs

/-- A name in ASCII and small letters. -/
def asciiName (bytes : List UInt8) : Except ParseError (List Char) :=
  let folded := (decodeUtf8 bytes).filter (!isIgnored ·) |>.map foldChar
  if folded.any fun c => isForbidden c || isOutlaw c then .error .invalidName
  else if (splitAt '.' folded).contains "xn--".toList then .error .invalidName
  else .ok (['.'].intercalate ((splitAt '.' folded).map asciiLabel))

/-- Reads what stands in square brackets, if the text starts with one. -/
def bracketed? (cs : List Char) : Option (Except ParseError Host) :=
  match cs with
  | '[' :: rest =>
    if rest.getLast? == some ']' then some (ipv6Of rest.dropLast) else some (.error .invalidIpv6)
  | _ => none

/-- Reads the host of a URL of one of the web's own schemes. -/
def Host.parse (cs : List Char) : Except ParseError Host :=
  match bracketed? cs with
  | some result => result
  | none =>
    match asciiName (decodeBytes cs) with
    | .error e => .error e
    | .ok chars =>
      if chars.isEmpty then .error .emptyHost
      else if endsInNumber chars then ipv4Of chars
      else .ok (.name chars)

/-- Reads the host of any other URL, which is left as it is. -/
def Host.parseOpaque (cs : List Char) : Except ParseError Host :=
  match bracketed? cs with
  | some result => result
  | none =>
    let forbidden := ['\x00', '\t', '\n', '\r', ' ', '#', '/', ':', '<', '>', '?', '@', '[', '\\', ']', '^', '|']
    if cs.any forbidden.contains then .error .invalidNameCharacter
    else .ok (.name (encode isControlOrWide cs))

/-! ## Writing -/

/-- Start and length of the longest run of zeros that is at least two long, the first of several. -/
def longestZeros (groups : List Nat) : Option (Nat × Nat) :=
  let runs := (List.range groups.length).map fun i => (i, ((groups.drop i).takeWhile (· == 0)).length)
  runs.foldl (fun best (i, n) => match best with
    | some (_, m) => if n > m then some (i, n) else best
    | none => if n ≥ 2 then some (i, n) else none) none

/-- Groups between colons. -/
def joinGroups (groups : List Nat) : List Char :=
  [':'].intercalate (groups.map (Nat.toDigits 16))

/-- How a host is written. -/
def Host.chars : Host → List Char
  | name cs => cs
  | ipv4 n => ['.'].intercalate ([3, 2, 1, 0].map fun i => Nat.toDigits 10 (n / Nat.pow 256 i % 256))
  | ipv6 groups =>
    let inside := match longestZeros groups with
      | some (i, n) => joinGroups (groups.take i) ++ "::".toList ++ joinGroups (groups.drop (i + n))
      | none => joinGroups groups
    '[' :: inside ++ [']']

end ScriptCensus.Url
