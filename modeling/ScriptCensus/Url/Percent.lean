/-!
# Percent encoding

Characters that may not stand in a part of a URL are written as their bytes, each as a percent sign
and two hexadecimal digits. A part of a URL is described by the characters that it encodes.
-/

namespace ScriptCensus.Url

/-- Whether a character is a control character or no ASCII character. -/
def isControlOrWide (c : Char) : Bool :=
  c.toNat < 0x20 || 0x7E < c.toNat

/-- What is encoded in a fragment. -/
def fragmentEncodes (c : Char) : Bool :=
  isControlOrWide c || [' ', '"', '<', '>', '\x60'].contains c

/-- What is encoded in a path. -/
def pathEncodes (c : Char) : Bool :=
  fragmentEncodes c || ['#', '?', '\x7b', '\x7d', '^'].contains c

/-- What is encoded in a user name or password. -/
def userEncodes (c : Char) : Bool :=
  pathEncodes c || ['/', ':', ';', '=', '@', '[', '\\', ']', '^', '|'].contains c

/-- What is encoded in a query; a quote only in the URLs of the web's own schemes. -/
def queryEncodes (special : Bool) (c : Char) : Bool :=
  isControlOrWide c || [' ', '"', '#', '<', '>'].contains c || (special && c == '\'')

/-- A hexadecimal digit, as a capital letter from ten on. -/
def hexDigit (n : Nat) : Char :=
  (Nat.digitChar n).toUpper

/-- Writes a byte as a percent sign and two digits. -/
def encodeByte (b : UInt8) : List Char :=
  ['%', hexDigit (b.toNat / 16), hexDigit (b.toNat % 16)]

/-- Encodes the characters that have a property. -/
def encode (encodes : Char → Bool) (cs : List Char) : List Char :=
  cs.flatMap fun c =>
    if encodes c then (String.singleton c).toUTF8.data.toList.flatMap encodeByte else [c]

/-- The value of a hexadecimal digit. -/
def hexValue? (c : Char) : Option Nat :=
  if c.isDigit then some (c.toNat - '0'.toNat)
  else if 'a' ≤ c && c ≤ 'f' then some (c.toNat - 'a'.toNat + 10)
  else if 'A' ≤ c && c ≤ 'F' then some (c.toNat - 'A'.toNat + 10)
  else none

/-- The bytes of a text in which percent signs may stand for bytes. A percent sign without two digits
stands for itself. -/
def decodeBytes : List Char → List UInt8
  | [] => []
  | '%' :: a :: b :: rest =>
    match hexValue? a, hexValue? b with
    | some x, some y => UInt8.ofNat (16 * x + y) :: decodeBytes rest
    | _, _ => 0x25 :: decodeBytes (a :: b :: rest)
  | c :: rest => (String.singleton c).toUTF8.data.toList ++ decodeBytes rest

end ScriptCensus.Url
