import ScriptCensus.Text.Printable

/-!
# Quoted texts in messages

`quoteVisibly` writes a text in quotes so that every character of it can be seen.
-/

namespace ScriptCensus

/-- The hexadecimal digits of a number, in small letters. -/
def hexChars (n : Nat) : List Char :=
  Nat.toDigits 16 n

/-- Writes a character so that it can be seen. -/
def showVisibly (c : Char) : List Char :=
  match c with
  | '"' => ['\\', '"']
  | '\\' => ['\\', '\\']
  | '\n' => ['\\', 'n']
  | '\r' => ['\\', 'r']
  | '\t' => ['\\', 't']
  | '\x00' => ['\\', '0']
  | c => if isPrintable c then [c] else '\\' :: 'u' :: '\x7b' :: hexChars c.toNat ++ ['\x7d']

/-- Writes a text in quotes. -/
def quoteVisibly (s : String) : String :=
  String.ofList ('"' :: s.toList.flatMap showVisibly ++ ['"'])

end ScriptCensus
