import ScriptCensus.Lexical.Lexicon

/-!
# Tokens of the script languages

The tokens that are not fixed texts: words, numbers, comments, and the pieces of strings, templates,
regular expressions and JSX. Both languages read them in the same way.
-/

namespace ScriptCensus.Grammar

open Pattern

/-- The characters that may stand between tokens. -/
def separator : CharClass :=
  .union [.asciiBlank, .spaceSeparator, .of "\uFEFF\u2028\u2029\u2060\u200B"]

/-- The characters that never occur in a word: control characters, blanks and punctuation. -/
def wordBreak : CharClass :=
  .union [⟨[⟨'\x01', '\x1f'⟩], false⟩, separator,
    .of ":;\x60\"'@#.,|^&<=>+-*/\\%?!~()[]\x7b\x7d"]

/-- A character written as its code point, in four digits or between braces. -/
def unicodeEscape : Pattern :=
  any [all [text "\\u", times (.one .hexDigit) 4],
    all [text "\\u\x7b", plus (.one .hexDigit), text "\x7d"]]

/-- The first character of a word: no digit. -/
def wordStart : Pattern :=
  .alt (.one (CharClass.union [wordBreak, .digit]).complement) unicodeEscape

/-- Any further character of a word. -/
def wordPart : Pattern :=
  .alt (.one wordBreak.complement) unicodeEscape

/-- A word. -/
def identifier : TokenRule :=
  ⟨.seq wordStart (.star wordPart), 0, false⟩

/-- The name of a private member. -/
def privateIdentifier : TokenRule :=
  ⟨all [text "#", wordStart, .star wordPart], 0, false⟩

/-- The first line of a script that names its interpreter. -/
def hashBangLine : TokenRule :=
  ⟨.seq (text "#!") (.star (noneOf "\n")), 0, false⟩

/-- A comment to the end of the line, or one between `/*` and `*/`. -/
def comment : TokenRule :=
  let stars := plus (text "*")
  ⟨.alt (.seq (text "//") (.star (noneOf "\r\n\u2028\u2029")))
    (all [text "/*", .star (noneOf "*"), stars,
      .star (all [noneOf "/*", .star (noneOf "*"), stars]), text "/"]), 0, false⟩

/-- Digits of a class, with single underscores between them. -/
def digits (k : CharClass) : Pattern :=
  .seq (.one k) (.star (.seq (optional (text "_")) (.one k)))

/-- A number: decimal, hexadecimal, octal, binary or of any size. -/
def number : TokenRule :=
  let hexadecimal := .seq (.alt (text "0x") (text "0X")) (digits .hexDigit)
  let binary := .seq (.alt (text "0b") (text "0B")) (digits ⟨[⟨'0', '1'⟩], false⟩)
  let octal := .seq (.alt (text "0o") (text "0O")) (digits .octalDigit)
  let decimal := digits .digit
  let exponent := all [oneOf "eE", optional (oneOf "-+"), decimal]
  let integer := .alt (text "0")
    (all [optional (text "0"), .one ⟨[⟨'1', '9'⟩], false⟩,
      optional (.seq (optional (text "_")) decimal)])
  ⟨any [hexadecimal,
    all [integer, text ".", optional decimal, optional exponent],
    all [text ".", decimal, optional exponent],
    .seq integer exponent,
    decimal, binary, octal,
    .seq (any [hexadecimal, binary, octal, decimal]) (text "n")], 0, false⟩

/-- A piece of a string between double quotes. -/
def doubleQuoted : TokenRule :=
  ⟨plus (noneOf "\"\\\r\n"), 1, true⟩

/-- A piece of a string between single quotes. -/
def singleQuoted : TokenRule :=
  ⟨plus (noneOf "'\\\r\n"), 1, true⟩

/-- An escaped character in a string or a template. -/
def escapeSequence : TokenRule :=
  ⟨.seq (text "\\") (any [
    .one (CharClass.union [.of "xu", .octalDigit]).complement,
    .seq (.one .octalDigit) (atMost (.one .octalDigit) 2),
    .seq (text "x") (times (.one .hexDigit) 2),
    .seq (text "u") (times (.one .hexDigit) 4),
    all [text "u\x7b", plus (.one .hexDigit), text "\x7d"],
    .seq (oneOf "\r?") (oneOf "\n\u2028\u2029")]), 0, true⟩

/-- The text between the slashes of a regular expression. -/
def regexPattern : TokenRule :=
  let escaped := .seq (text "\\") (noneOf "\n")
  ⟨plus (any [
    all [text "[", .star (.alt escaped (noneOf "]\n\\")), text "]"],
    escaped,
    noneOf "/\\[\n"]), -1, true⟩

/-- The slash that ends a regular expression. -/
def regexEnd : TokenRule :=
  ⟨text "/", 1, true⟩

/-- The letters after a regular expression. -/
def regexFlags : TokenRule :=
  ⟨plus (.one ⟨[⟨'a', 'z'⟩], false⟩), 0, true⟩

/-- A character reference in JSX. -/
def htmlCharacterReference : TokenRule :=
  let upTo k n := .seq (.one k) (atMost (.one k) (n - 1))
  ⟨all [text "&",
    .alt (.seq (text "#") (.alt (.seq (oneOf "xX") (upTo .hexDigit 6)) (upTo .digit 5)))
      (upTo .latinLetter 30),
    text ";"], 0, false⟩

/-- A word with hyphens in it, in JSX. -/
def jsxIdentifier : TokenRule :=
  let start := CharClass.union [.latinLetter, .of "_$"]
  let part := CharClass.union [.latinLetter, .digit, .of "_$"]
  ⟨all [.one start, .star (.one part), text "-", .star (.one (.union [part, .of "-"]))], 0, false⟩

/-- A piece of an attribute's text in JSX, up to the given quote. -/
def jsxQuoted (quote : String) : TokenRule :=
  ⟨plus (.alt (noneOf (quote ++ "&"))
    (.seq (text "&") (.one (CharClass.union [.of "#", .latinLetter]).complement))), 1, true⟩

/-- The words `static get` at the end of a line. -/
def staticGet : TokenRule :=
  let blank := .one .asciiBlank
  ⟨all [text "static", plus blank, text "get", .star blank, text "\n"], 0, false⟩

end ScriptCensus.Grammar
