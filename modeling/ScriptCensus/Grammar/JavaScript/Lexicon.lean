import ScriptCensus.Grammar.Tokens

/-!
# The JavaScript lexicon

The tokens of JavaScript in the order of their symbols, and the sets of tokens that the states of the
automaton look for.
-/

namespace ScriptCensus.Grammar.JavaScript

/-- The token rules; the symbol of a token is one more than its place in the list. -/
def tokenRules : List TokenRule :=
  [identifier, hashBangLine, .fixed "export", .fixed "*", .fixed "default", .fixed "as",
   .fixed "\x7b", .fixed ",", .fixed "\x7d", .fixed "import", .fixed "from", .fixed "with",
   .fixed "var", .fixed "let", .fixed "const", .fixed "else", .fixed "if", .fixed "switch",
   .fixed "for", .fixed "(", .fixed ";", .fixed ")", .fixed "await", .fixed "in", .fixed "of",
   .fixed "while", .fixed "do", .fixed "try", .fixed "break", .fixed "continue",
   .fixed "debugger", .fixed "return", .fixed "throw", .fixed ":", .fixed "case", .fixed "catch",
   .fixed "finally", .fixed "yield", .fixed "=", .fixed "[", .fixed "]", htmlCharacterReference,
   .fixed "<", .fixed ">", jsxIdentifier, .fixed ".", .fixed "</", .fixed "/>", .fixed "\"",
   .fixed "'", jsxQuoted "\"", jsxQuoted "'", .fixed "class", .fixed "extends", .fixed "async",
   .fixed "function", .fixed "=>", .fixed "?.", .fixed "new", .fixed "+=", .fixed "-=",
   .fixed "*=", .fixed "/=", .fixed "%=", .fixed "^=", .fixed "&=", .fixed "|=", .fixed ">>=",
   .fixed ">>>=", .fixed "<<=", .fixed "**=", .fixed "&&=", .fixed "||=", .fixed "??=",
   .fixed "...", .fixed "&&", .fixed "||", .fixed ">>", .fixed ">>>", .fixed "<<", .fixed "&",
   .fixed "^", .fixed "|", .fixed "+", .fixed "-", .fixed "/", .fixed "%", .fixed "**",
   .fixed "<=", .fixed "==", .fixed "===", .fixed "!=", .fixed "!==", .fixed ">=", .fixed "??",
   .fixed "instanceof", .fixed "!", .fixed "~", .fixed "typeof", .fixed "void", .fixed "delete",
   .fixed "++", .fixed "--", doubleQuoted, singleQuoted, escapeSequence, comment, .fixed "\x60",
   .fixed "$\x7b", regexEnd, regexPattern, regexFlags, number, privateIdentifier, .fixed "target",
   .fixed "meta", .fixed "this", .fixed "super", .fixed "true", .fixed "false", .fixed "null",
   .fixed "undefined", .fixed "@", .fixed "static", staticGet, .fixed "get", .fixed "set"]

/-- The tokens and the characters between them. -/
def lexicon : Lexicon :=
  ⟨tokenRules.toArray, separator⟩

/-- The tokens whose text is also a word. -/
def keywords : List Nat :=
  [3, 5, 6, 10, 11, 12, 13, 14, 15, 16, 17, 18, 19, 23, 24, 25, 26, 27, 28, 29, 30, 31, 32, 33,
   35, 36, 37, 38, 53, 54, 55, 56, 59, 96, 99, 100, 101, 115, 116, 117, 118, 119, 120, 121, 122,
   124, 126, 127]

/-- The tokens to look for in each mode; zero is the end of the text. -/
def lexModes : List (List Nat) :=
  [[0, 1, 2, 4, 7, 8, 9, 20, 21, 22, 34, 39, 40, 41, 43, 44, 46, 47, 49, 50, 57, 58, 60, 61, 62,
    63, 64, 65, 66, 67, 68, 69, 70, 71, 72, 73, 74, 75, 76, 77, 78, 79, 80, 81, 82, 83, 84, 85,
    86, 87, 88, 89, 90, 91, 92, 93, 94, 95, 97, 98, 102, 103, 106, 107, 108, 109, 110, 113, 114,
    123, 125],
   [0, 1, 2, 4, 7, 8, 9, 20, 21, 22, 34, 39, 40, 41, 43, 44, 49, 50, 57, 75, 84, 85, 86, 97, 98,
    102, 103, 107, 108, 113, 114, 123],
   [1, 4, 7, 8, 9, 20, 21, 40, 43, 49, 50, 75, 84, 85, 86, 97, 98, 102, 103, 107, 108, 113, 114,
    123, 125],
   [0, 1, 4, 7, 8, 9, 20, 21, 22, 34, 39, 40, 41, 43, 44, 46, 49, 50, 58, 76, 77, 78, 79, 80, 81,
    82, 83, 84, 85, 86, 87, 88, 89, 90, 91, 92, 93, 94, 95, 97, 98, 102, 103, 107, 108, 113, 114,
    123],
   [1, 7, 20, 34, 40, 43, 44, 46, 49, 50, 84, 85, 86, 97, 98, 102, 103, 107, 108, 113, 114, 123],
   [1, 4, 7, 8, 9, 20, 21, 22, 34, 39, 40, 41, 43, 44, 46, 49, 50, 57, 58, 60, 61, 62, 63, 64, 65,
    66, 67, 68, 69, 70, 71, 72, 73, 74, 76, 77, 78, 79, 80, 81, 82, 83, 84, 85, 86, 87, 88, 89,
    90, 91, 92, 93, 94, 95, 102, 103, 107, 108, 113, 114, 123],
   [1, 4, 7, 8, 9, 20, 21, 22, 34, 40, 41, 43, 44, 46, 58, 76, 77, 78, 79, 80, 81, 82, 83, 84, 85,
    86, 87, 88, 89, 90, 91, 92, 93, 94, 95, 102, 103, 107, 108, 112],
   [1, 4, 7, 20, 40, 42, 43, 46, 47, 49, 50, 107, 113, 114, 123, 125],
   [1, 7, 34, 39, 44, 45, 46, 48, 107],
   [106, 107, 108, 109],
   [49, 104, 106, 107],
   [50, 105, 106, 107],
   [42, 49, 51, 107],
   [42, 50, 52, 107],
   [107, 111],
   [107, 110]]

end ScriptCensus.Grammar.JavaScript
