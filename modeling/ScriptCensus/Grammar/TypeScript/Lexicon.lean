import ScriptCensus.Grammar.Tokens

/-!
# The TypeScript lexicon

The tokens of TypeScript in the order of their symbols, and the sets of tokens that the states of the
automaton look for.
-/

namespace ScriptCensus.Grammar.TypeScript

/-- The token rules; the symbol of a token is one more than its place in the list. -/
def tokenRules : List TokenRule :=
  [identifier, hashBangLine, .fixed "export", .fixed "*", .fixed "default", .fixed "type",
   .fixed "import", .fixed "=", .fixed "as", .fixed "namespace", .fixed "\x7b", .fixed ",",
   .fixed "\x7d", .fixed "typeof", .fixed "from", .fixed "with", .fixed "var", .fixed "let",
   .fixed "const", .fixed "!", .fixed "else", .fixed "if", .fixed "switch", .fixed "for",
   .fixed "(", .fixed ";", .fixed ")", .fixed "await", .fixed "in", .fixed "of", .fixed "while",
   .fixed "do", .fixed "try", .fixed "break", .fixed "continue", .fixed "debugger",
   .fixed "return", .fixed "throw", .fixed ":", .fixed "case", .fixed "catch", .fixed "finally",
   .fixed "yield", .fixed "[", .fixed "]", .fixed ".", .fixed "class", .fixed "async",
   .fixed "function", .fixed "=>", .fixed "?.", .fixed "new", .fixed "using", .fixed "+=",
   .fixed "-=", .fixed "*=", .fixed "/=", .fixed "%=", .fixed "^=", .fixed "&=", .fixed "|=",
   .fixed ">>=", .fixed ">>>=", .fixed "<<=", .fixed "**=", .fixed "&&=", .fixed "||=",
   .fixed "??=", .fixed "...", .fixed "&&", .fixed "||", .fixed ">>", .fixed ">>>", .fixed "<<",
   .fixed "&", .fixed "^", .fixed "|", .fixed "+", .fixed "-", .fixed "/", .fixed "%",
   .fixed "**", .fixed "<", .fixed "<=", .fixed "==", .fixed "===", .fixed "!=", .fixed "!==",
   .fixed ">=", .fixed ">", .fixed "??", .fixed "instanceof", .fixed "~", .fixed "void",
   .fixed "delete", .fixed "++", .fixed "--", .fixed "\"", .fixed "'", doubleQuoted, singleQuoted,
   escapeSequence, comment, .fixed "\x60", .fixed "$\x7b", regexEnd, regexPattern, regexFlags,
   number, privateIdentifier, .fixed "target", .fixed "meta", .fixed "this", .fixed "super",
   .fixed "true", .fixed "false", .fixed "null", .fixed "undefined", .fixed "@", .fixed "static",
   .fixed "readonly", .fixed "get", .fixed "set", .fixed "?", .fixed "declare", .fixed "public",
   .fixed "private", .fixed "protected", .fixed "override", .fixed "module", .fixed "any",
   .fixed "number", .fixed "boolean", .fixed "string", .fixed "symbol", .fixed "object",
   .fixed "abstract", .fixed "accessor", .fixed "satisfies", .fixed "require", .fixed "extends",
   .fixed "implements", .fixed "global", .fixed "interface", .fixed "enum", .fixed "-?:",
   .fixed "+?:", .fixed "?:", .fixed "asserts", .fixed "infer", .fixed "is", .fixed "keyof",
   .fixed "unique", .fixed "unknown", .fixed "never", .fixed "\x7b|", .fixed "|\x7d"]

/-- The tokens and the characters between them. -/
def lexicon : Lexicon :=
  ⟨tokenRules.toArray, separator⟩

/-- The tokens whose text is also a word. -/
def keywords : List Nat :=
  [3, 5, 6, 7, 9, 10, 14, 15, 16, 17, 18, 19, 21, 22, 23, 24, 28, 29, 30, 31, 32, 33, 34, 35, 36,
   37, 38, 40, 41, 42, 43, 47, 48, 49, 52, 53, 92, 94, 95, 111, 112, 113, 114, 115, 116, 117, 118,
   120, 121, 122, 123, 125, 126, 127, 128, 129, 130, 131, 132, 133, 134, 135, 136, 137, 138, 139,
   140, 141, 142, 143, 144, 145, 149, 150, 151, 152, 153, 154, 155]

/-- The tokens to look for in each mode; zero is the end of the text. -/
def lexModes : List (List Nat) :=
  [[0, 1, 2, 4, 8, 11, 12, 13, 20, 25, 26, 27, 39, 44, 45, 46, 50, 51, 54, 55, 56, 57, 58, 59, 60,
    61, 62, 63, 64, 65, 66, 67, 68, 69, 70, 71, 72, 73, 74, 75, 76, 77, 78, 79, 80, 81, 82, 83,
    84, 85, 86, 87, 88, 89, 90, 91, 93, 96, 97, 98, 99, 102, 103, 104, 105, 106, 109, 110, 119,
    124, 146, 147, 156, 157],
   [0, 1, 2, 4, 8, 11, 12, 13, 20, 25, 26, 27, 39, 44, 45, 46, 50, 69, 75, 77, 78, 79, 80, 83, 90,
    93, 96, 97, 98, 99, 103, 104, 109, 110, 119, 124, 157],
   [1, 4, 8, 11, 12, 13, 20, 25, 26, 27, 39, 44, 45, 46, 50, 51, 54, 55, 56, 57, 58, 59, 60, 61,
    62, 63, 64, 65, 66, 67, 68, 69, 70, 71, 72, 73, 74, 75, 76, 77, 78, 79, 80, 81, 82, 83, 84,
    85, 86, 87, 88, 89, 90, 91, 93, 96, 97, 98, 99, 103, 104, 109, 110, 119, 124, 156, 157],
   [1, 4, 11, 12, 20, 25, 27, 44, 45, 46, 69, 75, 77, 78, 79, 80, 83, 93, 96, 97, 98, 99, 103,
    104, 109, 110, 119, 124, 156],
   [1, 4, 8, 11, 12, 13, 20, 25, 26, 27, 39, 44, 45, 46, 50, 51, 54, 55, 56, 57, 58, 59, 60, 61,
    62, 63, 64, 65, 66, 67, 68, 69, 70, 71, 72, 73, 74, 75, 76, 77, 78, 79, 80, 81, 82, 83, 84,
    85, 86, 87, 88, 89, 90, 91, 93, 96, 97, 98, 99, 103, 104, 109, 110, 119, 124],
   [0, 1, 4, 8, 11, 12, 13, 20, 25, 26, 27, 39, 44, 45, 46, 51, 70, 71, 72, 73, 74, 75, 76, 77,
    78, 79, 80, 81, 82, 83, 84, 85, 86, 87, 88, 89, 90, 91, 93, 96, 97, 98, 99, 103, 104, 109,
    110, 119, 124, 157],
   [1, 4, 11, 12, 13, 25, 26, 44, 45, 69, 75, 77, 78, 79, 83, 90, 98, 99, 103, 104, 109, 110, 119,
    124, 156, 157],
   [1, 4, 8, 11, 12, 13, 20, 25, 26, 27, 39, 44, 45, 46, 50, 51, 69, 75, 77, 78, 79, 80, 83, 90,
    93, 96, 97, 98, 99, 103, 104, 109, 110, 119, 124, 157],
   [1, 4, 11, 12, 13, 25, 26, 44, 69, 78, 79, 83, 98, 99, 103, 109, 110, 119, 157],
   [1, 4, 11, 12, 13, 20, 25, 26, 27, 39, 44, 45, 46, 51, 70, 71, 72, 73, 74, 75, 76, 77, 78, 79,
    80, 81, 82, 83, 84, 85, 86, 87, 88, 89, 90, 91, 96, 97, 103, 104, 108],
   [39, 102, 103, 104, 105, 146, 147, 148],
   [98, 100, 102, 103],
   [99, 101, 102, 103],
   [103, 107],
   [103, 106]]

end ScriptCensus.Grammar.TypeScript
