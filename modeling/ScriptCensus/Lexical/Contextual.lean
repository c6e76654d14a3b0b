/-!
# Context-dependent tokens

Some tokens cannot be told from their own text alone: an omitted semicolon, the text of a template,
the question mark of a conditional expression, an HTML-like comment and the text between JSX tags.
`ContextToken.scan` decides them from the tokens that the grammar expects at a position and from the
text that follows.
-/

namespace ScriptCensus

/-- The tokens that are decided from their context. The last five are listed so that the decision
can see whether the grammar expects them. -/
inductive ContextToken where
  | automaticSemicolon
  | templateChars
  | ternaryMark
  | htmlComment
  | jsxText
  | signatureSemicolon
  | logicalOr
  | escapeSequence
  | regexPattern
  | errorRecovery
deriving Repr, BEq, DecidableEq, Inhabited

/-- The two dialects differ in where a semicolon may be left out. -/
inductive Dialect where
  | plain
  | typed
deriving Repr, BEq, DecidableEq, Inhabited

/-- A position in the text while a token is being looked for. -/
structure Cursor where
  /-- Position of the next character. -/
  position : Nat
  /-- The text from there on. -/
  rest : List Char
  /-- Where the token would start. -/
  start : Nat
deriving Inhabited

/-- A token that was found, with its extent. -/
structure ContextMatch where
  token : ContextToken
  start : Nat
  stop : Nat
deriving Inhabited

namespace Cursor

/-- The next character; a null character stands for the end of the text. -/
def peek (k : Cursor) : Char :=
  k.rest.headD '\x00'

/-- Passes one character as part of the token. -/
def take (k : Cursor) : Cursor :=
  match k.rest with
  | [] => k
  | _ :: rest => { k with position := k.position + 1, rest }

/-- Passes one character that comes before the token. -/
def skip (k : Cursor) : Cursor :=
  match k.rest with
  | [] => { k with start := k.position }
  | _ :: rest => { position := k.position + 1, rest, start := k.position + 1 }

/-- Passes characters before the token as long as they satisfy a predicate. -/
def skipWhile (p : Char → Bool) : List Char → Cursor → Cursor
  | [], k => k
  | c :: cs, k => if p c then skipWhile p cs k.skip else k

/-- Passes characters of the token as long as they satisfy a predicate. -/
def takeWhile (p : Char → Bool) : List Char → Cursor → Cursor
  | [], k => k
  | c :: cs, k => if p c then takeWhile p cs k.take else k

/-- Tab, line breaks, vertical tab, form feed and the space. -/
def isBlank (c : Char) : Bool :=
  c == ' ' || ('\t' ≤ c && c ≤ '\r')

/-- The Latin letters. -/
def isLetter (c : Char) : Bool :=
  ('a' ≤ c && c ≤ 'z') || ('A' ≤ c && c ≤ 'Z')

/-- The decimal digits. -/
def isDigit (c : Char) : Bool :=
  '0' ≤ c && c ≤ '9'

/-- The characters that end a line comment. -/
def endsLine (c : Char) : Bool :=
  c == '\n' || c == '\u2028' || c == '\u2029'

/-- A null character ends everything, as the end of the text does. -/
def isEnd (c : Char) : Bool :=
  c == '\x00'

/-- Passes blanks before the token. -/
def skipBlanks (k : Cursor) : Cursor :=
  skipWhile isBlank k.rest k

/-- Passes the rest of the line. -/
def skipLine (k : Cursor) : Cursor :=
  skipWhile (fun c => !(isEnd c || endsLine c)) k.rest k

/-- Passes the rest of a block comment, behind its opening; says whether a line ended in it and
whether the comment was closed. -/
def skipBlock : List Char → Bool → Cursor → Cursor × Bool × Bool
  | [], sawLine, k => (k, sawLine, false)
  | c :: cs, sawLine, k =>
    if isEnd c then (k, sawLine, false)
    else if c == '*' then
      match cs with
      | '/' :: _ => (k.skip.skip, sawLine, true)
      | _ => skipBlock cs sawLine k.skip
    else skipBlock cs (sawLine || endsLine c) k.skip

end Cursor

open Cursor

/-- What the blanks and comments before the next token say about a semicolon there. -/
inductive Gap where
  /-- A slash that starts no comment: no semicolon. -/
  | reject
  /-- A block comment without a line break. -/
  | noNewline
  /-- A semicolon may be left out. -/
  | accept
deriving Repr, BEq, DecidableEq, Inhabited

/-- Passes blanks and comments. Unless `consume` is set, the first block comment that no further
slash follows ends the search. The flag says whether a comment was passed. -/
def skipGap (consume : Bool) : Nat → Bool → Bool → Cursor → Gap × Bool × Cursor
  | 0, commented, _, k => (.accept, commented, k)
  | fuel + 1, commented, sawLine, k =>
    let k := k.skipBlanks
    if k.peek != '/' then (.accept, commented, k)
    else
      let k := k.skip
      if k.peek == '/' then skipGap consume fuel true sawLine k.skip.skipLine
      else if k.peek == '*' then
        let k := k.skip
        let (k, sawLine, closed) := skipBlock k.rest sawLine k
        if closed && k.peek != '/' && !consume then
          (if sawLine then .accept else .noNewline, true, k)
        else skipGap consume fuel (commented || closed) sawLine k
      else (.reject, commented, k)

/-- Passes the letters of a word, as far as they agree; the flag says whether all did. -/
def skipWord : List Char → Cursor → Bool × Cursor
  | [], k => (true, k)
  | c :: cs, k => if k.peek == c then skipWord cs k.skip else (false, k)

/-- Whether the text at the start of a line goes on with the expression before it. -/
def continuesLine (dialect : Dialect) (expected : ContextToken → Bool) (k : Cursor) :
    Bool × Cursor :=
  let c := k.peek
  let stops := match dialect with
    | .plain => "\x60,:;*%><=[(?^|&/"
    | .typed => "\x60,.;*%><=?^|&/:"
  if stops.contains c then (true, k)
  else match c with
    | '.' => let k := k.skip; (!isDigit k.peek, k)
    | '\x7b' => (dialect == .typed && expected .signatureSemicolon, k)
    | '(' | '[' => (expected .logicalOr, k)
    | '+' => let k := k.skip; (k.peek != '+', k)
    | '-' => let k := k.skip; (k.peek != '-', k)
    | '!' => let k := k.skip; (k.peek == '=', k)
    | 'i' =>
      let k := k.skip
      if k.peek != 'n' then (false, k)
      else
        let k := k.skip
        if !isLetter k.peek then (true, k)
        else
          let (same, k) := skipWord "stanceof".toList k
          (same && !isLetter k.peek, k)
    | _ => (false, k)

/-- Looks for the line break or closing brace that lets a semicolon be left out. The answers: found
or refused, whether a comment was passed, and where the search ended. -/
def findSemicolon (dialect : Dialect) (expected : ContextToken → Bool) (size : Nat) :
    Nat → Bool → Cursor → Bool × Bool × Cursor
  | 0, commented, k => (false, commented, k)
  | fuel + 1, commented, k =>
    if isEnd k.peek then (true, commented, k)
    else
      let (verdict, commented, k) : Option Bool × Bool × Cursor :=
        if dialect == .plain && k.peek == '/' then
          let (gap, commented, k) := skipGap false (size + 1) commented false k
          if gap == .reject then (some false, commented, k)
          else if gap == .accept && !expected .logicalOr && k.peek != ',' && k.peek != '=' then
            (some true, commented, k)
          else (none, commented, k)
        else (none, commented, k)
      match verdict with
      | some found => (found, commented, k)
      | none =>
        if k.peek == '\x7d' then
          match dialect with
          | .plain => (true, commented, k)
          | .typed =>
            let k := k.skip.skipBlanks
            (k.peek != ':' || expected .logicalOr, commented, k)
        else if dialect == .plain && k.position == 0 then (true, commented, k)
        else if k.peek == '\n' || (dialect == .plain && endsLine k.peek) then
          let (gap, commented, k) := skipGap true (size + 1) commented false k.skip
          if gap == .reject then (false, commented, k)
          else
            let (continues, k) := continuesLine dialect expected k
            (!continues, commented, k)
        else if !isBlank k.peek then (false, commented, k)
        else findSemicolon dialect expected size fuel commented k.skip

/-- The question mark of a conditional expression: not of `??`, nor of an optional chain. -/
def findTernaryMark (dialect : Dialect) (k : Cursor) : Option ContextMatch :=
  let k := k.skipBlanks
  if k.peek != '?' then none
  else
    let k := k.take
    let found : ContextMatch := ⟨.ternaryMark, k.start, k.position⟩
    if k.peek == '?' || (dialect == .typed && k.peek == '.') then none
    else
      let k := if dialect == .typed then takeWhile isBlank k.rest k else k
      if dialect == .typed && (k.peek == ':' || k.peek == ')' || k.peek == ',') then none
      else if k.peek == '.' then if isDigit k.take.peek then some found else none
      else some found

/-- A comment that runs from `<!--` or `-->` to the end of the line. -/
def findHtmlComment (k : Cursor) : Option ContextMatch :=
  let k := skipWhile (fun c => isBlank c || endsLine c) k.rest k
  let mark := if k.peek == '<' then "<!--" else "-->"
  if mark.toList.isPrefixOf k.rest then
    let k := mark.toList.foldl (fun k _ => k.take) k
    let k := takeWhile (fun c => !(isEnd c || endsLine c)) k.rest k
    some ⟨.htmlComment, k.start, k.position⟩
  else none

/-- The text of a template, up to the next substitution, escape or the end of the template. The
flag says whether there was any; a null character or the end of the text refuses it. -/
def findTemplateChars : List Char → Bool → Cursor → Option ContextMatch
  | [], _, _ => none
  | c :: cs, hasContent, k =>
    let found := if hasContent then some ⟨.templateChars, k.start, k.position⟩ else none
    if isEnd c then none
    else if c == '\x60' || c == '\\' then found
    else if c == '$' then
      match cs with
      | '\x7b' :: _ => found
      | _ => findTemplateChars cs true k.take
    else findTemplateChars cs true k.take

/-- The text between JSX tags. Line breaks and the blanks after them are no text by themselves. -/
def findJsxText : List Char → Bool → Bool → Cursor → Bool × Cursor
  | [], sawText, _, k => (sawText, k)
  | c :: cs, sawText, atLine, k =>
    if isEnd c || "<>\x7b\x7d&".contains c then (sawText, k)
    else if c == '\n' then findJsxText cs sawText true k.take
    else
      let atLine := atLine && isBlank c
      findJsxText cs (sawText || !atLine) atLine k.take

/-- Finds the context-dependent token at a position, given which ones the grammar expects there. -/
def ContextToken.scan (dialect : Dialect) (expected : ContextToken → Bool) (size : Nat)
    (rest : List Char) (position : Nat) : Option ContextMatch :=
  let k : Cursor := ⟨position, rest, position⟩
  if expected .templateChars then
    if expected .automaticSemicolon then none else findTemplateChars rest false k
  else
    let (isText, k) :=
      if expected .jsxText then findJsxText rest false false k else (false, k)
    if isText then some ⟨.jsxText, k.start, k.position⟩
    else if expected .automaticSemicolon || expected .signatureSemicolon then
      let marked := k.position
      let (found, commented, k) := findSemicolon dialect expected size (size + 1) false k
      if found then some ⟨.automaticSemicolon, marked, marked⟩
      else if !commented && expected .ternaryMark && k.peek == '?' then findTernaryMark dialect k
      else none
    else if expected .ternaryMark then findTernaryMark dialect k
    else if expected .htmlComment && !expected .logicalOr && !expected .escapeSequence &&
        !expected .regexPattern then
      findHtmlComment k
    else none

end ScriptCensus
