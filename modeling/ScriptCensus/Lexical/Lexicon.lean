import ScriptCensus.Lexical.Pattern

/-!
# Lexicons and longest match

A lexicon lists the token rules of a language and the class of characters that may separate tokens.
`Lexicon.scan` reads the longest token among a set of candidates: separators are skipped first,
then all candidates are followed at once. A complete token is given up for a longer one only where
reading on does not lower the precedence.
-/

namespace ScriptCensus

/-- A kind of token, with the pattern that its text follows. -/
structure TokenRule where
  pattern : Pattern
  /-- Of two tokens that match, the one of higher precedence is taken, whatever their length. -/
  precedence : Int := 0
  /-- An immediate token admits no separators before it. -/
  immediate : Bool := false
deriving Inhabited

namespace TokenRule

/-- The rank that decides between tokens of one text and one precedence: a fixed text is preferred
to a general pattern, and an immediate token to one that admits separators. -/
def rank (r : TokenRule) : Nat :=
  (match r.pattern with
    | .literal _ => 2
    | _ => 0) + (if r.immediate then 1 else 0)

/-- The rule of a fixed text. -/
def fixed (s : String) : TokenRule :=
  ⟨.text s, 0, false⟩

end TokenRule

/-- The token rules of a language, numbered from one, and its separator characters. -/
structure Lexicon where
  rules : Array TokenRule
  separator : CharClass
deriving Inhabited

/-- A candidate token part of the way through its text. -/
structure Thread where
  token : Nat
  rule : TokenRule
  /-- No character of the token has been read yet. -/
  waiting : Bool
  /-- What is still to be read. -/
  rest : Pattern
deriving Inhabited

namespace Thread

/-- A candidate before its first character. -/
def start (token : Nat) (rule : TokenRule) : Thread :=
  ⟨token, rule, true, rule.pattern⟩

/-- Whether a candidate can skip a separator. -/
def canSkip (t : Thread) : Bool :=
  t.waiting && !t.rule.immediate

/-- Whether a candidate is complete. -/
def isComplete (t : Thread) : Bool :=
  !t.waiting && t.rest.isNullable

/-- Whether one complete candidate is preferred to another of the same text. -/
def preferredTo (a b : Thread) : Bool :=
  a.rule.precedence > b.rule.precedence ||
    (a.rule.precedence == b.rule.precedence &&
      (a.rule.rank > b.rule.rank || (a.rule.rank == b.rule.rank && a.token < b.token)))

/-- The candidates left after one has read a character as part of the token. -/
def read (c : Char) (t : Thread) : List Thread :=
  (t.rest.residuals c).map fun p => { t with waiting := false, rest := p }

/-- The most preferred of the complete candidates. -/
def best (ts : List Thread) : Option Thread :=
  ts.foldl (fun found t =>
    if t.isComplete then
      match found with
      | some f => if f.preferredTo t then some f else some t
      | none => some t
    else found) none

end Thread

/-- What a scan found. -/
structure Scanned where
  /-- The token, if one was found; zero is the end of the text. -/
  token? : Option Nat
  /-- Position of the first character of the token. -/
  start : Nat
  /-- Position after the token. -/
  stop : Nat
  /-- Position that the scan reached. -/
  reached : Nat
deriving Inhabited, Repr

namespace Lexicon

/-- The state of a scan: candidates, positions and the best token so far. -/
structure Scan where
  threads : List Thread
  position : Nat
  start : Nat
  found : Option (Nat × Nat)
deriving Inhabited

/-- The candidates after a character, whether the character was a separator for all of them, and
the highest precedence among those that can read it. -/
def follow (lx : Lexicon) (c : Char) (ts : List Thread) : List Thread × Bool × Int :=
  let isSeparator := lx.separator.contains c
  ts.foldr (fun t (next, skips, top) =>
    let skipped := isSeparator && t.canSkip
    let read := t.read c
    let here := if skipped then t :: next else next
    let skips := skips && read.isEmpty
    let top := if skipped then max top 0 else top
    if read.isEmpty then (here, skips, top) else (read ++ here, skips, max top t.rule.precedence))
    ([], true, -1000)

/-- Follows the candidates to the end of the longest preferred token. -/
def scanFrom (lx : Lexicon) (endAllowed : Bool) : List Char → Scan → Scan
  | cs, s =>
    let complete := Thread.best s.threads
    let s := match complete with
      | some t => { s with found := some (t.token, s.position) }
      | none => s
    match cs with
    | [] => if endAllowed then { s with found := some (0, s.position) } else s
    | c :: cs =>
      let (next, skips, top) := lx.follow c s.threads
      let goesOn := match complete with
        | none => true
        | some t =>
          top > t.rule.precedence ||
            (top == t.rule.precedence && !skips &&
              (!(s.threads.any Thread.canSkip) || next.any (·.token == t.token)))
      if next.isEmpty || !goesOn then s
      else
        let position := s.position + 1
        let start := if skips then position else s.start
        scanFrom lx (endAllowed && skips) cs { s with threads := next, position, start }

/-- The candidates for a list of tokens. -/
def candidates (lx : Lexicon) (tokens : List Nat) : List Thread :=
  tokens.filterMap fun k => if k = 0 then none else (lx.rules[k - 1]?).map (Thread.start k)

/-- Reads the longest preferred token of a list at a position; token zero, the end of the text, is
found where the text ends before any token starts. -/
def scan (lx : Lexicon) (tokens : List Nat) (rest : List Char) (position : Nat) : Scanned :=
  let s := lx.scanFrom (tokens.contains 0) rest ⟨lx.candidates tokens, position, position, none⟩
  match s.found with
  | some (token, stop) => ⟨some token, min s.start stop, stop, s.position⟩
  | none => ⟨none, s.start, s.position, s.position⟩

end Lexicon

end ScriptCensus
