import ScriptCensus.Glob.Basic

/-!
# Matching globs

A glob matches a path as a sequence of bytes. `Glob.remainders` follows all ways to match at once: from
the parts of a path that are still to be matched it leads to those that are left behind some tokens.
-/

namespace ScriptCensus.Glob

/-- The bytes of a text. -/
def bytesOf (s : String) : List UInt8 :=
  s.toUTF8.data.toList

/-- The bytes of a character. -/
def bytesOfChar (c : Char) : List UInt8 :=
  bytesOf (String.singleton c)

/-- The byte of a slash. -/
def slash : UInt8 := 0x2F

/-- A rest without some bytes at its front. -/
def dropFront? : List UInt8 → List UInt8 → Option (List UInt8)
  | [], rest => some rest
  | _ :: _, [] => none
  | b :: bs, c :: rest => if b = c then dropFront? bs rest else none

/-- All rests behind bytes other than slashes. -/
def afterMany : List UInt8 → List (List UInt8)
  | [] => [[]]
  | b :: rest => (b :: rest) :: (if b = slash then [] else afterMany rest)

/-- All rests, the whole one included. -/
def allRests : List UInt8 → List (List UInt8)
  | [] => [[]]
  | b :: rest => (b :: rest) :: allRests rest

/-- All rests right behind a slash. -/
def afterSlashes : List UInt8 → List (List UInt8)
  | [] => []
  | b :: rest => if b = slash then rest :: afterSlashes rest else afterSlashes rest

/-- Whether a byte belongs to a range of characters. Of a character of several bytes every byte
belongs to the class by itself, and a range reaches from the last byte of its first character to the
first byte of its last. -/
def inRange (b : UInt8) (range : Char × Char) : Bool :=
  if range.1 = range.2 then (bytesOfChar range.1).contains b
  else
    let low := bytesOfChar range.1
    let high := bytesOfChar range.2
    low.dropLast.contains b || high.tail.contains b ||
      (low.getLastD 0 ≤ b && b ≤ high.headD 0)

/-- Keeps one of several rests of the same length; they are the same part of the path. -/
def distinct (rests : List (List UInt8)) : List (List UInt8) :=
  rests.foldr (fun r kept => if kept.any (·.length == r.length) then kept else r :: kept) []

mutual

/-- Whether a pattern has nothing to match. -/
def isSilent : List GlobToken → Bool
  | [] => true
  | t :: rest => isSilentToken t && isSilent rest

/-- Whether a token has nothing to match. -/
def isSilentToken : GlobToken → Bool
  | .either branches => areSilent branches
  | _ => false

/-- Whether patterns have nothing to match. -/
def areSilent : List (List GlobToken) → Bool
  | [] => true
  | b :: rest => isSilent b && areSilent rest

end

mutual

/-- What is left behind some tokens of any of some paths, for each way to match them. -/
def remainders (paths : List (List UInt8)) : List GlobToken → List (List UInt8)
  | [] => paths
  | t :: rest => remainders (distinct (paths.flatMap fun path => tokenRemainders path t)) rest

/-- What is left of a path behind a token, for each way to match it. -/
def tokenRemainders (path : List UInt8) : GlobToken → List (List UInt8)
  | .literal c => (dropFront? (bytesOfChar c) path).toList
  | .any =>
    match path with
    | b :: rest => if b = slash then [] else [rest]
    | [] => []
  | .many => afterMany path
  | .depthBefore => path :: afterSlashes path
  | .depthAfter =>
    match path with
    | b :: rest => if b = slash then allRests rest else []
    | [] => []
  | .depthBetween =>
    match path with
    | b :: rest => if b = slash then rest :: afterSlashes rest else []
    | [] => []
  | .oneOf negated ranges =>
    match path with
    | b :: rest => if ranges.any (inRange b) != negated then [rest] else []
    | [] => []
  | .either branches => if areSilent branches then [path] else branchRemainders path branches

/-- What is left of a path behind one of several patterns; a pattern with nothing to match is not
among them. -/
def branchRemainders (path : List UInt8) : List (List GlobToken) → List (List UInt8)
  | [] => []
  | b :: rest => (if isSilent b then [] else remainders [path] b) ++ branchRemainders path rest

end

/-- Whether a glob matches a whole path. A glob of two stars alone matches every path. -/
def isMatch (tokens : List GlobToken) (path : String) : Bool :=
  match tokens with
  | [.depthBefore] => true
  | _ => (remainders [bytesOf path] tokens).any (·.isEmpty)

end ScriptCensus.Glob
