import ScriptCensus.Url.Host

/-!
# URLs

`Url.parse` reads an absolute URL the way the web does: leniently, and into parts that are written
back in one normal form by `Url.text`.
-/

namespace ScriptCensus

namespace Url

/-- What a scheme asks of the rest of a URL. -/
inductive SchemeClass where
  | file
  /-- A scheme of the web, which has a host. -/
  | web
  | other
deriving Repr, BEq, DecidableEq, Inhabited

/-- What is behind the authority. -/
inductive UrlPath where
  /-- Segments between slashes. -/
  | segments (parts : List (List Char))
  /-- A text that is not divided. -/
  | undivided (chars : List Char)
deriving Repr, BEq, DecidableEq, Inhabited

end Url

open Url

/-- The parts of a URL. -/
structure Url where
  scheme : List Char
  username : List Char
  password : List Char
  host? : Option Host
  port? : Option Nat
  path : UrlPath
  query? : Option (List Char)
  fragment? : Option (List Char)
deriving Repr, BEq, DecidableEq, Inhabited

namespace Url

/-- The class of a scheme. -/
def classOf (scheme : List Char) : SchemeClass :=
  match String.ofList scheme with
  | "file" => .file
  | "http" | "https" | "ws" | "wss" | "ftp" => .web
  | _ => .other

/-- The port that a scheme has unless another one is given. -/
def defaultPort (scheme : List Char) : Option Nat :=
  match String.ofList scheme with
  | "http" | "ws" => some 80
  | "https" | "wss" => some 443
  | "ftp" => some 21
  | _ => none

/-- The text that is read: without controls and blanks at its ends, and without line breaks and tabs
anywhere. -/
def cleaned (s : String) : List Char :=
  let outer (c : Char) : Bool := c.toNat ≤ 0x20
  (dropEndWhile outer (s.toList.dropWhile outer)).filter fun c => !(['\t', '\n', '\r'].contains c)

/-- Whether a character may stand in a scheme. -/
def isSchemeChar (c : Char) : Bool :=
  c.isAlphanum || c == '+' || c == '-' || c == '.'

/-- The scheme in small letters, and what is behind its colon. -/
def splitScheme (cs : List Char) : Option (List Char × List Char) :=
  match cs.span isSchemeChar with
  | (scheme, ':' :: rest) =>
    if (scheme.head?.map Char.isAlpha).getD false then some (scheme.map Char.toLower, rest) else none
  | _ => none

/-- Whether a character ends the authority. -/
def endsAuthority (kind : SchemeClass) (c : Char) : Bool :=
  c == '/' || c == '?' || c == '#' || (c == '\\' && kind != .other)

/-! ## Authority -/

/-- Splits at the last `@`. -/
def splitUser (cs : List Char) : Option (List Char × List Char) :=
  match cs.reverse.span (· != '@') with
  | (after, '@' :: before) => some (before.reverse, after.reverse)
  | _ => none

/-- User name and password, encoded. -/
def userParts (cs : List Char) : List Char × List Char :=
  match cs.span (· != ':') with
  | (name, ':' :: password) => (encode userEncodes name, encode userEncodes password)
  | (name, _) => (encode userEncodes name, [])

/-- Splits a host from what is behind it; colons in square brackets belong to the host. -/
def splitHost (inside : Bool) : List Char → List Char × List Char
  | [] => ([], [])
  | c :: rest =>
    if c == ':' && !inside then ([], c :: rest)
    else
      let (host, behind) := splitHost (if c == '[' then true else if c == ']' then false else inside) rest
      (c :: host, behind)

/-- The number of a port; none if it is left out or the one that the scheme has anyway. -/
def portOf (scheme : List Char) (cs : List Char) : Except ParseError (Option Nat) :=
  if !cs.all Char.isDigit then .error .invalidPort
  else
    let n := cs.foldl (fun n c => n * 10 + (c.toNat - '0'.toNat)) 0
    if n > 65535 then .error .invalidPort
    else if cs.isEmpty || defaultPort scheme == some n then .ok none
    else .ok (some n)

/-- Reads the host of an authority. -/
def hostOf (kind : SchemeClass) (cs : List Char) : Except ParseError Host :=
  if kind == .other then Host.parseOpaque cs
  else if cs.isEmpty then .error .emptyHost
  else Host.parse cs

/-- The authority of a URL. -/
structure Authority where
  username : List Char
  password : List Char
  host? : Option Host
  port? : Option Nat

/-- Reads host and port behind the user. -/
def hostAndPort (kind : SchemeClass) (scheme username password cs : List Char) :
    Except ParseError Authority := do
  let (hostChars, behind) := splitHost false cs
  let host ← hostOf kind hostChars
  if hostChars.isEmpty && !behind.isEmpty then throw .emptyHost
  let port? ← match behind with
    | ':' :: digits => portOf scheme digits
    | _ => pure none
  if hostChars.isEmpty && !(username.isEmpty && password.isEmpty) then throw .emptyHost
  return ⟨username, password, some host, port?⟩

/-- Reads an authority. -/
def authorityOf (kind : SchemeClass) (scheme cs : List Char) : Except ParseError Authority := do
  match splitUser cs with
  | none => hostAndPort kind scheme [] [] cs
  | some (user, rest) =>
    let (username, password) := userParts user
    hostAndPort kind scheme username password rest

/-! ## Path, query and fragment -/

/-- Whether a segment stands for the one it is in. -/
def isSingleDot (segment : List Char) : Bool :=
  ([".", "%2e"] : List String).contains (String.ofList (segment.map Char.toLower))

/-- Whether a segment stands for the one above. -/
def isDoubleDot (segment : List Char) : Bool :=
  (["..", "%2e.", ".%2e", "%2e%2e"] : List String).contains (String.ofList (segment.map Char.toLower))

/-- Adds segments one after another, last first; dots are resolved. -/
def addSegments (added : List (List Char)) : List (List Char) → List (List Char)
  | [] => added
  | segment :: rest =>
    let final := rest.isEmpty
    if isDoubleDot segment then
      addSegments (if final then [] :: added.drop 1 else added.drop 1) rest
    else if isSingleDot segment then addSegments (if final then [] :: added else added) rest
    else addSegments (segment :: added) rest

/-- The segments of a path, behind its first slash. -/
def segmentsOf (kind : SchemeClass) (cs : List Char) : List (List Char) :=
  let cs := if kind == .other then cs else cs.map fun c => if c == '\\' then '/' else c
  (addSegments [] ((splitAt '/' cs).map (encode pathEncodes))).reverse

/-- Splits a text before the first of some characters. -/
def splitBefore (stops : List Char) (cs : List Char) : List Char × List Char :=
  cs.span (!stops.contains ·)

/-- Reads query and fragment. -/
def tailOf (kind : SchemeClass) (cs : List Char) : Option (List Char) × Option (List Char) :=
  let (before, behind) := splitBefore ['#'] cs
  let query? := match before with
    | '?' :: query => some (encode (queryEncodes (kind != .other)) query)
    | _ => none
  let fragment? := match behind with
    | '#' :: fragment => some (encode fragmentEncodes fragment)
    | _ => none
  (query?, fragment?)

/-- Drops empty segments at the front, as long as one is left. -/
def dropEmptyFront : List (List Char) → List (List Char)
  | [] :: s :: rest => dropEmptyFront (s :: rest)
  | parts => parts

/-- The path behind an authority. -/
def pathBehind (kind : SchemeClass) (cs : List Char) : UrlPath :=
  match cs with
  | [] => .segments (if kind == .other then [] else [[]])
  | c :: rest => .segments (segmentsOf kind (if c == '/' || (c == '\\' && kind != .other) then rest else cs))

/-! ## Whole URLs -/

/-- Reads what is behind two slashes. -/
def parseAuthority (kind : SchemeClass) (scheme cs : List Char) : Except ParseError Url := do
  let (authority, rest) := cs.span (!endsAuthority kind ·)
  let a ← authorityOf kind scheme authority
  let (path, tail) := splitBefore ['?', '#'] rest
  let (query?, fragment?) := tailOf kind tail
  return { scheme, username := a.username, password := a.password, host? := a.host?, port? := a.port?,
           path := pathBehind kind path, query?, fragment? }

/-- Reads a file URL, from behind its colon on. Its host may be left out. -/
def parseFile (scheme cs : List Char) : Except ParseError Url := do
  let (front, tail) := splitBefore ['?', '#'] cs
  let (query?, fragment?) := tailOf .file tail
  let isSlash (c : Char) : Bool := c == '/' || c == '\\'
  let (host?, path) ← match front with
    | a :: b :: rest =>
      if isSlash a && isSlash b then do
        let (hostChars, path) := rest.span (!isSlash ·)
        if hostChars.isEmpty then pure (none, path.drop 1)
        else
          let host ← Host.parse hostChars
          pure (if host == .name "localhost".toList then none else some host, path.drop 1)
      else pure (none, if isSlash a then b :: rest else front)
    | [a] => pure (none, if isSlash a then [] else front)
    | [] => pure (none, [])
  return { scheme, username := [], password := [], host?, port? := none,
           path := .segments (dropEmptyFront (segmentsOf .file path)), query?, fragment? }

/-- Reads a URL of a scheme that is not the web's, from behind its colon on. -/
def parseOther (scheme cs : List Char) : Except ParseError Url :=
  match cs with
  | '/' :: '/' :: rest => parseAuthority .other scheme rest
  | _ =>
    let (front, tail) := splitBefore ['?', '#'] cs
    let (query?, fragment?) := tailOf .other tail
    let path := match front with
      | '/' :: rest => .segments (segmentsOf .other rest)
      | _ => .undivided (encode isControlOrWide front)
    .ok { scheme, username := [], password := [], host? := none, port? := none, path, query?, fragment? }

/-- Reads an absolute URL. -/
def parse (s : String) : Except ParseError Url :=
  match splitScheme (cleaned s) with
  | none => .error .relativeWithoutBase
  | some (scheme, rest) =>
    match classOf scheme with
    | .file => parseFile scheme rest
    | .web => parseAuthority .web scheme (rest.dropWhile fun c => c == '/' || c == '\\')
    | .other => parseOther scheme rest

/-- The path as it is written. -/
def UrlPath.chars (hasHost : Bool) : UrlPath → List Char
  | undivided cs => cs
  | segments parts =>
    let plain := parts.flatMap ('/' :: ·)
    match parts with
    | [] :: _ :: _ => if hasHost then plain else '/' :: '.' :: plain
    | _ => plain

/-- The user as it is written. -/
def userChars (u : Url) : List Char :=
  if u.username.isEmpty && u.password.isEmpty then []
  else if u.password.isEmpty then u.username ++ ['@']
  else u.username ++ ':' :: u.password ++ ['@']

/-- The URL in its normal form. -/
def text (u : Url) : String :=
  let port := match u.port? with
    | some n => ':' :: Nat.toDigits 10 n
    | none => []
  let authority := match u.host? with
    | some host => '/' :: '/' :: u.userChars ++ host.chars ++ port
    | none => if classOf u.scheme == .file then ['/', '/'] else []
  let query := match u.query? with
    | some q => '?' :: q
    | none => []
  let fragment := match u.fragment? with
    | some f => '#' :: f
    | none => []
  String.ofList (u.scheme ++ ':' :: authority ++ u.path.chars (!authority.isEmpty) ++ query ++ fragment)

/-- The URL without user name and password. -/
def withoutUser (u : Url) : Url :=
  { u with username := [], password := [] }

end Url

end ScriptCensus
