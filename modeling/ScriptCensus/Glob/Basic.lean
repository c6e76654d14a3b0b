/-!
# Globs

A glob is a pattern for paths. `GlobToken` lists what a glob is made of; `*` and `?` do not cross a
slash, the tokens for any depth do.
-/

namespace ScriptCensus

/-- A part of a glob. -/
inductive GlobToken where
  | literal (c : Char)
  /-- One byte other than a slash. -/
  | any
  /-- Bytes other than slashes. -/
  | many
  /-- Any directories in front, or none: `**/`. -/
  | depthBefore
  /-- Anything below: `/**`. -/
  | depthAfter
  /-- A slash with any directories around it: `/**/`. -/
  | depthBetween
  /-- One byte of some characters, or of none of them. -/
  | oneOf (negated : Bool) (ranges : List (Char × Char))
  /-- One of several patterns. -/
  | either (branches : List (List GlobToken))
deriving Repr, Inhabited

/-- Why a text is no glob. -/
inductive GlobError where
  | unclosedClass
  | invalidRange (first last : Char)
  | unopenedAlternates
  | unclosedAlternates
  | danglingEscape
deriving Repr, BEq, DecidableEq, Inhabited

/-- The wording of an error, for a given pattern. -/
def GlobError.message (pattern : String) (e : GlobError) : String :=
  let cause := match e with
    | unclosedClass => "unclosed character class; missing ']'"
    | invalidRange first last =>
      "invalid range; '" ++ String.singleton first ++ "' > '" ++ String.singleton last ++ "'"
    | unopenedAlternates =>
      "unopened alternate group; missing '\x7b' (maybe escape '\x7d' with '[\x7d]'?)"
    | unclosedAlternates =>
      "unclosed alternate group; missing '\x7d' (maybe escape '\x7b' with '[\x7b]'?)"
    | danglingEscape => "dangling '\\'"
  "error parsing glob '" ++ pattern ++ "': " ++ cause

end ScriptCensus
