import ScriptCensus.FileSystem.Path
import ScriptCensus.Json.Shape

/-!
# Configurations

A `Config` is what a configuration file says. Everything may be left out. `Config.shape` tells how it
is written; no other members are allowed.
-/

namespace ScriptCensus

/-- What a configuration file says. -/
structure Config where
  /-- Globs for what is not scanned, besides those that hold for every scan. -/
  exclude : List String := []
  /-- Where the report is stored. -/
  output? : Option Path := none
  /-- The service that the report is handed on to. -/
  endpoint? : Option String := none
  /-- The program that the report is handed on to, and its arguments. -/
  command? : Option (List String) := none
  /-- How many seconds handing on may take. -/
  timeout? : Option Nat := none
  /-- Whether the functions of a file are sorted by their first lines. -/
  sortByLine? : Option Bool := none
deriving Repr, BEq, DecidableEq, Inhabited

namespace Config

/-- The members of a configuration, in order. -/
abbrev Members :=
  List String × Option Path × Option String × Option (List String) × Option Nat × Option Bool × Unit

/-- The configuration with given members. -/
def ofMembers : Members → Config
  | (exclude, output?, endpoint?, command?, timeout?, sortByLine?, ()) =>
    { exclude, output?, endpoint?, command?, timeout?, sortByLine? }

/-- The members of a configuration. -/
def toMembers (c : Config) : Members :=
  (c.exclude, c.output?, c.endpoint?, c.command?, c.timeout?, c.sortByLine?, ())

/-- A path, written as a string. -/
def pathShape : Shape Path :=
  .mapped (.text "path string") Path.mk Path.text

/-- The members and how they are written. Each of them may be left out. -/
def fields : Fields Members :=
  .cons "exclude" (some []) (.list (.text "a string")) <|
  .cons "output" (some none) (.optional pathShape) <|
  .cons "endpoint" (some none) (.optional (.text "a string")) <|
  .cons "command" (some none) (.optional (.list (.text "a string"))) <|
  .cons "timeout_secs" (some none) (.optional (.natural 64)) <|
  .cons "sort_by_line" (some none) (.optional .boolean) .nil

/-- How a configuration is written. -/
def shape : Shape Config :=
  .mapped (.record "FuncscanConfig" true fields) ofMembers toMembers

/-- The configuration as compact JSON. -/
def text (c : Config) : String :=
  (shape.toValue c).compact

/-- Reads a configuration. -/
def parse (s : String) : Except JsonFault Config :=
  shape.readText s

/-- Reads a configuration that is part of another JSON value. -/
def ofValue (v : JsonValue) : Except JsonCause Config :=
  shape.ofValue v

end Config

end ScriptCensus
