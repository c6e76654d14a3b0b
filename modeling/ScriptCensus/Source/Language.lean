import ScriptCensus.FileSystem.Path

/-!
# Languages

Which grammar a file is read with, as its extension tells.
-/

namespace ScriptCensus

/-- A language that can be read. -/
inductive Language where
  | javaScript
  | typeScript
deriving Repr, BEq, DecidableEq, Inhabited

namespace Language

/-- The name of a language. -/
def name : Language → String
  | javaScript => "JavaScript"
  | typeScript => "TypeScript"

/-- The extensions of the files of a language. -/
def extensions : Language → List String
  | javaScript => ["js", "mjs"]
  | typeScript => ["ts", "mts"]

/-- The language of an extension. -/
def ofExtension? (extension : String) : Option Language :=
  [javaScript, typeScript].find? (·.extensions.contains extension)

/-- The language that the extension of a path tells. -/
def ofPath? (p : Path) : Option Language :=
  p.extension?.bind ofExtension?

/-- The language of a file that was asked for by name, whatever its extension. -/
def ofExplicitFile (p : Path) : Language :=
  (ofPath? p).getD javaScript

end Language

end ScriptCensus
