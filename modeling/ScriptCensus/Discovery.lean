import ScriptCensus.FileSystem.Basic
import ScriptCensus.Ignore.Matcher
import ScriptCensus.Source.Language

/-!
# Discovery

Which files a scan looks at. A file that is asked for by name is always taken. Of a directory, all
source files below it are taken that are neither hidden nor ignored, in the order of their names;
hidden and ignored directories are not entered, and links are not followed (`sourcesBelow`). All
directories below the path that is scanned are taken to be readable; what becomes of one that is not is
left out.
-/

namespace ScriptCensus

/-- The location of an entry, relative to where the scan starts. -/
abbrev Location := List String

namespace Discovery

/-- Whether a name is that of a hidden entry. -/
def isHidden (name : String) : Bool :=
  name.toList.head? == some '.'

/-- The relative path of a location. -/
def relativePath (location : Location) : Path :=
  ⟨"/".intercalate location⟩

/-- Whether a file is taken. -/
def isTaken (m : IgnoreMatcher) (location : Location) (name : String) : Bool :=
  !isHidden name && (Language.ofPath? ⟨name⟩).isSome && !m.isIgnored (relativePath location)

/-- Whether a directory is entered. -/
def isEntered (m : IgnoreMatcher) (location : Location) (name : String) : Bool :=
  !isHidden name && !m.isIgnoredDirectory (relativePath location)

/-- Brings what was found under each name into the order of the names. -/
def inOrder (found : List (String × List Location)) : List Location :=
  (found.mergeSort fun a b => a.1 ≤ b.1).flatMap (·.2)

mutual

/-- The source files at and below an entry. -/
def sourcesAt (m : IgnoreMatcher) (location : Location) (name : String) : Entry → List Location
  | .file _ => if isTaken m location name then [location] else []
  | .shared _ => if isTaken m location name then [location] else []
  | .directory entries =>
    if isEntered m location name then inOrder (sourcesAmong m location entries) else []
  | .link _ => []
  | .device => []

/-- The source files at and below the entries of a directory, by name. -/
def sourcesAmong (m : IgnoreMatcher) (above : Location) :
    List (String × Entry) → List (String × List Location)
  | [] => []
  | (name, e) :: rest =>
    (name, sourcesAt m (above ++ [name]) name e) :: sourcesAmong m above rest

end

/-- The source files below a directory. -/
def sourcesBelow (m : IgnoreMatcher) (entries : List (String × Entry)) : List Location :=
  inOrder (sourcesAmong m [] entries)

/-- The path of a location below a root. -/
def pathBelow (root : Path) (location : Location) : Path :=
  location.foldl (fun p name => p.join ⟨name⟩) root

end Discovery

/-- The source files that scanning a path looks at. -/
def FileSystem.sources (fs : FileSystem) (root : Path) (rules : IgnoreRuleSet)
    (limit : Glob.SizeLimit := {}) : Logged (List Path) :=
  match fs.entry root with
  | .error _ => ⟨[], [.missingRoot]⟩
  | .ok (.file _) => pure [root]
  | .ok (.shared _) => pure [root]
  | .ok (.directory entries) => do
    let m ← rules.compile root limit
    pure ((Discovery.sourcesBelow m entries).map (Discovery.pathBelow root))
  | .ok _ => ⟨[], [.unsupportedRoot]⟩

end ScriptCensus
