import ScriptCensus.Glob.Set
import ScriptCensus.Ignore.Entry
import ScriptCensus.Ignore.RuleSet
import ScriptCensus.Warning

/-!
# Asking the rules

`IgnoreRuleSet.compile` reads the rules once; an `IgnoreMatcher` then tells which files are ignored and
which directories are not entered. Rules that are no globs are left out one by one. What is left is
compiled as three sets, of the globs for paths, of those for directories and of the lines of ignore
files; a set that cannot be compiled is left out as a whole.
-/

namespace ScriptCensus

/-- Rules that have been read. -/
structure IgnoreMatcher where
  /-- Globs for files and directories. -/
  paths : List (List GlobToken)
  /-- Globs for directories of which all content is ignored. -/
  directories : List (List GlobToken)
  list : IgnoreList
deriving Inhabited

namespace IgnoreMatcher

/-- Whether one of some globs matches a path. -/
def anyMatch (globs : List (List GlobToken)) (p : Path) : Bool :=
  globs.any (Glob.isMatch · p.text)

/-- Whether a file is ignored, asked by its path relative to the root; none if the path cannot be
below the root. -/
def isIgnored? (m : IgnoreMatcher) (p : Path) : Option Bool :=
  if anyMatch m.paths p then some true else (m.list.fileVerdict? p).map (· == .ignored)

/-- Whether a file is ignored. -/
def isIgnored (m : IgnoreMatcher) (p : Path) : Bool :=
  (m.isIgnored? p).getD false

/-- Whether a directory is not entered, asked by its path relative to the root. -/
def isIgnoredDirectory (m : IgnoreMatcher) (p : Path) : Bool :=
  anyMatch m.directories p || anyMatch m.paths p || m.list.verdict p true == .ignored

end IgnoreMatcher

namespace IgnoreRuleSet

/-- The glob for a directory of which a pattern ignores all content. -/
def directoryGlob? (pattern : String) : Option (List GlobToken) :=
  let inside := "/**".toList
  let cs := pattern.toList
  if inside.isSuffixOf cs then
    (Glob.parseChars false (cs.take (cs.length - inside.length))).toOption
  else none

/-- The globs that can be read. -/
def validGlobs (patterns : List String) : List (List GlobToken) :=
  patterns.filterMap fun p => (Glob.parse p).toOption

/-- The directory globs of the patterns that can be read. -/
def validDirectoryGlobs (patterns : List String) : List (List GlobToken) :=
  patterns.filterMap fun p => if (Glob.parse p).isOk then directoryGlob? p else none

/-- The entries of the lines that can be read. -/
def validEntries (lines : List String) : List IgnoreEntry :=
  lines.filterMap fun line =>
    match IgnoreEntry.ofLine? line with
    | .ok entry? => entry?
    | .error _ => none

/-- The entries of a list that are asked: all of them, or none if their globs cannot be compiled. -/
def askedEntries (limit : Glob.SizeLimit) (entries : List IgnoreEntry) : List IgnoreEntry :=
  if Glob.compiles limit (entries.map (·.glob)) then entries else []

/-- The matcher for paths below a root. -/
def matcher (r : IgnoreRuleSet) (root : Path) (limit : Glob.SizeLimit := {}) : IgnoreMatcher :=
  ⟨Glob.asked limit (validGlobs r.patterns), Glob.asked limit (validDirectoryGlobs r.patterns),
   .ofEntries root (askedEntries limit (validEntries r.lines))⟩

/-- A warning, if some globs cannot be compiled. -/
def warnUncompiled (limit : Glob.SizeLimit) (globs : List (List GlobToken)) (w : Warning) :
    List Warning :=
  if Glob.compiles limit globs then [] else [w]

/-- The matcher for paths below a root; rules that cannot be read and sets that cannot be compiled are
warned of. -/
def compile (r : IgnoreRuleSet) (root : Path) (limit : Glob.SizeLimit := {}) : Logged IgnoreMatcher :=
  ⟨r.matcher root limit,
   ((r.patterns.filter fun p => !(Glob.parse p).isOk).map fun _ => .invalidPattern) ++
     warnUncompiled limit (validGlobs r.patterns) .uncompiledPatterns ++
     warnUncompiled limit (validDirectoryGlobs r.patterns) .uncompiledPatterns ++
     ((r.lines.filter fun line => !(IgnoreEntry.ofLine? line).isOk).map fun _ => .invalidIgnoreLine) ++
     warnUncompiled limit ((validEntries r.lines).map (·.glob)) .uncompiledIgnoreLines⟩

end IgnoreRuleSet

end ScriptCensus
