import ScriptCensus.FileSystem.Basic
import ScriptCensus.Ignore.RuleSet
import ScriptCensus.Warning

/-!
# Ignore files

The rules for a scan: those that hold for every scan, the excludes that were asked for, and the lines
of the ignore files in the directory that is scanned (`FileSystem.ignoreRules`).
-/

namespace ScriptCensus

namespace FileSystem

/-- The ignore files of a directory, in the order in which they are read. -/
def ignoreFileNames : List String :=
  [".eslintignore", ".npmignore", ".gitignore", ".dockerignore"]

/-- Adds the lines of an ignore file, if there is one. -/
def addIgnoreFile (fs : FileSystem) (rules : IgnoreRuleSet) (path : Path) : Logged IgnoreRuleSet :=
  if fs.isFile path then
    match fs.readText path with
    | .ok content => pure (rules.extend content)
    | .error _ => ⟨rules, [.unreadableIgnoreFile]⟩
  else pure rules

/-- The rules for scanning a directory, with further excludes. -/
def ignoreRules (fs : FileSystem) (root : Path) (exclude : List String) : Logged IgnoreRuleSet :=
  ignoreFileNames.foldlM (fun rules name => fs.addIgnoreFile rules (root.join ⟨name⟩))
    (exclude.foldl IgnoreRuleSet.insert .builtin)

end FileSystem

end ScriptCensus
