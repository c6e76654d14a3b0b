import ScriptCensus.FileSystem.Basic
import ScriptCensus.Report.Basic
import ScriptCensus.Warning

/-!
# Storing reports

A report is written next to its destination first and then renamed, so that the destination holds
either what it held before or the whole report (`Report.store`). `Refusals` tells what fails besides
what cannot be done in the tree of entries.
-/

namespace ScriptCensus

/-- What storing a report comes to. -/
structure Storage where
  /-- The absolute path of the report. -/
  result : Except FileError Path
  files : FileSystem
  warnings : List Warning
deriving Inhabited

/-- What is refused although the tree of entries allows it, for want of rights, of room or the like. -/
structure Refusals where
  /-- Making a directory. -/
  directory? : Path → Option FileError := fun _ => none
  /-- Opening the draft. -/
  opening? : Option FileError := none
  /-- Writing more than some bytes, or making sure of them if these are all. -/
  writing? : Option (Nat × FileError) := none
  renaming? : Option FileError := none
  /-- Taking away the draft. -/
  removal? : Option FileError := none
  /-- Telling the absolute path. -/
  resolving? : Option FileError := none

namespace Report

/-- What the file of a report holds. -/
def content (r : Report) : ByteArray :=
  (r.render ++ "\n").toUTF8

/-- Where a report is written before it is renamed. -/
def draftPath (destination : Path) : Path :=
  destination.withExtension "json.tmp"

/-- Makes the directories above a destination. -/
def prepare (fs : FileSystem) (destination : Path) (refusals : Refusals := {}) :
    Except FileError Unit × FileSystem :=
  match destination.parent? with
  | some parent =>
    if parent.text.isEmpty then (.ok (), fs) else fs.makeDirectories parent refusals.directory?
  | none => (.ok (), fs)

/-- Writes a draft. What was written before it failed stays. -/
def writeDraft (fs : FileSystem) (draft : Path) (content : ByteArray) (refusals : Refusals := {}) :
    Except FileError Unit × FileSystem :=
  let kept := match refusals.writing? with
    | some (limit, _) => content.extract 0 limit
    | none => content
  match FileError.unlessRefused refusals.opening? (fs.write draft kept) with
  | .error e => (.error e, fs)
  | .ok written =>
    (FileError.unlessRefused (refusals.writing?.map Prod.snd) (written.sync draft), written)

/-- Writes a draft and renames it. -/
def writeAndRename (fs : FileSystem) (draft destination : Path) (content : ByteArray)
    (refusals : Refusals := {}) : Except FileError Unit × FileSystem :=
  match writeDraft fs draft content refusals with
  | (.error e, left) => (.error e, left)
  | (.ok (), written) =>
    match FileError.unlessRefused refusals.renaming? (written.rename draft destination) with
    | .error e => (.error e, written)
    | .ok renamed => (.ok (), renamed)

/-- Takes away a draft that is left over. -/
def cleanUp (fs : FileSystem) (draft : Path) (refusals : Refusals := {}) :
    FileSystem × List Warning :=
  if fs.leadsSomewhere draft then
    match FileError.unlessRefused refusals.removal? (fs.remove draft) with
    | .ok cleaned => (cleaned, [])
    | .error _ => (fs, [.abandonedReport])
  else (fs, [])

/-- Puts the content of a report in its place: makes missing directories, writes a draft, renames it;
takes the draft away if that fails. -/
def putInPlace (r : Report) (destination : Path) (fs : FileSystem) (refusals : Refusals := {}) :
    Except FileError Unit × FileSystem × List Warning :=
  match prepare fs destination refusals with
  | (.error e, prepared) => (.error e, prepared, [])
  | (.ok (), prepared) =>
    let draft := draftPath destination
    match writeAndRename prepared draft destination r.content refusals with
    | (.error e, left) => (.error e, cleanUp left draft refusals)
    | (.ok (), stored) => (.ok (), stored, [])

/-- Stores a report and tells its absolute path. -/
def store (r : Report) (destination : Path) (fs : FileSystem) (refusals : Refusals := {}) :
    Storage :=
  match r.putInPlace destination fs refusals with
  | (.error e, files, warnings) => ⟨.error e, files, warnings⟩
  | (.ok (), files, warnings) =>
    ⟨FileError.unlessRefused refusals.resolving? (files.canonical destination), files, warnings⟩

end Report

end ScriptCensus
