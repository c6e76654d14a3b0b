import ScriptCensus.FileSystem.Path
import ScriptCensus.Json.Shape
import ScriptCensus.Tree.Functions

/-!
# Reports

A `Report` lists, file by file, the functions that were found. Files without functions are not listed
(`Report.push`). `Report.shape` tells how a report is written, and `Report.render` writes it.
-/

namespace ScriptCensus

/-- The functions of a file. -/
structure FileReport where
  path : Path
  functions : List FunctionRecord
deriving Repr, BEq, DecidableEq, Inhabited

/-- The functions that were found, file by file. -/
structure Report where
  files : List FileReport := []
deriving Repr, BEq, DecidableEq, Inhabited

/-! ## How reports are written -/

namespace FunctionRecord

/-- The members of a function. Other members are passed over. -/
def fields : Fields (String × Nat × Nat × FunctionKind × Unit) :=
  .cons "functionBody" none (.text "a string") <|
  .cons "startLine" none (.natural 32) <|
  .cons "endLine" none (.natural 32) <|
  .cons "nodeType" none (.choice FunctionKind.all FunctionKind.name) .nil

/-- How a function is written. -/
def shape : Shape FunctionRecord :=
  .mapped (.record "ExtractedFunction" false fields)
    (fun (body, startLine, endLine, kind, ()) => ⟨body, startLine, endLine, kind⟩)
    (fun f => (f.body, f.startLine, f.endLine, f.kind, ()))

end FunctionRecord

namespace FileReport

/-- The functions of a file, if there are any. -/
def of? (path : Path) (functions : List FunctionRecord) : Option FileReport :=
  if functions.isEmpty then none else some ⟨path, functions⟩

/-- The members of a file. Other members are passed over. -/
def fields : Fields (Path × List FunctionRecord × Unit) :=
  .cons "filePath" none (.mapped (.text "a string") Path.mk Path.text) <|
  .cons "messages" none (.list FunctionRecord.shape) .nil

/-- How the functions of a file are written. -/
def shape : Shape FileReport :=
  .mapped (.record "FileReport" false fields)
    (fun (path, functions, ()) => ⟨path, functions⟩) (fun f => (f.path, f.functions, ()))

end FileReport

namespace Report

/-- Adds the functions of a file, if there are any. -/
def push (r : Report) (f : FileReport) : Report :=
  if f.functions.isEmpty then r else { r with files := r.files ++ [f] }

/-- The number of functions. -/
def functionCount (r : Report) : Nat :=
  (r.files.flatMap (·.functions)).length

/-- How a report is written. -/
def shape : Shape Report :=
  .mapped (.list FileReport.shape) Report.mk Report.files

/-- The report as JSON, over several lines. -/
def render (r : Report) : String :=
  (shape.toValue r).pretty

/-- Reads a report. -/
def parse (s : String) : Except JsonFault Report :=
  shape.readText s

end Report

end ScriptCensus
