import ScriptCensus.Programs.Shell.Run

/-!
# Machines

The machine that reports are handed on to: it has a shell and some tools (`Machine.basic`).
-/

namespace ScriptCensus

namespace Machine

/-- The programs that can be named. -/
def programs : List (String × Program) :=
  ("sh", Shell.run) :: Shell.programs

/-- The name of a program in one of the directories where programs are. -/
def programName (name : String) : String :=
  let front := ["/bin/", "/usr/bin/"].find? fun d => d.toList.isPrefixOf name.toList
  match front with
  | some d => String.ofList (name.toList.drop d.length)
  | none => name

/-- The machine that has the shell and some tools. -/
def basic : Machine := fun name arguments fs =>
  if (name :: arguments).any (·.toList.contains '\x00') then .error .nulInArgument
  else
    match programs.lookup (programName name) with
    | some program => .ok (program arguments [] fs)
    | none =>
      if name.toList.contains '/' then
        match fs.entry ⟨name⟩ with
        | .ok _ => .error .notAllowed
        | .error e => .error (.notThere e)
      else .error (.notThere .notFound)

end Machine

end ScriptCensus
