import ScriptCensus.Config.Settings
import ScriptCensus.FileSystem.Basic

/-!
# Loading configurations

A configuration comes from a file that was named, or else from the first of three places in a
directory: two files of their own, and a member of the package file. `loadConfig` finds and reads it.
-/

namespace ScriptCensus

/-- Why there is no configuration to go by. -/
inductive ConfigError where
  | unreadableFile (path : Path) (cause : FileError)
  | malformedFile (path : Path) (fault : JsonFault)
  | invalidFile (path : Path) (fault : ConfigFault)
  | unreadablePackage (path : Path) (cause : FileError)
  | malformedPackage (path : Path) (fault : JsonFault)
  | misfitPackage (path : Path) (cause : JsonCause)
  | invalidPackage (path : Path) (fault : ConfigFault)
deriving Inhabited

/-- The wording of an error, followed by those of its causes. -/
def ConfigError.chain : ConfigError → List String
  | unreadableFile path cause => ["failed to read config file: " ++ path.text, cause.message]
  | malformedFile path fault => ["failed to parse config file: " ++ path.text, fault.message]
  | invalidFile path fault => ("invalid config in: " ++ path.text) :: fault.chain
  | unreadablePackage path cause => ["failed to read " ++ path.text, cause.message]
  | malformedPackage path fault => ["failed to parse " ++ path.text, fault.message]
  | misfitPackage path cause => ["invalid funcscan config in " ++ path.text, cause.message]
  | invalidPackage path fault => ("invalid funcscan config in " ++ path.text) :: fault.chain

/-- A configuration, and the file that it comes from. -/
structure ConfigSource where
  config : Config
  path? : Option Path
deriving Repr, BEq, DecidableEq, Inhabited

namespace FileSystem

/-- The configuration in a file of its own. -/
def configFile (fs : FileSystem) (path : Path) : Except ConfigError Config :=
  match fs.readText path with
  | .error cause => .error (.unreadableFile path cause)
  | .ok content =>
    match Config.parse content with
    | .error fault => .error (.malformedFile path fault)
    | .ok c =>
      match c.fault? with
      | some fault => .error (.invalidFile path fault)
      | none => .ok c

/-- The member of a package file that holds a configuration. -/
def packageKey : String := "funcscan"

/-- The configuration in a package file, if there is one. -/
def packageConfig? (fs : FileSystem) (path : Path) : Except ConfigError (Option Config) :=
  match fs.readText path with
  | .error cause => .error (.unreadablePackage path cause)
  | .ok content =>
    match readJson content with
    | .error fault => .error (.malformedPackage path fault)
    | .ok package =>
      match package.member? packageKey with
      | none => .ok none
      | some v =>
        match Config.ofValue v with
        | .error cause => .error (.misfitPackage path cause)
        | .ok c =>
          match c.fault? with
          | some fault => .error (.invalidPackage path fault)
          | none => .ok (some c)

/-- The files in a directory that hold nothing but a configuration; the first that is there counts. -/
def configNames : List String := [".funcscanrc.json", "funcscan.config.json"]

/-- The file in a directory that may hold a configuration besides other things. -/
def packageName : String := "package.json"

/-- The configuration that is found in a directory. -/
def findConfig (fs : FileSystem) (directory : Path) : Except ConfigError ConfigSource :=
  match (configNames.map fun name => directory.join ⟨name⟩).find? fs.isFile with
  | some path => (fs.configFile path).map fun c => ⟨c, some path⟩
  | none =>
    let path := directory.join ⟨packageName⟩
    if fs.isFile path then
      (fs.packageConfig? path).map fun c? =>
        match c? with
        | some c => ⟨c, some path⟩
        | none => ⟨{}, none⟩
    else .ok ⟨{}, none⟩

/-- The configuration in force: that of the file that was named, or else that of the directory. -/
def loadConfig (fs : FileSystem) (directory : Path) (named? : Option Path) :
    Except ConfigError ConfigSource :=
  match named? with
  | some path => (fs.configFile path).map fun c => ⟨c, some path⟩
  | none => fs.findConfig directory

end FileSystem

end ScriptCensus
