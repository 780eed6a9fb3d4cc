import Nesting.Config
import Nesting.Config.Format.Dotenv
import Nesting.Config.Format.Json
import Nesting.Config.Format.Toml
import Nesting.Config.Format.Yaml
import Nesting.Files

/-!
# Configuration files

The extension of a file says what format it is in. Some extensions are known although files with
them cannot be read. A file is either named, and then it has to be there, or looked for in the
working directory under one name with each known extension in turn, and then it may be missing; but
where the system does not say whether it is there, none is taken. Errors name a file that was looked
for by its name in the working directory.
-/

namespace Nesting

/-- A format of configuration files. -/
inductive FileFormat where
  | json
  | toml
  | yaml
  | dotenv
  /-- A format that is known by name only. -/
  | unread
  deriving DecidableEq

namespace FileFormat

/-- The known extensions, in the order in which files are looked for. -/
def extensions : List (String × FileFormat) :=
  [("json", json), ("toml", toml), ("yaml", yaml), ("yml", yaml), ("properties", unread),
    ("props", unread), ("prop", unread), ("hcl", unread), ("tfvars", unread), ("dotenv", dotenv),
    ("env", dotenv), ("ini", unread)]

/-- The values that a file holds. Only assignments look at environment variables. -/
def document (environment : List (String × String)) : FileFormat → Bytes → Option Table
  | json => Json.document
  | toml => Toml.document
  | yaml => Yaml.document
  | dotenv => Dotenv.document environment
  | unread => fun _ => none

end FileFormat

namespace ConfigFile

/-- What stands behind the last dot in the last component of a path. -/
def extension (path : String) : String :=
  let last := path.toList.reverse.takeWhile (· ≠ '/')
  if last.contains '.' then String.ofList (last.takeWhile (· ≠ '.')).reverse else ""

/-- The values in the file that a path leads to, with keys in lower case. -/
def read (order : FieldOrder) (files : FileTree) (environment : List (String × String))
    (path : String) : Except ConfigError Table :=
  match FileFormat.extensions.lookup (extension path) with
  | none => .error (.unsupported (extension path))
  | some format =>
    match files.read path with
    | .error e => .error (.file e)
    | .ok bytes =>
      match format.document environment bytes with
      | none => .error (.malformed path)
      | some fields => .ok (Table.ofMixedCase order (Value.lowerFields order fields))

/-- The files that are looked for when none is named. -/
def candidates : List String :=
  FileFormat.extensions.map fun (name, _) => ".brackets." ++ name

/-- Why the system does not say whether one of those files is there, if it does not. -/
def searchError? (files : FileTree) : Option FileError :=
  candidates.findSome? fun name =>
    match files.refusals.stat name with
    | none | some .notFound => none
    | some fault => some ⟨"stat", name, fault⟩

/-- The first of those files that is there. -/
def search? (files : FileTree) : Option String :=
  candidates.find? fun name => files.refusals.stat name = none && files.isFile [name]

/-- The values in the configuration file; with no name for it, in the one that is found, if any. -/
def load (order : FieldOrder) (files : FileTree) (environment : List (String × String))
    (path : String) : Except ConfigError Table :=
  if path = "" then
    match searchError? files, search? files with
    | some e, _ => .error (.file e)
    | none, none => .ok []
    | none, some found => read order files environment found
  else read order files environment path

end ConfigFile

/-- The configuration for a check. -/
def Config.load (order : FieldOrder) (files : FileTree) (path : String)
    (environment : List (String × String)) (assigned : Table) (flags : Key → Option Value) :
    Except ConfigError Config :=
  match ConfigFile.load order files environment path with
  | .error e => .error e
  | .ok file => ofSources { assigned, flags, environment, file, defaults := Config.defaults }

end Nesting
