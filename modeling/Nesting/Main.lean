import Nesting.Command

/-!
# The program

Commands are computations on a world that is a value. The program makes that value from what is
there: of the file system it looks at the places that its arguments can mean and at the
configuration files that a check looks for, and of the environment at the variables of the settings
and at those that a file calls for.
It then runs the command, writes the files that have changed, and hands over output and log.
-/

namespace Nesting.Main

/-- What an error of the system is to a command. -/
def faultOf : IO.Error → FileFault
  | .permissionDenied .. => .permissionDenied
  | e => .device (toString e)

/-- What is at a path, if anything is. A file that is there and cannot be read is known only by what
the system says. -/
def look (path : String) : IO (Option (Except FileFault FileNode)) := do
  let place ← try IO.FS.realPath path catch _ => return none
  unless ← place.pathExists do return none
  if ← place.isDir then return some (.ok .directory)
  try return some (.ok (.file (← IO.FS.readBinFile path).toList))
  catch e => return some (.error (faultOf e))

/-- What is at the places that a path leads through, one component after the other, and what the
system says against reading them. -/
def lookAlong (path : String) : IO (List (Location × FileNode) × List (String × FileFault)) := do
  let mut place := FileTree.origin path
  let mut passed : List String := []
  let mut found := []
  let mut refused := []
  for component in FileTree.components path do
    place := place.enter component
    passed := passed ++ [component]
    let reached := "/".intercalate passed
    match ← look (if reached = "" then "/" else reached) with
    | some (.ok node) => found := found ++ [(place, node)]
    | some (.error fault) =>
      found := found ++ [(place, .file [])]
      refused := refused ++ [(reached, fault)]
    | none => pure ()
  return (found, refused)

/-- The paths that arguments can mean: each argument, and what stands in it behind a sign of
equality or behind a letter. -/
def pathsIn (argument : String) : List String :=
  let t := argument.toList
  [argument, String.ofList ((t.dropWhile (· ≠ '=')).drop 1), String.ofList (t.drop 2)]

/-- The variables that a file may call for. -/
def variablesIn : FileNode → List String
  | .file bytes => Dotenv.variableNames bytes
  | .directory => []

/-- The world that a run acts on. The clock counts from an arbitrary moment. -/
def world (arguments : List String) : IO World := do
  let mut nodes := []
  let mut refused := []
  for path in ConfigFile.candidates ++ arguments.flatMap pathsIn do
    unless path = "" do
      let (found, against) ← lookAlong path
      nodes := nodes ++ found
      refused := refused ++ against
  let mut environment := []
  for name in Key.all.map Key.environmentName ++ nodes.flatMap fun (_, node) => variablesIn node do
    if let some value ← IO.getEnv name then environment := environment ++ [(name, value)]
  let now := toString (← IO.monoMsNow) ++ "ms"
  let files : FileTree := { nodes, refusals := { openToRead := (refused.lookup ·) } }
  return { files, environment, clock := ⟨"-", now, now, "0ms"⟩ }

end Nesting.Main

/-- Runs the program. -/
def main (arguments : List String) : IO UInt32 := do
  let before ← Nesting.Main.world arguments
  let (error, after) := Nesting.Command.run arguments before
  for (place, bytes) in after.files.changesSince before.files do
    IO.FS.writeBinFile place.path ⟨bytes.toArray⟩
  (← IO.getStdout).putStr after.out.text
  (← IO.getStderr).putStr after.log
  return Nesting.Command.exitStatus error
