import Nesting.Failure
import Nesting.Text

/-!
# File trees

The files that a command sees, as they lie below the working directory. A path is walked component
by component: each one that has another behind it must be a directory, and so must the last one if a
slash follows. Where that fails, the walk tells a component that is not there from one that is not a
directory.

A place is the list of names that leads to it from the working directory. Places outside of it start
with `..` for each level up, or with `/`; those levels are directories, and nothing is known to be
in them but what the tree lists.

Besides what is there, the system may refuse: a file may not be opened, or not be read to its end,
and a device may stop taking bytes. A file that is written is emptied first, so that a refusal in
the middle leaves the beginning of what was to be written.
-/

namespace Nesting

/-- A place in the file system, as the names that lead to it from the working directory. -/
abbrev Location := List String

/-- What can be at a place. -/
inductive FileNode where
  | file (bytes : Bytes)
  | directory
  deriving DecidableEq

/-- What the system refuses, for each path and whatever that leads to. By default it refuses
nothing. -/
structure Refusals where
  /-- Why it does not say what is at a path. -/
  stat : String → Option FileFault := fun _ => none
  /-- Why a file is not opened to be read. -/
  openToRead : String → Option FileFault := fun _ => none
  /-- Why a file that is open is not read to its end. -/
  reading : String → Option FileFault := fun _ => none
  /-- Why a file is not opened to be written. -/
  openToWrite : String → Option FileFault := fun _ => none
  /-- How many bytes a file that is open takes of those it is given, and why no more. -/
  writing : String → Bytes → Option (Nat × FileFault) := fun _ _ => none
  /-- Why a file that was written is not closed. -/
  closing : String → Option FileFault := fun _ => none

/-- The files and directories there are, and what the system refuses. A directory that holds
something need not be listed. -/
structure FileTree where
  nodes : List (Location × FileNode) := []
  refusals : Refusals := {}

namespace Location

/-- The place one level up. -/
def parent (loc : Location) : Location :=
  match loc.getLast? with
  | none => [".."]
  | some ".." => loc ++ [".."]
  | some "/" => loc
  | some _ => loc.dropLast

/-- The place that a component leads to. -/
def enter (loc : Location) (component : String) : Location :=
  if component = "" || component = "." then loc
  else if component = ".." then parent loc
  else loc ++ [component]

/-- Whether a place is the working directory or one of the levels around it. -/
def isBase (loc : Location) : Bool :=
  loc = ["/"] || loc.all (· = "..")

/-- A place as a path. -/
def path (loc : Location) : String :=
  "/".intercalate loc

end Location

namespace FileTree

/-- Whether there is a directory at a place: one that is listed, or one that holds something. -/
def isDirectory (t : FileTree) (loc : Location) : Bool :=
  loc.isBase || t.nodes.any fun (place, node) =>
    if place = loc then node = .directory else loc.isPrefixOf place

/-- What is at a place. -/
def nodeAt (t : FileTree) (loc : Location) : Option FileNode :=
  if t.isDirectory loc then some .directory
  else (t.nodes.find? fun (place, _) => place = loc).map (·.2)

/-- Whether there is a file at a place. -/
def isFile (t : FileTree) (loc : Location) : Bool :=
  match t.nodeAt loc with
  | some (.file _) => true
  | _ => false

/-! ## Paths -/

/-- The components of a path; there is an empty one behind a slash at the end. -/
def components (path : String) : List String :=
  (path.toList.splitOn '/').map String.ofList

/-- Where a path starts from. -/
def origin (path : String) : Location :=
  if path.startsWith "/" then ["/"] else []

/-- Checks that a place is a directory. -/
def requireDirectory (t : FileTree) (loc : Location) : Except FileFault Unit :=
  match t.nodeAt loc with
  | none => .error .notFound
  | some (.file _) => .error .notDirectory
  | some .directory => .ok ()

/-- Walks along components; each of them is looked for in a directory. -/
def walk (t : FileTree) (loc : Location) : List String → Except FileFault Location
  | [] => .ok loc
  | component :: rest => do
    t.requireDirectory loc
    t.walk (loc.enter component) rest

/-- What a path leads to. -/
def find (t : FileTree) (path : String) : Except FileFault FileNode :=
  if path = "" then .error .notFound
  else do
    let loc ← t.walk (origin path) (components path)
    match t.nodeAt loc with
    | none => .error .notFound
    | some node => .ok node

/-- The place where a path says that a file is to be written. -/
def target (t : FileTree) (path : String) : Except FileFault Location :=
  if path = "" then .error .notFound
  else
    let names := (components path).filter (· ≠ "")
    match names.getLast? with
    | none => .error .isDirectory
    | some last => do
      let loc ← t.walk (origin path) names.dropLast
      t.requireDirectory loc
      if path.endsWith "/" || last = "." || last = ".." || t.isDirectory (loc ++ [last]) then
        .error .isDirectory
      else .ok (loc ++ [last])

/-! ## Reading and writing -/

/-- The bytes of the file that a path leads to. -/
def read (t : FileTree) (path : String) : Except FileError Bytes :=
  match t.refusals.openToRead path with
  | some fault => .error ⟨"open", path, fault⟩
  | none =>
    match t.find path with
    | .error fault => .error ⟨"open", path, fault⟩
    | .ok .directory => .error ⟨"read", path, .isDirectory⟩
    | .ok (.file bytes) =>
      match t.refusals.reading path with
      | some fault => .error ⟨"read", path, fault⟩
      | none => .ok bytes

/-- The tree with a file at a place, in place of what was there. -/
def put (t : FileTree) (loc : Location) (bytes : Bytes) : FileTree where
  nodes := t.nodes.filter (fun (place, _) => place ≠ loc) ++ [(loc, .file bytes)]
  refusals := t.refusals

/-- Opens a file to be written: what was in it is lost, and where there was none it is made. The
place of the file comes with the tree. -/
def create (t : FileTree) (path : String) : Except FileError (Location × FileTree) :=
  match t.refusals.openToWrite path with
  | some fault => .error ⟨"open", path, fault⟩
  | none =>
    match t.target path with
    | .error fault => .error ⟨"open", path, fault⟩
    | .ok loc => .ok (loc, t.put loc [])

/-- Writes a file: opens it, hands it the bytes and closes it. The tree is what there is afterwards,
also where one of these fails. -/
def write (t : FileTree) (path : String) (bytes : Bytes) : Option FileError × FileTree :=
  match t.create path with
  | .error e => (some e, t)
  | .ok (loc, opened) =>
    match t.refusals.writing path bytes with
    | some (taken, fault) => (some ⟨"write", path, fault⟩, opened.put loc (bytes.take taken))
    | none =>
      ((t.refusals.closing path).map fun fault => ⟨"close", path, fault⟩, opened.put loc bytes)

/-- The files of a tree that are not the same in an earlier one. -/
def changesSince (t earlier : FileTree) : List (Location × Bytes) :=
  t.nodes.filterMap fun (place, node) =>
    match node with
    | .directory => none
    | .file bytes => if earlier.nodeAt place = some (.file bytes) then none else some (place, bytes)

end FileTree

end Nesting
