import Nesting.Config.Key
import Nesting.Config.Value

/-!
# Where a setting comes from

Five sources may have a value for a key. They are asked in a fixed order, key by key, and the first
one that has a value decides; a null counts as no value, and so does an environment variable that is
set to nothing. What one source says about one key never bears on another key.

The environment is not asked for every key, but only for those that are registered. A key with a
default always is.

Assignments can name a place inside a table by a path of keys with dots between them; tables that
are not there are made on the way, and a value that stands in the way is replaced by one.
-/

namespace Nesting

/-! ## Assignments -/

namespace Table

/-- The table with a value at the end of a path of keys. -/
def insertAt (t : Table) (v : Value) : List String → Table
  | [] => t
  | [key] => t.insert key v
  | key :: rest =>
    let inner :=
      match t.find? key with
      | some (.table fields) => fields
      | _ => []
    t.insert key (.table (insertAt inner v rest))

/-- The keys that a path leads through. Their case does not matter. -/
def steps (path : String) : List String :=
  ((lowered path).toList.splitOn '.').map String.ofList

/-- The table after an assignment. -/
def assign (order : FieldOrder) (t : Table) (path : String) (v : Value) : Table :=
  t.insertAt (v.lowerOuterKeys order) (steps path)

/-- The table that assignments make, one after the other. -/
def ofAssignments (order : FieldOrder) (assignments : List (String × Value)) : Table :=
  assignments.foldl (fun t a => t.assign order a.1 a.2) []

end Table

/-! ## Sources -/

/-- A kind of source. -/
inductive Source where
  /-- Values assigned by the program. -/
  | assigned
  /-- Flags given on the command line. -/
  | flag
  /-- Environment variables. -/
  | environment
  /-- The configuration file. -/
  | file
  /-- Values for want of another. -/
  | default
  deriving DecidableEq

/-- The order in which sources are asked. -/
def Source.order : List Source :=
  [.assigned, .flag, .environment, .file, .default]

/-- What the sources hold. -/
structure Sources where
  assigned : Table := []
  flags : Key → Option Value := fun _ => none
  /-- The environment variables by name. -/
  environment : List (String × String) := []
  file : Table := []
  defaults : Key → Option Value := fun _ => none

namespace Sources

/-- The text of the variable of a key; one that is set to nothing does not count. -/
def variableText? (s : Sources) (k : Key) : Option String :=
  (s.environment.lookup k.environmentName).filter (· ≠ "")

/-- Whether a table holds something under a key that is not a table itself. -/
def registers (t : Table) (k : Key) : Bool :=
  match t.find? k.name with
  | none | some (.table _) => false
  | some _ => true

/-- Whether a key is registered: by a default, by a flag, or by something that is said under it.
What is said inside of it registers only what is inside. -/
def isRegistered (s : Sources) (k : Key) : Bool :=
  (s.defaults k).isSome || (s.flags k).isSome || registers s.assigned k || registers s.file k

/-- The value that a source has for a key. The environment is asked for registered keys only. -/
def offer (s : Sources) (k : Key) : Source → Option Value
  | .assigned => (s.assigned.find? k.name).bind Value.present?
  | .flag => s.flags k
  | .environment =>
    if s.isRegistered k then (s.variableText? k).map fun t => .text (RawText.ofString t) else none
  | .file => (s.file.find? k.name).bind Value.present?
  | .default => s.defaults k

/-- The value of the first source that has one. -/
def first? (s : Sources) (k : Key) : Option Value :=
  Source.order.findSome? (s.offer k)

/-- What is said inside of a key that is not registered itself. A table counts by the values in it,
and those of the file are hidden by the variable of the key. -/
def inside? (s : Sources) (k : Key) : Option Value :=
  ((s.offer k .assigned).bind Value.pruned).or
    (match s.variableText? k with
    | some _ => none
    | none => (s.offer k .file).bind Value.pruned)

/-- What is said under a name that differs from that of a key in the form of its letters only. -/
def variant? (s : Sources) (k : Key) : Option Value :=
  (s.assigned ++ s.file).findSome? fun (key, v) =>
    if k.isVariant key then v.pruned else none

/-- The value of a key. If nothing is said about it, another form of its name will do. -/
def value? (s : Sources) (k : Key) : Option Value :=
  (if s.isRegistered k then s.first? k else s.inside? k).or (s.variant? k)

end Sources

end Nesting
