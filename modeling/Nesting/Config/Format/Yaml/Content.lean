import Nesting.Config.Format.Yaml.Meaning

/-!
# What nodes of YAML hold

The value of a node is made of the values of its parts, and an alias has the value of the node that
it stands for; where that takes the alias itself, there is none. A table has a key only once. Where
`<<` is a key, the fields of another table go, or those of several; they never replace a field that
is there, and of several tables the first one that has a key counts.

With aliases a short text can hold a very large value, so the nodes that are evaluated are counted,
and too large a share of nodes within aliases is an error.
-/

namespace Nesting.Yaml

/-! ## Effort -/

/-- How many nodes have been evaluated. -/
structure Effort where
  nodes : Nat := 0
  /-- How many of them within aliases. -/
  aliased : Nat := 0

/-- Whether too large a share of nodes is within aliases: more than 99 of 100 up to 400000 nodes,
more than one of ten from 4000000 nodes on, and in between a bound that goes down evenly. -/
def Effort.isExcessive (e : Effort) : Bool :=
  let bound :=
    if e.nodes ≤ 400000 then 99 * 3600000
    else if 4000000 ≤ e.nodes then 10 * 3600000
    else 99 * 3600000 - 89 * (e.nodes - 400000)
  100 < e.aliased && 1000 < e.nodes && e.nodes * bound < e.aliased * 360000000

/-- A step in evaluating nodes, which may fail. -/
abbrev Evaluating := StateT Effort Option

/-- Where a node is evaluated. -/
structure Place where
  /-- The nodes with anchors, by number. -/
  anchored : List (Nat × Node)
  /-- Whether it is within an alias. -/
  isAliased : Bool := false

/-- The place within an alias. -/
def Place.within (p : Place) : Place := { p with isAliased := true }

/-- Counts a node. -/
def count (p : Place) : Evaluating Unit := do
  modify fun e =>
    { nodes := e.nodes + 1, aliased := e.aliased + if p.isAliased then 1 else 0 }
  guard (!(← get).isExcessive)

/-- The node that an alias stands for. -/
def Place.target (p : Place) (number : Nat) : Evaluating Node :=
  p.anchored.lookup number

/-! ## Keys -/

namespace Node

/-- The type of a scalar as a key; lists and tables are of no type that matters. -/
def scalarType : Node → Tag
  | .scalar s => s.type
  | _ => .other

/-- The type of a node as a key. -/
def type (anchored : List (Nat × Node)) : Node → Tag
  | .alias _ number => ((anchored.lookup number).map scalarType).getD .other
  | node => node.scalarType

/-- Whether a node as a key says that the fields of another table go here. -/
def isMerge : Node → Bool
  | .scalar s => s.isMerge
  | _ => false

/-- What must not be the same for two keys of a table: the kind of node and how it is written. -/
def spelling : Node → Nat × Text
  | .scalar s => (0, s.text)
  | .list _ => (1, [])
  | .table _ => (2, [])
  | .alias name _ => (3, name)

end Node

/-- Whether the keys of a table are texts throughout. -/
def haveTextKeys (p : Place) (fields : List (Node × Node)) : Bool :=
  fields.all fun (key, _) => key.type p.anchored = .text || key.type p.anchored = .merge

/-- Fails if two keys of a table are written alike. -/
def demandDistinct (fields : List (Node × Node)) : Evaluating Unit :=
  guard ((fields.map fun (key, _) => key.spelling).Nodup)

/-- A value that can be a key. -/
def asKey? : Value → Option Value
  | .list _ | .table _ | .mixed _ => none
  | v => some v

/-! ## Values -/

/-- The fields of a table as far as they are known. -/
structure Gathered where
  /-- The fields, the last one first. -/
  fields : List (Value × Value) := []
  /-- The keys that tables at `<<` cannot give another value, while such a table is read. -/
  taken : Option (List Value) := none

namespace Gathered

/-- Whether a key cannot be given another value. -/
def isTaken (g : Gathered) (key : Value) : Bool :=
  (g.taken.getD []).any (·.isSameKey key)

/-- Adds a field. -/
def add (g : Gathered) (key v : Value) : Gathered where
  fields := (key, v) :: g.fields
  taken := g.taken.map (key :: ·)

/-- The table with texts as keys. -/
def toTable (g : Gathered) : Table :=
  Table.ofFields (g.fields.reverse.map fun (key, v) => (key.keyText, v))

/-- The table with keys of any kind. -/
def toMixed (g : Gathered) : Value :=
  .mixed (g.fields.reverse.foldl (fun fields (key, v) => Value.insertMixed key v fields) [])

end Gathered

mutual

/-- The value of a node. Aliases may be within one another up to the given depth. -/
def valueOf (p : Place) (depth : Nat) : Node → Evaluating Value
  | .scalar s => do
    count p
    s.value?
  | .list items => do
    count p
    pure (.list (← valuesOf p depth items))
  | .table fields => do
    count p
    let asText := haveTextKeys p fields
    let g ← gather p depth asText fields {}
    pure (if asText then .table g.toTable else g.toMixed)
  | .alias _ number => do
    count p
    match depth with
    | 0 => failure
    | depth + 1 => do valueOf p.within depth (← p.target number)
termination_by node => (depth, sizeOf node, 0)

/-- The values of the items of a list. -/
def valuesOf (p : Place) (depth : Nat) : List Node → Evaluating (List Value)
  | [] => pure []
  | node :: rest => do
    let v ← valueOf p depth node
    pure (v :: (← valuesOf p depth rest))
termination_by items => (depth, sizeOf items, 0)

/-- The key that a node is, as it is written. Null is no key. -/
def textKey (p : Place) (depth : Nat) : Node → Evaluating (Option Value)
  | .scalar s => do
    count p
    let v ← s.value?
    match v, s.tag with
    | .null, _ => pure none
    | v, some .binary => pure (some v)
    | _, _ => pure (some (textValue s.text))
  | .alias _ number => do
    count p
    match depth with
    | 0 => failure
    | depth + 1 => do textKey p.within depth (← p.target number)
  | _ => failure
termination_by node => (depth, sizeOf node, 0)

/-- Adds the fields of a table to those that are there. -/
def gather (p : Place) (depth : Nat) (asText : Bool) (fields : List (Node × Node)) (g : Gathered) :
    Evaluating Gathered := do
  demandDistinct fields
  let g ← gatherOwn p depth asText fields g
  if fields.any fun (key, _) => key.isMerge then
    let taken ←
      match g.taken with
      | some taken => pure taken
      | none => keysOf p depth fields
    let merged ← gatherMerged p depth asText fields { g with taken := some taken }
    pure { merged with taken := g.taken.bind fun _ => merged.taken }
  else pure g
termination_by (depth, sizeOf fields, 2)

/-- Adds the fields of a table that stand in it by themselves. -/
def gatherOwn (p : Place) (depth : Nat) (asText : Bool) :
    List (Node × Node) → Gathered → Evaluating Gathered
  | [], g => pure g
  | (key, node) :: rest, g => do
    if key.isMerge then gatherOwn p depth asText rest g
    else
      let k ←
        if asText then textKey p depth key
        else do
          let v ← valueOf p depth key
          some <$> asKey? v
      match k with
      | none => gatherOwn p depth asText rest g
      | some k =>
        if g.isTaken k then gatherOwn p depth asText rest g
        else
          let v ← valueOf p depth node
          gatherOwn p depth asText rest (g.add k v)
termination_by fields => (depth, sizeOf fields, 1)

/-- The keys of a table. -/
def keysOf (p : Place) (depth : Nat) : List (Node × Node) → Evaluating (List Value)
  | [] => pure []
  | (key, _) :: rest => do
    let v ← valueOf p depth key
    pure (v :: (← keysOf p depth rest))
termination_by fields => (depth, sizeOf fields, 1)

/-- Adds the fields of the tables at `<<`. -/
def gatherMerged (p : Place) (depth : Nat) (asText : Bool) :
    List (Node × Node) → Gathered → Evaluating Gathered
  | [], g => pure g
  | (key, node) :: rest, g => do
    if key.isMerge then
      let g ←
        match node with
        | .list items => mergeItems p depth asText items g
        | node => mergeNode p depth asText node g
      gatherMerged p depth asText rest g
    else gatherMerged p depth asText rest g
termination_by fields => (depth, sizeOf fields, 1)

/-- Adds the fields of the tables of a list. -/
def mergeItems (p : Place) (depth : Nat) (asText : Bool) :
    List Node → Gathered → Evaluating Gathered
  | [], g => pure g
  | node :: rest, g => do
    let g ← mergeNode p depth asText node g
    mergeItems p depth asText rest g
termination_by items => (depth, sizeOf items, 0)

/-- Adds the fields of a table or of an alias for one. -/
def mergeNode (p : Place) (depth : Nat) (asText : Bool) : Node → Gathered → Evaluating Gathered
  | .table fields, g => do
    count p
    gather p depth asText fields g
  | .alias _ number, g => do
    count p
    match depth, ← p.target number with
    | depth + 1, .table fields => do
      count p.within
      gather p.within depth asText fields g
    | _, _ => failure
  | _, _ => failure
termination_by node => (depth, sizeOf node, 0)

end

/-- The fields of the outermost table. Nothing and null are a table without fields. -/
def rootFields (p : Place) (depth : Nat) : Node → Evaluating Table
  | .table fields => do
    count p
    let g ← gather p depth true fields {}
    pure g.toTable
  | .scalar s => do
    match ← s.value? with
    | .null => pure []
    | _ => failure
  | _ => failure

end Nesting.Yaml
