import Nesting.Calendar
import Nesting.Number.Binary64
import Nesting.Text.LowerCase

/-!
# Configuration values

What a configuration holds under a key, before it is known what the key means. An integer is one of
64 bits, with a sign or without one. A table keeps its keys in order and each of them once. Some
files have tables whose keys are not all texts; such a table becomes one with texts as keys as soon
as its keys are put into lower case.

Keys that differ only in their case become one key then. Which of their values it gets depends on
the order in which the fields of the table are gone through, and that order is nobody's choice: it
is a parameter (`FieldOrder`).

Values are shown in messages in two forms: the plain one, in which texts stand as they are, and the
literal one, in which texts are quoted and lists and tables name their type.
-/

namespace Nesting

/-- A configuration value. -/
inductive Value where
  | null
  | truth (b : Bool)
  | integer (n : Int)
  | float (x : Binary64)
  | text (r : RawText)
  | calendar (c : CalendarValue)
  | list (items : List Value)
  | table (fields : List (String × Value))
  /-- A table with keys of any kind. -/
  | mixed (fields : List (Value × Value))
  deriving Inhabited

/-- What a configuration source holds: values by key. -/
abbrev Table := List (String × Value)

namespace Table

/-- The value under a key. -/
def find? (t : Table) (key : String) : Option Value :=
  List.lookup key t

/-- The table with a value under a key, in place of what was there; a new key goes where the order
of keys puts it. -/
def insert (key : String) (v : Value) : Table → Table
  | [] => [(key, v)]
  | field :: rest =>
    if field.1 = key then (key, v) :: rest
    else if key < field.1 then (key, v) :: field :: rest
    else field :: insert key v rest

/-- The table of a list of fields; the last one of a key counts. -/
def ofFields (fields : List (String × Value)) : Table :=
  fields.foldl (fun t field => insert field.1 field.2 t) []

end Table

/-- An order in which the fields of tables are gone through. It may be any order, as long as no
field is left out or comes twice. -/
structure FieldOrder where
  arrange : Table → Table
  perm : ∀ t, (arrange t).Perm t

/-- Fields are gone through as they are listed. -/
def FieldOrder.listed : FieldOrder where
  arrange := id
  perm := fun t => .refl t

namespace Table

/-- The table of a list of fields with keys in lower case. Of keys that differ only in their case
the last one counts. -/
def ofAnyCase (order : FieldOrder) (fields : List (String × Value)) : Table :=
  ofFields ((order.arrange fields).map fun field => (lowered field.1, field.2))

/-- The table of a list of fields whose keys are put into lower case where they stand. Of keys that
differ only in their case the last one counts, but one that is in lower case already gives way. -/
def ofMixedCase (order : FieldOrder) (fields : List (String × Value)) : Table :=
  let (kept, changed) := (order.arrange fields).partition fun field => lowered field.1 = field.1
  ofFields (kept ++ changed.map fun field => (lowered field.1, field.2))

end Table

namespace Value

/-! ## Forms in messages -/

mutual

/-- The plain form of a value. -/
def plain : Value → String
  | null => "<nil>"
  | truth b => if b then "true" else "false"
  | integer n => toString n
  | float x => x.general
  | text r => r.shown
  | calendar c => c.plain
  | list items => "[" ++ " ".intercalate (plainItems items) ++ "]"
  | table fields => "map[" ++ " ".intercalate (plainFields fields) ++ "]"
  | mixed fields => "map[" ++ " ".intercalate (plainMixed fields) ++ "]"

/-- The plain forms of the items of a list. -/
def plainItems : List Value → List String
  | [] => []
  | v :: rest => v.plain :: plainItems rest

/-- The plain forms of the fields of a table. -/
def plainFields : List (String × Value) → List String
  | [] => []
  | (key, v) :: rest => (key ++ ":" ++ v.plain) :: plainFields rest

/-- The plain forms of the fields of a table with keys of any kind. -/
def plainMixed : List (Value × Value) → List String
  | [] => []
  | (key, v) :: rest => (key.plain ++ ":" ++ v.plain) :: plainMixed rest

end

/-- The name of the type of a list. -/
def listType : String := "[]interface \x7b\x7d"

/-- The name of the type of a table. -/
def tableType : String := "map[string]interface \x7b\x7d"

/-- The name of the type of a table with keys of any kind. -/
def mixedType : String := "map[interface \x7b\x7d]interface \x7b\x7d"

mutual

/-- The literal form of a value. An integer that needs the 64th bit is written in hexadecimal. -/
def literal : Value → String
  | null => "interface \x7b\x7d(nil)"
  | truth b => if b then "true" else "false"
  | integer n =>
    if n ≤ Word.greatest then toString n else "0x" ++ String.ofList (hexadecimal 0 n.toNat)
  | float x => x.general
  | text r => r.quoted
  | calendar c => c.literal
  | list items => listType ++ "\x7b" ++ ", ".intercalate (literalItems items) ++ "\x7d"
  | table fields => tableType ++ "\x7b" ++ ", ".intercalate (literalFields fields) ++ "\x7d"
  | mixed fields => mixedType ++ "\x7b" ++ ", ".intercalate (literalMixed fields) ++ "\x7d"

/-- The literal forms of the items of a list. -/
def literalItems : List Value → List String
  | [] => []
  | v :: rest => v.literal :: literalItems rest

/-- The literal forms of the fields of a table. -/
def literalFields : List (String × Value) → List String
  | [] => []
  | (key, v) :: rest => (quoted key ++ ":" ++ v.literal) :: literalFields rest

/-- The literal forms of the fields of a table with keys of any kind. -/
def literalMixed : List (Value × Value) → List String
  | [] => []
  | (key, v) :: rest => (key.literal ++ ":" ++ v.literal) :: literalMixed rest

end

/-! ## Keys of any kind -/

/-- A value as the key of a table. -/
def keyText : Value → String
  | truth b => if b then "true" else "false"
  | integer n => toString n
  | float x => x.positional
  | text r => r.shown
  | calendar c => c.plain
  | _ => ""

/-- Whether two values are the same key. -/
def isSameKey : Value → Value → Bool
  | null, null => true
  | truth a, truth b => a = b
  | integer a, integer b => a = b
  | float a, float b => a ≠ .nan && a.position = b.position
  | text a, text b => a = b
  | calendar a, calendar b => a = b
  | _, _ => false

/-- The order of kinds of keys. -/
def keyRank : Value → Nat
  | null => 0
  | truth _ => 1
  | float _ => 2
  | integer n => if n ≤ Word.greatest then 3 else 6
  | text _ => 4
  | _ => 5

/-- Whether a key comes before another one. -/
def keyBefore : Value → Value → Bool
  | truth a, truth b => !a && b
  | integer a, integer b => a < b
  | float a, float b => a.position < b.position
  | text a, text b => a.shown < b.shown
  | a, b => a.keyRank < b.keyRank

/-- The fields of a table with a value under a key of any kind, in place of what was there. -/
def insertMixed (key v : Value) : List (Value × Value) → List (Value × Value)
  | [] => [(key, v)]
  | field :: rest =>
    if field.1.isSameKey key then (key, v) :: rest
    else if key.keyBefore field.1 then (key, v) :: field :: rest
    else field :: insertMixed key v rest

/-! ## Case of keys -/

section Case

variable (order : FieldOrder)

mutual

/-- A value with the keys of its tables in lower case, but not within lists. -/
def lowerOuterKeys : Value → Value
  | table fields => table (Table.ofAnyCase order (lowerOuterFields fields))
  | mixed fields => table (Table.ofAnyCase order (lowerMixed fields))
  | v => v

/-- The fields of a table with values that have keys in lower case, but not within lists. -/
def lowerOuterFields : List (String × Value) → List (String × Value)
  | [] => []
  | (key, v) :: rest => (key, v.lowerOuterKeys) :: lowerOuterFields rest

/-- The fields of a table with keys of any kind, with texts as keys and with values that have keys
in lower case, but not within lists. -/
def lowerMixed : List (Value × Value) → List (String × Value)
  | [] => []
  | (key, v) :: rest => (key.keyText, v.lowerOuterKeys) :: lowerMixed rest

end

mutual

/-- A value with the keys of its tables in lower case, within lists as well. A table with keys of
any kind keeps its lists as they are. -/
def lowerKeys : Value → Value
  | list items => list (lowerItems items)
  | table fields => table (Table.ofMixedCase order (lowerFields fields))
  | mixed fields => table (Table.ofAnyCase order (lowerMixed order fields))
  | v => v

/-- The items of a list with keys in lower case. -/
def lowerItems : List Value → List Value
  | [] => []
  | v :: rest => v.lowerKeys :: lowerItems rest

/-- The fields of a table with values that have keys in lower case. -/
def lowerFields : List (String × Value) → List (String × Value)
  | [] => []
  | (key, v) :: rest => (key, v.lowerKeys) :: lowerFields rest

end

end Case

/-! ## Values that say something -/

/-- A value other than null. -/
def present? : Value → Option Value
  | null => none
  | v => some v

mutual

/-- A value without what says nothing: null, a field that holds it, a table with no other fields.
A key with a dot in it is a path and so no key of a table. -/
def pruned : Value → Option Value
  | null => none
  | table fields =>
    match prunedFields fields with
    | [] => none
    | kept => some (table kept)
  | v => some v

/-- The fields of a table that say something. -/
def prunedFields : List (String × Value) → List (String × Value)
  | [] => []
  | (key, v) :: rest =>
    match v.pruned with
    | some kept => if key.contains '.' then prunedFields rest else (key, kept) :: prunedFields rest
    | none => prunedFields rest

end

end Value

end Nesting
