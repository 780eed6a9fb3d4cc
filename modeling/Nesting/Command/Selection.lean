import Nesting.Command.Interface
import Nesting.Encoding.Utf8
import Nesting.Text.LowerCase

/-!
# Which command arguments name

The first argument that is neither a flag nor the value of one names the command. Before the command
is known only the flags of the program are, so a flag that is none of them is taken to have a value
unless it comes with one; near the end of the arguments such a flag ends the search.

A name that is none may be meant for one: a command is suggested if its name begins with it, or if
two changes of a byte turn one into the other, in either case regardless of case.
-/

namespace Nesting.Command

/-! ## Arguments around flags -/

/-- Whether an argument is a flag that the argument behind it may belong to. -/
def mayTakeNext (flags : List Flag) (argument : String) : Bool :=
  let isSwitch (p : Flag → Bool) := flags.any fun f => p f && f.type = .switch
  match argument.toList with
  | '-' :: '-' :: name =>
    !name.contains '=' && !isSwitch fun f => f.name = String.ofList name
  | ['-', c] => c ≠ '=' && c.toNat < 0x80 && !isSwitch fun f => f.letter = some c
  | _ => false

/-- The arguments that are no flags nor, as far as can be told, values of flags. -/
def words (flags : List Flag) : List String → List String
  | [] => []
  | argument :: rest =>
    if argument = "--" then []
    else if mayTakeNext flags argument then
      match rest with
      | _ :: second :: rest => words flags (second :: rest)
      | _ => []
    else if argument = "" || argument.startsWith "-" then words flags rest
    else argument :: words flags rest

/-- The arguments without the first one that is the given word. -/
def dropWord (flags : List Flag) (word : String) : List String → List String
  | [] => []
  | argument :: rest =>
    if argument = "--" then argument :: rest
    else if mayTakeNext flags argument then
      match rest with
      | value :: rest => argument :: value :: dropWord flags word rest
      | [] => [argument]
    else if argument = word then rest
    else argument :: dropWord flags word rest

/-! ## Suggestions -/

/-- A row of the table of distances between the fronts of two texts: the distances of one front
longer by `a`, from those of the shorter one. The first number is the distance left of the row. -/
def distanceRow (a : UInt8) : Nat → Bytes → List Nat → List Nat
  | left, b :: bs, diagonal :: above :: more =>
    let here := min (diagonal + if a = b then 0 else 1) (min above left + 1)
    here :: distanceRow a here bs (above :: more)
  | _, _, _ => []

/-- The least number of changes of a byte, insertions and deletions between two texts. -/
def distance (s t : Bytes) : Nat :=
  let rows := s.foldl
    (fun row a =>
      let left := row.headD 0 + 1
      left :: distanceRow a left t row)
    (List.range (t.length + 1))
  rows.getLastD 0

/-- The commands that a name may be meant for. -/
def suggestions (typed : String) : List String :=
  let typed := lowered typed
  ([check, sanitize, version, completion].map name).filter fun s =>
    s.startsWith typed || distance (Utf8.encode typed.toList) (Utf8.encode s.toList) ≤ 2

/-! ## Selection -/

/-- What arguments select. -/
inductive Selected where
  /-- A command, and its arguments. -/
  | command (c : Command) (arguments : List String)
  /-- A name that is no command's. -/
  | unknown (typed : String)

/-- Selects a command. -/
def select (arguments : List String) : Selected :=
  match words commonFlags arguments with
  | [] => .command root arguments
  | word :: _ =>
    match ofName? word with
    | some c => .command c (dropWord commonFlags word arguments)
    | none => .unknown word

end Nesting.Command
