import Nesting.Config.Value

/-!
# Flags

A flag has a name, and some have a letter. It is given as `--name value` or `--name=value`, and by
its letter as `-c value`, `-cvalue` or `-c=value`. A switch is a flag of a truth value; it is on
when it is given, and takes a value only behind the sign of equality, so that several letters of
switches can stand behind one dash. Flags and other arguments mix. Two dashes alone end the flags,
and one dash alone is an argument.

Arguments are read from the left and the first one that is wrong ends it.
-/

namespace Nesting

/-- What a flag takes. -/
inductive FlagType where
  | switch
  | integer
  | text
  deriving DecidableEq

/-- A flag that a command knows. -/
structure Flag where
  name : String
  letter : Option Char := none
  type : FlagType := .switch
  /-- The value that holds when the flag is not given. -/
  default : Value := .truth false
  /-- What the flag is for. -/
  summary : String

/-- The value that a text stands for as the value of a flag. -/
def FlagType.read : FlagType → String → Except LiteralError Value
  | switch, s =>
    match readTruth s with
    | .ok b => .ok (.truth b)
    | .error e => .error e
  | integer, s =>
    match readInteger s with
    | .ok n => .ok (.integer n)
    | .error e => .error e
  | text, s => .ok (.text s)

/-- A flag with all of its names. -/
def Flag.names (f : Flag) : String :=
  match f.letter with
  | some c => "-" ++ c.toString ++ ", --" ++ f.name
  | none => "--" ++ f.name

/-- What can be wrong with a flag. -/
inductive FlagError where
  /-- Dashes without a name. -/
  | malformed (argument : String)
  | unknown (name : String)
  | unknownLetter (letter : Char) (cluster : String)
  | missingValue (name : String)
  | missingLetterValue (letter : Char) (cluster : String)
  | invalid (names value : String) (error : LiteralError)
  deriving DecidableEq

/-- The wording of a flag's error. -/
def FlagError.message : FlagError → String
  | malformed argument => "bad flag syntax: " ++ argument
  | unknown name => "unknown flag: --" ++ name
  | unknownLetter letter cluster =>
    "unknown shorthand flag: " ++ quotedChar letter ++ " in -" ++ cluster
  | missingValue name => "flag needs an argument: --" ++ name
  | missingLetterValue letter cluster =>
    "flag needs an argument: " ++ quotedChar letter ++ " in -" ++ cluster
  | invalid names value error =>
    "invalid argument " ++ quoted value ++ " for " ++ quoted names ++ " flag: " ++ error.message

namespace Flag

/-! ## One argument -/

/-- A flag with the value that it is given. -/
abbrev Assignment := String × Value

/-- Gives a flag the value that a text stands for. -/
def assign (f : Flag) (value : String) : Except FlagError Assignment :=
  match f.type.read value with
  | .ok v => .ok (f.name, v)
  | .error e => .error (.invalid f.names value e)

/-- What flags an argument gives, and whether it uses up the argument behind it. -/
structure Reading where
  given : List Assignment
  usesNext : Bool := false

/-- The reading of one flag. -/
def reading (usesNext : Bool) : Except FlagError Assignment → Except FlagError Reading
  | .ok a => .ok ⟨[a], usesNext⟩
  | .error e => .error e

/-- Reads an argument that begins with two dashes. -/
def readLong (flags : List Flag) (argument : String) (next? : Option String) :
    Except FlagError Reading :=
  let body := argument.toList.drop 2
  if body.head? = some '-' || body.head? = some '=' then .error (.malformed argument)
  else
    let name := String.ofList (body.takeWhile (· ≠ '='))
    match flags.find? fun f => f.name = name with
    | none => .error (.unknown name)
    | some f =>
      match body.dropWhile (· ≠ '=') with
      | _ :: value => reading false (f.assign (String.ofList value))
      | [] =>
        if f.type = .switch then reading false (f.assign "true")
        else
          match next? with
          | some value => reading true (f.assign value)
          | none => .error (.missingValue name)

/-- The first byte of a character, as a character. -/
def firstByte (c : Char) : Char :=
  match String.utf8EncodeChar c with
  | b :: _ => Char.ofNat b.toNat
  | [] => c

/-- Reads letters behind one dash. Letters are single bytes, and a message about an unknown one
shows no more of it. What begins with `test.` is meant for whoever runs tests, and says nothing. -/
def readCluster (flags : List Flag) (next? : Option String) : Text → Except FlagError Reading
  | [] => .ok ⟨[], false⟩
  | c :: rest =>
    let cluster := String.ofList (c :: rest)
    if cluster.startsWith "test." then .ok ⟨[], false⟩
    else
      match flags.find? fun f => f.letter = some c with
      | none => .error (.unknownLetter (firstByte c) cluster)
      | some f =>
        match rest with
        | '=' :: d :: value => reading false (f.assign (String.ofList (d :: value)))
        | _ =>
          if f.type = .switch then
            match f.assign "true", readCluster flags next? rest with
            | .ok a, .ok r => .ok { r with given := a :: r.given }
            | .error e, _ => .error e
            | _, .error e => .error e
          else if rest ≠ [] then reading false (f.assign (String.ofList rest))
          else
            match next? with
            | some value => reading true (f.assign value)
            | none => .error (.missingLetterValue c cluster)

/-! ## All arguments -/

/-- What kind of argument a text is. -/
inductive ArgumentKind where
  | positional
  | terminator
  | long
  | cluster
  deriving DecidableEq

/-- The kind of an argument. -/
def kindOf (argument : String) : ArgumentKind :=
  match argument.toList with
  | ['-', '-'] => .terminator
  | '-' :: '-' :: _ => .long
  | '-' :: _ :: _ => .cluster
  | _ => .positional

/-- Reads an argument that is a flag or a cluster of them. -/
def readOne (flags : List Flag) (argument : String) (next? : Option String) :
    Except FlagError Reading :=
  if kindOf argument = .long then readLong flags argument next?
  else readCluster flags next? (argument.toList.drop 1)

end Flag

/-- Arguments apart from flags. -/
structure Arguments where
  /-- The flags given, in order. -/
  given : List Flag.Assignment := []
  /-- What is left. -/
  positional : List String := []

namespace Arguments

/-- Puts what an argument gives in front of what the others give. -/
def add (given : List Flag.Assignment) : Except FlagError Arguments → Except FlagError Arguments
  | .ok a => .ok { a with given := given ++ a.given }
  | .error e => .error e

/-- Puts an argument in front of the others. -/
def addPositional (argument : String) : Except FlagError Arguments → Except FlagError Arguments
  | .ok a => .ok { a with positional := argument :: a.positional }
  | .error e => .error e

/-- Tells flags from other arguments. -/
def parse (flags : List Flag) : List String → Except FlagError Arguments
  | [] => .ok {}
  | argument :: rest =>
    match Flag.kindOf argument with
    | .positional => addPositional argument (parse flags rest)
    | .terminator => .ok { positional := rest }
    | _ =>
      match Flag.readOne flags argument rest.head? with
      | .error e => .error e
      | .ok ⟨given, false⟩ => add given (parse flags rest)
      | .ok ⟨given, true⟩ =>
        match rest with
        | [] => .ok { given }
        | _ :: rest => add given (parse flags rest)

/-- The value given to a flag; the last one counts. -/
def value? (a : Arguments) (name : String) : Option Value :=
  a.given.reverse.lookup name

/-- Whether a switch is on. -/
def isOn (a : Arguments) (name : String) (otherwise : Bool) : Bool :=
  match a.value? name with
  | some (.truth b) => b
  | _ => otherwise

/-- The text given to a flag. -/
def text (a : Arguments) (name : String) (otherwise : String) : String :=
  match a.value? name with
  | some (.text s) => s.shown
  | _ => otherwise

end Arguments

end Nesting
