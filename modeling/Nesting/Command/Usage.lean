import Nesting.Command.Interface

/-!
# Help texts

The usage of a command lists how it is called, the commands below it and its flags. Flags are listed
by name, in two columns: names with the type of the value, and the summary with the value that holds
when the flag is not given, unless that is no, zero or no text. Usage is written piece by piece.
-/

namespace Nesting

namespace Flag

/-- The names of a flag and what it takes. -/
def heading (f : Flag) : String :=
  (match f.letter with
    | some c => "  -" ++ c.toString ++ ", --"
    | none => "      --")
    ++ f.name
    ++ match f.type with
      | .switch => ""
      | .integer => " int"
      | .text => " string"

/-- The value that holds when a flag is not given, as its summary shows it. -/
def shownDefault (f : Flag) : String :=
  match f.default with
  | .truth true => " (default true)"
  | .integer n => if n = 0 then "" else " (default " ++ toString n ++ ")"
  | .text s => if s = "" then "" else " (default " ++ s.quoted ++ ")"
  | _ => ""

/-- A text with blanks behind it up to the given width. -/
def padded (width : Nat) (s : String) : String :=
  s ++ String.ofList (List.replicate (width - s.length) ' ')

/-- The list of flags in two columns. -/
def table (flags : List Flag) : String :=
  let sorted := flags.mergeSort fun f g => f.name ≤ g.name
  let width := (sorted.map fun f => f.heading.length).foldl max 0
  "\n".intercalate (sorted.map fun f =>
    padded width f.heading ++ "   " ++ f.summary ++ f.shownDefault)

end Flag

namespace Command

/-- How a command is called. -/
def useLine (c : Command) : String :=
  c.path ++ c.operands ++ " [flags]"

/-- The commands below a command. -/
def below : Command → List Command
  | root => all
  | _ => []

/-- The width of the column of commands. -/
def nameWidth : Nat := 11

/-- The usage of a command in pieces, with the flags of its own that are given. -/
def usagePieces (c : Command) (own : List Flag) : List String :=
  let listing (title : String) (flags : List Flag) :=
    if flags.isEmpty then [] else ["\n\n" ++ title ++ ":\n", Flag.table flags]
  let inherited := if c = root then [] else commonFlags
  ["Usage:"]
    ++ (if c.isRunnable then ["\n  " ++ c.useLine] else [])
    ++ (if c.below.isEmpty then [] else ["\n  " ++ c.path ++ " [command]"])
    ++ (if c.below.isEmpty then []
      else "\n\nAvailable Commands:" :: c.below.map fun sub =>
        "\n  " ++ Flag.padded nameWidth sub.name ++ " " ++ sub.summary)
    ++ listing "Flags" own
    ++ listing "Global Flags" inherited
    ++ (if c.below.isEmpty then []
      else ["\n\nUse \"" ++ c.path ++ " [command] --help\" for more information about a command."])
    ++ ["\n"]

/-- The flags that stand under a command's own heading, the flag for help aside. -/
def localFlags (c : Command) : List Flag :=
  if c = root then commonFlags else c.ownFlags

/-- The usage of a command. -/
def usage (c : Command) : String :=
  String.join (c.usagePieces (c.helpFlag :: c.localFlags))

/-- The help of a command in pieces. -/
def helpPieces (c : Command) : List String :=
  [c.description ++ "\n", "\n", c.usage]

end Command

end Nesting
