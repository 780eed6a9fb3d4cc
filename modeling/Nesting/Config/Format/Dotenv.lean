import Nesting.Config.Value
import Nesting.Encoding.Utf16

/-!
# Configurations in lines of assignments

Each line assigns a text to a name, `NAME=VALUE` or `NAME: VALUE`, with or without the word `export`
in front. Empty lines and comments do not count. A value may stand in quotes and may then go over
several lines. In double quotes a backslash takes the meaning off the next character, but `n` and
`r` get one from it. Without quotes a value ends at a comment.

Except in single quotes, `$NAME` and `${NAME}` in a value stand for an environment variable
or, if there is none, for what the file has assigned to the name before. A backslash in front keeps
them as they are.

A file without a byte order mark is not decoded: a byte that is not UTF-8 is a character of its own
kind, and values keep it.
-/

namespace Nesting.Dotenv

open Utf8 (Piece)
open Utf8.Piece (char)

/-- A line, or a part of one. -/
abbrev Line := List Piece

/-- White space of ASCII. -/
def isSpace : Piece → Bool :=
  Piece.isCharWith fun c => c = ' ' || c = '\t' || c = '\n' || c = '\r' || c = '\x0c'

/-- Whether a character may stand in a name. -/
def isNameChar : Piece → Bool :=
  Piece.isCharWith fun c => c.isAlphanum || c = '_' || c = '.'

/-- Whether nothing but white space and a comment on one line is left. -/
def isTail (t : Line) : Bool :=
  match t.dropWhile isSpace with
  | [] => true
  | char '#' :: comment => !comment.contains (char '\n')
  | _ => false

/-- A line without the white space around it. -/
def trimmedLine (t : Line) : Line :=
  let blank := Piece.isCharWith isBlank
  ((t.dropWhile blank).reverse.dropWhile blank).reverse

/-! ## Values as they are written -/

/-- The longest front of a text that ends in the given quote and leaves a tail. -/
def frontTo? (quote : Piece) : Line → Option Line
  | [] => none
  | c :: rest =>
    match frontTo? quote rest with
    | some front => some (c :: front)
    | none => if c = quote && isTail rest then some [c] else none

/-- A value as it is written, quotes included. -/
def written? (t : Line) : Option Line :=
  let quotedFront :=
    match t with
    | char '\'' :: rest => (frontTo? (char '\'') rest).map (char '\'' :: ·)
    | char '"' :: rest => (frontTo? (char '"') rest).map (char '"' :: ·)
    | _ => none
  match quotedFront with
  | some front => some front
  | none =>
    let isPlain (c : Piece) := c ≠ char '#' && c ≠ char '\n'
    if isTail (t.dropWhile isPlain) then some (t.takeWhile isPlain) else none

/-! ## What values mean -/

/-- A text with a character in place of each backslash and letter. -/
def replaceEscape (letter : Char) (meaning : Char) : Line → Line
  | char '\\' :: char c :: rest =>
    if c = letter then char meaning :: replaceEscape letter meaning rest
    else char '\\' :: replaceEscape letter meaning (char c :: rest)
  | c :: rest => c :: replaceEscape letter meaning rest
  | [] => []

/-- A text without the backslash in front of any character but a dollar sign. -/
def unescape : Line → Line
  | char '\\' :: char '$' :: rest => char '\\' :: char '$' :: unescape rest
  | char '\\' :: c :: rest => c :: unescape rest
  | c :: rest => c :: unescape rest
  | [] => []

/-- Whether a character may stand in the name of a variable. -/
def isVariableChar : Piece → Bool :=
  Piece.isCharWith fun c => c.isUpper || c.isDigit || c = '_'

/-- The name of the variable that a dollar sign in front of a text calls for, which may be empty,
and how many characters spell it. The braces around it need not both be there. -/
def variableName (t : Line) : String × Nat :=
  let opening := if t.head? = some (char '\x7b') then 1 else 0
  let name := (t.drop opening).takeWhile isVariableChar
  let closing := if (t.drop (opening + name.length)).head? = some (char '\x7d') then 1 else 0
  (String.ofList (name.filterMap Piece.char?), opening + name.length + closing)

/-- A text with the values of its variables in place of them. -/
def expand (value : String → Line) : Line → Line
  | char '\\' :: char '$' :: rest => char '$' :: expand value rest
  | char '$' :: rest =>
    let (name, length) := variableName rest
    if name = "" then char '$' :: expand value rest
    else value name ++ expand value (rest.drop length)
  | c :: rest => c :: expand value rest
  | [] => []
termination_by t => t.length
decreasing_by all_goals (simp only [List.length_drop, List.length_cons]; omega)

/-- What a written value means. -/
def meaning (value : String → Line) (t : Line) : Line :=
  let isQuotedBy (quote : Piece) :=
    2 ≤ t.length && t.head? = some quote && t.getLast? = some quote
  let inner := (t.drop 1).dropLast
  if isQuotedBy (char '"') then
    expand value (unescape (replaceEscape 'r' '\r' (replaceEscape 'n' '\n' inner)))
  else if isQuotedBy (char '\'') then inner
  else expand value t

/-! ## Lines -/

/-- Where the value behind a name can begin. Behind a sign of equality that is the first character
that is not white space. Behind a colon each end of white space will do, the first one first. -/
def valueStarts (t : Line) : List Line :=
  match t.dropWhile isSpace, t with
  | char '=' :: rest, _ => [rest.dropWhile isSpace]
  | _, char ':' :: rest =>
    (List.range (rest.takeWhile isSpace).length).map fun i => rest.drop (i + 1)
  | _, _ => []

/-- The name and the value, as it is written, of an assignment. -/
def assignment? (t : Line) : Option (String × Line) :=
  let name := t.takeWhile isNameChar
  if name = [] then none
  else
    ((valueStarts (t.drop name.length)).findSome? written?).map fun v =>
      (String.ofList (name.filterMap Piece.char?), trimmedLine v)

/-- What is behind the word `export` and white space. -/
def behindExport? (t : Line) : Option Line :=
  let word : Line := "export".toList.map char
  let rest := t.drop word.length
  if t.take word.length = word && (rest.head?.map isSpace).getD false then
    some (rest.dropWhile isSpace)
  else none

/-- Reads a line that assigns something. -/
def line? (t : Line) : Option (String × Line) :=
  ((behindExport? t).bind assignment?).orElse fun _ => assignment? t

/-! ## Values on several lines -/

/-- The bytes of a text. -/
def bytesOf (t : Line) : Bytes :=
  t.flatMap Piece.bytes

/-- What is in front of the last quote of the given kind. -/
def beforeLast? (quote : Piece) (t : Line) : Option Line :=
  match t.reverse.dropWhile (· ≠ quote) with
  | [] => none
  | _ :: before => some before.reverse

/-- Whether the last quote of the given kind in a text stands there without a backslash. -/
def closes (quote : Piece) (t : Line) : Bool :=
  match beforeLast? quote t with
  | none => false
  | some before => before.getLast? ≠ some (char '\\')

/-- Whether a value that begins with the given quote is closed in its line. A quote does not close
it if a backslash is in front of it, and the backslash is looked for as far behind the first quote
as it would be without white space there. -/
def isClosed (quote : Piece) (v : Line) : Bool :=
  match beforeLast? quote (trimmedLine (v.drop 1)) with
  | none => false
  | some before => (bytesOf v)[(bytesOf before).length]? ≠ some '\\'.toUInt8

/-- The quote that a line leaves open. -/
def openQuote? (line : Line) : Option Piece :=
  let mark := if line.contains (char '=') then char '=' else char ':'
  match line.dropWhile (· ≠ mark) with
  | [] => none
  | _ :: behind =>
    let v := trimmedLine behind
    match v.head? with
    | none => none
    | some quote =>
      if (quote = char '"' || quote = char '\'') && line.head? ≠ some mark && !isClosed quote v then
        some quote
      else none

/-- What a line adds up to together with the quote that is open in front of it. -/
inductive Part where
  /-- Nothing. -/
  | nothing
  /-- A text whose quote is still open. -/
  | opened (quote : Piece) (t : Line)
  /-- A complete line. -/
  | complete (t : Line)

/-- Adds a line to what is open in front of it. -/
def part (isOpen : Option (Piece × Line)) (line : Line) : Part :=
  match isOpen with
  | some (quote, before) =>
    let joined := before ++ char '\n' :: line
    if closes quote line then .complete joined else .opened quote joined
  | none =>
    let t := trimmedLine line
    if t = [] || t.head? = some (char '#') then .nothing
    else
      match openQuote? t with
      | some quote => .opened quote t
      | none => .complete t

/-! ## Files -/

/-- The value that a variable has behind the given assignments, the last one first. -/
def valueOf (environment : List (String × String)) (done : List (String × Line)) (name : String) :
    Line :=
  match environment.lookup name with
  | some s => s.toList.map char
  | none => (done.lookup name).getD []

/-- The assignments of the given lines behind others, the last one first. A line that leaves a quote
open goes on to the line that closes it. -/
def assignments (environment : List (String × String)) (done : List (String × Line))
    (isOpen : Option (Piece × Line)) : List Line → Option (List (String × Line))
  | [] => if isOpen.isNone then some done else none
  | line :: rest =>
    match part isOpen line with
    | .nothing => assignments environment done none rest
    | .opened quote t => assignments environment done (some (quote, t)) rest
    | .complete t =>
      match line? t with
      | some (name, v) =>
        let v := meaning (valueOf environment done) v
        assignments environment ((name, v) :: done) none rest
      | none => none

/-- The text of a file. A byte order mark says what it is encoded in. -/
def decoded : Bytes → Line
  | 0xef :: 0xbb :: 0xbf :: rest => (Utf8.decodeBroken rest).map char
  | 0xff :: 0xfe :: rest => (Utf16.decode .little rest).map char
  | 0xfe :: 0xff :: rest => (Utf16.decode .big rest).map char
  | bytes => Utf8.pieces bytes

/-- Ends every line by a line feed. -/
def endLines : Line → Line
  | char '\r' :: char '\n' :: rest => char '\n' :: endLines rest
  | char '\r' :: rest => char '\n' :: endLines rest
  | c :: rest => c :: endLines rest
  | [] => []

/-- The number of bytes from which on a line is too long. -/
def lineLimit : Nat := 0x10000

/-- The configuration that a file holds. -/
def document (environment : List (String × String)) (bytes : Bytes) : Option Table :=
  let lines := (endLines (decoded bytes)).splitOn (char '\n')
  if lines.any fun line => lineLimit ≤ (bytesOf line).length then none
  else
    (assignments environment [] none lines).map fun done =>
      Table.ofFields (done.reverse.map fun (name, v) => (name, .text (RawText.ofPieces v)))

/-- The names of the variables that a file may call for. -/
def variableNames (bytes : Bytes) : List String :=
  (((decoded bytes).splitOn (char '$')).drop 1).map fun t => (variableName t).1

end Nesting.Dotenv
