import Nesting.Config.Format.Yaml.Cursor
import Nesting.Number.Literal

/-!
# Tags, anchors and directives of YAML

A tag says what a node is meant to be. It is written in full, or as a handle and a rest, and what a
handle stands for can be declared in front of a document. An anchor names a node, so that an alias
can stand for it further on. The tags of the standard types have a short form that begins with two
exclamation marks; a tag of any other type does not bear on the value of a node.
-/

namespace Nesting.Yaml

open Scan

/-! ## Tags -/

/-- The type that a tag stands for. -/
inductive Tag where
  | null
  | truth
  | integer
  | float
  | text
  | moment
  | binary
  | merge
  /-- A type that is not of the standard. -/
  | other
  deriving DecidableEq

namespace Tag

/-- What the tags of the standard types begin with. -/
def standard : Text := "tag:yaml.org,2002:".toList

/-- The type with the given name behind the standard beginning of its tag. -/
def ofName (name : Text) : Tag :=
  match String.ofList name with
  | "null" => null
  | "bool" => truth
  | "int" => integer
  | "float" => float
  | "str" => text
  | "timestamp" => moment
  | "binary" => binary
  | "merge" => merge
  | _ => other

/-- The type that a complete tag stands for. -/
def ofText (t : Text) : Tag :=
  if t.take standard.length = standard then ofName (t.drop standard.length)
  else if t.take 2 = "!!".toList then ofName (t.drop 2)
  else other

end Tag

/-- A tag as it is written: its handle, which may be empty, and the rest. -/
structure WrittenTag where
  handle : Text
  rest : Text

/-- What a handle of tags stands for. -/
structure TagHandle where
  handle : Text
  meaning : Text

/-- The handles that need not be declared. -/
def defaultHandles : List TagHandle :=
  [⟨"!".toList, "!".toList⟩, ⟨"!!".toList, Tag.standard⟩]

/-- The complete tag that is written with the given handles. -/
def WrittenTag.complete? (handles : List TagHandle) (t : WrittenTag) : Option Text :=
  if t.handle = [] then some t.rest
  else (handles.find? (·.handle = t.handle)).map fun h => h.meaning ++ t.rest

/-! ## How tags are written -/

/-- A character that stands for itself in a tag. -/
def isTagChar (c : Char) : Bool :=
  isWordChar c || ";/?:@&=+$,.!~*'()[]".toList.contains c

/-- The byte that a percent sign and two hexadecimal digits stand for. -/
def escapedByte : Scan Nat := do
  char '%'
  match (← get).rest with
  | a :: b :: _ =>
    match Literal.digit? 16 a, Literal.digit? 16 b with
    | some high, some low => do
      skip 2
      pure (high * 16 + low)
    | _, _ => failure
  | _ => failure

/-- A byte that continues a character. -/
def continuationByte : Scan Unit := do
  let b ← escapedByte
  guard (0x80 ≤ b && b < 0xc0)

/-- The character that escaped bytes stand for. One outside of ASCII is in no tag with a meaning, so
that `U+FFFD` will do for it. -/
def escapedTagChar : Scan Char := do
  let b ← escapedByte
  if b < 0x80 then pure (Char.ofNat b)
  else
    guard (0xc0 ≤ b && b < 0xf8)
    continuationByte
    if 0xe0 ≤ b then continuationByte
    if 0xf0 ≤ b then continuationByte
    pure '\ufffd'

/-- Characters of a tag. -/
def tagText : Scan Text :=
  loop
    (fun taken => do
      match ← peek with
      | some '%' => do pure (.inl (taken ++ [← escapedTagChar]))
      | some c =>
        if isTagChar c then
          skip 1
          pure (.inl (taken ++ [c]))
        else pure (.inr taken)
      | none => pure (.inr taken))
    []

/-- A handle of tags, or the beginning of a tag that looks like one: an exclamation mark, a name,
and an exclamation mark again. -/
def tagHandle : Scan Text := do
  char '!'
  let name ← takeWhile isWordChar
  if (← peek) = some '!' then
    skip 1
    pure ('!' :: name ++ ['!'])
  else pure ('!' :: name)

/-- A tag with a handle or without one. A single exclamation mark is a tag by itself. -/
def handledTag : Scan WrittenTag := do
  let handle ← tagHandle
  if 1 < handle.length && handle.getLast? = some '!' then
    let rest ← tagText
    guard (rest ≠ [])
    pure ⟨handle, rest⟩
  else
    let rest := handle.drop 1 ++ (← tagText)
    pure (if rest = [] then ⟨[], "!".toList⟩ else ⟨"!".toList, rest⟩)

/-- A tag between angle brackets. -/
def fullTag : Scan WrittenTag := do
  skip 2
  let rest ← tagText
  guard (rest ≠ [])
  char '>'
  pure ⟨[], rest⟩

/-- A tag. -/
def writtenTag : Scan WrittenTag := do
  let t ← if (← get).ahead? 1 = some '<' then fullTag else handledTag
  guard (isGapOrEnd (← peek))
  pure t

/-! ## Anchors -/

/-- The name of an anchor or of an alias, behind the character that introduces it. -/
def anchorName : Scan Text := do
  skip 1
  let name ← takeWhile isWordChar
  guard (name ≠ [])
  let isEnd : Option Char → Bool := fun c =>
    isGapOrEnd c || (c.map fun c => "?:,]\x7d%@".toList.contains c || c.toNat = 0x60).getD false
  guard (isEnd (← peek))
  pure name

/-! ## Directives -/

/-- A line in front of a document that says how to read it. -/
inductive Directive where
  | version (major minor : Nat)
  | tag (handle : TagHandle)

/-- A number of a version. -/
def versionNumber : Scan Nat := do
  let digits ← takeWhile Char.isDigit
  guard (digits ≠ [] && digits.length ≤ 2)
  pure (digits.foldl (fun n c => n * 10 + (c.toNat - '0'.toNat)) 0)

/-- The version of the language. -/
def versionDirective : Scan Directive := do
  skipGap
  let major ← versionNumber
  char '.'
  pure (.version major (← versionNumber))

/-- What a handle of tags stands for. -/
def tagDirective : Scan Directive := do
  skipGap
  let handle ← tagHandle
  guard (handle.length = 1 || handle.getLast? = some '!')
  guard (((← peek).map isGap).getD false)
  skipGap
  let meaning ← tagText
  guard (meaning ≠ [])
  guard (isGapOrEnd (← peek))
  pure (.tag ⟨handle, meaning⟩)

/-- A directive, from its percent sign to the end of its line. -/
def directive : Scan Directive := do
  char '%'
  let name ← takeWhile isWordChar
  guard (isGapOrEnd (← peek))
  let d ←
    match String.ofList name with
    | "YAML" => versionDirective
    | "TAG" => tagDirective
    | _ => failure
  endLine
  pure d

end Nesting.Yaml
