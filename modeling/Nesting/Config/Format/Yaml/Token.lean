import Nesting.Config.Format.Yaml.Scalar
import Nesting.Config.Format.Yaml.Tag

/-!
# Tokens of YAML

The tokens of a text are its scalars, anchors and tags, its brackets and marks, and besides those
that say where a list or a table that is laid out by indentation begins and ends. A key shows only
by the colon behind it, so that the tokens in front of the colon have to wait: whatever may turn out
to be a key is a candidate until its line ends or 1024 characters have passed, and a candidate at
the indentation of a table has to turn out to be one.

Tokens are handed out one by one. Before one is, the two behind it are there as well, which shows in
texts that stop being YAML at that point.
-/

namespace Nesting.Yaml

/-- A token. -/
inductive Token where
  /-- The end of the text. -/
  | ended
  | directive (d : Directive)
  | documentStart
  | documentEnd
  /-- The beginning of a list that is laid out by indentation. -/
  | blockList
  /-- The beginning of a table that is laid out by indentation. -/
  | blockTable
  /-- The end of either. -/
  | blockEnd
  | openList
  | closeList
  | openTable
  | closeTable
  /-- The dash of an entry. -/
  | entry
  | comma
  /-- What is behind it is a key. -/
  | key
  /-- What is behind it is the value of a key. -/
  | value
  | alias (name : Text)
  | anchor (name : Text)
  | tag (t : WrittenTag)
  | scalar (text : Text) (isPlain : Bool)

/-- What may turn out to be a key. -/
structure Candidate where
  isPossible : Bool := false
  /-- Whether it is an error if it does not. -/
  isRequired : Bool := false
  /-- The number of its first token. -/
  number : Nat
  index : Nat
  line : Nat
  column : Nat

/-- A text that is read token by token. -/
structure Tokens where
  cursor : Cursor
  /-- The tokens that are not handed out yet. -/
  queue : List Token := []
  /-- How many tokens are handed out. -/
  taken : Nat := 0
  /-- How many brackets are open. -/
  depth : Nat := 0
  /-- The column of the innermost list or table that is laid out by indentation. -/
  indent : Int := -1
  /-- The columns of those around it. -/
  indents : List Int := []
  /-- Whether a key may begin at the next token. -/
  keyAllowed : Bool := true
  /-- The last candidate within each open bracket, the innermost first, and outside of them. -/
  candidates : List Candidate
  /-- Within how many brackets the candidate with a number is. -/
  levels : List (Nat × Nat) := []

namespace Tokens

/-- The tokens of a text. -/
def ofText (t : Text) : Tokens where
  cursor := Cursor.ofText t
  candidates := [{ number := 0, index := 0, line := 0, column := 0 }]

/-- Whether a bracket is open. -/
def inFlow (t : Tokens) : Bool :=
  0 < t.depth

/-- The number of the next token. -/
def nextNumber (t : Tokens) : Nat :=
  t.taken + t.queue.length

/-- The place of the next token, which is no candidate yet. -/
def candidateHere (t : Tokens) : Candidate where
  number := t.nextNumber
  index := t.cursor.index
  line := t.cursor.line
  column := t.cursor.column

end Tokens

/-- A step in reading tokens, which may fail. -/
abbrev Lexing := StateT Tokens Option

namespace Lexing

/-- How deep brackets and indentation may go. -/
def depthLimit : Nat := 10000

/-- Reads characters. -/
def scan {α : Type} (s : Scan α) : Lexing α := fun t =>
  (s.run t.cursor).map fun (a, cursor) => (a, { t with cursor })

/-- Adds a token. -/
def append (token : Token) : Lexing Unit :=
  modify fun t => { t with queue := t.queue ++ [token] }

/-- Adds a token in front of the one with the given number. -/
def insertAt (number : Nat) (token : Token) : Lexing Unit :=
  modify fun t =>
    let n := number - t.taken
    { t with queue := t.queue.take n ++ token :: t.queue.drop n }

/-- Says whether a key may begin at the next token. -/
def allowKey (keyAllowed : Bool) : Lexing Unit :=
  modify fun t => { t with keyAllowed }

/-! ## Candidates -/

/-- Whether what may be a key within so many brackets still may be one. -/
def isStillPossible (level : Nat) : Lexing Bool := do
  let t ← get
  let i := t.depth - level
  match t.candidates[i]? with
  | none => pure false
  | some k =>
    if !k.isPossible || t.depth < level then pure false
    else if k.line < t.cursor.line || k.index + 1024 < t.cursor.index then
      guard (!k.isRequired)
      set { t with candidates := t.candidates.set i { k with isPossible := false } }
      pure false
    else pure true

/-- Gives up the innermost candidate. -/
def dropCandidate : Lexing Unit := do
  let t ← get
  match t.candidates with
  | k :: rest =>
    if k.isPossible then
      guard (!k.isRequired)
      set { t with
        candidates := { k with isPossible := false } :: rest,
        levels := t.levels.filter (·.1 ≠ k.number) }
  | [] => pure ()

/-- Makes a candidate of the next token, if a key may begin there. -/
def saveCandidate : Lexing Unit := do
  if (← get).keyAllowed then
    dropCandidate
    modify fun t =>
      let here := t.candidateHere
      let isRequired := !t.inFlow && t.indent = (t.cursor.column : Int)
      { t with
        candidates := { here with isPossible := true, isRequired } :: t.candidates.drop 1,
        levels := (here.number, t.depth) :: t.levels }

/-! ## Brackets and indentation -/

/-- Enters a bracket. -/
def enter : Lexing Unit := do
  modify fun t => { t with depth := t.depth + 1, candidates := t.candidateHere :: t.candidates }
  guard ((← get).depth ≤ depthLimit)

/-- Leaves a bracket, if one is open. -/
def leave : Lexing Unit := do
  let t ← get
  if t.inFlow then
    match t.candidates with
    | k :: rest =>
      set { t with
        depth := t.depth - 1,
        candidates := rest,
        levels := t.levels.filter (·.1 ≠ k.number) }
    | [] => pure ()

/-- Begins a list or a table in a column, unless one has begun there or further to the right. Its
token goes in front of the one with the given number. -/
def indentTo (column number : Nat) (token : Token) : Lexing Unit := do
  let t ← get
  if !t.inFlow && t.indent < (column : Int) then
    set { t with indent := column, indents := t.indent :: t.indents }
    guard (t.indents.length < depthLimit)
    insertAt number token

/-- Ends the lists and tables to the right of a column. -/
def unindentTo (column : Int) : Lexing Unit := do
  let t ← get
  unless t.inFlow do
    let levels := t.indent :: t.indents
    let ended := levels.takeWhile (column < ·)
    let kept := levels.drop ended.length
    set { t with
      queue := t.queue ++ List.replicate ended.length Token.blockEnd,
      indent := kept.headD (-1),
      indents := kept.drop 1 }

/-! ## Between tokens -/

/-- How far ahead a comment is looked for. -/
def commentReach : Nat := 512

/-- Goes over a comment and the comments on the lines behind it. -/
def comments : Scan Unit :=
  Scan.loop
    (fun _ => do
      let _ ← Scan.takeWhile (!isBreak ·)
      match (← get).rest with
      | b :: behind =>
        let isPlainBreak (c : Char) : Bool := c = '\n' || c = '\r'
        let blank := behind.takeWhile fun c => isGap c || isPlainBreak c
        let follows := (behind.drop blank.length).head? = some '#'
        if isPlainBreak b && follows && blank.length + 1 < commentReach then
          let _ ← gap 0
          pure (.inl ())
        else pure (.inr ())
      | [] => pure (.inr ()))
    ()

/-- Goes to the next token; whether a key may begin there. Tabs are white space where no key may
begin. If the text begins with a byte order mark, the first character of each line is passed
over. -/
def skipToToken (inFlow keyAllowed : Bool) : Scan Bool :=
  Scan.loop
    (fun keyAllowed => do
      let here ← get
      if here.isMarked && here.column = 0 then Scan.skip 1
      let _ ← Scan.takeWhile fun c => c = ' ' || ((inFlow || !keyAllowed) && c = '\t')
      if (← Scan.peek) = some '#' then comments
      if ((← Scan.peek).map isBreak).getD false then
        let _ ← Scan.takeBreak
        pure (.inl (keyAllowed || !inFlow))
      else pure (.inr keyAllowed))
    keyAllowed

/-- Goes over a comment behind a token in its line. -/
def lineComment : Scan Unit := do
  let here ← get
  let blank := here.rest.takeWhile isGap
  if here.lineEnds = 0 && blank.length < commentReach && here.ahead? blank.length = some '#' then
    let _ ← Scan.takeWhile (!isBreak ·)

/-! ## Single tokens -/

/-- The end of the text, which also ends its line. -/
def readEnd : Lexing Unit := do
  modify fun t =>
    if t.cursor.column = 0 then t
    else { t with cursor := { t.cursor with column := 0, line := t.cursor.line + 1 } }
  unindentTo (-1)
  dropCandidate
  allowKey false
  append .ended

/-- A directive. -/
def readDirective : Lexing Unit := do
  unindentTo (-1)
  dropCandidate
  allowKey false
  let d ← scan directive
  append (.directive d)

/-- The mark of a document's beginning or end. -/
def readMark (token : Token) : Lexing Unit := do
  unindentTo (-1)
  dropCandidate
  allowKey false
  scan (Scan.skip 3)
  append token

/-- A bracket that opens. -/
def readOpening (token : Token) : Lexing Unit := do
  saveCandidate
  enter
  allowKey true
  scan (Scan.skip 1)
  append token

/-- A bracket that closes. -/
def readClosing (token : Token) : Lexing Unit := do
  dropCandidate
  leave
  allowKey false
  scan (Scan.skip 1)
  append token

/-- A comma between brackets. -/
def readComma : Lexing Unit := do
  dropCandidate
  allowKey true
  scan (Scan.skip 1)
  append .comma

/-- Begins a list or a table in the column of the next token, if one may begin there. -/
def indentHere (token : Token) : Lexing Unit := do
  let t ← get
  unless t.inFlow do
    guard t.keyAllowed
    indentTo t.cursor.column t.nextNumber token

/-- The dash of an entry. -/
def readEntry : Lexing Unit := do
  indentHere .blockList
  dropCandidate
  allowKey true
  scan (Scan.skip 1)
  append .entry

/-- The question mark of a key. -/
def readKey : Lexing Unit := do
  indentHere .blockTable
  dropCandidate
  allowKey (!(← get).inFlow)
  scan (Scan.skip 1)
  append .key

/-- The colon of a value. If there is a candidate for its key, that is its key. -/
def readValue : Lexing Unit := do
  let t ← get
  if ← isStillPossible t.depth then
    match t.candidates with
    | k :: rest => do
      insertAt k.number .key
      indentTo k.column k.number .blockTable
      modify fun t =>
        { t with
          candidates := { k with isPossible := false } :: rest,
          levels := t.levels.filter (·.1 ≠ k.number) }
    | [] => pure ()
    allowKey false
  else
    indentHere .blockTable
    allowKey (!t.inFlow)
  scan (Scan.skip 1)
  append .value

/-- A token that may begin a key but does not allow another one behind it. -/
def readSimple (token : Scan Token) : Lexing Unit := do
  saveCandidate
  allowKey false
  let token ← scan token
  append token

/-- A block. -/
def readBlock (isFolded : Bool) : Lexing Unit := do
  dropCandidate
  allowKey true
  let text ← scan (blockScalar isFolded (← get).indent)
  append (.scalar text false)

/-- A plain scalar. A key may begin behind it if its line has ended. -/
def readPlain : Lexing Unit := do
  saveCandidate
  allowKey false
  let t ← get
  let (text, hasEnded) ← scan (plainScalar t.inFlow (t.indent + 1))
  if hasEnded then allowKey true
  append (.scalar text true)

/-- The token that begins with the given character. -/
def readContent (c : Char) : Lexing Unit := do
  let t ← get
  let behind := t.cursor.ahead? 1
  let stands := t.inFlow || isGapOrEnd behind
  match c with
  | '[' => readOpening .openList
  | '\x7b' => readOpening .openTable
  | ']' => readClosing .closeList
  | '\x7d' => readClosing .closeTable
  | ',' => readComma
  | '*' => readSimple (.alias <$> anchorName)
  | '&' => readSimple (.anchor <$> anchorName)
  | '!' => readSimple (.tag <$> writtenTag)
  | '\'' => readSimple ((.scalar · false) <$> quotedScalar '\'')
  | '"' => readSimple ((.scalar · false) <$> quotedScalar '"')
  | _ =>
    if c = '-' && isGapOrEnd behind then readEntry
    else if c = '?' && stands then readKey
    else if c = ':' && stands then readValue
    else if c = '|' && !t.inFlow then readBlock false
    else if c = '>' && !t.inFlow then readBlock true
    else if beginsPlain t.inFlow t.cursor then readPlain
    else failure

/-- Reads the next token and those that go with it. -/
def readNext : Lexing Unit := do
  let t ← get
  allowKey (← scan (skipToToken t.inFlow t.keyAllowed))
  unindentTo (← get).cursor.column
  modify fun t =>
    if t.cursor.left < 4 then { t with cursor := { t.cursor with isMarked := false } } else t
  let here := (← get).cursor
  match here.head? with
  | none => readEnd
  | some c =>
    if here.column = 0 && c = '%' then readDirective
    else if here.isAtMark then readMark (if c = '-' then .documentStart else .documentEnd)
    else
      readContent c
      match (← get).queue.getLast? with
      | some .entry => pure ()
      | _ => scan lineComment

/-! ## Handing out tokens -/

/-- Reads tokens until the first one can be handed out, in at most so many steps: until it has two
tokens behind it and is no candidate any more. -/
def fill : Nat → Lexing Unit
  | 0 => failure
  | steps + 1 => do
    let t ← get
    if t.queue.length < 3 then
      readNext
      fill steps
    else
      match t.levels.lookup t.taken with
      | none => pure ()
      | some level =>
        if ← isStillPossible level then
          readNext
          fill steps

/-- The next token, which stays the next one. -/
def peek : Lexing Token := do
  fill ((← get).cursor.left + 8)
  match (← get).queue with
  | token :: _ => pure token
  | [] => failure

/-- Hands out the next token. -/
def skip : Lexing Unit :=
  modify fun t => { t with queue := t.queue.drop 1, taken := t.taken + 1 }

end Lexing

end Nesting.Yaml
