import Nesting.Config.Format.Yaml.Token

/-!
# Nodes of YAML

A document is a tree of scalars, lists and tables. An alias is a node that stands for an earlier one
with an anchor, which it may also be within. A node that is missing, such as the value of a key with
nothing behind its colon, is the empty plain scalar.
-/

namespace Nesting.Yaml

/-- A scalar as it is written, with its lines joined. -/
structure Scalar where
  /-- The type that its tag says, if it has a tag. -/
  tag : Option Tag := none
  text : Text
  /-- Whether it stands without quotes and is no block. -/
  isPlain : Bool

/-- A node of a document. -/
inductive Node where
  | scalar (s : Scalar)
  | list (items : List Node)
  | table (fields : List (Node × Node))
  /-- An alias, with the number of the node that it stands for. -/
  | alias (name : Text) (number : Nat)
  deriving Inhabited

/-- The node that stands for nothing. -/
def Node.empty : Node := .scalar { text := [], isPlain := true }

/-- What is known while a document is read. -/
structure DocumentState where
  tokens : Tokens
  /-- The handles of tags, the later ones first. -/
  handles : List TagHandle := defaultHandles
  /-- The anchors with the numbers of their nodes, the last one first. -/
  anchors : List (Text × Nat) := []
  /-- The nodes with anchors that are complete, by number. -/
  complete : List (Nat × Node) := []

/-- A step in reading a document, which may fail. -/
abbrev Composing := StateT DocumentState Option

namespace Composing

/-- Reads tokens. -/
def lex {α : Type} (l : Lexing α) : Composing α := fun s =>
  (l.run s.tokens).map fun (a, tokens) => (a, { s with tokens })

/-- The next token. -/
def peek : Composing Token :=
  lex Lexing.peek

/-- Takes the next token. -/
def skip : Composing Unit :=
  lex Lexing.skip

/-- Takes the next token; the one behind it. -/
def skipAndPeek : Composing Token := do
  skip
  peek

/-! ## What stands in front of a node -/

/-- An anchor and a tag. -/
structure Properties where
  anchor : Option Text := none
  /-- The complete tag. -/
  tag : Option Text := none

/-- The complete tag that is written. -/
def completeTag (t : WrittenTag) : Composing Text := do
  match t.complete? (← get).handles with
  | some complete => pure complete
  | none => failure

/-- The properties in front of a node, in either order. -/
def properties : Composing Properties := do
  match ← peek with
  | .anchor name =>
    match ← skipAndPeek with
    | .tag t => do
      skip
      pure { anchor := some name, tag := some (← completeTag t) }
    | _ => pure { anchor := some name }
  | .tag t =>
    match ← skipAndPeek with
    | .anchor name => do
      skip
      pure { anchor := some name, tag := some (← completeTag t) }
    | _ => do pure { tag := some (← completeTag t) }
  | _ => pure {}

/-- The type that the tag in front of a node says. A single exclamation mark says none. -/
def Properties.type (p : Properties) : Option Tag :=
  match p.tag with
  | none => none
  | some t => if t = "!".toList then none else some (Tag.ofText t)

/-- Gives a node its anchor before it is read. -/
def openAnchor (p : Properties) : Composing Nat := do
  let number := (← get).anchors.length
  match p.anchor with
  | some name => modify fun s => { s with anchors := (name, number) :: s.anchors }
  | none => pure ()
  pure number

/-- Completes a node with an anchor. -/
def closeAnchor (p : Properties) (number : Nat) (node : Node) : Composing Node := do
  if p.anchor.isSome then modify fun s => { s with complete := (number, node) :: s.complete }
  pure node

/-- Reads a node with an anchor. -/
def anchored (p : Properties) (read : Composing Node) : Composing Node := do
  let number ← openAnchor p
  closeAnchor p number (← read)

/-- An alias. Of several anchors of a name the last one counts. -/
def aliasNode (name : Text) : Composing Node := do
  match (← get).anchors.lookup name with
  | some number => pure (.alias name number)
  | none => failure

/-! ## Nodes -/

/-- What is around a node. -/
inductive Around where
  /-- Brackets. -/
  | brackets
  /-- Indentation. -/
  | block
  /-- A field of a table that is laid out by indentation. A list may begin in its column. -/
  | field
  deriving DecidableEq

mutual

/-- A node, in at most so many steps around one another. -/
def node (around : Around) : Nat → Composing Node
  | 0 => failure
  | fuel + 1 => do
    match ← peek with
    | .alias name => do
      skip
      aliasNode name
    | _ => do
      let p ← properties
      match ← peek, around with
      | .entry, .field => anchored p (.list <$> flushItems fuel [])
      | .scalar text isPlain, _ => do
        skip
        anchored p (pure (.scalar { tag := p.type, text, isPlain }))
      | .openList, _ => do
        skip
        anchored p (.list <$> flowItems fuel true [])
      | .openTable, _ => do
        skip
        anchored p (.table <$> flowFields fuel true [])
      | .blockList, .block | .blockList, .field => do
        skip
        anchored p (.list <$> blockItems fuel [])
      | .blockTable, .block | .blockTable, .field => do
        skip
        anchored p (.table <$> blockFields fuel [])
      | _, _ => do
        guard (p.anchor.isSome || p.tag.isSome)
        anchored p (pure (.scalar { tag := p.type, text := [], isPlain := true }))

/-- The entries of a list, up to its end. -/
def blockItems : Nat → List Node → Composing (List Node)
  | 0, _ => failure
  | fuel + 1, items => do
    match ← peek with
    | .entry =>
      match ← skipAndPeek with
      | .entry | .blockEnd => blockItems fuel (.empty :: items)
      | _ => do blockItems fuel ((← node .block fuel) :: items)
    | .blockEnd => do
      skip
      pure items.reverse
    | _ => failure

/-- The entries of a list in the column of the key that it belongs to. -/
def flushItems : Nat → List Node → Composing (List Node)
  | 0, _ => failure
  | fuel + 1, items => do
    match ← peek with
    | .entry =>
      match ← skipAndPeek with
      | .entry | .key | .value | .blockEnd => flushItems fuel (.empty :: items)
      | _ => do flushItems fuel ((← node .block fuel) :: items)
    | _ => pure items.reverse

/-- The fields of a table, up to its end. -/
def blockFields : Nat → List (Node × Node) → Composing (List (Node × Node))
  | 0, _ => failure
  | fuel + 1, fields => do
    match ← peek with
    | .key => do
      let key ←
        match ← skipAndPeek with
        | .key | .value | .blockEnd => pure Node.empty
        | _ => node .field fuel
      let value ←
        match ← peek with
        | .value =>
          match ← skipAndPeek with
          | .key | .value | .blockEnd => pure Node.empty
          | _ => node .field fuel
        | _ => pure Node.empty
      blockFields fuel ((key, value) :: fields)
    | .blockEnd => do
      skip
      pure fields.reverse
    | _ => failure

/-- The items of a list between brackets, up to the closing one. In front of every item but the
first one is a comma, and one may be in front of the bracket. -/
def flowItems : Nat → Bool → List Node → Composing (List Node)
  | 0, _, _ => failure
  | fuel + 1, isFirst, items => do
    let token ← peek
    let token ←
      match token, isFirst with
      | .closeList, _ => pure token
      | _, true => pure token
      | .comma, false => skipAndPeek
      | _, false => failure
    match token with
    | .closeList => do
      skip
      pure items.reverse
    | .key => do
      skip
      let field ← flowPair fuel
      flowItems fuel false (.table [field] :: items)
    | _ => do flowItems fuel false ((← node .brackets fuel) :: items)

/-- A key and a value that are an item of a list between brackets. -/
def flowPair : Nat → Composing (Node × Node)
  | 0 => failure
  | fuel + 1 => do
    let key ←
      match ← peek with
      | .value | .comma | .closeList => do
        skip
        pure Node.empty
      | _ => node .brackets fuel
    let value ←
      match ← peek with
      | .value =>
        match ← skipAndPeek with
        | .comma | .closeList => pure Node.empty
        | _ => node .brackets fuel
      | _ => pure Node.empty
    pure (key, value)

/-- The fields of a table between brackets, up to the closing one. -/
def flowFields : Nat → Bool → List (Node × Node) → Composing (List (Node × Node))
  | 0, _, _ => failure
  | fuel + 1, isFirst, fields => do
    let token ← peek
    let token ←
      match token, isFirst with
      | .closeTable, _ => pure token
      | _, true => pure token
      | .comma, false => skipAndPeek
      | _, false => failure
    match token with
    | .closeTable => do
      skip
      pure fields.reverse
    | .key => do
      let key ←
        match ← skipAndPeek with
        | .value | .comma | .closeTable => pure Node.empty
        | _ => node .brackets fuel
      let value ←
        match ← peek with
        | .value =>
          match ← skipAndPeek with
          | .comma | .closeTable => pure Node.empty
          | _ => node .brackets fuel
        | _ => pure Node.empty
      flowFields fuel false ((key, value) :: fields)
    | _ => do flowFields fuel false ((← node .brackets fuel, .empty) :: fields)

end

/-! ## Documents -/

/-- The directives in front of a document. At most one gives the version, which has to be 1.1, and a
handle is declared once. -/
def directives : Nat → Bool → List TagHandle → Composing (List TagHandle)
  | 0, _, _ => failure
  | fuel + 1, hasVersion, handles => do
    match ← peek with
    | .directive (.version major minor) => do
      guard (!hasVersion && major = 1 && minor = 1)
      skip
      directives fuel true handles
    | .directive (.tag h) => do
      guard (!handles.any (·.handle = h.handle))
      skip
      directives fuel hasVersion (handles ++ [h])
    | _ => pure handles

/-- The content of a document behind its mark. -/
def content (fuel : Nat) : Composing Node := do
  match ← peek with
  | .directive _ | .documentStart | .documentEnd | .ended => pure .empty
  | _ => node .block fuel

/-- The first document of a text, if there is one. What is behind it is not read any further than
the token behind it and the two that come with that. -/
def firstDocument (fuel : Nat) : Composing (Option Node) := do
  match ← peek with
  | .ended => pure none
  | .directive _ | .documentStart => do
    let handles ← directives fuel false []
    modify fun s => { s with handles := handles ++ defaultHandles }
    match ← peek with
    | .documentStart => do
      skip
      let root ← content fuel
      let _ ← peek
      pure (some root)
    | _ => failure
  | _ => do
    let root ← node .block fuel
    let _ ← peek
    pure (some root)

end Composing

end Nesting.Yaml
