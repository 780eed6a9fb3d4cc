import Nesting.Config.Format.Yaml.Content
import Nesting.Encoding.Utf16

/-!
# Configurations in YAML

The file is a table, or nothing; of several documents the first one counts. It is in UTF-8, or in
UTF-16 with a byte order mark, and holds no controls but tabs and ends of lines.
-/

namespace Nesting.Yaml

/-- Whether a character may stand in a file. -/
def isAllowed (c : Char) : Bool :=
  let n := c.toNat
  n = 0x09 || n = 0x0a || n = 0x0d || (0x20 ≤ n && n ≤ 0x7e) || n = 0x85
    || (0xa0 ≤ n && n ≤ 0xfffd) || 0x10000 ≤ n

/-- The text of a file. A byte order mark says what it is encoded in. -/
def decoded? : Bytes → Option Text
  | 0xff :: 0xfe :: rest => Utf16.decode? .little rest
  | 0xfe :: 0xff :: rest => Utf16.decode? .big rest
  | 0xef :: 0xbb :: 0xbf :: rest => Utf8.decode? rest
  | bytes => Utf8.decode? bytes

/-- The configuration that a file holds. The number of steps is bounded by the number of characters:
each of them makes at most a token of its own, the beginnings and ends of a list or table, and a
key. No more aliases are within one another than there are characters, or one is within itself. -/
def document (bytes : Bytes) : Option Table := do
  let t ← decoded? bytes
  guard (t.all isAllowed)
  let (root, s) ← (Composing.firstDocument (16 * (t.length + 4))).run { tokens := Tokens.ofText t }
  match root with
  | none => pure []
  | some node => do
    let (table, _) ← (rootFields { anchored := s.complete } t.length node).run { nodes := 1 }
    pure table

end Nesting.Yaml
