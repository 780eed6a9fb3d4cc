/-!
# Texts

A text is the list of its characters. An offset into a text therefore counts characters, never
bytes, and a pass over a text is a recursion on a list. Names, messages and everything else that is
only printed stay `String`s.

Strings of bytes that are not well-formed UTF-8 are no texts, and nothing here is said of scanning
or sanitizing one as it stands. They do behave differently: where a comment is taken out between two
stray bytes, these can join to a character that was not there before. The bytes of a file become a
text by being decoded (`Encoding.decode`), which leaves no stray bytes.
-/

namespace Nesting

/-- A text, as the list of its characters. -/
abbrev Text := List Char

/-- The bytes of a file. -/
abbrev Bytes := List UInt8

end Nesting
