import Nesting.Sanitizer.Comment
import Nesting.Sanitizer.Literal

/-!
# The sanitizer

Delimiters inside of comments and literals are not meant to nest. The sanitizer takes comments away
and empties literals before a text is scanned. It knows no grammar: it is five substitutions, one
after the other, first block comments, then line comments, then literals in single quotes, in double
quotes and in backticks. A comment marker inside a literal therefore counts as one, and a literal
that holds quotes of another kind may be cut where its author did not cut it.
-/

namespace Nesting

/-- Takes comments away and empties literals. -/
def sanitize (mode : LineMode) (t : Text) : Text :=
  emptyLiterals '`' (emptyLiterals '"' (emptyLiterals '\'' (stripLines (stripBlocks mode t))))

end Nesting
