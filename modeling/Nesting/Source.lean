import Nesting.Encoding
import Nesting.Files

/-!
# Sources

The way from a file to a text: the bytes are decoded, which may fail, bytes that are not UTF-8 are
dropped, and the three ways to end a line are made one. A carriage return with a line feed behind it
becomes a line feed, and then so does every carriage return that is left.
-/

namespace Nesting

/-- Takes the carriage return away from each carriage return and line feed. -/
def joinLineEnds : Text → Text
  | '\r' :: '\n' :: rest => '\n' :: joinLineEnds rest
  | c :: rest => c :: joinLineEnds rest
  | [] => []

/-- Ends every line by a line feed. -/
def foldLineEnds (t : Text) : Text :=
  (joinLineEnds t).map fun c => if c = '\r' then '\n' else c

/-- The text of a source in the encoding with the given label. Without a label it is UTF-8. -/
def decodeSource (decoders : Decoders) (label : RawText) (bytes : Bytes) : Except Failure Text :=
  if trimmed label.chars = [] then .ok (foldLineEnds (Utf8.decodeValid bytes))
  else
    match Encoding.ofLabel? label with
    | none => .error (.encoding label (.plain "htmlindex: invalid encoding name"))
    | some encoding =>
      match encoding.decode decoders bytes with
      | .error message => .error (.encoding label (.plain message))
      | .ok t => .ok (foldLineEnds t)

/-- The text of the source file that a path leads to. -/
def readSource (decoders : Decoders) (files : FileTree) (path : String) (label : RawText) :
    Except Failure Text :=
  match files.read path with
  | .error e => .error (.unreadable "read" path (.file e))
  | .ok bytes => decodeSource decoders label bytes

end Nesting
