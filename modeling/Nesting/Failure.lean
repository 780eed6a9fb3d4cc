import Nesting.Entry
import Nesting.Text.Raw

/-!
# Failures

What can go wrong between the bytes of a file and the verdict of a scan. Each cause is a case of its
own and carries what its message needs; the wording stands in `Failure.message` alone. A failure
also has a code, a word that other programs can test for.
-/

namespace Nesting

/-- What the file system says about a path. -/
inductive FileFault where
  | notFound
  | notDirectory
  | isDirectory
  | permissionDenied
  /-- What a device says that fails, in its own words. -/
  | device (words : String)
  deriving DecidableEq

/-- The wording of a file fault. -/
def FileFault.message : FileFault → String
  | .notFound => "no such file or directory"
  | .notDirectory => "not a directory"
  | .isDirectory => "is a directory"
  | .permissionDenied => "permission denied"
  | .device words => words

/-- A file operation that failed, with the path as it was given. -/
structure FileError where
  operation : String
  path : String
  fault : FileFault
  deriving DecidableEq

/-- The wording of a file error. -/
def FileError.message (e : FileError) : String :=
  e.operation ++ " " ++ e.path ++ ": " ++ e.fault.message

/-- Why a source could not be checked, or was found wrong. -/
inductive Failure where
  /-- A message of another part of the program. -/
  | plain (text : String)
  /-- A file operation failed. -/
  | file (error : FileError)
  /-- The source file could not be read. -/
  | unreadable (operation path : String) (cause : Failure)
  /-- The text encoding is not known, or the bytes are not of it. -/
  | encoding (label : RawText) (cause : Failure)
  /-- A closer without an opener. -/
  | unmatched (name : String) (closer : Entry)
  /-- A closer of another pair than its opener. -/
  | mismatched (name : String) (opener closer : Entry)
  /-- A failure with words in front of it. -/
  | within (words : String) (cause : Failure)
  deriving DecidableEq

namespace Failure

/-- The wording of a failure. -/
def message : Failure → String
  | plain text => text
  | file error => error.message
  | unreadable operation path cause => operation ++ " " ++ path ++ ": " ++ cause.message
  | encoding label cause => "encoding " ++ label.quoted ++ ": " ++ cause.message
  | unmatched name closer =>
    name ++ ":" ++ closer.coordinates ++ ": unmatched closing " ++ quotedChar closer.glyph
  | mismatched name opener closer =>
    name ++ ":" ++ closer.coordinates ++ ": mismatched " ++ quotedChar opener.glyph
      ++ " opened at " ++ opener.coordinates ++ ", closed by " ++ quotedChar closer.glyph
  | within words cause => words ++ ": " ++ cause.message

/-- The failure behind a failure. -/
def cause? : Failure → Option Failure
  | unreadable _ _ cause | encoding _ cause | within _ cause => some cause
  | _ => none

/-- Whether a file that is not there is behind the failure. -/
def isNotFound : Failure → Bool
  | file error => error.fault = .notFound
  | unreadable _ _ cause | encoding _ cause | within _ cause => cause.isNotFound
  | _ => false

end Failure

/-- The word for a kind of failure. -/
inductive Code where
  | unreadable
  | encoding
  | unmatched
  | mismatched
  | unknown
  deriving DecidableEq

/-- How a code is written. -/
def Code.text : Code → String
  | .unreadable => "READ_FILE"
  | .encoding => "ENCODING"
  | .unmatched => "UNMATCHED"
  | .mismatched => "MISMATCHED"
  | .unknown => "UNKNOWN"

/-- The code of a failure. Only the failure itself counts, not what is behind it. -/
def Failure.code : Failure → Code
  | .unreadable .. => .unreadable
  | .encoding .. => .encoding
  | .unmatched .. => .unmatched
  | .mismatched .. => .mismatched
  | _ => .unknown

end Nesting
