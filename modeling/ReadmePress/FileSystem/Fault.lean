import ReadmePress.Text.Quoted
import ReadmePress.Text.Utf8

/-!
Why a file operation fails. A refusal by the file system names the path that was asked for, as
it was written; a path that holds a NUL character is never asked for at all.
-/

namespace ReadmePress

open ReadmePress.Text

/-- Refusals of the file system. -/
inductive Refusal where
  | notFound
  | alreadyExists
  | notDirectory
  | isDirectory
  | nameTooLong
  | tooManyLinks
  deriving DecidableEq, Repr

namespace Refusal

/-- The number under which a refusal is reported. -/
def number : Refusal → Nat
  | .notFound => 2
  | .alreadyExists => 17
  | .notDirectory => 20
  | .isDirectory => 21
  | .nameTooLong => 36
  | .tooManyLinks => 40

def description : Refusal → String
  | .notFound => "No such file or directory"
  | .alreadyExists => "File exists"
  | .notDirectory => "Not a directory"
  | .isDirectory => "Is a directory"
  | .nameTooLong => "File name too long"
  | .tooManyLinks => "Too many levels of symbolic links"

/-- Refusals that only mean that there is nothing at the path. -/
def meansAbsent : Refusal → Bool
  | .notFound => true
  | .notDirectory => true
  | .tooManyLinks => true
  | _ => false

end Refusal

/-- Why a file operation fails. -/
inductive FileFault where
  | refused (refusal : Refusal) (path : String)
  | embeddedNull
  deriving DecidableEq, Repr

namespace FileFault

def message : FileFault → String
  | .refused refusal path =>
      "[Errno " ++ toString refusal.number ++ "] " ++ refusal.description ++ ": " ++ quoted path
  | .embeddedNull => "embedded null byte"

end FileFault

/-- What is wrong with a byte sequence. -/
def Text.Utf8Fault.message : Utf8Fault → String
  | .invalidStart => "invalid start byte"
  | .invalidContinuation => "invalid continuation byte"
  | .unexpectedEnd => "unexpected end of data"

/-- The report of bytes that are not UTF-8: a single byte is shown, several are counted. -/
def Text.Utf8Error.message (error : Utf8Error) : String :=
  let place :=
    if error.width = 1 then
      "byte 0x" ++ String.ofList (hexDigits 2 error.byte.toNat) ++ " in position "
        ++ toString error.position
    else
      "bytes in position " ++ toString error.position ++ "-"
        ++ toString (error.position + error.width - 1)
  "'utf-8' codec can't decode " ++ place ++ ": " ++ error.fault.message

end ReadmePress
