import RootedRun.Text.Literal
import RootedRun.Text.Unprintable

namespace RootedRun

def OsError.named : List Nat := [2, 7, 13, 20, 21, 36, 40]

/-- What an operating system call fails with; `other` is any error without a name of its own, such as
that of a device or of a file server. -/
inductive OsError
  | notFound
  | argumentsTooLong
  | permissionDenied
  | notDirectory
  | isDirectory
  | nameTooLong
  | linkLoop
  | other (code : Nat) (text : String) (unnamed : code ∉ OsError.named)
  deriving DecidableEq

def OsError.code : OsError → Nat
  | .notFound => 2
  | .argumentsTooLong => 7
  | .permissionDenied => 13
  | .notDirectory => 20
  | .isDirectory => 21
  | .nameTooLong => 36
  | .linkLoop => 40
  | .other code _ _ => code

def OsError.text : OsError → String
  | .notFound => "No such file or directory"
  | .argumentsTooLong => "Argument list too long"
  | .permissionDenied => "Permission denied"
  | .notDirectory => "Not a directory"
  | .isDirectory => "Is a directory"
  | .nameTooLong => "File name too long"
  | .linkLoop => "Too many levels of symbolic links"
  | .other _ text _ => text

inductive IoError
  | os : OsError → IoError
  | notUtf8
  | nulInPath
  | nulInCommand
  | cancelled (program : String)
  deriving DecidableEq

inductive IoError.Kind
  | notFound
  | argumentsTooLong
  | permissionDenied
  | notDirectory
  | isDirectory
  | invalidName
  | linkLoop
  | invalidData
  | invalidInput
  | interrupted
  | other (code : Nat)
  deriving DecidableEq

def IoError.kind : IoError → Kind
  | .os .notFound => .notFound
  | .os .argumentsTooLong => .argumentsTooLong
  | .os .permissionDenied => .permissionDenied
  | .os .notDirectory => .notDirectory
  | .os .isDirectory => .isDirectory
  | .os .nameTooLong => .invalidName
  | .os .linkLoop => .linkLoop
  | .os (.other 1 ..) => .permissionDenied
  | .os (.other 4 ..) => .interrupted
  | .os (.other 22 ..) => .invalidInput
  | .os (.other code ..) => .other code
  | .notUtf8 => .invalidData
  | .nulInPath | .nulInCommand => .invalidInput
  | .cancelled _ => .interrupted

def IoError.message : IoError → String
  | .os e => e.text ++ " (os error " ++ toString e.code ++ ")"
  | .notUtf8 => "stream did not contain valid UTF-8"
  | .nulInPath => "file name contained an unexpected NUL byte"
  | .nulInCommand => "nul byte found in provided data"
  | .cancelled program => "command cancelled: " ++ program

inductive SetupError
  | rootNotDirectory (path : String)
  | unreadable (path : String) (cause : IoError)
  | malformed (path : String)
  | badEntry (entry : String)
  deriving DecidableEq

/-- What the message about a bad search path entry says about it, `numbered` being the characters
that cannot be shown. -/
def SetupError.badEntryMessage (numbered : Char → Bool) (entry : String) : String :=
  "invalid search path entry: " ++ Text.Literal.encode numbered entry

def SetupError.message : SetupError → String
  | .rootNotDirectory path =>
    "chroot directory does not exist or is not a directory: " ++ path
  | .unreadable path cause => "failed to read config " ++ path ++ ": " ++ cause.message
  | .malformed path => "failed to parse config " ++ path ++ ": "
  | .badEntry entry => badEntryMessage Text.unprintable entry

end RootedRun
