import LatencyCurve.Disk.SystemReason

/-!
# Errors of file operations

Why a file operation failed: for a reason that the system has a number for, or because a name holds
a zero byte, which no system accepts.
-/

namespace LatencyCurve

/-- Why a file operation failed. -/
inductive FileError where
  /-- For the reason with a number -/
  | system (code : Int)
  /-- The name holds a zero byte -/
  | zeroByte
deriving DecidableEq, Repr

namespace FileError

/-- There is no such file or directory. -/
def notFound : FileError := system 2

/-- Something is used as a directory that is none. -/
def notDirectory : FileError := system 20

/-- A directory is used as a file. -/
def isDirectory : FileError := system 21

/-- A name is too long. -/
def nameTooLong : FileError := system 36

/-- Symbolic links lead too far. -/
def tooManyLinks : FileError := system 40

/-- What is said about a name with a zero byte. -/
def zeroByteText : String := "file name contained an unexpected NUL byte"

/-- An error as it is told to users. -/
def text : FileError → String
  | system code => SystemReason.text code ++ " (os error " ++ toString code ++ ")"
  | zeroByte => zeroByteText

/-- An error with all its details. -/
def details : FileError → String
  | system code =>
    "Os \x7b code: " ++ toString code ++ ", kind: " ++ SystemReason.className code ++
      ", message: \"" ++ SystemReason.text code ++ "\" \x7d"
  | zeroByte => "Error \x7b kind: InvalidInput, message: \"" ++ zeroByteText ++ "\" \x7d"

end FileError

end LatencyCurve
