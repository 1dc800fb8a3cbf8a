import TelemetryLink.Bytes

/-!
# Files

What a program needs of a file system with state `φ`: to ask whether there is anything at a path,
to read and write whole files, and to make directories. `TelemetryLink.Files.Tree` is a file
system that is a value; the command line uses the one of the machine.
-/

namespace TelemetryLink

namespace Files

/-- Why an operation on files fails. -/
inductive Failure where
  /-- Nothing is there. -/
  | notFound
  /-- Something is there already. -/
  | alreadyExists
  /-- A part of the path before the last is no directory, or the last is none and should be. -/
  | notDirectory
  /-- A directory is there. -/
  | isDirectory
  /-- The name or the path is longer than a file system allows. -/
  | nameTooLong
  /-- The path holds the character NUL. -/
  | nulInPath
  /-- The file is no text. -/
  | notText
  /-- The system said so. -/
  | reported (text : String)
  deriving DecidableEq, Repr

/-- The failure in words. -/
def Failure.text : Failure → String
  | notFound => "No such file or directory (os error 2)"
  | alreadyExists => "File exists (os error 17)"
  | notDirectory => "Not a directory (os error 20)"
  | isDirectory => "Is a directory (os error 21)"
  | nameTooLong => "File name too long (os error 36)"
  | nulInPath => "file name contained an unexpected NUL byte"
  | notText => "stream did not contain valid UTF-8"
  | reported text => text

end Files

/-- The operations of a file system. -/
class Files (φ : Type) (m : Type → Type) where
  /-- Whether there is anything at a path. -/
  present : String → StateT φ m Bool
  /-- The content of a file. -/
  read : String → StateT φ m (Except Files.Failure Bytes)
  /-- Makes a directory and those around it, as far as they are missing. -/
  createDirectories : String → StateT φ m (Except Files.Failure Unit)
  /-- Replaces the content of a file, or makes the file. -/
  write : String → Bytes → StateT φ m (Except Files.Failure Unit)

end TelemetryLink
