import TelemetryLink.Live.Errno

/-!
# The disk

The file system of the machine. It keeps its own state.
-/

namespace TelemetryLink.Live

/-- The file system of the machine. -/
structure Disk where

namespace Disk

/-- The result of an operation on the disk. -/
def attempt {α : Type} (operation : IO α) : StateT Disk IO (Except Files.Failure α) := do
  match ← operation.toBaseIO with
  | .ok value => return .ok value
  | .error e => return .error (failureOf e)

instance : Files Disk IO where
  present path := do
    match ← attempt (IO.FS.readBinFile path) with
    | .ok _ => return true
    | .error failure => return failure != .notFound && failure != .notDirectory
  read path := do
    return (← attempt (IO.FS.readBinFile path)).map fun content => content.data.toList
  createDirectories path :=
    if path.isEmpty then return .ok () else attempt (IO.FS.createDirAll path)
  write path content := attempt (IO.FS.writeBinFile path ⟨content.toArray⟩)

end Disk

end TelemetryLink.Live
