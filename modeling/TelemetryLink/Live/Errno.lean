import TelemetryLink.Fault
import TelemetryLink.Files

/-!
# Errors of the machine

What the numbers of system errors mean for connections and for files.
-/

namespace TelemetryLink.Live

/-- The code of a system error. -/
def code? : IO.Error → Option UInt32
  | .alreadyExists _ code _ => some code
  | .otherError code _ => some code
  | .resourceBusy code _ => some code
  | .resourceVanished code _ => some code
  | .unsupportedOperation code _ => some code
  | .hardwareFault code _ => some code
  | .unsatisfiedConstraints code _ => some code
  | .illegalOperation code _ => some code
  | .protocolError code _ => some code
  | .timeExpired code _ => some code
  | .interrupted _ code _ => some code
  | .noFileOrDirectory _ code _ => some code
  | .invalidArgument _ code _ => some code
  | .permissionDenied _ code _ => some code
  | .resourceExhausted _ code _ => some code
  | .inappropriateType _ code _ => some code
  | .noSuchThing _ code _ => some code
  | .unexpectedEof => none
  | .userError _ => none

/-- The number of a system error, which a code may stand for with the opposite sign. -/
def errno? (e : IO.Error) : Option UInt32 :=
  (code? e).map fun code => if code < 2147483648 then code else 0 - code

/-- The fault of a connection that a system error reports. -/
def faultOf (e : IO.Error) : Fault :=
  match errno? e with
  | some 4 => .bare .interrupted
  | some 13 => .accessDenied
  | some 32 => ⟨.brokenPipe, "Broken pipe (os error 32)"⟩
  | some 101 => .networkUnreachable
  | some 103 => ⟨.connectionAborted, "Software caused connection abort (os error 103)"⟩
  | some 104 => .resetByPeer
  | some 110 => .connectTimedOut
  | some 111 => .refused
  | some 113 => .hostUnreachable
  | _ => ⟨.other, toString e⟩

/-- The failure of an operation on files that a system error reports. -/
def failureOf (e : IO.Error) : Files.Failure :=
  match errno? e with
  | some 2 => .notFound
  | some 17 => .alreadyExists
  | some 20 => .notDirectory
  | some 21 => .isDirectory
  | some 36 => .nameTooLong
  | _ => .reported (toString e)

end TelemetryLink.Live
