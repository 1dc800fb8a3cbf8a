/-!
# Stages and states of a session

A session moves through states; each of its exchanges is a stage, which errors name.

```text
connecting -> handshaking -> idle <-> pinging
                             idle <-> sending
any state  -> closed   (error or completion)
```
-/

namespace TelemetryLink

/-- Which exchange an error happened in. -/
inductive Stage where
  /-- Opening the connection. -/
  | connect
  /-- The handshake. -/
  | handshake
  /-- The ping. -/
  | ping
  /-- A data frame, numbered from 1. -/
  | data (number : UInt32)
  deriving DecidableEq, Repr

/-- The stage as it stands in messages. -/
def Stage.text : Stage → String
  | connect => "connect"
  | handshake => "handshake"
  | ping => "ping"
  | data number => "data frame " ++ toString number.toNat

/-- The states of a session. -/
inductive SessionState where
  /-- The connection is open and the handshake is still to be sent. -/
  | connecting
  /-- The handshake is being exchanged. -/
  | handshaking
  /-- Authenticated and ready for the next exchange. -/
  | idle
  /-- The ping is being exchanged. -/
  | pinging
  /-- A data frame is being exchanged. -/
  | sending
  /-- The connection is released, for good. -/
  | closed
  deriving DecidableEq, Repr

namespace SessionState

/-- The state as it stands in messages. -/
def text : SessionState → String
  | connecting => "connecting"
  | handshaking => "handshaking"
  | idle => "idle"
  | pinging => "pinging"
  | sending => "sending"
  | closed => "closed"

/-- The state as it stands in a session's description. -/
def title : SessionState → String
  | connecting => "Connecting"
  | handshaking => "Handshaking"
  | idle => "Idle"
  | pinging => "Pinging"
  | sending => "Sending"
  | closed => "Closed"

end SessionState

end TelemetryLink
