import TelemetryLink.Collector
import TelemetryLink.Files.Tree
import TelemetryLink.Main
import TelemetryLink.Net.Network
import TelemetryLink.Proofs.Client.AckCodes
import TelemetryLink.Proofs.Client.Backoff
import TelemetryLink.Proofs.Client.Checked
import TelemetryLink.Proofs.Client.Retry
import TelemetryLink.Proofs.Config.Removal
import TelemetryLink.Proofs.Frame.Receiving
import TelemetryLink.Proofs.Frame.Writing
import TelemetryLink.Proofs.Handshake.RoundTrip
import TelemetryLink.Proofs.Identity
import TelemetryLink.Proofs.Net.Connecting
import TelemetryLink.Proofs.Program.ExitStatus
import TelemetryLink.Proofs.Program.KeySecrecy
import TelemetryLink.Proofs.Program.Layering
import TelemetryLink.Proofs.Program.Validated
import TelemetryLink.Proofs.Program.WriteConfig
import TelemetryLink.Proofs.Record.Codec
import TelemetryLink.Proofs.Session.FailStop
import TelemetryLink.Proofs.Session.Greeting
import TelemetryLink.Proofs.Session.Independence
import TelemetryLink.Proofs.Session.ReadBack
import TelemetryLink.Proofs.Session.Steps
import TelemetryLink.Proofs.Session.StopAndWait
import TelemetryLink.Proofs.Stream.Reading
import TelemetryLink.Record.Measurement
import TelemetryLink.Stream
