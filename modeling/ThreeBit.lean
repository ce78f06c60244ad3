import ThreeBit.Device.Recorded
import ThreeBit.Device.Rig
import ThreeBit.Machine.Outputs
import ThreeBit.Main
import ThreeBit.Program.Text
import ThreeBit.Proofs.Calls
import ThreeBit.Proofs.Command
import ThreeBit.Proofs.Countdown
import ThreeBit.Proofs.DeviceStates
import ThreeBit.Proofs.Disassembly
import ThreeBit.Proofs.Faults
import ThreeBit.Proofs.Idling
import ThreeBit.Proofs.Layout
import ThreeBit.Proofs.OutputLine
import ThreeBit.Proofs.Precedence
import ThreeBit.Proofs.Pulls
import ThreeBit.Proofs.RoundTrip
import ThreeBit.Proofs.SelfCheck
import ThreeBit.Proofs.Traces
