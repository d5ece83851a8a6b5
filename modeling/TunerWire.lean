import TunerWire.Proofs.Burst
import TunerWire.Proofs.Numerals
import TunerWire.Proofs.RoundTrip
import TunerWire.Workbench.Payload
import TunerWire.Workbench.Report
import TunerWire.Proofs.BitPairs
import TunerWire.Proofs.HexText
import TunerWire.Proofs.InPlace
import TunerWire.Proofs.Answers
import TunerWire.Proofs.Exchange
import TunerWire.Proofs.Refusal
import TunerWire.Proofs.Composition
import TunerWire.Proofs.Delimiting
import TunerWire.Proofs.Violation
import TunerWire.Proofs.Residue
import TunerWire.Proofs.Remainder
import TunerWire.Proofs.Storing
import TunerWire.Proofs.Precedence
import TunerWire.Proofs.Shortage
import TunerWire.Proofs.TakingApart
import TunerWire.Proofs.PacketText
import TunerWire.Proofs.Rounds
import TunerWire.Proofs.Trailers
