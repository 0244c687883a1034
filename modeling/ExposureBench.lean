import ExposureBench.Command
import ExposureBench.Control.Controller
import ExposureBench.Json.Writer
import ExposureBench.Main
import ExposureBench.Proofs.CallOrder
import ExposureBench.Proofs.Release
import ExposureBench.Proofs.Soundness
import ExposureBench.Proofs.Toggling
import ExposureBench.Proofs.Waiting
import ExposureBench.Proofs.Recordings
import ExposureBench.Proofs.Windows
import ExposureBench.Proofs.Diagnostics
import ExposureBench.Proofs.Accounting
import ExposureBench.Proofs.Gaps
import ExposureBench.Proofs.Recoveries
import ExposureBench.Proofs.InStep
import ExposureBench.Proofs.Replays
import ExposureBench.Proofs.Isolation
import ExposureBench.Proofs.Reporting
import ExposureBench.Proofs.Usage
import ExposureBench.Proofs.Resettling
import ExposureBench.Proofs.Terminal
import ExposureBench.Proofs.Journal
import ExposureBench.Proofs.Protocol
import ExposureBench.Proofs.Skips
import ExposureBench.Proofs.TeardownFaults
import ExposureBench.Proofs.Magnitude
import ExposureBench.Proofs.Usability
import ExposureBench.Proofs.Comparison
import ExposureBench.Proofs.Origins
import ExposureBench.Proofs.Conservation
import ExposureBench.Proofs.Numbering
import ExposureBench.Proofs.Streams
import ExposureBench.Proofs.Deadlines
import ExposureBench.Proofs.SpikeBounds
import ExposureBench.Proofs.Steadiness
import ExposureBench.Proofs.Pacing
import ExposureBench.Proofs.Selection
import ExposureBench.Proofs.Confirmation
import ExposureBench.Proofs.Conversion
import ExposureBench.Proofs.Lifecycle
import ExposureBench.Proofs.Writes
import ExposureBench.Proofs.Verification
import ExposureBench.Proofs.Allowances
import ExposureBench.Proofs.Nearest
import ExposureBench.Proofs.Leniency
import ExposureBench.Proofs.Merging
import ExposureBench.Proofs.Appending
import ExposureBench.Proofs.RoundTrip
import ExposureBench.Proofs.Defaults
import ExposureBench.Proofs.LargestGap
import ExposureBench.Proofs.Splitting
