import Detuple.Command.Seen
import Detuple.Command.Turns
import Detuple.Detupling
import Detuple.Files
import Detuple.Files.Tree
import Detuple.Grammar
import Detuple.Layout.Plain
import Detuple.Main
import Detuple.Reading.Descent
import Detuple.Session
import Detuple.Token.Cut
import Detuple.Tree
import Detuple.Proofs.Cuts
import Detuple.Proofs.Scanning
import Detuple.Proofs.Trees
import Detuple.Proofs.Reading
import Detuple.Proofs.Derivations
import Detuple.Proofs.Refusals
import Detuple.Proofs.Spacing
import Detuple.Proofs.Completion
import Detuple.Proofs.Layout
import Detuple.Proofs.RoundTrip
import Detuple.Proofs.Detupling
import Detuple.Proofs.Stability
import Detuple.Proofs.Erasure
import Detuple.Proofs.Files
import Detuple.Proofs.Turns
import Detuple.Proofs.FileSafety
import Detuple.Proofs.Showing
import Detuple.Proofs.InPlace
import Detuple.Proofs.Asking
import Detuple.Proofs.Attempts
import Detuple.Proofs.Concatenation
import Detuple.Proofs.Isolation
import Detuple.Proofs.Counts
import Detuple.Proofs.Descent
import Detuple.Proofs.Diagnoses
import Detuple.Proofs.Pointing
import Detuple.Proofs.Nesting
import Detuple.Proofs.Unambiguity
import Detuple.Proofs.ExitCode
import Detuple.Proofs.Identifiers
import Detuple.Proofs.Progress
