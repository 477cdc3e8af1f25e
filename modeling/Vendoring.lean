import Vendoring.Arguments.Printer
import Vendoring.Config.Printer
import Vendoring.Http.Script
import Vendoring.Main
import Vendoring.Proofs.Bodies
import Vendoring.Proofs.Canned
import Vendoring.Proofs.CommandLine
import Vendoring.Proofs.Convention
import Vendoring.Proofs.Convergence
import Vendoring.Proofs.Delivery
import Vendoring.Proofs.Document
import Vendoring.Proofs.Invocation
import Vendoring.Proofs.Journal
import Vendoring.Proofs.Messages
import Vendoring.Proofs.Names
import Vendoring.Proofs.Overlay
import Vendoring.Proofs.Overwriting
import Vendoring.Proofs.Policy
import Vendoring.Proofs.Removal
import Vendoring.Proofs.Reordering
import Vendoring.Proofs.Rooting
import Vendoring.Proofs.Seconds
import Vendoring.Proofs.Sequence
import Vendoring.Proofs.Success
import Vendoring.Proofs.Verdict
import Vendoring.Proofs.Tree
