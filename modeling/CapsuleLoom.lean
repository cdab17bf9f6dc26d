import CapsuleLoom.Capsule.Graph
import CapsuleLoom.Metrics.Registry
import CapsuleLoom.Proofs.Assistant.Reply
import CapsuleLoom.Proofs.Capsule.Agreement
import CapsuleLoom.Proofs.Platform.Printer
import CapsuleLoom.Proofs.Service.Calls
import CapsuleLoom.Service.Response
import CapsuleLoom.Settings.Environment
import CapsuleLoom.Proofs.Project.Readback
import CapsuleLoom.Proofs.Service.Completion
import CapsuleLoom.Proofs.Service.Attempts
import CapsuleLoom.Proofs.Service.Bridge
import CapsuleLoom.Proofs.Assistant.Defaults
import CapsuleLoom.Proofs.Service.Build
import CapsuleLoom.Proofs.Service.Nesting
import CapsuleLoom.Proofs.Capsule.FirstBreach
import CapsuleLoom.Proofs.Platform.Paths
import CapsuleLoom.Proofs.Platform.Separate
import CapsuleLoom.Proofs.Platform.Foreign
import CapsuleLoom.Proofs.Platform.Spacers
import CapsuleLoom.Proofs.Platform.Progress
import CapsuleLoom.Proofs.Platform.References
import CapsuleLoom.Proofs.Platform.Chart
import CapsuleLoom.Proofs.Platform.Slider
import CapsuleLoom.Proofs.Naming.Identifiers
import CapsuleLoom.Proofs.Naming.Variables
import CapsuleLoom.Proofs.Metrics.Histogram
import CapsuleLoom.Proofs.Metrics.Totals
import CapsuleLoom.Proofs.Capsule.Clamp
import CapsuleLoom.Proofs.Capsule.Moments
import CapsuleLoom.Proofs.Assistant.FirstSpan
import CapsuleLoom.Proofs.Assistant.GivenUp
import CapsuleLoom.Proofs.Naming.LegalVariables
