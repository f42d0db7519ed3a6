import Manifests.Main
import Manifests.Proofs.Content
import Manifests.Proofs.Entries
import Manifests.Proofs.Extension
import Manifests.Proofs.Outcome
import Manifests.Proofs.Extension.Enrichment
import Manifests.Proofs.Labels
import Manifests.Proofs.Selectors
import Manifests.Proofs.Overlay.Container
import Manifests.Proofs.Overlay.Containers
import Manifests.Proofs.Overlay.Repetition
import Manifests.Proofs.Repetition.Enrichment
import Manifests.Proofs.Identity
import Manifests.Proofs.Overlay.Collection
import Manifests.Proofs.Selection
import Manifests.Proofs.Precedence
import Manifests.Proofs.Distinct
import Manifests.Proofs.Overlay.Reach
import Manifests.Proofs.Pods.Steps
import Manifests.Proofs.Repetition.Finishing
import Manifests.Proofs.Pods.Environment
import Manifests.Proofs.Pods.Mounts
import Manifests.Proofs.Codec.Resources
import Manifests.Proofs.Overlay.Controllers
import Manifests.Proofs.Annotations
import Manifests.Proofs.Pods.Declared
import Manifests.Proofs.Overlay.Frame
import Manifests.Proofs.Overlay.Itself
import Manifests.Proofs.Overlay.Keys
import Manifests.Proofs.Overlay.Namesakes
import Manifests.Proofs.Overlay.Places
import Manifests.Proofs.Overlay.Unnamed
import Manifests.Proofs.Overlay.Ports
import Manifests.Proofs.InPlace
import Manifests.Proofs.Pods.PullPolicies
import Manifests.Proofs.Services.Validity
import Manifests.Proofs.Pods.Names
import Manifests.Proofs.Fragments.Completion
import Manifests.Proofs.Pods.Completeness
import Manifests.Proofs.Descriptors
import Manifests.Proofs.Ports.RoundTrip
import Manifests.Proofs.Ports.Padding
import Manifests.Proofs.Quoting
import Manifests.Proofs.References
import Manifests.Proofs.Triggers
import Manifests.Proofs.Ports.Numbers
import Manifests.Proofs.Ports.Range
import Manifests.Proofs.Pods.InitContainers
import Manifests.Proofs.Pods.ClaimedVolumes
import Manifests.Proofs.LetterCase
import Manifests.Proofs.Environment
import Manifests.Proofs.Overrides
import Manifests.Proofs.Naming
import Manifests.Proofs.DefaultNames
import Manifests.Proofs.Codec.JsonText
import Manifests.Proofs.Credentials
