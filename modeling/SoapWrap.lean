import SoapWrap.Files.Tree
import SoapWrap.Machine.Handle
import SoapWrap.Main
import SoapWrap.Proofs.Config.Settings
import SoapWrap.Proofs.Machine.AdapterSlots
import SoapWrap.Proofs.Machine.Cells
import SoapWrap.Proofs.Machine.Chaining
import SoapWrap.Proofs.Machine.Cycles
import SoapWrap.Proofs.Machine.RoundTrip
import SoapWrap.Proofs.Machine.Words
import SoapWrap.Proofs.Metadata.ReadBack
import SoapWrap.Proofs.Naming.Boundaries
import SoapWrap.Proofs.Naming.FieldIdentifier
import SoapWrap.Proofs.Naming.Namespace
import SoapWrap.Proofs.Pass.Extension
import SoapWrap.Proofs.Pass.FaultTypes
import SoapWrap.Proofs.Pass.Inspection
import SoapWrap.Proofs.Pass.Integrity
import SoapWrap.Proofs.Pass.ManifestText
import SoapWrap.Proofs.Pass.Refusal
import SoapWrap.Proofs.Pass.Registration
import SoapWrap.Proofs.Pass.Strictness
import SoapWrap.Proofs.Service.Normalization
import SoapWrap.Proofs.Session.AdapterNames
import SoapWrap.Proofs.Session.Allocation
import SoapWrap.Proofs.Session.Calls
import SoapWrap.Proofs.Session.Claims
import SoapWrap.Proofs.Session.Collisions
import SoapWrap.Proofs.Session.History
import SoapWrap.Proofs.Synthesis.Fingerprint
import SoapWrap.Proofs.Synthesis.Inclusion
import SoapWrap.Proofs.Synthesis.MethodOrder
import SoapWrap.Proofs.Trait.Faults
import SoapWrap.Proofs.Trait.MemberTags
import SoapWrap.Proofs.Trait.Stripping
import SoapWrap.Proofs.TypeExpr.Location
import SoapWrap.Proofs.TypeExpr.WrittenForm
import SoapWrap.Synthesis.Codec
