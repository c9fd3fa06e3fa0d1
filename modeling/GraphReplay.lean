import GraphReplay.Log.Setup
import GraphReplay.Session.Step
import GraphReplay.Proofs.Registry
import GraphReplay.Proofs.Placement
import GraphReplay.Proofs.Serving
import GraphReplay.Proofs.Completeness
import GraphReplay.Proofs.Books
import GraphReplay.Proofs.History
import GraphReplay.Proofs.Stream
import GraphReplay.Proofs.HighWater
import GraphReplay.Proofs.Traffic
import GraphReplay.Proofs.Ownership
import GraphReplay.Proofs.Resources
import GraphReplay.Proofs.Disposal
import GraphReplay.Proofs.Lifetime
import GraphReplay.Proofs.Rejection
import GraphReplay.Proofs.Consistency
import GraphReplay.Proofs.Lifecycle
import GraphReplay.Proofs.ByteOrder
import GraphReplay.Proofs.Progress
import GraphReplay.Proofs.Journal
import GraphReplay.Proofs.RegistrationOrder
import GraphReplay.Proofs.Admission
import GraphReplay.Proofs.Naming
import GraphReplay.Proofs.Faults
import GraphReplay.Proofs.Contexts
import GraphReplay.Proofs.StackUse
import GraphReplay.Proofs.AddressSpace
import GraphReplay.Proofs.CountText
import GraphReplay.Proofs.KeyText
import GraphReplay.Proofs.Setup
