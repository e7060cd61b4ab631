import TypeLowering.Guard
import TypeLowering.Json.Writer
import TypeLowering.Session
import TypeLowering.Proofs.Machine
import TypeLowering.Proofs.Nesting
import TypeLowering.Proofs.Likeness
import TypeLowering.Proofs.Skeleton
import TypeLowering.Proofs.Collecting
import TypeLowering.Proofs.Decoding
import TypeLowering.Proofs.Configuring
import TypeLowering.Proofs.Failing
import TypeLowering.Proofs.Touring
import TypeLowering.Proofs.Unreadable
import TypeLowering.Proofs.Layering
import TypeLowering.Proofs.Lookup
import TypeLowering.Proofs.Acceptance
import TypeLowering.Proofs.Semilattice
import TypeLowering.Proofs.Directives
import TypeLowering.Proofs.Overloads
import TypeLowering.Proofs.Blocks
