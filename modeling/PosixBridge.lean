import PosixBridge.Draft
import PosixBridge.Main
import PosixBridge.Trace
import PosixBridge.Proofs.Bracketing
import PosixBridge.Proofs.Course
import PosixBridge.Proofs.Diagnostics
import PosixBridge.Proofs.DynamicScope
import PosixBridge.Proofs.ErrorText
import PosixBridge.Proofs.Forwarding
import PosixBridge.Proofs.Identity
import PosixBridge.Proofs.Insertion
import PosixBridge.Proofs.Interleaving
import PosixBridge.Proofs.Mechanism
import PosixBridge.Proofs.NamedGuards
import PosixBridge.Proofs.NativeGate
import PosixBridge.Proofs.OverflowTable
import PosixBridge.Proofs.RoundTrip
import PosixBridge.Proofs.ScopedGuards
import PosixBridge.Proofs.Unwinding
import PosixBridge.Proofs.Widths
