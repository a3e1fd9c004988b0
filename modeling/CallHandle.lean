import CallHandle.Event
import CallHandle.Json.Parse
import CallHandle.Proofs.Ambiguity
import CallHandle.Proofs.Ancestry
import CallHandle.Proofs.Antisymmetry
import CallHandle.Proofs.CallFrame
import CallHandle.Proofs.ConversionOrder
import CallHandle.Proofs.DeclaredClasses
import CallHandle.Proofs.Dominance
import CallHandle.Proofs.ExactAddress
import CallHandle.Proofs.ExactRivals
import CallHandle.Proofs.FirstMismatch
import CallHandle.Proofs.FirstViolation
import CallHandle.Proofs.HandleUse
import CallHandle.Proofs.Keywords
import CallHandle.Proofs.LabelMarks
import CallHandle.Proofs.LaterRegistrations
import CallHandle.Proofs.Loading
import CallHandle.Proofs.Lookup
import CallHandle.Proofs.Nesting
import CallHandle.Proofs.NewClasses
import CallHandle.Proofs.NonBinding
import CallHandle.Proofs.NormalForm
import CallHandle.Proofs.Occurrence
import CallHandle.Proofs.Partners
import CallHandle.Proofs.Preference
import CallHandle.Proofs.Reading
import CallHandle.Proofs.Registration
import CallHandle.Proofs.Relabeling
import CallHandle.Proofs.Reordering
import CallHandle.Proofs.Rereading
import CallHandle.Proofs.RoundTrip
import CallHandle.Proofs.SameRules
import CallHandle.Proofs.SameShape
import CallHandle.Proofs.Selection
import CallHandle.Proofs.Shortfall
import CallHandle.Proofs.SourceLines
import CallHandle.Proofs.Spelling
import CallHandle.Proofs.StaticMembers
import CallHandle.Proofs.StoredNesting
import CallHandle.Proofs.Validity
import CallHandle.Proofs.VoidPointers
import CallHandle.Proofs.WideningOrder
import CallHandle.Proofs.WrittenForms
import CallHandle.Report
import CallHandle.Signature.Json
import CallHandle.Signature.Relabel
import CallHandle.Stored.Encode
import CallHandle.Stored.Json
import CallHandle.Stored.Normal
import CallHandle.Stored.Violation
import CallHandle.Widening.Order
