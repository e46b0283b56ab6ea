import CallSummary.Exploration.Explorer
import CallSummary.Machine.Sample
import CallSummary.Summary.Library
import CallSummary.Summary.Script
import CallSummary.Proofs.Machine.Access
import CallSummary.Proofs.Machine.Reachable
import CallSummary.Proofs.Call.PopExactness
import CallSummary.Proofs.Call.RoundTrip
import CallSummary.Proofs.Summary.Binding
import CallSummary.Proofs.Summary.Forest
import CallSummary.Proofs.Summary.Fitting
import CallSummary.Proofs.Exploration.Steps
import CallSummary.Proofs.Exploration.StepLimit
import CallSummary.Proofs.Summary.Transcript
import CallSummary.Proofs.Machine.AddressSpace
import CallSummary.Proofs.Call.WayBack
import CallSummary.Proofs.Summary.Asking
import CallSummary.Proofs.Summary.Paths
import CallSummary.Proofs.Summary.LibraryRuns
import CallSummary.Proofs.Exploration.CallAndReturn
import CallSummary.Proofs.Exploration.LastInFirstOut
import CallSummary.Proofs.Summary.Drawings
import CallSummary.Proofs.Exploration.Executions
import CallSummary.Proofs.Summary.Erasure
import CallSummary.Proofs.Exploration.Indistinguishable
import CallSummary.Proofs.Exploration.Representation
import CallSummary.Proofs.Exploration.Itinerary
import CallSummary.Proofs.Exploration.Locality
import CallSummary.Proofs.Exploration.Atomicity
import CallSummary.Proofs.Convention.Separation
import CallSummary.Proofs.Machine.StackAgreement
import CallSummary.Proofs.Exploration.BlockOrder
import CallSummary.Proofs.Convention.LastSaid
import CallSummary.Proofs.Summary.SameCall
import CallSummary.Proofs.Exploration.HookHistory
import CallSummary.Proofs.Text.Numeral
import CallSummary.Proofs.Text.ShortForm
