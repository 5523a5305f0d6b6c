import TaintFlow.Detection.Sweep
import TaintFlow.Policy.Declarations
import TaintFlow.Proofs.Covering
import TaintFlow.Proofs.Results
import TaintFlow.Proofs.Run
import TaintFlow.Proofs.Equations
import TaintFlow.Proofs.InPlaceSteps
import TaintFlow.Proofs.Steps
import TaintFlow.Proofs.Inlining
import TaintFlow.Proofs.Rank
import TaintFlow.Proofs.Faults
import TaintFlow.Proofs.Calls
import TaintFlow.Proofs.Provenance
import TaintFlow.Proofs.Progress
import TaintFlow.Proofs.Convergence
import TaintFlow.Proofs.Effects
import TaintFlow.Proofs.Occurrence
import TaintFlow.Proofs.Aliases
import TaintFlow.Proofs.Paths
import TaintFlow.Proofs.ArrayStores
import TaintFlow.Proofs.WriteBacks
import TaintFlow.Proofs.SharedTable
import TaintFlow.Proofs.Reachability
import TaintFlow.Proofs.StackDiscipline
import TaintFlow.Proofs.LeastSolution
import TaintFlow.Proofs.ArgumentPositions
import TaintFlow.Proofs.Explanations
import TaintFlow.Proofs.Writes
import TaintFlow.Proofs.Isolation
import TaintFlow.Proofs.UndescribedCalls
import TaintFlow.Proofs.Cores
import TaintFlow.Proofs.Lockstep
import TaintFlow.Proofs.ParallelCalls
import TaintFlow.Proofs.Remarks
import TaintFlow.Proofs.Templates
import TaintFlow.Proofs.Outputs
import TaintFlow.Proofs.EqualFrames
import TaintFlow.Proofs.CallFootprint
import TaintFlow.Proofs.Descriptors
import TaintFlow.Proofs.Supertypes
import TaintFlow.Proofs.SinglePass
import TaintFlow.Proofs.Commitments
import TaintFlow.Proofs.InheritedSummaries
import TaintFlow.Proofs.JoinOrder
import TaintFlow.Proofs.Concatenation
import TaintFlow.Proofs.Makings
import TaintFlow.Proofs.CallingConvention
