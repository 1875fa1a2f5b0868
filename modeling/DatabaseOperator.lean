import DatabaseOperator.Health
import DatabaseOperator.Proofs.Cluster.Concurrency
import DatabaseOperator.Proofs.Creation.Repetition
import DatabaseOperator.Proofs.Creation.RetryToken
import DatabaseOperator.Proofs.Pass.Guard
import DatabaseOperator.Remote.Written
import DatabaseOperator.Simulation.Store
import DatabaseOperator.Simulation.World
import DatabaseOperator.Proofs.Pass.Reading
import DatabaseOperator.Proofs.Pluggable.Declaration
import DatabaseOperator.Proofs.Pluggable.Completion
import DatabaseOperator.Proofs.Pluggable.Finality
import DatabaseOperator.Proofs.Pluggable.Departure
import DatabaseOperator.Proofs.Json.Unambiguity
import DatabaseOperator.Proofs.Attributes
import DatabaseOperator.Proofs.Resemblance
import DatabaseOperator.Proofs.Pass.Refusal
import DatabaseOperator.Proofs.Pass.Grounds
import DatabaseOperator.Proofs.Pass.Standstill
import DatabaseOperator.Proofs.Pass.Missing
import DatabaseOperator.Proofs.Pass.Confirmation
import DatabaseOperator.Proofs.Pass.Lag
import DatabaseOperator.Proofs.Deletion.Restraint
import DatabaseOperator.Proofs.Pass.Settling
import DatabaseOperator.Proofs.Pass.Naming
import DatabaseOperator.Proofs.Identity
import DatabaseOperator.Proofs.Pass.Readiness
import DatabaseOperator.Proofs.Pass.Appearance
import DatabaseOperator.Proofs.Pass.Bookkeeping
import DatabaseOperator.Proofs.Pass.AtRest
import DatabaseOperator.Proofs.Status.Patch
import DatabaseOperator.Proofs.Metrics.Shown
import DatabaseOperator.Proofs.Coupling
import DatabaseOperator.Proofs.Pass.Requeue
import DatabaseOperator.Proofs.Pass.Secrecy
import DatabaseOperator.Proofs.Pluggable.Spelling
import DatabaseOperator.Proofs.Time.Age
import DatabaseOperator.Proofs.Pass.Sights
import DatabaseOperator.Proofs.Pass.Weighing
import DatabaseOperator.Proofs.Pass.Patience
import DatabaseOperator.Proofs.Cloud.Bodies
import DatabaseOperator.Proofs.Payload
import DatabaseOperator.Proofs.Pass.Disagreement
import DatabaseOperator.Proofs.Status.Conditions
import DatabaseOperator.Proofs.Wallet.Passes
import DatabaseOperator.Proofs.Pass.Failure
import DatabaseOperator.Proofs.Pass.Waiting
import DatabaseOperator.Proofs.Pass.Punctuality
import DatabaseOperator.Proofs.Pass.Setbacks
import DatabaseOperator.Proofs.Manifest.Documents
