import PullCache.Main
import PullCache.Proofs.Redirect.Readmission
import PullCache.Proofs.Redirect.Outcome
import PullCache.Proofs.Redirect.Readability
import PullCache.Proofs.Reference.Relay
import PullCache.Proofs.Reference.Origin
import PullCache.Proofs.Reference.Retraction
import PullCache.Proofs.Reference.Fault
import PullCache.Proofs.Json.Fits
import PullCache.Proofs.Admission.ObjectType
import PullCache.Proofs.Patch.Difference
import PullCache.Proofs.Patch.Pointer
import PullCache.Proofs.Pod.Written
import PullCache.Proofs.Pod.TakesOn
import PullCache.Proofs.Admission.Changes
import PullCache.Proofs.Redirect.History
import PullCache.Proofs.Redirect.Convergence
import PullCache.Proofs.Admission.Session
import PullCache.Proofs.Patch.Within
import PullCache.Proofs.Pod.Places
import PullCache.Proofs.Admission.Footprint
import PullCache.Proofs.Admission.OptOut
import PullCache.Proofs.Admission.BodyOrder
import PullCache.Proofs.Config.Reading
import PullCache.Proofs.Pod.ContainerKey
import PullCache.Proofs.Redirect.Independence
import PullCache.Proofs.Redirect.Narrowing
import PullCache.Proofs.Config.Stages
