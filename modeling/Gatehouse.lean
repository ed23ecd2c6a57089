import Gatehouse.Artifact.Map
import Gatehouse.Credential.Outline
import Gatehouse.Policy.Evaluation
import Gatehouse.Policy.Outline
import Gatehouse.Proofs.Policy.Authentication
import Gatehouse.Proofs.Replay.Visits
import Gatehouse.Proofs.Artifact.Offers
import Gatehouse.Proofs.Artifact.Redemption
import Gatehouse.Proofs.Policy.Vouching
import Gatehouse.Proofs.Policy.Rejection
import Gatehouse.Proofs.Policy.Acceptance
import Gatehouse.Proofs.Storage.History
import Gatehouse.Proofs.Replay.Answers
import Gatehouse.Proofs.Policy.Roles
import Gatehouse.Proofs.Policy.Forgetting
import Gatehouse.Proofs.Fragment.IssuerName
import Gatehouse.Proofs.Fragment.Prefixes
import Gatehouse.Proofs.Artifact.WireForm
import Gatehouse.Proofs.Artifact.Memory
import Gatehouse.Proofs.Artifact.Lookup
import Gatehouse.Proofs.Artifact.Refusal
import Gatehouse.Proofs.Artifact.Encoding
import Gatehouse.Proofs.Policy.Claims
import Gatehouse.Proofs.Policy.FlowTable
import Gatehouse.Proofs.Artifact.Layout
import Gatehouse.Proofs.Credential.PublishedKeys
import Gatehouse.Proofs.Credential.Encoding
import Gatehouse.Proofs.Credential.TextForms
import Gatehouse.Proofs.Storage.Accumulation
import Gatehouse.Proofs.QualifiedName.TextForm
import Gatehouse.Proofs.Request.Lookups
import Gatehouse.Proofs.Config.Integers
import Gatehouse.Proofs.Metadata.Directory
