import CommitSeal.SExpr.KeyFile
import CommitSeal.Packet.SecretKey
import CommitSeal.Keybox
import CommitSeal.AgentKey.Unprotect
import CommitSeal.CommitHeader
import CommitSeal.Transferable.Ring
import CommitSeal.KeyStore.Unlocking
import CommitSeal.Resolution
import CommitSeal.Signer
import CommitSeal.CommandLine.Basic
import CommitSeal.Main
import CommitSeal.Proofs.Retry.Entry
import CommitSeal.Proofs.Retry.Session
import CommitSeal.Proofs.Retry.Isolation
import CommitSeal.Proofs.Packet.Framing
import CommitSeal.Proofs.Packet.SecretCertificate
import CommitSeal.Proofs.Retry.Budget
import CommitSeal.Proofs.Retry.Retention
import CommitSeal.Proofs.Retry.Course
import CommitSeal.Proofs.Signing.Plan
import CommitSeal.Proofs.Signing.Rounds
import CommitSeal.Proofs.SExpr.Canonical
import CommitSeal.Proofs.SExpr.Advanced
import CommitSeal.Proofs.AgentKey.Protection
import CommitSeal.Proofs.AgentKey.Loading
import CommitSeal.Proofs.KeyStore.Lookup
import CommitSeal.Proofs.KeyStore.Record
import CommitSeal.Proofs.KeyStore.Certificates
import CommitSeal.Proofs.Keybox.Container
import CommitSeal.Proofs.Keybox.Tiling
import CommitSeal.Proofs.Resolution.Precedence
import CommitSeal.Proofs.Resolution.Scan
import CommitSeal.Proofs.AgentKey.Authentication
import CommitSeal.Proofs.SExpr.Injective
import CommitSeal.Proofs.AgentKey.Binding
import CommitSeal.Proofs.AgentKey.Matching
import CommitSeal.Proofs.AgentKey.Modulus
import CommitSeal.Proofs.AgentKey.Outcome
import CommitSeal.Proofs.AgentKey.Repetition
import CommitSeal.Proofs.Signing.Agreement
import CommitSeal.Proofs.Signing.Preview
import CommitSeal.Proofs.Signing.Opening
import CommitSeal.Proofs.CommitHeader
import CommitSeal.Proofs.SExpr.KeyFile
import CommitSeal.Proofs.KeyStore.FirstMatch
import CommitSeal.Proofs.KeyStore.Rebuilding
import CommitSeal.Proofs.Signing.Economy
import CommitSeal.Proofs.SExpr.Padding
import CommitSeal.Proofs.SExpr.Agreement
import CommitSeal.Proofs.S2k
import CommitSeal.Proofs.Packet.Tiling
import CommitSeal.Proofs.KeyId.Matching
import CommitSeal.Proofs.FileTree.Order
import CommitSeal.Proofs.Packet.Position
import CommitSeal.Proofs.SExpr.Escapes
