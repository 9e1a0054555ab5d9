import Xcp.Library.Transition
import Xcp.Library.Checked
import Xcp.Library.Evm
import Xcp.Library.Merkle
import Xcp.Library.Python
import Xcp.Library.PythonText
import Xcp.Library.Regex
import Xcp.Library.Ip
import Xcp.Library.Url
import Xcp.Library.Dict
import Xcp.Library.Eth
import Xcp.Library.PrefixCode
import Xcp.Library.Canonical
import Xcp.Library.Ideal
import Xcp.Library.Dumps
import Xcp.Library.JavaScript
import Xcp.Library.FirstMax
import Xcp.Library.Floor
import Xcp.Library.TokenBucket
import Xcp.Library.Wildcard
import Xcp.Library.Base64
import Xcp.Library.Loads
import Xcp.Library.Sha256
import Xcp.Library.Keyed
import Xcp.Library.Strip
import Xcp.Library.Digits
import Xcp.Library.Decode
import Xcp.Federation.Ledger
import Xcp.Contracts.NodeRegistry
import Xcp.Contracts.SessionRegistry
import Xcp.Protocol.Identity
import Xcp.Protocol.Version
import Xcp.Policy.Language
import Xcp.Security.ArgFirewall
import Xcp.Security.Egress
import Xcp.Trust.Tiers
import Xcp.Federation.Tier
import Xcp.Federation.Node
import Xcp.Federation.Identity
import Xcp.Federation.Record
import Xcp.Federation.Cluster
import Xcp.Federation.Routing
import Xcp.Federation.Delegation
import Xcp.Verifier.Sessions
import Xcp.Client.Mandate
import Xcp.Verifier.Mandate
import Xcp.Gateway.Session
import Xcp.Gateway.Gates
import Xcp.Gateway.Calls
import Xcp.Gateway.Tickets
import Xcp.Gateway.Peering
import Xcp.Gateway.Mandates
import Xcp.Receipts.Receipt
import Xcp.Receipts.Escrow
import Xcp.TrustFirewall.Limits
import Xcp.TrustFirewall.Stateless
import Xcp.TrustFirewall.Firewall
import Xcp.TrustFirewall.Delegation
import Xcp.TrustFirewall.OauthBridge
import Xcp.Sdk.TypeScript
import Xcp.Sdk.Go
import Xcp.Gateway.Bindings
import Xcp.Proofs.DoubleClaim
import Xcp.Proofs.SessionAuthority
import Xcp.Proofs.VerifierKillSwitch
import Xcp.Proofs.GatewayKillSwitch
import Xcp.Proofs.FederationRevocation
import Xcp.Proofs.Mediation
import Xcp.Proofs.Attribution
import Xcp.Proofs.PeerDomain
import Xcp.Proofs.DelegationRevocation
import Xcp.Proofs.EscrowRelease
import Xcp.Proofs.DeliveryEvidence
import Xcp.Proofs.MandateSoundness
import Xcp.Proofs.MandateGate
import Xcp.Proofs.MandateAgreement
import Xcp.Proofs.Evidence
import Xcp.Proofs.RoutingLedger
import Xcp.Proofs.TaskBinding
import Xcp.Proofs.DelegationAdmission
import Xcp.Proofs.ClusterAccess
import Xcp.Proofs.CertDowngrade
import Xcp.Proofs.AuthenticatedSequence
import Xcp.Proofs.PeerTable
import Xcp.Proofs.TransitiveTrust
import Xcp.Proofs.PolicySoundness
import Xcp.Proofs.ShadowedPermits
import Xcp.Proofs.PolicyText
import Xcp.Proofs.Reversibility
import Xcp.Proofs.Entitlements
import Xcp.Proofs.EmployerScopes
import Xcp.Proofs.LimiterRates
import Xcp.Proofs.InFlight
import Xcp.Proofs.LimiterTable
import Xcp.Proofs.Credentials
import Xcp.Proofs.CallBinding
import Xcp.Proofs.FirewallRoutes
import Xcp.Proofs.FirewallGrant
import Xcp.Proofs.FirewallRaises
import Xcp.Proofs.ChainAuthors
import Xcp.Proofs.IssuedChains
import Xcp.Proofs.OauthNarrowing
import Xcp.Proofs.IdentityGrammar
import Xcp.Proofs.ScopeAgreement
import Xcp.Proofs.TierAgreement
import Xcp.Proofs.VersionAgreement
import Xcp.Proofs.CertRotation
import Xcp.Proofs.Solvency
import Xcp.Proofs.NodeTransitions
import Xcp.Proofs.BondExit
import Xcp.Proofs.LedgerIntegrity
import Xcp.Proofs.RevocationOrigin
import Xcp.Proofs.TicketRoundTrip
import Xcp.Proofs.NodeSessions
import Xcp.Proofs.NodeIdentityBinding
import Xcp.Proofs.TableOwnership
import Xcp.Proofs.SharedSessions
import Xcp.Proofs.VerdictAgreement
import Xcp.Library.Runs
import Xcp.Library.Cipher
import Xcp.Library.Delimited
import Xcp.Library.StringLiteral
import Xcp.Library.Display
import Xcp.Library.Skeleton
import Xcp.Vault.Sealed
import Xcp.Privacy.Retention
import Xcp.Privacy.Shredding
import Xcp.Privacy.Erasure
import Xcp.Security.SupplyChain
import Xcp.Engine.Features
import Xcp.Connectors.Sources
import Xcp.Connectors.Catalog
import Xcp.Connectors.WrapTemplate
import Xcp.Connectors.Wrap
import Xcp.Proofs.SealedCredentials
import Xcp.Proofs.ChainHistory
import Xcp.Proofs.DelegatedCredentials
import Xcp.Proofs.ShreddedKeys
import Xcp.Proofs.ErasureReports
import Xcp.Proofs.SignedTools
import Xcp.Proofs.ArgumentScan
import Xcp.Proofs.WrapperFidelity
import Xcp.Proofs.CuratedPrecedence
import Xcp.Proofs.BlindFeatures
import Xcp.Proofs.ScopeSeparation
import Xcp.Proofs.MembershipTrees
import Xcp.Proofs.OnlyLeaves
import Xcp.Proofs.MembershipChecks
import Xcp.Proofs.RouteChoice
import Xcp.Proofs.EscrowSafeguards
import Xcp.Proofs.CallChains
import Xcp.Library.Paths
import Xcp.Vault.Refs
import Xcp.Proofs.SecretRefs
import Xcp.Library.StableSort
import Xcp.Library.Occurrences
import Xcp.Library.Dominance
import Xcp.Library.Thrift
import Xcp.Library.ShortCircuit
import Xcp.Library.Templates
import Xcp.Library.PathReading
import Xcp.Security.Sandbox
import Xcp.Engine.Questions
import Xcp.Engine.Cascade
import Xcp.Proofs.RetentionEnds
import Xcp.Proofs.ManifestOrder
import Xcp.Proofs.SafeEval
import Xcp.Proofs.PathConfinement
import Xcp.Proofs.ToolNames
import Xcp.Proofs.Visits
import Xcp.Proofs.CacheTransparency
import Xcp.Proofs.Starvation
import Xcp.Proofs.ScrutinyMonotone
import Xcp.Proofs.CommandRisk
import Xcp.Proofs.MembersPeer
