import BearerAuth.Issuer.Provider
import BearerAuth.Issuer.TokenBuilder
import BearerAuth.Simulation.Session
import BearerAuth.Verifier.Environment
import BearerAuth.Verifier.LazyStart
import BearerAuth.Verifier.Verifier
import BearerAuth.Proofs.Cache.Cancellation
import BearerAuth.Proofs.Claim.Positions
import BearerAuth.Proofs.Key.Loading
import BearerAuth.Proofs.Validation.Acceptance
import BearerAuth.Proofs.Validation.Refreshes
import BearerAuth.Proofs.Validation.Agreement
import BearerAuth.Proofs.Validation.ClaimDecision
import BearerAuth.Proofs.Validation.Payload
import BearerAuth.Proofs.Validation.StageOrder
import BearerAuth.Proofs.Json.Printed
import BearerAuth.Proofs.Json.RoundTrip
import BearerAuth.Proofs.Issuer.Signed
import BearerAuth.Proofs.Issuer.Setters
import BearerAuth.Proofs.Issuer.Acceptance
import BearerAuth.Proofs.Claim.ExpiryTime
import BearerAuth.Proofs.Token.Grammar
import BearerAuth.Proofs.Cache.Cadence
import BearerAuth.Proofs.Verifier.Loading
import BearerAuth.Proofs.Verifier.Startup
import BearerAuth.Proofs.Verifier.LazyStart
import BearerAuth.Proofs.Text.ByteOrder
import BearerAuth.Proofs.Claim.FirstFault
import BearerAuth.Proofs.Claim.Growth
import BearerAuth.Proofs.Claim.Satisfiable
import BearerAuth.Proofs.Key.Tolerance
import BearerAuth.Proofs.Claim.Paths
import BearerAuth.Proofs.Simulation.Replay
import BearerAuth.Proofs.Verifier.Environment
import BearerAuth.Proofs.Validation.Cancelled
import BearerAuth.Proofs.Verifier.Discovery
