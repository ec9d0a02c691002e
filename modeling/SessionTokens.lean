import SessionTokens.CallContext.Timeline
import SessionTokens.Http.Router
import SessionTokens.Main
import SessionTokens.Store.Memory
import SessionTokens.Store.Table
import SessionTokens.Proofs.Token.Acceptance
import SessionTokens.Proofs.TokenService.Logins
import SessionTokens.Proofs.Store.Memory
import SessionTokens.Proofs.World
import SessionTokens.Proofs.TokenService.Opening
import SessionTokens.Proofs.TokenService.Runs
import SessionTokens.Proofs.Store.Interchange
import SessionTokens.Proofs.Http.Interleaving
import SessionTokens.Proofs.Http.Logins
import SessionTokens.Proofs.Http.Visits
import SessionTokens.Proofs.Store.History
import SessionTokens.Proofs.Http.Failures
import SessionTokens.Proofs.Http.Bearer
import SessionTokens.Proofs.Http.Guard
import SessionTokens.Proofs.Http.Renewal
import SessionTokens.Proofs.CallContext.Life
import SessionTokens.Proofs.TokenService.AllOrNothing
import SessionTokens.Proofs.KeyMaterial
import SessionTokens.Proofs.Session.Roundtrip
import SessionTokens.Proofs.Settings.Checks
import SessionTokens.Proofs.Settings.Soundness
import SessionTokens.Proofs.Settings.Bounds
import SessionTokens.Proofs.Time.DayCount
import SessionTokens.Proofs.Time.Spelling
import SessionTokens.Proofs.Store.Rows
import SessionTokens.Proofs.TokenService.Lifetimes
import SessionTokens.Proofs.Payload.Expiry
import SessionTokens.Proofs.Http.Roles
import SessionTokens.Proofs.Http.RequestIds
import SessionTokens.Proofs.Token.Decoding
import SessionTokens.Proofs.Http.Schemes
import SessionTokens.Proofs.Store.Keys
import SessionTokens.Proofs.TokenService.Draws
