import GoauthServer.Lib.TokenBucket
import GoauthServer.Repository.Revocation
import GoauthServer.Safety.AccessRevocation
import GoauthServer.Safety.AdminRetry
import GoauthServer.Safety.AuditTrail
import GoauthServer.Safety.BearerReaders
import GoauthServer.Safety.CleanedRequests
import GoauthServer.Safety.Cleanup
import GoauthServer.Safety.ClientEdits
import GoauthServer.Safety.ClientNames
import GoauthServer.Safety.ClientSecrets
import GoauthServer.Safety.CodeRace
import GoauthServer.Safety.Deactivation
import GoauthServer.Safety.DefaultClient
import GoauthServer.Safety.DeletedClients
import GoauthServer.Safety.DeletedProviders
import GoauthServer.Safety.Durations
import GoauthServer.Safety.ExchangeSpec
import GoauthServer.Safety.FailedRequests
import GoauthServer.Safety.Families
import GoauthServer.Safety.GrantTypes
import GoauthServer.Safety.Identities
import GoauthServer.Safety.Lifetime
import GoauthServer.Safety.LockKept
import GoauthServer.Safety.Lockout
import GoauthServer.Safety.LockoutRace
import GoauthServer.Safety.Mediation
import GoauthServer.Safety.OfflineAccess
import GoauthServer.Safety.Pagination
import GoauthServer.Safety.PasswordChange
import GoauthServer.Safety.PasswordDebt
import GoauthServer.Safety.PasswordPolicy
import GoauthServer.Safety.PasswordRace
import GoauthServer.Safety.Provenance
import GoauthServer.Safety.ProviderConfinement
import GoauthServer.Safety.ProviderEdits
import GoauthServer.Safety.ProviderRows
import GoauthServer.Safety.ProviderSecrets
import GoauthServer.Safety.RateBudget
import GoauthServer.Safety.RateLimitPurge
import GoauthServer.Safety.RedirectUris
import GoauthServer.Safety.Respelling
import GoauthServer.Safety.RevocationRace
import GoauthServer.Safety.RevokeOwnership
import GoauthServer.Safety.RotationRace
import GoauthServer.Safety.RotationSpec
import GoauthServer.Safety.SessionCookie
import GoauthServer.Safety.SessionEnd
import GoauthServer.Safety.SessionListings
import GoauthServer.Safety.SharedKey
import GoauthServer.Safety.SingleSession
import GoauthServer.Safety.StoredHashes
import GoauthServer.Safety.StoredSecrets
import GoauthServer.Safety.TokenOracle
import GoauthServer.Safety.TokenRevocation
import GoauthServer.Safety.Unlock
import GoauthServer.Service.Bootstrap
import GoauthServer.Service.Config
import GoauthServer.Service.Provider
import GoauthServer.Spec.Audit
import GoauthServer.Spec.CleanedGrants
import GoauthServer.Spec.Cleanup
import GoauthServer.Spec.Unseen
import GoauthServer.Transport.AdminHandlers
import GoauthServer.Transport.RateLimit
import GoauthServer.Transport.Routes
