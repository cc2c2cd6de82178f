import Latchkey.Account
import Latchkey.Account.AttemptRecord
import Latchkey.Account.DisplayName
import Latchkey.Account.Email
import Latchkey.Account.Email.Json
import Latchkey.Account.Id
import Latchkey.Account.Role
import Latchkey.Api
import Latchkey.Base64
import Latchkey.Cookie
import Latchkey.Decimal.Binary64
import Latchkey.Decimal.Shortest
import Latchkey.Deployment
import Latchkey.Dialogue
import Latchkey.Digest.Argon2
import Latchkey.Digest.Argon2Block
import Latchkey.Digest.Blake2b
import Latchkey.Digest.Sha256
import Latchkey.Digest.Words
import Latchkey.Failure
import Latchkey.Failure.Database
import Latchkey.Google.Credentials
import Latchkey.Google.Exchange
import Latchkey.Google.LooseBool
import Latchkey.Http.Client
import Latchkey.Http.Header
import Latchkey.Http.MediaType
import Latchkey.Http.Request
import Latchkey.Http.Response
import Latchkey.Http.Status
import Latchkey.Http.Target
import Latchkey.Json.Basic
import Latchkey.Json.Printer
import Latchkey.Json.Reader
import Latchkey.Json.Record
import Latchkey.Lockout
import Latchkey.Password.Hashing
import Latchkey.Password.Phc
import Latchkey.Password.Policy
import Latchkey.Problem
import Latchkey.Secret
import Latchkey.Service
import Latchkey.Service.Local
import Latchkey.Service.Rehearsal
import Latchkey.Settings
import Latchkey.SignIn.Password
import Latchkey.SignIn.Provider
import Latchkey.SignIn.Registration
import Latchkey.SignIn.Renewal
import Latchkey.Store.ByEmail
import Latchkey.Store.Memory
import Latchkey.Store.Postgres
import Latchkey.Store.Postgres.Row
import Latchkey.Text.Blank
import Latchkey.Text.CaseContext
import Latchkey.Text.CaseRuns
import Latchkey.Text.Hex
import Latchkey.Text.Letter
import Latchkey.Text.LetterRanges
import Latchkey.Text.Lowercase
import Latchkey.Text.Normal
import Latchkey.Text.Normal.CombiningClasses
import Latchkey.Text.Normal.Compositions
import Latchkey.Text.Normal.Decompositions
import Latchkey.Text.Percent
import Latchkey.Text.Printable
import Latchkey.Text.Quoted
import Latchkey.Text.Ranges
import Latchkey.Text.Utf8
import Latchkey.Time.Date
import Latchkey.Time.Instant
import Latchkey.Time.Span
import Latchkey.Time.Text
import Latchkey.Token.Basic
import Latchkey.Token.Claims
import Latchkey.Token.Header
import Latchkey.Token.Issuer
import Latchkey.Proofs.Dialogue.Contract
import Latchkey.Proofs.Dialogue.Interleaving
import Latchkey.Proofs.Lockout.Step
import Latchkey.Proofs.Store.Answers
import Latchkey.Proofs.Lockout.Attempts
import Latchkey.Proofs.Lockout.Consistency
import Latchkey.Proofs.SignIn.Conduct
import Latchkey.Proofs.Dialogue.Length
import Latchkey.Proofs.SignIn.Length
import Latchkey.Proofs.Store.NewUsers
import Latchkey.Proofs.SignIn.Concurrent
import Latchkey.Proofs.SignIn.Ledger
import Latchkey.Proofs.SignIn.Schedule
import Latchkey.Proofs.SignIn.LateLock
import Latchkey.Proofs.SignIn.LateExpiry
import Latchkey.Proofs.Lockout.Machine
import Latchkey.Proofs.Service.Yields
import Latchkey.Proofs.SignIn.Alike
import Latchkey.Proofs.SignIn.Refinement
import Latchkey.Proofs.Time.Clock
import Latchkey.Proofs.Lockout.Pace
import Latchkey.Proofs.SignIn.RateLimit
import Latchkey.Proofs.Dialogue.Schedule
import Latchkey.Proofs.Lockout.Exchanges
import Latchkey.Proofs.Lockout.Operation
import Latchkey.Proofs.Lockout.Interleaved
import Latchkey.Proofs.Lockout.Tallies
import Latchkey.Proofs.Lockout.StoredRows
import Latchkey.Proofs.Lockout.LocksKept
import Latchkey.Proofs.Lockout.Deactivation
import Latchkey.Proofs.Text.Cut
import Latchkey.Proofs.Text.Trim
import Latchkey.Proofs.Text.Lowercase
import Latchkey.Proofs.Text.Hex
import Latchkey.Proofs.Account.IdText
import Latchkey.Proofs.Account.NormalEmail
import Latchkey.Proofs.Json.Record
import Latchkey.Proofs.Token.Sealing
import Latchkey.Proofs.Token.Acceptance
import Latchkey.Proofs.Token.RoundTrip
import Latchkey.Proofs.Decimal.Nearest
import Latchkey.Proofs.Result
import Latchkey.Proofs.Json.Found
import Latchkey.Proofs.Token.Genuine
import Latchkey.Proofs.SignIn.Renewal
import Latchkey.Proofs.Store.Keeping
import Latchkey.Proofs.Dialogue.Alone
import Latchkey.Proofs.Service.Manner
import Latchkey.Proofs.Service.Company
import Latchkey.Proofs.SignIn.Visits
import Latchkey.Proofs.SignIn.WithCode
import Latchkey.Proofs.SignIn.AllOrNothing
import Latchkey.Proofs.SignIn.Registered
import Latchkey.Proofs.Text.Percent
import Latchkey.Proofs.Google.ConsentUrl
import Latchkey.Proofs.Json.Refined
import Latchkey.Proofs.Google.Exchange
import Latchkey.Proofs.Http.Header
import Latchkey.Proofs.Cookie
import Latchkey.Proofs.Api.Callback
import Latchkey.Proofs.Api.Me
import Latchkey.Proofs.Store.Operations
import Latchkey.Proofs.Dialogue.Teller
import Latchkey.Proofs.Lockout.Client
import Latchkey.Proofs.Store.Transaction
import Latchkey.Proofs.Password.Hashing
import Latchkey.Proofs.Password.Pepper
import Latchkey.Proofs.Deployment
import Latchkey.Proofs.Failure.Redaction
import Latchkey.Proofs.Store.RowMapping
import Latchkey.Proofs.Text.AsciiCase
import Latchkey.Proofs.Account.EmailGrammar
import Latchkey.Proofs.Time.Saturation
import Latchkey.Proofs.Expiry
import Latchkey.Proofs.Store.Place
import Latchkey.Proofs.Store.Contention
import Latchkey.Proofs.Lockout.Contention
import Latchkey.Proofs.Cookie.Lookup
import Latchkey.Proofs.Json.Integer
import Latchkey.Proofs.Google.LooseBool
import Latchkey.Proofs.Base64
import Latchkey.Proofs.Account.IdSpelling
import Latchkey.Proofs.Text.Normal.Order
import Latchkey.Proofs.Text.Normal.Tables
import Latchkey.Proofs.Text.Normal.Composition
import Latchkey.Proofs.Text.Normal.Closure
import Latchkey.Proofs.Account.NameForm
