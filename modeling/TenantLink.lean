import TenantLink.Text.Utf8
import TenantLink.Text.Blank
import TenantLink.Text.Word
import TenantLink.Text.Quoted
import TenantLink.Text.Padding
import TenantLink.Number.Shortest
import TenantLink.Json.Printer
import TenantLink.Http.Header
import TenantLink.Http.Method
import TenantLink.Http.Status
import TenantLink.Time.Span
import TenantLink.Url.Domain
import TenantLink.Url.Parser
import TenantLink.Time.Timestamp
import TenantLink.Disclosure.Envelope
import TenantLink.Session
import TenantLink.Config
import TenantLink.Tenant.Scan
import TenantLink.Request
import TenantLink.Response
import TenantLink.Job.Wire
import TenantLink.Job.Store
import TenantLink.Toast
import TenantLink.Backoff
import TenantLink.Events.Parser
import TenantLink.Http.CookieJar
import TenantLink.Client.Retry
import TenantLink.Updates.Supervisor
import TenantLink.Updates.Feed
import TenantLink.Updates.Watch
import TenantLink.Proofs.Client.Reception
import TenantLink.Proofs.Client.Attempts
import TenantLink.Proofs.Client.Isolation
import TenantLink.Proofs.Updates.Interleaving
import TenantLink.Proofs.Events.Chunks
import TenantLink.Proofs.Client.Transmission
import TenantLink.Proofs.Client.Trace
import TenantLink.Proofs.Client.Disclosure
import TenantLink.Proofs.Updates.Intake
import TenantLink.Proofs.Json.Grammar
import TenantLink.Proofs.Json.Tokens
import TenantLink.Proofs.Json.Reading
import TenantLink.Proofs.Json.Places
import TenantLink.Proofs.Json.Pointers
import TenantLink.Proofs.Tenant.Verdict
import TenantLink.Proofs.Tenant.Bodies
import TenantLink.Proofs.Tenant.FirstViolation
import TenantLink.Proofs.Client.Deadline
import TenantLink.Proofs.Text.Utf8
import TenantLink.Proofs.Text.Blank
import TenantLink.Proofs.Text.ByteOrder
import TenantLink.Proofs.Json.Printing
import TenantLink.Proofs.Disclosure.Envelope
import TenantLink.Proofs.Events.Blocks
import TenantLink.Proofs.Updates.Journal
import TenantLink.Proofs.Updates.Connecting
import TenantLink.Proofs.Updates.Timing
import TenantLink.Proofs.Updates.Delivery
import TenantLink.Proofs.Updates.Resumption
import TenantLink.Proofs.Updates.LastId
import TenantLink.Proofs.Updates.Stranding
import TenantLink.Proofs.Application.Renewal
import TenantLink.Proofs.Updates.Opening
import TenantLink.Proofs.Updates.Closing
import TenantLink.Proofs.Client.FailOpen
import TenantLink.Proofs.Client.StoredToken
import TenantLink.Proofs.Url.Origin
import TenantLink.Proofs.Client.Origin
import TenantLink.Proofs.Client.KeptToken
import TenantLink.Proofs.Url.Segments
import TenantLink.Proofs.Client.Endpoint
import TenantLink.Proofs.Events.LongLines
import TenantLink.Proofs.Events.Buffer
import TenantLink.Proofs.Updates.Endings
import TenantLink.Proofs.Job.Recency
import TenantLink.Proofs.Text.Ascii
import TenantLink.Proofs.Text.Folding
import TenantLink.Proofs.Pattern.Search
import TenantLink.Proofs.Pattern.Languages
import TenantLink.Proofs.Pattern.Stability
import TenantLink.Proofs.Disclosure.Markers
import TenantLink.Proofs.Disclosure.Disguise
import TenantLink.Proofs.Time.Calendar
import TenantLink.Proofs.Time.Timestamp
import TenantLink.Proofs.Job.Wire
