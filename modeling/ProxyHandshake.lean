import ProxyHandshake.Exchange.Together
import ProxyHandshake.Main
import ProxyHandshake.Rehearsal.Script
import ProxyHandshake.Rehearsal.Tally
import ProxyHandshake.Proofs.Exchange.Course
import ProxyHandshake.Proofs.Exchange.Stages
import ProxyHandshake.Proofs.Exchange.Alike
import ProxyHandshake.Proofs.Exchange.Answer
import ProxyHandshake.Proofs.Exchange.Target
import ProxyHandshake.Proofs.Exchange.Deadline
import ProxyHandshake.Proofs.Exchange.Counters
import ProxyHandshake.Proofs.Exchange.Exclusion
import ProxyHandshake.Proofs.Exchange.History
import ProxyHandshake.Proofs.Exchange.ProxyHeaders
import ProxyHandshake.Proofs.Exchange.Rejection
import ProxyHandshake.Proofs.Exchange.Secrets
import ProxyHandshake.Proofs.Exchange.SingleFlight
import ProxyHandshake.Proofs.Exchange.Alone
import ProxyHandshake.Proofs.Challenge.Combining
import ProxyHandshake.Proofs.Challenge.Framing
import ProxyHandshake.Proofs.Challenge.Malformed
import ProxyHandshake.Proofs.Challenge.Spacing
import ProxyHandshake.Proofs.CacheRun
import ProxyHandshake.Proofs.Connect.Position
import ProxyHandshake.Proofs.Utf8
import ProxyHandshake.Proofs.Connect.Head
import ProxyHandshake.Proofs.Connect.Refusal
import ProxyHandshake.Proofs.Connect.Limit
import ProxyHandshake.Proofs.Fetch
import ProxyHandshake.Proofs.Authorization
import ProxyHandshake.Proofs.Principal
import ProxyHandshake.Proofs.Spelling
import ProxyHandshake.Proofs.ExportedLocation
import ProxyHandshake.Proofs.FileMark
import ProxyHandshake.Proofs.ProgressRun
import ProxyHandshake.Proofs.PasswordSources
import ProxyHandshake.Proofs.ProxyUrl
import ProxyHandshake.Proofs.ProxyKey
