import SkinRelay.Account
import SkinRelay.Base64
import SkinRelay.Batch
import SkinRelay.Batch.Queue
import SkinRelay.Bytes
import SkinRelay.Client
import SkinRelay.Expiring
import SkinRelay.Flight
import SkinRelay.Json.Format
import SkinRelay.Json.Numeral
import SkinRelay.Json.Reader
import SkinRelay.Json.Record
import SkinRelay.Json.Scan
import SkinRelay.Json.Schema
import SkinRelay.Json.Skip
import SkinRelay.Json.Value
import SkinRelay.KnownAccounts
import SkinRelay.LookupError
import SkinRelay.Pipeline
import SkinRelay.Profile
import SkinRelay.Proofs.Base64
import SkinRelay.Proofs.Batch.Accounting
import SkinRelay.Proofs.Batch.Calls
import SkinRelay.Proofs.Batch.Chunks
import SkinRelay.Proofs.Batch.Closing
import SkinRelay.Proofs.Batch.Conservation
import SkinRelay.Proofs.Batch.Delivery
import SkinRelay.Proofs.Batch.Drain
import SkinRelay.Proofs.Batch.Fates
import SkinRelay.Proofs.Batch.Honesty
import SkinRelay.Proofs.Batch.Moves
import SkinRelay.Proofs.Batch.Notification
import SkinRelay.Proofs.Batch.Pace
import SkinRelay.Proofs.Batch.Pending
import SkinRelay.Proofs.Batch.Places
import SkinRelay.Proofs.Batch.Rounds
import SkinRelay.Proofs.Batch.Stops
import SkinRelay.Proofs.Batch.Transparency
import SkinRelay.Proofs.Batch.UnderWay
import SkinRelay.Proofs.Caches
import SkinRelay.Proofs.Directory
import SkinRelay.Proofs.Expiring
import SkinRelay.Proofs.Flight.Coherence
import SkinRelay.Proofs.Flight.Freshness
import SkinRelay.Proofs.Flight.Moves
import SkinRelay.Proofs.Flight.Promise
import SkinRelay.Proofs.Flight.Sharing
import SkinRelay.Proofs.Forward
import SkinRelay.Proofs.Gateway.RateLimits
import SkinRelay.Proofs.Gateway.Visits
import SkinRelay.Proofs.History
import SkinRelay.Proofs.Json.Number
import SkinRelay.Proofs.Json.RoundTrip
import SkinRelay.Proofs.Json.Text
import SkinRelay.Proofs.KnownAccounts.Lookups
import SkinRelay.Proofs.KnownAccounts.Recall
import SkinRelay.Proofs.Pipeline.Errors
import SkinRelay.Proofs.Pipeline.Expiry
import SkinRelay.Proofs.Pipeline.Failures
import SkinRelay.Proofs.Pipeline.Moves
import SkinRelay.Proofs.Pipeline.Owners
import SkinRelay.Proofs.Pipeline.Parts
import SkinRelay.Proofs.Pipeline.Progress
import SkinRelay.Proofs.Pipeline.Quota
import SkinRelay.Proofs.Pipeline.Requests
import SkinRelay.Proofs.Pipeline.Truth
import SkinRelay.Proofs.Pipeline.Waiters
import SkinRelay.Proofs.Router
import SkinRelay.Proofs.Store.Contract
import SkinRelay.Proofs.Table
import SkinRelay.Proofs.Text.Lowercase
import SkinRelay.Proofs.Text.Percent
import SkinRelay.Proofs.Text.Utf8
import SkinRelay.Proofs.Textures
import SkinRelay.RemoteError
import SkinRelay.Resolver
import SkinRelay.Router
import SkinRelay.Settings
import SkinRelay.Simulation.Accounts
import SkinRelay.Simulation.Agenda
import SkinRelay.Simulation.Batches
import SkinRelay.Simulation.Flights
import SkinRelay.Simulation.Lookups
import SkinRelay.Simulation.Profiles
import SkinRelay.Simulation.Script
import SkinRelay.Simulation.Service
import SkinRelay.Simulation.Wire
import SkinRelay.Stats
import SkinRelay.Store
import SkinRelay.Store.Database
import SkinRelay.Store.Memory
import SkinRelay.Table
import SkinRelay.Text.Blank
import SkinRelay.Text.CaseTable
import SkinRelay.Text.CodePoints
import SkinRelay.Text.Composition
import SkinRelay.Text.CompositionTable
import SkinRelay.Text.EscapedTable
import SkinRelay.Text.Lowercase
import SkinRelay.Text.Percent
import SkinRelay.Text.Quoted
import SkinRelay.Text.Rows
import SkinRelay.Text.Split
import SkinRelay.Text.Utf8
import SkinRelay.Textures
import SkinRelay.TexturesCache
import SkinRelay.Time
import SkinRelay.Url
import SkinRelay.Url.Domain
import SkinRelay.Url.Domain.DirectionTable
import SkinRelay.Url.Domain.JoiningTable
import SkinRelay.Url.Domain.Label
import SkinRelay.Url.Domain.MappingTable
import SkinRelay.Url.Host
import SkinRelay.Url.Punycode
import SkinRelay.Username
import SkinRelay.Proofs.Batch.Throttle
import SkinRelay.Proofs.Store.Interchange
import SkinRelay.Proofs.TexturesCache.Freshness
import SkinRelay.Proofs.Username
import SkinRelay.Proofs.Gateway.Names
import SkinRelay.Proofs.Base64.Acceptance
import SkinRelay.Proofs.Textures.Acceptance
import SkinRelay.Proofs.Client.Bodies
import SkinRelay.Proofs.Pipeline.Provenance
import SkinRelay.Proofs.Gateway.Profiles
import SkinRelay.Proofs.Gateway.Passthrough
import SkinRelay.Proofs.Batch.Counters
import SkinRelay.Proofs.Pipeline.Counters
import SkinRelay.Proofs.Settings
import SkinRelay.Proofs.Url.Authority
import SkinRelay.Proofs.Url.Segments
import SkinRelay.Proofs.Url.Parts
import SkinRelay.Proofs.Client.Endpoint
import SkinRelay.Proofs.Client.Replies
import SkinRelay.Proofs.Settings.Empty
import SkinRelay.Proofs.BackgroundTask
import SkinRelay.Proofs.Batch.Buffers
