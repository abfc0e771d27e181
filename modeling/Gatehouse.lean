import Gatehouse.Arguments
import Gatehouse.Cache
import Gatehouse.Calendar
import Gatehouse.Capability.Basic
import Gatehouse.Capability.Set
import Gatehouse.Clock
import Gatehouse.Command.Basic
import Gatehouse.Command.Builtin
import Gatehouse.Command.Descriptor
import Gatehouse.Command.Registry
import Gatehouse.Command.Script
import Gatehouse.Config.Basic
import Gatehouse.Config.Problem
import Gatehouse.Config.Reader
import Gatehouse.Console
import Gatehouse.Context
import Gatehouse.Decimal.Shortest
import Gatehouse.Dispatch.Address
import Gatehouse.Dispatch.Basic
import Gatehouse.Dispatch.Outcome
import Gatehouse.Endpoint
import Gatehouse.Entity
import Gatehouse.Failure
import Gatehouse.Feed
import Gatehouse.FileTree
import Gatehouse.Gate.Basic
import Gatehouse.Gate.Builtin
import Gatehouse.Gate.Factory
import Gatehouse.Gate.Probe
import Gatehouse.Gate.Spec
import Gatehouse.Id
import Gatehouse.Json.Basic
import Gatehouse.Json.Number
import Gatehouse.Json.Reader
import Gatehouse.Json.Record
import Gatehouse.Json.Writer
import Gatehouse.Locale.Catalog
import Gatehouse.Locale.Dutch
import Gatehouse.Locale.English
import Gatehouse.Locale.Languages
import Gatehouse.Locale.Template
import Gatehouse.Main
import Gatehouse.Mention
import Gatehouse.Message.Basic
import Gatehouse.Message.Wire
import Gatehouse.Metrics.Basic
import Gatehouse.Metrics.Exposition
import Gatehouse.Metrics.Series
import Gatehouse.Numeral
import Gatehouse.Outbox
import Gatehouse.Permission
import Gatehouse.Proofs.Address.Aliases
import Gatehouse.Proofs.Address.Forms
import Gatehouse.Proofs.Address.Mentions
import Gatehouse.Proofs.Address.Remainders
import Gatehouse.Proofs.Capability.Names
import Gatehouse.Proofs.Command.Atomicity
import Gatehouse.Proofs.Command.Clearing
import Gatehouse.Proofs.Command.Conduct
import Gatehouse.Proofs.Command.Frames
import Gatehouse.Proofs.Command.Purge
import Gatehouse.Proofs.Command.Ranking
import Gatehouse.Proofs.Command.Registration
import Gatehouse.Proofs.Command.Triggers
import Gatehouse.Proofs.Config.Records
import Gatehouse.Proofs.Config.Seeding
import Gatehouse.Proofs.Config.Soundness
import Gatehouse.Proofs.Config.Starting
import Gatehouse.Proofs.Console.Channels
import Gatehouse.Proofs.Console.Failures
import Gatehouse.Proofs.Console.Freshness
import Gatehouse.Proofs.Console.History
import Gatehouse.Proofs.Console.Output
import Gatehouse.Proofs.Dispatch.Calls
import Gatehouse.Proofs.Dispatch.Conservation
import Gatehouse.Proofs.Dispatch.Containment
import Gatehouse.Proofs.Dispatch.Coverage
import Gatehouse.Proofs.Dispatch.Labels
import Gatehouse.Proofs.Dispatch.Passages
import Gatehouse.Proofs.Dispatch.Silence
import Gatehouse.Proofs.Dispatch.Stages
import Gatehouse.Proofs.Gate.Askings
import Gatehouse.Proofs.Gate.DirectMessages
import Gatehouse.Proofs.Gate.Grammar
import Gatehouse.Proofs.Gate.Grants
import Gatehouse.Proofs.Gate.Rates
import Gatehouse.Proofs.Gate.Requirements
import Gatehouse.Proofs.Gate.Verdicts
import Gatehouse.Proofs.Locale.Flattening
import Gatehouse.Proofs.Locale.References
import Gatehouse.Proofs.Locale.Sources
import Gatehouse.Proofs.Message.RoundTrip
import Gatehouse.Proofs.Metrics.Tally
import Gatehouse.Proofs.Readings
import Gatehouse.Proofs.Session.Isolation
import Gatehouse.Proofs.Session.Moves
import Gatehouse.Proofs.Session.Notices
import Gatehouse.Proofs.Session.Overflow
import Gatehouse.Proofs.Session.Reach
import Gatehouse.Proofs.Session.Removal
import Gatehouse.Proofs.Session.Stream
import Gatehouse.Proofs.Session.Throttles
import Gatehouse.Proofs.Store.Answers
import Gatehouse.Proofs.Store.Expiry
import Gatehouse.Proofs.Store.Staleness
import Gatehouse.Proofs.Throttle.Buckets
import Gatehouse.Proofs.Throttle.Bursts
import Gatehouse.Proofs.Throttle.Refinement
import Gatehouse.Proofs.Throttle.Retry
import Gatehouse.Proofs.Throttle.Separation
import Gatehouse.Proofs.Throttle.Windows
import Gatehouse.Session
import Gatehouse.Settings
import Gatehouse.Store.Basic
import Gatehouse.Store.Cached
import Gatehouse.Table
import Gatehouse.Text.Blank
import Gatehouse.Text.Casing
import Gatehouse.Text.Lowercase
import Gatehouse.Text.Quoted
import Gatehouse.Text.Unprintable
import Gatehouse.Throttle
import Gatehouse.Toml.Basic
import Gatehouse.Toml.Datetime
import Gatehouse.Toml.Document
import Gatehouse.Toml.Reader
import Gatehouse.Toml.Scalars
import Gatehouse.Toml.Strings
import Gatehouse.Toml.Writer
import Gatehouse.World
