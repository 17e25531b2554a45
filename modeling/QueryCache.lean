import QueryCache.Backoff
import QueryCache.Cache
import QueryCache.Classroom.Catalog
import QueryCache.Classroom.Record
import QueryCache.Classroom.Summary
import QueryCache.CommandLine.Basic
import QueryCache.CommandLine.Help
import QueryCache.CommandLine.Rehearsal
import QueryCache.CommandLine.Run
import QueryCache.CommandLine.Watch
import QueryCache.Decimal.Binary64
import QueryCache.Decimal.Shortest
import QueryCache.Digest
import QueryCache.Endpoint
import QueryCache.Entry
import QueryCache.Failure
import QueryCache.Feed
import QueryCache.Flights
import QueryCache.Json.Basic
import QueryCache.Json.Printer
import QueryCache.Json.Reader
import QueryCache.Key
import QueryCache.Main
import QueryCache.Memo
import QueryCache.Notice
import QueryCache.Overlay.Basic
import QueryCache.Overlay.Edit
import QueryCache.Polls
import QueryCache.Proofs.Agenda
import QueryCache.Proofs.Airborne
import QueryCache.Proofs.Answered
import QueryCache.Proofs.Attempts
import QueryCache.Proofs.Attendance
import QueryCache.Proofs.BelowBase
import QueryCache.Proofs.Canonical
import QueryCache.Proofs.Cell
import QueryCache.Proofs.Census
import QueryCache.Proofs.ClassChanges
import QueryCache.Proofs.Collection
import QueryCache.Proofs.CompactText
import QueryCache.Proofs.Confirmation
import QueryCache.Proofs.Course
import QueryCache.Proofs.Cycle
import QueryCache.Proofs.Declaration
import QueryCache.Proofs.Families
import QueryCache.Proofs.Folders
import QueryCache.Proofs.Freshness
import QueryCache.Proofs.Generation
import QueryCache.Proofs.Household
import QueryCache.Proofs.Identity
import QueryCache.Proofs.Interleaving
import QueryCache.Proofs.Intervals
import QueryCache.Proofs.Layers
import QueryCache.Proofs.Ledgers
import QueryCache.Proofs.LessonCounts
import QueryCache.Proofs.Lifecycle
import QueryCache.Proofs.Moves
import QueryCache.Proofs.Naming
import QueryCache.Proofs.Numerals
import QueryCache.Proofs.Overtaking
import QueryCache.Proofs.Polling
import QueryCache.Proofs.Reach
import QueryCache.Proofs.ReadMessages
import QueryCache.Proofs.RecordTags
import QueryCache.Proofs.Register
import QueryCache.Proofs.Remembering
import QueryCache.Proofs.Renewal
import QueryCache.Proofs.Repetition
import QueryCache.Proofs.Replay
import QueryCache.Proofs.Restoration
import QueryCache.Proofs.Retraction
import QueryCache.Proofs.Sendings
import QueryCache.Proofs.Settlement
import QueryCache.Proofs.Shown
import QueryCache.Proofs.Sight.Basic
import QueryCache.Proofs.Sight.Fetching
import QueryCache.Proofs.Sight.Watching
import QueryCache.Proofs.Sight.Writing
import QueryCache.Proofs.SingleFlight
import QueryCache.Proofs.Situation
import QueryCache.Proofs.TagText
import QueryCache.Proofs.Tagging
import QueryCache.Proofs.Tickets
import QueryCache.Proofs.Timeline
import QueryCache.Proofs.Turnover
import QueryCache.Proofs.Viewing
import QueryCache.Proofs.VisibleData
import QueryCache.Proofs.Windows
import QueryCache.Request
import QueryCache.Session.Basic
import QueryCache.Session.Fetching
import QueryCache.Session.Viewer
import QueryCache.Session.Watching
import QueryCache.Session.Writing
import QueryCache.Settings.Basic
import QueryCache.Settings.Source
import QueryCache.Surroundings
import QueryCache.Tag.Basic
import QueryCache.Tag.Cascade
import QueryCache.Tag.Tagging
import QueryCache.Text.Base64
import QueryCache.Text.Blank
import QueryCache.Text.Hex
import QueryCache.Timeline.Agenda
import QueryCache.Timeline.Basic
import QueryCache.Timeline.Pool
import QueryCache.Timeline.Reply
import QueryCache.Timeline.Run
import QueryCache.Timeline.Ticker
import QueryCache.Timeline.Timer
import QueryCache.Version
import QueryCache.Web.Domain.Composition
import QueryCache.Web.Domain.Direction
import QueryCache.Web.Domain.Folding
import QueryCache.Web.Domain.Joining
import QueryCache.Web.Domain.Label
import QueryCache.Web.Domain.Normal
import QueryCache.Web.Domain.Punycode
import QueryCache.Web.Domain.Refused
import QueryCache.Web.Domain.Table
import QueryCache.Web.Gateway
import QueryCache.Web.Host
import QueryCache.Web.Percent
import QueryCache.Web.Playback
import QueryCache.Web.Url
import QueryCache.Yaml.Node
import QueryCache.Yaml.Place
import QueryCache.Yaml.Plain
import QueryCache.Yaml.Reading
import QueryCache.Yaml.Scalar
import QueryCache.Yaml.Token
