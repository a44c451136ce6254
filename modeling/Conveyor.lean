import Conveyor.Action
import Conveyor.Buckets.Basic
import Conveyor.Buckets.Counter
import Conveyor.Buckets.Memory
import Conveyor.Buckets.Table
import Conveyor.Clock
import Conveyor.Config.Basic
import Conveyor.Config.Codec
import Conveyor.Dict
import Conveyor.Envelope.Basic
import Conveyor.Envelope.Codec
import Conveyor.Envelope.Parameter
import Conveyor.Envelope.Revision
import Conveyor.Hash
import Conveyor.Json.Access
import Conveyor.Json.Codec
import Conveyor.Json.Document
import Conveyor.Json.Printer
import Conveyor.Json.Reader
import Conveyor.Json.Record
import Conveyor.Locator
import Conveyor.Misuse
import Conveyor.Monitor
import Conveyor.Number.Binary64
import Conveyor.Number.Shortest
import Conveyor.Outcome
import Conveyor.Plant
import Conveyor.Queue.Basic
import Conveyor.Queue.Memory
import Conveyor.Queue.Table
import Conveyor.Rehearsal.Exchange
import Conveyor.Rehearsal.Fault
import Conveyor.Rehearsal.Journal
import Conveyor.Rehearsal.Plant
import Conveyor.Rehearsal.Script
import Conveyor.Rehearsal.Tampering
import Conveyor.Rehearsal.Target
import Conveyor.Retry
import Conveyor.Runner.Basic
import Conveyor.Runner.Timed
import Conveyor.Runner.Turn
import Conveyor.Runner.Worker
import Conveyor.Services.Archive
import Conveyor.Services.Basic
import Conveyor.Services.Codec
import Conveyor.Services.Depot
import Conveyor.Services.Listing
import Conveyor.Stage
import Conveyor.Stages.Depublish
import Conveyor.Stages.Index
import Conveyor.Stages.Read
import Conveyor.Stages.Validate
import Conveyor.Stages.Write
import Conveyor.StepError
import Conveyor.StoreError
import Conveyor.Submission.Basic
import Conveyor.Submission.Feed
import Conveyor.Table
import Conveyor.Task.Basic
import Conveyor.Task.Codec
import Conveyor.Task.Info
import Conveyor.Text.Blank
import Conveyor.Text.Bytes
import Conveyor.Text.CharSet
import Conveyor.Text.Combining
import Conveyor.Text.Decimal
import Conveyor.Text.Hex
import Conveyor.Text.Quoted
import Conveyor.Text.Search
import Conveyor.Text.Unassigned
import Conveyor.Text.Unprintable
import Conveyor.Time.Date
import Conveyor.Time.Rfc3339
import Conveyor.Time.Timestamp
import Conveyor.Topology.Basic
import Conveyor.Topology.Builder
import Conveyor.Topology.Document
import Conveyor.Tracker.Basic
import Conveyor.Tracker.Memory
import Conveyor.Tracker.Notification
import Conveyor.Tracker.Store
import Conveyor.Tracker.Table
import Conveyor.Proofs.Tracker.Calls
import Conveyor.Proofs.Tracker.Lifecycle
import Conveyor.Proofs.Tracker.Completion
import Conveyor.Proofs.Queue.Contents
import Conveyor.Proofs.Queue.History
import Conveyor.Proofs.Queue.Delivery
import Conveyor.Proofs.Queue.Spares
import Conveyor.Proofs.Runner.Handling
import Conveyor.Proofs.Submission.Publication
import Conveyor.Proofs.Runner.Account
import Conveyor.Proofs.Runner.Conservation
import Conveyor.Proofs.Runner.Restart
import Conveyor.Proofs.Runner.Faults
import Conveyor.Proofs.Runner.Draining
import Conveyor.Proofs.Runner.Job
import Conveyor.Proofs.Runner.Course
import Conveyor.Proofs.Runner.Chain
import Conveyor.Proofs.Runner.Log
import Conveyor.Proofs.Runner.KeyOrder
import Conveyor.Proofs.Json.Document
import Conveyor.Proofs.Time.Wire
import Conveyor.Proofs.Json.Codec
import Conveyor.Proofs.Envelope.Wire
import Conveyor.Proofs.Queue.Rows
import Conveyor.Proofs.Queue.Agreement
import Conveyor.Proofs.Queue.ReadBack
import Conveyor.Proofs.Keeping
import Conveyor.Proofs.Services.Address
import Conveyor.Proofs.Services.Undisturbed
import Conveyor.Proofs.Services.Counting
import Conveyor.Proofs.Services.Listing
import Conveyor.Proofs.Services.Ledger
import Conveyor.Proofs.Stages.Write
import Conveyor.Proofs.Stages.Identity
import Conveyor.Proofs.Stages.Preparatory
import Conveyor.Proofs.Submission.Chained
import Conveyor.Proofs.Runner.Followup
import Conveyor.Proofs.Time.Column
import Conveyor.Proofs.Tracker.Agreement
import Conveyor.Proofs.Interleaving
import Conveyor.Proofs.Tracker.Reports
import Conveyor.Proofs.Buckets.Racing
import Conveyor.Proofs.Submission.Others
import Conveyor.Proofs.Runner.Rounds
import Conveyor.Proofs.Runner.Reach
import Conveyor.Proofs.Runner.Inert
import Conveyor.Proofs.Stages.Removal
import Conveyor.Proofs.Runner.Lookups
import Conveyor.Proofs.Runner.Emptying
import Conveyor.Proofs.Runner.Blocking
import Conveyor.Proofs.Submission.Exact
import Conveyor.Proofs.Ending
import Conveyor.Proofs.Faults
import Conveyor.Proofs.Buckets.View
import Conveyor.Proofs.Buckets.Rotation
import Conveyor.Proofs.Stages.Tally
import Conveyor.Proofs.Services.Paging
import Conveyor.Proofs.Submission.Aborted
import Conveyor.Proofs.Retry.Delays
import Conveyor.Proofs.Retry.Tries
import Conveyor.Proofs.Stages.Requirements
import Conveyor.Proofs.Stages.Storing
import Conveyor.Proofs.Runner.Sweep
import Conveyor.Proofs.Locator
import Conveyor.Proofs.Topology.Topics
import Conveyor.Proofs.Queue.Topics
import Conveyor.Proofs.Runner.OwnTopics
import Conveyor.Proofs.Topology.Building
import Conveyor.Proofs.Hash
import Conveyor.Proofs.Topology.Identity
import Conveyor.Proofs.Runner.Shifts
import Conveyor.Proofs.Runner.Timed
import Conveyor.Proofs.Tracker.Requests
import Conveyor.Proofs.Tracker.Announcements
