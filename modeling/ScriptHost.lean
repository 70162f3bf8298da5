import ScriptHost.Background.Tasks
import ScriptHost.Guest.Command
import ScriptHost.Guest.Script
import ScriptHost.Guest.Solo
import ScriptHost.Main
import ScriptHost.Network.Draft
import ScriptHost.Network.Stream
import ScriptHost.Quiescence.Wait
import ScriptHost.Session.Transcript
import ScriptHost.Proofs.Ready.Index
import ScriptHost.Proofs.Timer.Liveness
import ScriptHost.Proofs.Timer.Threads
import ScriptHost.Proofs.Timer.Cancellation
import ScriptHost.Proofs.Data.Table
import ScriptHost.Proofs.Network.Flight
import ScriptHost.Proofs.Desk.Standing
import ScriptHost.Proofs.Desk.Correspondence
import ScriptHost.Proofs.Guest.Steps
import ScriptHost.Proofs.Host.Registration
import ScriptHost.Proofs.Host.History
import ScriptHost.Proofs.Host.Executions
import ScriptHost.Proofs.Host.Supervision
import ScriptHost.Proofs.Quiescence.Waning
import ScriptHost.Proofs.Host.Rest
import ScriptHost.Proofs.Quiescence.Decision
import ScriptHost.Proofs.Ready.Producers
import ScriptHost.Proofs.Host.Wakeup
import ScriptHost.Proofs.Host.Clearing
import ScriptHost.Proofs.Network.Active
import ScriptHost.Proofs.Host.Operations
import ScriptHost.Proofs.Host.Visits
import ScriptHost.Proofs.Host.Backlog
import ScriptHost.Proofs.Host.Progress
import ScriptHost.Proofs.Host.Panics
import ScriptHost.Proofs.Desk.Orphans
import ScriptHost.Proofs.Host.Orphans
import ScriptHost.Proofs.Host.Torn
import ScriptHost.Proofs.Ready.Ledger
import ScriptHost.Proofs.Timer.Firings
import ScriptHost.Proofs.Timer.Periods
import ScriptHost.Proofs.Timer.Clockwork
import ScriptHost.Proofs.Timer.Tasks
import ScriptHost.Proofs.Timer.Course
import ScriptHost.Proofs.Timer.Delivery
import ScriptHost.Proofs.Service.Teardown
import ScriptHost.Proofs.Host.Teardown
import ScriptHost.Proofs.Host.Fragments
import ScriptHost.Proofs.Network.Credits
import ScriptHost.Proofs.Network.Closing
import ScriptHost.Proofs.Network.Completion
import ScriptHost.Proofs.Network.Streams
import ScriptHost.Proofs.Network.Writing
import ScriptHost.Proofs.Network.Reading
import ScriptHost.Proofs.Quiescence.Overlap
import ScriptHost.Proofs.Host.InFlight
import ScriptHost.Proofs.Submission.Increments
import ScriptHost.Proofs.Host.Snapshots
import ScriptHost.Proofs.Host.Undispatched
import ScriptHost.Proofs.Host.Dropping
import ScriptHost.Proofs.Quiescence.Deadline
import ScriptHost.Proofs.Ready.Passes
import ScriptHost.Proofs.Timer.Settling
import ScriptHost.Proofs.Ready.Custody
import ScriptHost.Proofs.Network.Loss
import ScriptHost.Proofs.Lua.Payload
import ScriptHost.Proofs.Lua.Calls
import ScriptHost.Proofs.Timer.Sweep
import ScriptHost.Proofs.Network.HeaderOrder
import ScriptHost.Proofs.Session.Blocks
import ScriptHost.Proofs.Ready.Sections
import ScriptHost.Proofs.Quiescence.Limits
