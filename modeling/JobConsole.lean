import JobConsole.Clipboard.Bench
import JobConsole.Http.Script
import JobConsole.Main
import JobConsole.PollRound
import JobConsole.Proofs.ActionPath
import JobConsole.Proofs.Batch.Execution
import JobConsole.Proofs.Board
import JobConsole.Proofs.Cli.BulkCommand
import JobConsole.Proofs.Cli.Dismissal
import JobConsole.Proofs.Cli.JobNotice
import JobConsole.Proofs.Http.EventStream
import JobConsole.Proofs.Http.LineReader
import JobConsole.Proofs.Model.ProblemMembers
import JobConsole.Proofs.Model.RoundTrip
import JobConsole.Proofs.Notice.Humanized
import JobConsole.Proofs.Polling
import JobConsole.Proofs.Retention.Countdown
import JobConsole.Proofs.Retention.Overflow
import JobConsole.Proofs.Retention.Range
import JobConsole.Proofs.Retention.Shapes
import JobConsole.Proofs.Store.Bystander
import JobConsole.Proofs.Store.Descent
import JobConsole.Proofs.Store.ReadableState
import JobConsole.Proofs.Store.Scopes
import JobConsole.Proofs.Watch.WakeUp
