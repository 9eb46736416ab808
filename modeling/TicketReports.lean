import TicketReports.Access.Unreachable
import TicketReports.Http.Router
import TicketReports.JobStore.Unreliable
import TicketReports.Mail.HtmlReader
import TicketReports.Pipeline.Scripted
import TicketReports.Processor.Drive
import TicketReports.Proofs.JobStore.Steady
import TicketReports.Proofs.JobStore.Kinds
import TicketReports.Proofs.Mail.Attachment
import TicketReports.Proofs.Mail.Batch
import TicketReports.Proofs.Mail.Letter
import TicketReports.Proofs.Report.Cells
import TicketReports.Proofs.Processor.Admission
import TicketReports.Service.Traffic
import TicketReports.Sql.Table
import TicketReports.Proofs.Processor.Recording
import TicketReports.Proofs.Service.Ownership
import TicketReports.Proofs.Service.Outcome
import TicketReports.Proofs.Processor.Segments
import TicketReports.Proofs.Processor.Renewal
import TicketReports.Proofs.Processor.Completion
import TicketReports.Proofs.Processor.Tally
import TicketReports.Proofs.Processor.Accounts
import TicketReports.Proofs.Processor.Stopping
import TicketReports.Proofs.Processor.Persistence
import TicketReports.Proofs.JobStore.Eviction
import TicketReports.Proofs.Job.Stamps
import TicketReports.Proofs.Job.Lifecycle
import TicketReports.Proofs.Pipeline.Isolation
import TicketReports.Proofs.Processor.Isolation
import TicketReports.Proofs.Processor.Stamping
import TicketReports.Proofs.Processor.Chronicle
import TicketReports.Proofs.Text.Plain
import TicketReports.Proofs.Job.Naming
import TicketReports.Proofs.Service.Handling
import TicketReports.Proofs.Http.Routes
import TicketReports.Proofs.Http.Desk
import TicketReports.Proofs.Http.Exit
import TicketReports.Proofs.Access.Call
import TicketReports.Proofs.Access.Backoff
import TicketReports.Proofs.Access.Attempts
import TicketReports.Proofs.Download.Paging
import TicketReports.Proofs.Download.Queries
import TicketReports.Proofs.Download.Received
import TicketReports.Proofs.Download.Identities
import TicketReports.Proofs.Download.Enrolment
import TicketReports.Proofs.Download.Parrot
import TicketReports.Proofs.Download.Circles
import TicketReports.Proofs.Download.Assignment
import TicketReports.Proofs.Report.Coverage
import TicketReports.Proofs.JobStore.Rows
import TicketReports.Proofs.JobStore.Agreement
import TicketReports.Proofs.Mail.Reading
import TicketReports.Proofs.JobStore.Retention
import TicketReports.Proofs.JobStore.Window
import TicketReports.Proofs.Processor.Reclaiming
import TicketReports.Proofs.Settings.Keys
import TicketReports.Proofs.Http.Listing
import TicketReports.Proofs.Job.Members
import TicketReports.Proofs.Download.Nulls
import TicketReports.Proofs.Settings.Recipients
import TicketReports.Proofs.Report.Paths
import TicketReports.Proofs.Text.Utf8
import TicketReports.Proofs.Access.Draining
import TicketReports.Proofs.Access.Counting
import TicketReports.Proofs.Access.Sent
