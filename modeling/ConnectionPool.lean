import ConnectionPool.BoundedQueue.Producers
import ConnectionPool.Client.Drive
import ConnectionPool.Loopback.Session
import ConnectionPool.Main
import ConnectionPool.Scenario.Report
import ConnectionPool.SlotCounter.Contention
import ConnectionPool.Proofs.Client.Run
import ConnectionPool.Proofs.Client.Scope
import ConnectionPool.Proofs.Destination.Site
import ConnectionPool.Proofs.Destination.Simulation
import ConnectionPool.Proofs.Destination.WorkConservation
import ConnectionPool.Proofs.Destination.Placement
import ConnectionPool.Proofs.Destination.SlotAccounting
import ConnectionPool.Proofs.Destination.Attendance
import ConnectionPool.Proofs.Exchange.Handover
import ConnectionPool.Proofs.Exchange.Acceptance
import ConnectionPool.Proofs.Exchange.Whereabouts
import ConnectionPool.Proofs.Exchange.Fate
import ConnectionPool.Proofs.Client.Course
import ConnectionPool.Proofs.Client.Agenda
import ConnectionPool.Proofs.Destination.Alternation
import ConnectionPool.Proofs.Destination.Replacement
import ConnectionPool.Proofs.Client.Attempts
import ConnectionPool.Proofs.Destination.Retirement
import ConnectionPool.Proofs.Destination.Drain
import ConnectionPool.Proofs.Client.Registry
import ConnectionPool.Proofs.Destination.Custody
import ConnectionPool.Proofs.Destination.Reopening
import ConnectionPool.Proofs.Destination.AddressLimit
import ConnectionPool.Proofs.Exchange.PromptHandover
import ConnectionPool.Proofs.Destination.ServiceOrder
import ConnectionPool.Proofs.Client.Routing
import ConnectionPool.Proofs.Client.Tariff
import ConnectionPool.Proofs.Client.Errands
import ConnectionPool.Proofs.Exchange.Delivery
import ConnectionPool.Proofs.Destination.Forgotten
import ConnectionPool.Proofs.Loopback.Run
import ConnectionPool.Proofs.Loopback.Jobs
import ConnectionPool.Proofs.Loopback.Hearing
import ConnectionPool.Proofs.Loopback.Settling
import ConnectionPool.Proofs.Loopback.Shutdown
import ConnectionPool.Proofs.Destination.Peace
import ConnectionPool.Proofs.Exchange.Recall
import ConnectionPool.Proofs.Loopback.Serving
import ConnectionPool.Proofs.Loopback.Occupation
import ConnectionPool.Proofs.Loopback.Rest
import ConnectionPool.Proofs.Exchange.Reporting
import ConnectionPool.Proofs.Exchange.Turnover
import ConnectionPool.Proofs.Client.Bookkeeping
import ConnectionPool.Proofs.Client.Rejection
import ConnectionPool.Proofs.Client.Composure
import ConnectionPool.Proofs.Client.Notification
import ConnectionPool.Proofs.Exchange.Announcing
import ConnectionPool.Proofs.Client.Admission
import ConnectionPool.Proofs.Destination.Strays
import ConnectionPool.Proofs.Client.Unrolled
import ConnectionPool.Proofs.Loopback.Balance
import ConnectionPool.Proofs.Loopback.Undisturbed
import ConnectionPool.Proofs.Loopback.Waiting
import ConnectionPool.Proofs.Workload.Sending
import ConnectionPool.Proofs.Workload.Awaiting
import ConnectionPool.Proofs.Workload.Outcome
import ConnectionPool.Proofs.Client.Uninterrupted
import ConnectionPool.Proofs.Destination.Closing
import ConnectionPool.Proofs.Exchange.Withdrawal
import ConnectionPool.Proofs.Exchange.Tasks
import ConnectionPool.Proofs.Destination.Dispatch
import ConnectionPool.Proofs.Exchange.Unconnected
import ConnectionPool.Proofs.Destination.Recovery
import ConnectionPool.Proofs.Settings.Reading
import ConnectionPool.Proofs.Settings.Loading
import ConnectionPool.Proofs.Queue.Refinement
import ConnectionPool.Proofs.Queue.Interleaving
import ConnectionPool.Proofs.Destination.Saturation
import ConnectionPool.Proofs.Loopback.Dedication
import ConnectionPool.Proofs.Loopback.Panicking
import ConnectionPool.Proofs.SlotCounter.Linearization
import ConnectionPool.Proofs.SlotCounter.Completion
import ConnectionPool.Proofs.SlotCounter.Contention
