import Dispatch.Main
import Dispatch.Proofs.Totals
import Dispatch.Proofs.Workflow.Links
import Dispatch.Proofs.Workflow.Preorder
import Dispatch.Proofs.Progress.Release
import Dispatch.Proofs.Progress.Counters
import Dispatch.Proofs.Progress.History
import Dispatch.Proofs.Placement
import Dispatch.Proofs.Scheduler.Moves
import Dispatch.Proofs.Scheduler.Faithful
import Dispatch.Proofs.Scheduler.Hearing
import Dispatch.Proofs.Scheduler.Precedence
import Dispatch.Proofs.Scheduler.Conservation
import Dispatch.Proofs.Scheduler.Halting
import Dispatch.Proofs.Scheduler.Needless
import Dispatch.Proofs.Scheduler.Independence
import Dispatch.Proofs.Cluster.Effects
import Dispatch.Proofs.Cluster.Place
import Dispatch.Proofs.Run.Steps
import Dispatch.Proofs.Run.Agreement
import Dispatch.Proofs.Cluster.Cores
import Dispatch.Proofs.Cluster.Records
import Dispatch.Proofs.Run.Termination
import Dispatch.Proofs.Workflow.Cycles
import Dispatch.Proofs.Run.Outcome
import Dispatch.Proofs.Cluster.Provision
import Dispatch.Proofs.Cluster.Steady
import Dispatch.Proofs.Cluster.Session
import Dispatch.Proofs.Cluster.Order
import Dispatch.Proofs.Cluster.Boot
import Dispatch.Proofs.Run.Deliveries
import Dispatch.Proofs.Run.Accounting
import Dispatch.Proofs.Cluster.Times
import Dispatch.Proofs.Run.Recurrence
import Dispatch.Proofs.Binary64
import Dispatch.Proofs.Renaming.Containers
import Dispatch.Proofs.Renaming.Workflow
import Dispatch.Proofs.Renaming.Progress
import Dispatch.Proofs.Renaming.Scheduler
import Dispatch.Proofs.Renaming.Cluster
import Dispatch.Proofs.Renaming.Summary
import Dispatch.Proofs.Renaming.Run
import Dispatch.Proofs.Progress.Standstill
import Dispatch.Proofs.Workflow.Depth
import Dispatch.Proofs.Progress.Levels
import Dispatch.Proofs.Trace.Expansion
import Dispatch.Proofs.Whole
import Dispatch.Proofs.Workflow.Insertion
import Dispatch.Proofs.Trace.Numerals
import Dispatch.Proofs.Trace.Minutes
import Dispatch.Proofs.Progress.Admission
import Dispatch.Proofs.Cluster.Agenda
import Dispatch.Proofs.Rounding
import Dispatch.Proofs.Forward
import Dispatch.Proofs.Cluster.Clock
import Dispatch.Proofs.Cluster.Waiting
import Dispatch.Proofs.Run.Onward
import Dispatch.Proofs.Cluster.Service
import Dispatch.Proofs.Scheduler.Fewest
import Dispatch.Proofs.Turns
import Dispatch.Proofs.Scheduler.Linkless
import Dispatch.Proofs.Run.Linkless
import Dispatch.Proofs.Cluster.Summary
import Dispatch.Proofs.Run.Statistics
import Dispatch.Proofs.Cluster.Seamless
import Dispatch.Proofs.Run.Idleness
import Dispatch.Proofs.Workflow.Exploration
import Dispatch.Proofs.Progress.FirstReady
import Dispatch.Proofs.Numeric
import Dispatch.Proofs.Run.Window
import Dispatch.Proofs.Run.Stall
import Dispatch.Proofs.Workflow.Assembly
import Dispatch.Proofs.Progress.Acceptance
import Dispatch.Proofs.Trace.Retention
import Dispatch.Proofs.Workflow.CallTree
import Dispatch.Proofs.Workflow.Decomposition
import Dispatch.Proofs.Workflow.Doubling
import Dispatch.Proofs.Pool
import Dispatch.Proofs.Scenario
