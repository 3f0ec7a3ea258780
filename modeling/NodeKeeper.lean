import NodeKeeper.Bus.Simulation
import NodeKeeper.Config.Files
import NodeKeeper.Fleet.Rehearsal
import NodeKeeper.Inspection.Simulation
import NodeKeeper.Inspection.Survey
import NodeKeeper.Main
import NodeKeeper.Node.Rehearsal
import NodeKeeper.Node.Service
import NodeKeeper.Proofs.Fleet.Exchanges
import NodeKeeper.Proofs.Fleet.Operations
import NodeKeeper.Proofs.Fleet.Calls
import NodeKeeper.Proofs.Fleet.Tables
import NodeKeeper.Proofs.Fleet.Bookkeeping
import NodeKeeper.Proofs.Fleet.Serialisation
import NodeKeeper.Proofs.Fleet.RunningStatus
import NodeKeeper.Node.Life
import NodeKeeper.Proofs.Fleet.Debts
import NodeKeeper.Proofs.Docker.Processes
import NodeKeeper.Proofs.Node.Teardown
import NodeKeeper.Proofs.Node.Sequence
import NodeKeeper.Proofs.Fleet.Repair
import NodeKeeper.Proofs.Fleet.Wiring
import NodeKeeper.Inspection.Life
import NodeKeeper.Bus.Traffic
import NodeKeeper.Proofs.Lists
import NodeKeeper.Proofs.Bus.Steps
import NodeKeeper.Proofs.Bus.Delivery
import NodeKeeper.Proofs.Bus.Apart
import NodeKeeper.Proofs.Bus.Calls
import NodeKeeper.Proofs.Bus.Guarantees
import NodeKeeper.Proofs.Bus.VirtualTime
import NodeKeeper.Proofs.Inspection.Steps
import NodeKeeper.Proofs.Inspection.Accounts
import NodeKeeper.Proofs.Inspection.VirtualTime
import NodeKeeper.Proofs.Agent.Names
import NodeKeeper.Proofs.Fleet.Frame
import NodeKeeper.Proofs.Config.Overlay
import NodeKeeper.Inspection.Calls
import NodeKeeper.Proofs.Inspection.Cancellation
import NodeKeeper.Proofs.Inspection.Cadence
import NodeKeeper.Node.Whole
import NodeKeeper.Proofs.Node.Runs
import NodeKeeper.Proofs.Node.Health
import NodeKeeper.Proofs.Config.Composed
import NodeKeeper.Proofs.Config.Processors
import NodeKeeper.Proofs.Inspection.Complaints
import NodeKeeper.Proofs.Node.Guards
import NodeKeeper.Proofs.Bus.Hushed
import NodeKeeper.Proofs.Node.Handlers
import NodeKeeper.Proofs.Node.Hushed
import NodeKeeper.Proofs.Node.Malformed
import NodeKeeper.Proofs.Fleet.ProxyAddress
import NodeKeeper.Proofs.Fleet.StopRequests
import NodeKeeper.Proofs.Inspection.Retries
import NodeKeeper.Proofs.Json.Grouping
import NodeKeeper.Proofs.Json.Likeness
import NodeKeeper.Proofs.Json.Readback
import NodeKeeper.Proofs.Message.RoundTrip
import NodeKeeper.Proofs.Fleet.RunRequests
import NodeKeeper.Proofs.Fleet.Independence
import NodeKeeper.Proofs.Inspection.FailedStart
import NodeKeeper.Proofs.Inspection.Deadlines
import NodeKeeper.Proofs.Inspection.Silence
import NodeKeeper.Proofs.Number.Rounding
import NodeKeeper.Proofs.Fleet.Limits
import NodeKeeper.Proofs.Inspection.Findings
import NodeKeeper.Proofs.Inspection.Flags
import NodeKeeper.Proofs.Inspection.Isolation
import NodeKeeper.Proofs.Docker.RunCommand
import NodeKeeper.Proofs.Number.Integers
import NodeKeeper.Proofs.Inspection.Quantities
import NodeKeeper.Proofs.Text.Lines
import NodeKeeper.Proofs.Docker.Outcomes
import NodeKeeper.Proofs.Docker.LeftBehind
import NodeKeeper.Proofs.Number.Numerals
import NodeKeeper.Proofs.Inspection.QuantityForms
import NodeKeeper.Proofs.Inspection.BlocksAsked
import NodeKeeper.Proofs.Fleet.TableLaws
import NodeKeeper.Proofs.Fleet.Piles
import NodeKeeper.Proofs.Inspection.Delays
