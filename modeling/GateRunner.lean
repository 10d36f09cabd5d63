import GateRunner.Check.Codec
import GateRunner.Check.Scripted
import GateRunner.Command.Gate
import GateRunner.Json.Printer
import GateRunner.Proofs.Check.Counts
import GateRunner.Proofs.Check.Largest
import GateRunner.Proofs.Check.Written
import GateRunner.Proofs.Command.Judgement
import GateRunner.Proofs.Config.Switches
import GateRunner.Proofs.Graph.Circles
import GateRunner.Proofs.Graph.Sorting
import GateRunner.Proofs.Graph.Ties
import GateRunner.Proofs.Project.Scanning
import GateRunner.Proofs.Registry.History
import GateRunner.Proofs.Registry.Selection
import GateRunner.Proofs.Run.Comparison
import GateRunner.Proofs.Run.Completeness
import GateRunner.Proofs.Run.Disabling
import GateRunner.Proofs.Run.FailFast
import GateRunner.Proofs.Run.Faults
import GateRunner.Proofs.Run.Independence
import GateRunner.Proofs.Run.Profiles
import GateRunner.Proofs.Run.Protocol
import GateRunner.Proofs.Run.Invocation
import GateRunner.Proofs.Run.Repetition
import GateRunner.Proofs.Run.Requests
import GateRunner.Proofs.Schedule.Blame
import GateRunner.Proofs.Schedule.Leaving
import GateRunner.Proofs.Schedule.Occupancy
import GateRunner.Proofs.Schedule.Reachable
import GateRunner.Proofs.Schedule.Submission
import GateRunner.Proofs.Schedule.Waits
import GateRunner.Proofs.WorkingSet.Dependence
import GateRunner.Proofs.WorkingSet.LeastSet
import GateRunner.Proofs.WorkingSet.Part
import GateRunner.Proofs.WorkingSet.Reasons
import GateRunner.Proofs.WorkingSet.Switching
import GateRunner.Run.Basic
import GateRunner.Run.Clock
import GateRunner.Proofs.Run.Remediation
