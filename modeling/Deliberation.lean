import Deliberation.Random
import Deliberation.Plan.Combinators
import Deliberation.Playbook.Outline
import Deliberation.Playbook.Observer
import Deliberation.Wire
import Deliberation.Market.Scenario
import Deliberation.Market.Stall
import Deliberation.Program
import Deliberation.Main
import Deliberation.Proofs.Agents
import Deliberation.Proofs.Index
import Deliberation.Proofs.Stirring
import Deliberation.Proofs.Frame
import Deliberation.Proofs.Dispatch
import Deliberation.Proofs.Succession
import Deliberation.Proofs.Farewell
import Deliberation.Proofs.Flight
import Deliberation.Proofs.Wakefulness
import Deliberation.Proofs.Strides
import Deliberation.Proofs.Hops
import Deliberation.Proofs.Backing
import Deliberation.Proofs.Pursuit
import Deliberation.Proofs.Exclusive
import Deliberation.Proofs.Solo
import Deliberation.Proofs.Breakage
import Deliberation.Proofs.Deeds
import Deliberation.Proofs.Reception
import Deliberation.Proofs.Chronicle
import Deliberation.Proofs.Milestones
import Deliberation.Proofs.Stopping
import Deliberation.Proofs.Retirement
import Deliberation.Proofs.Shifts
import Deliberation.Proofs.Overtime
import Deliberation.Proofs.Overdue
import Deliberation.Proofs.Deadlines
import Deliberation.Proofs.Twins
import Deliberation.Proofs.Confinement
import Deliberation.Proofs.Discretion
import Deliberation.Proofs.Abreast
import Deliberation.Proofs.Independence
import Deliberation.Proofs.Durability
import Deliberation.Proofs.Rounds
import Deliberation.Proofs.Membership
import Deliberation.Proofs.Transcript
import Deliberation.Proofs.Interception
import Deliberation.Proofs.Selection
import Deliberation.Proofs.Idleness
import Deliberation.Proofs.Repose
import Deliberation.Proofs.Muting
import Deliberation.Proofs.MutedStrides
import Deliberation.Proofs.Minutes
import Deliberation.Proofs.Requests
import Deliberation.Proofs.GoalBook
import Deliberation.Proofs.Bookkeeping
import Deliberation.Proofs.Tenure
import Deliberation.Proofs.Registries
import Deliberation.Proofs.Composition
import Deliberation.Proofs.Careers
import Deliberation.Proofs.VigilLog
import Deliberation.Proofs.Firings
import Deliberation.Proofs.Vigil
import Deliberation.Proofs.LifeCycle
import Deliberation.Proofs.Wire.Calendar
import Deliberation.Proofs.Wire.Digits
import Deliberation.Proofs.Wire.Instants
import Deliberation.Proofs.Wire.Bytes
import Deliberation.Proofs.Wire.Texts
import Deliberation.Proofs.Wire.Messages
import Deliberation.Proofs.Wire.Deliveries
import Deliberation.Proofs.Routing
import Deliberation.Proofs.Market.Prices
import Deliberation.Proofs.Market.Traders
import Deliberation.Proofs.Market.Cycles
import Deliberation.Proofs.Market.Ledgers
import Deliberation.Proofs.Market.Conservation
import Deliberation.Proofs.Market.Quiescence
import Deliberation.Proofs.Tasks
import Deliberation.Proofs.Loading
import Deliberation.Proofs.Startup
import Deliberation.Proofs.BlankFile
