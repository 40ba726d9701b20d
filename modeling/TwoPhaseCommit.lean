import TwoPhaseCommit.Types
import TwoPhaseCommit.Rand
import TwoPhaseCommit.StateMachine
import TwoPhaseCommit.Library.Machine
import TwoPhaseCommit.Calls
import TwoPhaseCommit.Coordinator
import TwoPhaseCommit.Participant
import TwoPhaseCommit.Library.BinaryHeap
import TwoPhaseCommit.Simulator.Event
import TwoPhaseCommit.Simulator.Properties
import TwoPhaseCommit.Simulator.ObservationProperties
import TwoPhaseCommit.Simulator
import TwoPhaseCommit.Library.TransitionSystem
import TwoPhaseCommit.Library.Behaviour
import TwoPhaseCommit.Library.OrderedMap
import TwoPhaseCommit.Library.History
import TwoPhaseCommit.Library.StableQueue
import TwoPhaseCommit.CoordinatorProperties
import TwoPhaseCommit.Protocol
import TwoPhaseCommit.ProtocolProperties
import TwoPhaseCommit.Alloy
import TwoPhaseCommit.AlloyRefinement
import TwoPhaseCommit.AlloyScopes
import TwoPhaseCommit.AlloyProperties
import TwoPhaseCommit.Tla
import TwoPhaseCommit.TlaProperties
import TwoPhaseCommit.TlaTermination
import TwoPhaseCommit.TlaAlloy
import TwoPhaseCommit.TlaRefinement
import TwoPhaseCommit.CoordinatorProgress
import TwoPhaseCommit.CoordinatorTicks
import TwoPhaseCommit.CoordinatorCalls
import TwoPhaseCommit.CoordinatorQuorum
import TwoPhaseCommit.CoordinatorRetransmission
import TwoPhaseCommit.CoordinatorRefinement
import TwoPhaseCommit.CoordinatorPatience
import TwoPhaseCommit.CoordinatorEvidence
import TwoPhaseCommit.CoordinatorLockstep
import TwoPhaseCommit.CoordinatorBudget
import TwoPhaseCommit.ParticipantProperties
import TwoPhaseCommit.ParticipantCalls
import TwoPhaseCommit.Simulator.EventQueueProperties
import TwoPhaseCommit.Simulator.StepProperties
import TwoPhaseCommit.Simulator.Runs
import TwoPhaseCommit.Simulator.Refinement
import TwoPhaseCommit.Simulator.Safety
import TwoPhaseCommit.Simulator.Oracle
import TwoPhaseCommit.Simulator.Termination
import TwoPhaseCommit.Simulator.Liveness
import TwoPhaseCommit.Simulator.Drain
import TwoPhaseCommit.Simulator.Quiescence
import TwoPhaseCommit.Simulator.Recovery
import TwoPhaseCommit.Simulator.Outcome
import TwoPhaseCommit.Simulator.AlloyExecution
import TwoPhaseCommit.Simulator.TlaExecution
import TwoPhaseCommit.Simulator.Log
import TwoPhaseCommit.Simulator.Latency
import TwoPhaseCommit.Simulator.Economy
import TwoPhaseCommit.Simulator.MessageComplexity
import TwoPhaseCommit.Simulator.Budget
import TwoPhaseCommit.Simulator.Drainage
import TwoPhaseCommit.Simulator.Accounting
import TwoPhaseCommit.Simulator.Crashes
import TwoPhaseCommit.Simulator.Blocking
import TwoPhaseCommit.Simulator.Start
import TwoPhaseCommit.Simulator.Transcript
import TwoPhaseCommit.Simulator.Replay
import TwoPhaseCommit.Simulator.CertainAbort
import TwoPhaseCommit.Tests.Simulation
import TwoPhaseCommit.Tests.ManualProtocol
import TwoPhaseCommit.Tests.Lockstep
