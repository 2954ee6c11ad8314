import RobotBus.CopyOnWrite
import RobotBus.Proofs.Calls.Resolution
import RobotBus.Proofs.Transport.Delivery
import RobotBus.Simulation.Session
import RobotBus.Proofs.Routing.Bridge
import RobotBus.Proofs.Routing.Duality
import RobotBus.Proofs.Routing.Bridged
import RobotBus.Proofs.Routing.NegativeAck
import RobotBus.Proofs.Routing.Forest
import RobotBus.Proofs.Routing.Coverage
import RobotBus.Proofs.Routing.Flood
import RobotBus.Proofs.Calls.Service
import RobotBus.Proofs.Calls.Journey
import RobotBus.Proofs.Calls.Numbering
import RobotBus.Proofs.Calls.Progress
import RobotBus.Proofs.Calls.RemoteCall
import RobotBus.Proofs.Routing.Binding
import RobotBus.Proofs.Transport.Moves
import RobotBus.Proofs.Transport.Stopping
import RobotBus.Proofs.Transport.Watch
import RobotBus.Proofs.Transport.Refusal
import RobotBus.Proofs.Calls.Reuse
import RobotBus.Proofs.Wire.Handshake
import RobotBus.Proofs.Transport.Fleet
import RobotBus.Proofs.Transport.Overlap
import RobotBus.Proofs.Transport.NameTable
import RobotBus.Proofs.Transport.LifeCycle
import RobotBus.Proofs.Routing.Nesting
import RobotBus.Proofs.Routing.Snapshot
import RobotBus.Proofs.Wire.Bursts
import RobotBus.Proofs.Routing.Removal
import RobotBus.Proofs.Transport.Lobby
import RobotBus.Proofs.Calls.Registration
import RobotBus.Proofs.Transport.Batches
import RobotBus.Proofs.Transport.Intake
import RobotBus.Proofs.Routing.Reporting
import RobotBus.Proofs.Transport.Overflow
import RobotBus.Proofs.Transport.Buffering
import RobotBus.Proofs.Transport.ReceiveBuffer
import RobotBus.Proofs.Calls.Numerals
import RobotBus.Proofs.Transport.Heartbeat
import RobotBus.Proofs.Sharing
import RobotBus.Proofs.Routing.Indifference
import RobotBus.Proofs.Transport.Tracing
