import ErgoCubBehavior.Lib.Binary64
import ErgoCubBehavior.Lib.BehaviorTree
import ErgoCubBehavior.Lib.Transition
import ErgoCubBehavior.Lib.Mealy
import ErgoCubBehavior.Lib.Liveness
import ErgoCubBehavior.Lib.Replay
import ErgoCubBehavior.Lib.Wire
import ErgoCubBehavior.Lib.Dialogue
import ErgoCubBehavior.Robot.Services
import ErgoCubBehavior.Robot.Conditions
import ErgoCubBehavior.Robot.Actions
import ErgoCubBehavior.Robot.Ergotree
import ErgoCubBehavior.Robot.NodeLoop
import ErgoCubBehavior.Robot.Startup
import ErgoCubBehavior.Tick.Nodes
import ErgoCubBehavior.Tick.Subtrees
import ErgoCubBehavior.Tick.Cases
import ErgoCubBehavior.Tick.Traces
import ErgoCubBehavior.Alone.Gaze
import ErgoCubBehavior.Alone.Response
import ErgoCubBehavior.Alone.EdgeTriggered
import ErgoCubBehavior.Protocol.Phase
import ErgoCubBehavior.Protocol.Refinement
import ErgoCubBehavior.Protocol.History
import ErgoCubBehavior.Protocol.Arms
import ErgoCubBehavior.Protocol.Machine
import ErgoCubBehavior.Protocol.Progress
import ErgoCubBehavior.Rpc.Helper
import ErgoCubBehavior.Rpc.Service
import ErgoCubBehavior.Rpc.Interfaces
import ErgoCubBehavior.Rpc.Dispatch
import ErgoCubBehavior.Rpc.Exchange
import ErgoCubBehavior.Rpc.Deployment
import ErgoCubBehavior.Rpc.Mocks
import ErgoCubBehavior.Properties.Grasp
import ErgoCubBehavior.Properties.Release
import ErgoCubBehavior.Properties.Commands
import ErgoCubBehavior.Properties.Perception
import ErgoCubBehavior.Properties.Expression
import ErgoCubBehavior.Properties.Integrity
import ErgoCubBehavior.Properties.Arms
import ErgoCubBehavior.Properties.Liveness
import ErgoCubBehavior.Properties.Composition
import ErgoCubBehavior.Properties.Remote
import ErgoCubBehavior.Properties.Replay
import ErgoCubBehavior.Properties.Schedule
import ErgoCubBehavior.Properties.Scratch
import ErgoCubBehavior.Properties.Startup
