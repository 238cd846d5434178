import EscapeRoom.Library.Runs
import EscapeRoom.NavClient
import EscapeRoom.NavFlags
import EscapeRoom.Frontier
import EscapeRoom.Explorer
import EscapeRoom.Library.Stages
import EscapeRoom.TickStep
import EscapeRoom.Mission
import EscapeRoom.EffectTrace
import EscapeRoom.NavMission
import EscapeRoom.RealMath
import EscapeRoom.Velocity
import EscapeRoom.Outstanding
import EscapeRoom.FrontierScan
import EscapeRoom.Equipped
import EscapeRoom.DeadMan
import EscapeRoom.Detector
import EscapeRoom.LungeRange
import EscapeRoom.DoorController
import EscapeRoom.Library.Planar
import EscapeRoom.BaseFrame
import EscapeRoom.Release
import EscapeRoom.Perception
import EscapeRoom.FrontierComponents
import EscapeRoom.FrontierGoals
import EscapeRoom.ReleaseSafety
import EscapeRoom.LungeEnd
import EscapeRoom.Pinhole
import EscapeRoom.MonoDepth
import EscapeRoom.RigidTransform
import EscapeRoom.FloorRay
import EscapeRoom.EdgeCut
import EscapeRoom.BuildScene
import EscapeRoom.Library.Tiling
import EscapeRoom.WallMirror
import EscapeRoom.WallTiling
import EscapeRoom.ClosedRoom
import EscapeRoom.AlignLoop
import EscapeRoom.DropAccuracy
import EscapeRoom.MapFrame
import EscapeRoom.Library.Rotations
import EscapeRoom.Lidar
import EscapeRoom.LidarScan
import EscapeRoom.Library.Temporal
import EscapeRoom.ControlLoop
import EscapeRoom.PickupLoop
import EscapeRoom.DropLoop
import EscapeRoom.MissionLoop
import EscapeRoom.Library.Crc
import EscapeRoom.Protocol
import EscapeRoom.Server
import EscapeRoom.Chassis
import EscapeRoom.MoveAction
import EscapeRoom.Driver
import EscapeRoom.CmdVel
import EscapeRoom.Library.Rounding
import EscapeRoom.Library.Pacing
import EscapeRoom.Commands
import EscapeRoom.Simulator
import EscapeRoom.DoorNode
import EscapeRoom.MoveReport
import EscapeRoom.GripperAction
import EscapeRoom.GripperRelease
