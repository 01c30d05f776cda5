import AppLifecycle.Bridge
import AppLifecycle.Main
import AppLifecycle.Proofs.Chronicle
import AppLifecycle.Proofs.Coordinator.Focus
import AppLifecycle.Proofs.Coordinator.Mirrored
import AppLifecycle.Proofs.Coordinator.Refusal
import AppLifecycle.Proofs.Coordinator.Wakefulness
import AppLifecycle.Proofs.Roster.Parting
import AppLifecycle.Proofs.Scene.Calls
import AppLifecycle.Proofs.Coordinator.Fate
import AppLifecycle.Proofs.Protocol
import AppLifecycle.Proofs.Coordinator.Protocol
import AppLifecycle.Proofs.Coordinator.Condition
import AppLifecycle.Proofs.Coordinator.Throttling
import AppLifecycle.Proofs.Coordinator.SuspendedDroppers
import AppLifecycle.Proofs.Coordinator.DropperLog
import AppLifecycle.Proofs.IssuedIds
import AppLifecycle.Proofs.Coordinator.WindowIds
import AppLifecycle.Proofs.Coordinator.Ending
import AppLifecycle.Proofs.Coordinator.Exemption
import AppLifecycle.Proofs.Coordinator.Stale
import AppLifecycle.Proofs.Coordinator.Independence
import AppLifecycle.Proofs.Coordinator.Closing
import AppLifecycle.Proofs.Coordinator.Redelivery
import AppLifecycle.Proofs.Queue
import AppLifecycle.Proofs.Replay
import AppLifecycle.Proofs.Coordinator.HookContract
import AppLifecycle.Proofs.IdPairs
import AppLifecycle.Proofs.WakeLockCalls
import AppLifecycle.Proofs.Message
import AppLifecycle.Proofs.Script
import AppLifecycle.Proofs.SurfaceCalls
import AppLifecycle.Proofs.Coordinator.WaitingFrames
import AppLifecycle.Proofs.Coordinator.HandOver
import AppLifecycle.Proofs.ScriptParts
import AppLifecycle.Proofs.Config.Validity
import AppLifecycle.Proofs.Config.ReadBack
import AppLifecycle.Proofs.Coordinator.Snapshot
import AppLifecycle.Proofs.Coordinator.Applications
import AppLifecycle.Proofs.Host.Entries
import AppLifecycle.Proofs.Host.StatusLine
