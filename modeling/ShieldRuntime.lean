import ShieldRuntime.Proofs.XmldefAuth
import ShieldRuntime.Proofs.ExitHonoured
import ShieldRuntime.Proofs.SpawnRollback
import ShieldRuntime.Proofs.ExitRelease
import ShieldRuntime.Proofs.PanicExit
import ShieldRuntime.Proofs.ListenerAdmission
import ShieldRuntime.Proofs.SessionSends
import ShieldRuntime.Proofs.TimerDelay
import ShieldRuntime.Proofs.TimerOwners
import ShieldRuntime.Proofs.PackStream
import ShieldRuntime.Proofs.PluginHandles
import ShieldRuntime.Proofs.DeclaredPlugins
import ShieldRuntime.Proofs.MatchGroups
import ShieldRuntime.Proofs.LeaderboardOrder
import ShieldRuntime.Proofs.TokenIdentity
import ShieldRuntime.Proofs.DatabaseProxies
import ShieldRuntime.Proofs.FrameStream
import ShieldRuntime.Proofs.NameIndexes
import ShieldRuntime.Proofs.LayeredConfig
import ShieldRuntime.Proofs.CachedScripts
import ShieldRuntime.Proofs.RemoteRoutes
import ShieldRuntime.Proofs.RotatedLogs
