import RedisBridge.LockoutBound
import RedisBridge.LockoutDuration
import RedisBridge.TransitionRuns
import RedisBridge.CapabilityLaws
import RedisBridge.ClientAddress
import RedisBridge.FileAcceptance
import RedisBridge.BridgeConfig
import RedisBridge.EffectivePolicy
import RedisBridge.LockoutPoison
import RedisBridge.AppState
import RedisBridge.AuthRequests
import RedisBridge.TargetIsolation
import RedisBridge.Handlers
import RedisBridge.Gatekeeping
import RedisBridge.LockoutCensus
import RedisBridge.ProxyConfinement
import RedisBridge.AuthCounting
import RedisBridge.OperationAccounting
import RedisBridge.ShardAccounting
import RedisBridge.RealtimeFraming
import RedisBridge.ReplyRoundTrip
import RedisBridge.EncodingAgreement
import RedisBridge.PresentedTokens
import RedisBridge.MapKeys
import RedisBridge.ResponseLimit
import RedisBridge.ScriptForwarding
import RedisBridge.ArgumentForwarding
import RedisBridge.SupervisorRuns
import RedisBridge.AddressRenderings
import RedisBridge.ForwardedReading
import RedisBridge.ShardRotation
import RedisBridge.LockoutDisorder
import RedisBridge.ConcurrentAuth
import RedisBridge.AuthInterleavings
import RedisBridge.AuthGuarantees
import RedisBridge.RealtimeSessions
import RedisBridge.ShardCallers
import RedisBridge.EarnedLocks
import RedisBridge.CommandVisits
import RedisBridge.VisitAccounts
import RedisBridge.VisitConfinement
import RedisBridge.UninterruptedVisits
import RedisBridge.FallibleRelations
import RedisBridge.StartupReports
import RedisBridge.Startup
import RedisBridge.VisitProgress
import RedisBridge.JointPrograms
import RedisBridge.SubscribeVisits
import RedisBridge.SubscribeAccounts
import RedisBridge.UninterruptedStreams
import RedisBridge.WholeBridge
import RedisBridge.BridgeAccounts
import RedisBridge.ConnectedVisits
import RedisBridge.StreamProgress
