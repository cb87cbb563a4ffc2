import A2aBridge.CustodyFrameBudgets
import A2aBridge.CustodyFrameRoundTrip
import A2aBridge.IndexListings
import A2aBridge.AttestedPrefix
import A2aBridge.HarvestAudit
import A2aBridge.SessionInvariant
import A2aBridge.FanOutRecovery
import A2aBridge.CleanupIntervals
import A2aBridge.WorkflowCutoff
import A2aBridge.RegistryClaims
import A2aBridge.Permissions
import A2aBridge.FlightSettlement
import A2aBridge.FlightReservations
import A2aBridge.FlightLifecycle
import A2aBridge.TaskCursors
import A2aBridge.TurnLiveness
import A2aBridge.Translator
import A2aBridge.TaskLineage
import A2aBridge.Workload
import A2aBridge.SplitSecrets
import A2aBridge.TurnEvidence
import A2aBridge.RecoveryReasons
import A2aBridge.TweakLoop
import A2aBridge.WorkflowDrain
import A2aBridge.ProcessOrder
import A2aBridge.NoProgressWarnings
