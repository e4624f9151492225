import HumaWare.Reactive.Network
import HumaWare.Reactive.Delivery
import HumaWare.Reactive.Subsystem
import HumaWare.Reactive.Inbox
import HumaWare.CommandArbiter.Gate
import HumaWare.CommandArbiter.Clamp
import HumaWare.SafetyManager.Node
import HumaWare.SafetyManager.Publication
import HumaWare.SafetyManager.Findings
import HumaWare.SafetyManager.Reentry
import HumaWare.SafetyManager.Sources
import HumaWare.Reactive.Journal
import HumaWare.ModeManager.Node
import HumaWare.ModeManager.Transitions
import HumaWare.ModeManager.Entry
import HumaWare.HardwareAdapter.Gate
import HumaWare.LocomotionAdapter.Node
import HumaWare.LocomotionAdapter.Motion
import HumaWare.LocomotionAdapter.Effect
import HumaWare.LocomotionAdapter.Coherence
import HumaWare.LocomotionAdapter.Settling
import HumaWare.LocomotionAdapter.Explanation
import HumaWare.Nav2Bridge.Node
import HumaWare.Nav2Bridge.Report
import HumaWare.SkillServer.Node
import HumaWare.PolicyProvider.Gate
import HumaWare.PolicyProvider.Plan
import HumaWare.PolicyProvider.Rounds
import HumaWare.PolicyProvider.Stub
import HumaWare.PolicyProvider.Scripted
import HumaWare.PolicyProvider.Contract
import HumaWare.PolicyProvider.Progress
import HumaWare.PolicyProvider.Pace
import HumaWare.PolicyProvider.Emission
import HumaWare.PolicyProvider.Load
import HumaWare.PolicyProvider.Release
import HumaWare.BagEvaluator.Evaluator
import HumaWare.BagEvaluator.Topics
import HumaWare.BagEvaluator.Freshness
import HumaWare.BagEvaluator.Cli
import HumaWare.BagEvaluator.Namespaces
import HumaWare.BagEvaluator.Coverage
import HumaWare.BagEvaluator.Reconstruction
import HumaWare.Runtime.Network
import HumaWare.Runtime.Lockdown
import HumaWare.Runtime.StopSkill
import HumaWare.Runtime.Provenance
import HumaWare.Runtime.Recovery
import HumaWare.Runtime.SelfSustained
import HumaWare.Runtime.Inbox
import HumaWare.Runtime.Takeover
import HumaWare.Runtime.Alarm
import HumaWare.Runtime.AutonomyReturn
import HumaWare.Runtime.ModeChange
import HumaWare.ModeManager.ActiveSince
import HumaWare.DiagnosticsAggregator.Node
import HumaWare.DiagnosticsAggregator.Samples
import HumaWare.DiagnosticsAggregator.Health
import HumaWare.DiagnosticsAggregator.Diagnostics
import HumaWare.KeyboardTeleop.Node
import HumaWare.KeyboardTeleop.Stop
import HumaWare.CapabilityRegistry.Node
import HumaWare.CapabilityRegistry.Permission
import HumaWare.MockRobot.Node
import HumaWare.System.Network
import HumaWare.System.Subscribers
import HumaWare.System.Silence
import HumaWare.System.Lockdown
import HumaWare.Reactive.Cadence
import HumaWare.System.Origin
import HumaWare.System.Watching
import HumaWare.System.Failsafe
import HumaWare.System.Script
import HumaWare.System.Skills
import HumaWare.System.Responsive
import HumaWare.System.Health
import HumaWare.ModeManager.Reach
import HumaWare.SafetyManager.Severity
import HumaWare.Reactive.Eager
import HumaWare.System.Recording
import HumaWare.Reactive.Commute
import HumaWare.System.Interleaving
import HumaWare.System.Recovery
import HumaWare.System.StopKey
