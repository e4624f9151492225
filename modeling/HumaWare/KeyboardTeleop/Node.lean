import HumaWare.Msgs
import HumaWare.Reactive.History

/-! # The keyboard teleop node

`keymap.py` and `keyboard_teleop_node.py`, function by function. Each key that is read moves or
stops the velocity target; a timer sends the target on `teleop/cmd_vel`, and drops it when no key
came for a while. A target of zero is sent once, by the key or by the timer, and not repeated.
Velocities are rationals, and the parameters are fixed while the node runs. -/

namespace HumaWare.KeyboardTeleop

open Python Reactive

/-! ## The keymap -/

/-- `TeleopVelocity`. -/
@[ext]
structure TeleopVelocity where
  linearXMps : ℚ := 0
  angularZRadps : ℚ := 0
  deriving DecidableEq, Repr

instance : Zero TeleopVelocity := ⟨{}⟩

/-- `STOP_KEYS`. -/
def stopKeys : List String := ["x", " "]

/-- `HELP_KEYS`. -/
def helpKeys : List String := ["h", "?"]

/-- `is_motion_key`. -/
def isMotionKey (key : String) : Bool :=
  decide (key ∈ ["w", "s", "a", "d"]) || decide (key ∈ stopKeys)

/-- `_clamp`. -/
def clamp (value minimum maximum : ℚ) : ℚ := max minimum (min maximum value)

/-- `apply_key`. -/
def TeleopVelocity.applyKey (velocity : TeleopVelocity) (key : String)
    (linearStepMps angularStepRadps maxLinearVelocityMps maxAngularVelocityRadps : ℚ) :
    TeleopVelocity :=
  let clamped (linear angular : ℚ) : TeleopVelocity :=
    { linearXMps := clamp linear (-maxLinearVelocityMps) maxLinearVelocityMps
      angularZRadps := clamp angular (-maxAngularVelocityRadps) maxAngularVelocityRadps }
  if key = "w" then clamped (velocity.linearXMps + linearStepMps) velocity.angularZRadps
  else if key = "s" then clamped (velocity.linearXMps - linearStepMps) velocity.angularZRadps
  else if key = "a" then clamped velocity.linearXMps (velocity.angularZRadps + angularStepRadps)
  else if key = "d" then clamped velocity.linearXMps (velocity.angularZRadps - angularStepRadps)
  else if key ∈ stopKeys then 0
  else clamped velocity.linearXMps velocity.angularZRadps

/-! ## The node -/

/-- The parameters of the node. -/
structure Params where
  robotId : String := "mock_001"
  linearStepMps : ℚ := 1 / 20
  angularStepRadps : ℚ := 1 / 10
  maxLinearVelocityMps : ℚ := 1 / 2
  maxAngularVelocityRadps : ℚ := 1 / 2
  /-- `key_timeout_s` -/
  keyTimeout : Duration := 500000000
  deriving DecidableEq, Repr

/-- The node's fields. -/
structure State where
  velocity : TeleopVelocity := 0
  lastKeyAt : Option Time := none
  stopSent : Bool := true
  deriving DecidableEq, Repr

/-- The node's callbacks. -/
inductive Event
  /-- a character read by the keyboard thread -/
  | key (key : String)
  | publishTick
  deriving DecidableEq, Repr

/-- What the node publishes. -/
inductive Publication
  /-- on `teleop/cmd_vel` -/
  | teleopCmd (msg : TwistStamped)
  /-- on `teleop/heartbeat` -/
  | heartbeat (msg : Header)
  deriving DecidableEq

/-- The twist that commands a velocity target. -/
def TeleopVelocity.twist (velocity : TeleopVelocity) : Twist where
  linear := { x := .fin velocity.linearXMps }
  angular := { z := .fin velocity.angularZRadps }

/-- `_publish_command`. -/
def publishCommand (params : Params) (s : State) (now : Time) : Publication :=
  .teleopCmd
    { header := { stamp := now, frameId := params.robotId }
      twist := s.velocity.twist }

/-- `_publish_heartbeat`. -/
def publishHeartbeat (params : Params) (now : Time) : Publication :=
  .heartbeat { stamp := now, frameId := params.robotId }

/-- `_apply_key`. -/
def applyKey (params : Params) (s : State) (now : Time) (key : String) :
    State × List Publication :=
  let s :=
    { s with
      velocity := s.velocity.applyKey key params.linearStepMps params.angularStepRadps
        params.maxLinearVelocityMps params.maxAngularVelocityRadps
      lastKeyAt := some now }
  if s.velocity = 0 then
    -- sent again if the target was zero before the key
    ({ s with stopSent := true }, [publishCommand params s now])
  else ({ s with stopSent := false }, [])

/-- `_read_keys`: what it does with a character. -/
def readKey (params : Params) (s : State) (now : Time) (key : String) : State × List Publication :=
  if key ∈ helpKeys then (s, [])
  else if ¬isMotionKey key then (s, [])
  else applyKey params s now key

/-- `_is_timed_out`. -/
def isTimedOut (params : Params) (s : State) (now : Time) : Bool :=
  match s.lastKeyAt with
  | none => false
  | some lastKeyAt => decide (now - lastKeyAt > params.keyTimeout)

/-- `_publish_tick`. -/
def publishTick (params : Params) (s : State) (now : Time) : State × List Publication :=
  let heartbeat := publishHeartbeat params now
  let s := if isTimedOut params s now then { s with velocity := 0 } else s
  if s.velocity = 0 then
    if ¬s.stopSent then ({ s with stopSent := true }, [heartbeat, publishCommand params s now])
    else (s, [heartbeat])
  else ({ s with stopSent := false }, [heartbeat, publishCommand params s now])

/-- An input of the node: a callback and the clock reading at which it runs. -/
abbrev Input : Type := Stamped Time Event

/-- One callback of the node. -/
def step (params : Params) (s : State) (i : Input) : State × List Publication :=
  match i.event with
  | .key key => readKey params s i.now key
  | .publishTick => publishTick params s i.now

/-- The node, with the parameters `params`. -/
def machine (params : Params) : Machine State Input (List Publication) where
  init := {}
  step := step params

/-- A step of the machine is a callback of the node. -/
@[simp] theorem machine_next (params : Params) (s : State) (i : Input) :
    (machine params).next s i = (step params s i).1 := rfl

/-- The machine outputs what the callback publishes. -/
@[simp] theorem machine_out (params : Params) (s : State) (i : Input) :
    (machine params).out s i = (step params s i).2 := rfl

/-- What the node does with a character. -/
theorem step_key (params : Params) (s : State) (now : Time) (key : String) :
    step params s ⟨now, .key key⟩ = readKey params s now key := rfl

/-- What the node does when the timer fires. -/
theorem step_tick (params : Params) (s : State) (now : Time) :
    step params s ⟨now, .publishTick⟩ = publishTick params s now := rfl

/-- The clock readings of the motion keys. -/
def motionKeys (i : Input) : Option Time :=
  match i.event with
  | .key key => if isMotionKey key then some i.now else none
  | .publishTick => none

/-! ## What a callback does -/

/-- A key that is not a motion key does nothing, and no motion key asks for help. -/
theorem readKey_eq (params : Params) (s : State) (now : Time) (key : String) :
    readKey params s now key =
      if isMotionKey key then applyKey params s now key else (s, []) := by
  have hhelp : ∀ key ∈ helpKeys, isMotionKey key = false := by decide
  rw [readKey]
  by_cases hkey : key ∈ helpKeys
  · rw [if_pos hkey, hhelp key hkey, if_neg Bool.false_ne_true]
  · rw [if_neg hkey, ite_not]

/-- **What a motion key does**: the flag is up if the new target is zero, which is sent at once. -/
theorem applyKey_spec (params : Params) (s : State) (now : Time) (key : String) :
    let velocity := s.velocity.applyKey key params.linearStepMps params.angularStepRadps
      params.maxLinearVelocityMps params.maxAngularVelocityRadps
    applyKey params s now key =
      ({ velocity := velocity, lastKeyAt := some now, stopSent := decide (velocity = 0) },
        if velocity = 0 then
          [.teleopCmd { header := { stamp := now, frameId := params.robotId }, twist := 0 }]
        else []) := by
  intro velocity
  have hsplit : applyKey params s now key =
      if velocity = 0 then
        ({ velocity := velocity, lastKeyAt := some now, stopSent := true },
          [publishCommand params { s with velocity := velocity, lastKeyAt := some now } now])
      else ({ velocity := velocity, lastKeyAt := some now, stopSent := false }, []) := rfl
  rw [hsplit]
  by_cases hzero : velocity = 0
  · rw [if_pos hzero, if_pos hzero, decide_eq_true hzero, publishCommand]
    simp only [hzero]
    rfl
  · rw [if_neg hzero, if_neg hzero, decide_eq_false hzero]

/-- The target that a tick sends. -/
def tickVelocity (params : Params) (s : State) (now : Time) : TeleopVelocity :=
  if isTimedOut params s now then 0 else s.velocity

/-- **What a tick does**: it sends its target, except for a zero that was sent. -/
theorem publishTick_spec (params : Params) (s : State) (now : Time) :
    publishTick params s now =
      ({ velocity := tickVelocity params s now
         lastKeyAt := s.lastKeyAt
         stopSent := decide (tickVelocity params s now = 0) },
        publishHeartbeat params now ::
          if tickVelocity params s now = 0 ∧ s.stopSent = true then []
          else [.teleopCmd
            { header := { stamp := now, frameId := params.robotId }
              twist := (tickVelocity params s now).twist }]) := by
  obtain ⟨velocity, lastKeyAt, stopSent⟩ := s
  unfold publishTick tickVelocity publishCommand
  cases isTimedOut params ⟨velocity, lastKeyAt, stopSent⟩ now with
  | true => cases stopSent <;> simp
  | false =>
    by_cases hzero : velocity = 0
    · cases stopSent <;> simp [hzero]
    · simp [hzero]

/-! ## Velocities -/

/-- A value clamped to an interval around zero lies in it. -/
theorem abs_clamp_le {value maximum : ℚ} (hmaximum : 0 ≤ maximum) :
    |clamp value (-maximum) maximum| ≤ maximum := by
  rw [abs_le, clamp]
  have hbounds : -maximum ≤ maximum := by linarith
  exact ⟨le_max_left _ _, max_le hbounds (min_le_left _ _)⟩

/-- The zero target makes the zero twist. -/
theorem TeleopVelocity.twist_zero : (0 : TeleopVelocity).twist = 0 := rfl

/-- Only the target zero is commanded as zero. -/
theorem TeleopVelocity.twist_eq_zero_iff {velocity : TeleopVelocity} :
    velocity.twist = 0 ↔ velocity = 0 := by
  have hzero : (0 : PyFloat) = .fin 0 := rfl
  show Twist.mk _ _ = Twist.mk {} {} ↔ velocity = TeleopVelocity.mk 0 0
  simp [TeleopVelocity.ext_iff, hzero]

end HumaWare.KeyboardTeleop
