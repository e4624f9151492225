import HumaWare.KeyboardTeleop.Node

/-! # No stop is left unsent

The velocity target, the flag that says that the zero was sent, and what was heard last on
`teleop/cmd_vel`.

* **`applyKey_within`** — the target stays within the limits;
* **`Linked`**, **`linked_after`** — the invariant: the flag is up only while the target is zero and
  the last command was zero;
* **`lastTwist_tick`** — after a tick the last command is the target;
* **`rests_step`**, **`rests_of_zeroSent`** — a zero that was sent is not repeated until a key comes;
* **`stops_sent`** — the main result, over all runs. -/

namespace HumaWare.KeyboardTeleop

open Python Reactive

variable {params : Params}

/-! ## The limits -/

/-- A velocity within the limits of the parameters. -/
def TeleopVelocity.Within (velocity : TeleopVelocity) (params : Params) : Prop :=
  |velocity.linearXMps| ≤ params.maxLinearVelocityMps ∧
    |velocity.angularZRadps| ≤ params.maxAngularVelocityRadps

/-- The zero target is within the limits. -/
theorem within_zero (hlinear : 0 ≤ params.maxLinearVelocityMps)
    (hangular : 0 ≤ params.maxAngularVelocityRadps) : (0 : TeleopVelocity).Within params := by
  constructor
  · show |(0 : ℚ)| ≤ _
    rwa [abs_zero]
  · show |(0 : ℚ)| ≤ _
    rwa [abs_zero]

/-- **Every key leaves a target within the limits**, whatever the steps are. -/
theorem applyKey_within (hlinear : 0 ≤ params.maxLinearVelocityMps)
    (hangular : 0 ≤ params.maxAngularVelocityRadps) (velocity : TeleopVelocity) (key : String) :
    (velocity.applyKey key params.linearStepMps params.angularStepRadps
      params.maxLinearVelocityMps params.maxAngularVelocityRadps).Within params := by
  have hclamped : ∀ linear angular : ℚ, TeleopVelocity.Within
      { linearXMps := clamp linear (-params.maxLinearVelocityMps) params.maxLinearVelocityMps
        angularZRadps :=
          clamp angular (-params.maxAngularVelocityRadps) params.maxAngularVelocityRadps } params :=
    fun linear angular => ⟨abs_clamp_le hlinear, abs_clamp_le hangular⟩
  unfold TeleopVelocity.applyKey
  split_ifs
  · exact hclamped _ _
  · exact hclamped _ _
  · exact hclamped _ _
  · exact hclamped _ _
  · exact within_zero hlinear hangular
  · exact hclamped _ _

/-- A stop key makes the target zero. -/
theorem applyKey_of_mem_stopKeys {velocity : TeleopVelocity} {key : String}
    {linearStep angularStep maxLinear maxAngular : ℚ} (hkey : key ∈ stopKeys) :
    velocity.applyKey key linearStep angularStep maxLinear maxAngular = 0 := by
  rcases List.mem_pair.mp hkey with rfl | rfl <;> rfl

/-- The keys that drive: the motion keys that do not stop. -/
def driveKeys : List String := ["w", "s", "a", "d"]

/-- The command that a publication is. -/
def Publication.command? : Publication → Option TwistStamped
  | .teleopCmd msg => some msg
  | .heartbeat _ => none

/-- The twist of the command published last, zero if none was published. -/
def lastTwist (params : Params) (h : List Input) : Twist :=
  ((latest Publication.command? ((machine params).outputs h).flatten).map TwistStamped.twist).getD 0

/-- The last twist after one more input. -/
theorem lastTwist_concat (params : Params) (h : List Input) (i : Input) :
    lastTwist params (h ++ [i]) =
      ((latest Publication.command? (step params ((machine params).after h) i).2).map
        TwistStamped.twist).getD (lastTwist params h) := by
  rw [lastTwist, Machine.outputs_concat, List.flatten_append, latest_append, lastTwist, machine_out]
  cases hlast : latest Publication.command? (step params ((machine params).after h) i).2 with
  | none => simp [hlast]
  | some msg => simp [hlast]

/-- After a tick the last command is what the tick sent, if it sent one. -/
theorem lastTwist_tick_eq (params : Params) (h : List Input) (now : Time) :
    lastTwist params (h ++ [⟨now, .publishTick⟩]) =
      if tickVelocity params ((machine params).after h) now = 0 ∧
          ((machine params).after h).stopSent = true then lastTwist params h
      else (tickVelocity params ((machine params).after h) now).twist := by
  rw [lastTwist_concat, step_tick, publishTick_spec]
  split <;> rfl

/-- After a motion key that makes the target zero the last command is zero. -/
theorem lastTwist_key_eq {h : List Input} {now : Time} {key : String}
    (hmotion : isMotionKey key = true) :
    lastTwist params (h ++ [⟨now, .key key⟩]) =
      if ((machine params).after (h ++ [⟨now, .key key⟩])).velocity = 0 then 0
      else lastTwist params h := by
  rw [lastTwist_concat, Machine.after_concat, machine_next, step_key, readKey_eq, if_pos hmotion,
    applyKey_spec]
  dsimp only
  split <;> rfl

/-- A key that is not a motion key changes nothing. -/
theorem key_of_not_motion {h : List Input} {now : Time} {key : String}
    (hmotion : isMotionKey key = false) :
    (machine params).after (h ++ [⟨now, .key key⟩]) = (machine params).after h ∧
      lastTwist params (h ++ [⟨now, .key key⟩]) = lastTwist params h := by
  rw [lastTwist_concat, Machine.after_concat, machine_next, step_key, readKey_eq, hmotion,
    if_neg Bool.false_ne_true]
  exact ⟨rfl, rfl⟩

/-- After a tick: the state. -/
theorem after_tick (params : Params) (h : List Input) (now : Time) :
    (machine params).after (h ++ [⟨now, .publishTick⟩]) =
      { velocity := tickVelocity params ((machine params).after h) now
        lastKeyAt := ((machine params).after h).lastKeyAt
        stopSent := decide (tickVelocity params ((machine params).after h) now = 0) } := by
  rw [Machine.after_concat, machine_next, step_tick, publishTick_spec]

/-- After a motion key: the flag tells whether the target is zero. -/
theorem after_key {h : List Input} {now : Time} {key : String} (hmotion : isMotionKey key = true) :
    ((machine params).after (h ++ [⟨now, .key key⟩])).lastKeyAt = some now ∧
      (((machine params).after (h ++ [⟨now, .key key⟩])).stopSent = true ↔
        ((machine params).after (h ++ [⟨now, .key key⟩])).velocity = 0) := by
  rw [Machine.after_concat, machine_next, step_key, readKey_eq, if_pos hmotion, applyKey_spec]
  exact ⟨rfl, decide_eq_true_iff⟩

/-! ## The invariant -/

/-- **The flag that the zero was sent** is up only while the target is zero, and so is the command
that was heard last. -/
def Linked (params : Params) (h : List Input) : Prop :=
  ((machine params).after h).stopSent = true →
    ((machine params).after h).velocity = 0 ∧ lastTwist params h = 0

/-- The flag keeps its word in every run. -/
theorem linked_after (params : Params) (h : List Input) : Linked params h := by
  induction h using List.reverseRecOn with
  | nil => exact fun _ => ⟨rfl, rfl⟩
  | append_singleton h i ih =>
    obtain ⟨now, event⟩ := i
    intro hsent
    cases event with
    | key key =>
      cases hmotion : isMotionKey key with
      | true =>
        have hzero := (after_key hmotion).2.mp hsent
        exact ⟨hzero, by rw [lastTwist_key_eq hmotion, if_pos hzero]⟩
      | false =>
        obtain ⟨hafter, hlast⟩ : _ ∧ _ := key_of_not_motion hmotion
        rw [hafter] at hsent ⊢
        rw [hlast]
        exact ih hsent
    | publishTick =>
      rw [after_tick] at hsent ⊢
      have hzero := of_decide_eq_true hsent
      refine ⟨hzero, ?_⟩
      rw [lastTwist_tick_eq, hzero, TeleopVelocity.twist_zero]
      split
      · next hquiet => exact (ih hquiet.2).2
      · rfl

/-- **After a tick the last command is the target.** -/
theorem lastTwist_tick (params : Params) (h : List Input) (now : Time) :
    lastTwist params (h ++ [⟨now, .publishTick⟩]) =
      ((machine params).after (h ++ [⟨now, .publishTick⟩])).velocity.twist := by
  rw [lastTwist_tick_eq, after_tick]
  split
  · next hquiet => rw [(linked_after params h hquiet.2).2, hquiet.1, TeleopVelocity.twist_zero]
  · rfl

/-! ## What is published -/

/-- A motion key commands only the zero, which is then the target. -/
theorem command_applyKey {s : State} {now : Time} {key : String} {msg : TwistStamped}
    (hmem : Publication.teleopCmd msg ∈ (applyKey params s now key).2) :
    msg.twist = (applyKey params s now key).1.velocity.twist := by
  rw [applyKey_spec] at hmem ⊢
  dsimp only at hmem ⊢
  split at hmem
  · next hzero =>
    rw [hzero, Publication.teleopCmd.inj (List.mem_singleton.mp hmem)]
    rfl
  · exact absurd hmem List.not_mem_nil

/-- A tick commands the target that it leaves. -/
theorem command_publishTick {s : State} {now : Time} {msg : TwistStamped}
    (hmem : Publication.teleopCmd msg ∈ (publishTick params s now).2) :
    msg.twist = (publishTick params s now).1.velocity.twist := by
  rw [publishTick_spec] at hmem ⊢
  rcases List.mem_cons.mp hmem with hheartbeat | hmem
  · cases hheartbeat
  · split at hmem
    · exact absurd hmem List.not_mem_nil
    · rw [Publication.teleopCmd.inj (List.mem_singleton.mp hmem)]

/-- **A command is the target that the callback leaves**, and the flag tells whether it is zero. -/
theorem command_spec {s : State} {i : Input} {msg : TwistStamped}
    (hmem : Publication.teleopCmd msg ∈ (step params s i).2) :
    msg.twist = (step params s i).1.velocity.twist ∧
      ((step params s i).1.stopSent = true ↔ (step params s i).1.velocity = 0) := by
  obtain ⟨now, event⟩ := i
  cases event with
  | key key =>
    rw [step_key, readKey_eq] at hmem ⊢
    cases hmotion : isMotionKey key with
    | true =>
      rw [hmotion, if_pos rfl] at hmem
      rw [if_pos rfl]
      refine ⟨command_applyKey hmem, ?_⟩
      rw [applyKey_spec]
      exact decide_eq_true_iff
    | false =>
      rw [hmotion, if_neg Bool.false_ne_true] at hmem
      exact absurd hmem List.not_mem_nil
  | publishTick =>
    rw [step_tick] at hmem ⊢
    refine ⟨command_publishTick hmem, ?_⟩
    rw [publishTick_spec]
    exact decide_eq_true_iff

/-- In every run the target is within the limits. -/
theorem within_after (hlinear : 0 ≤ params.maxLinearVelocityMps)
    (hangular : 0 ≤ params.maxAngularVelocityRadps) (h : List Input) :
    ((machine params).after h).velocity.Within params := by
  refine (machine params).invariant (P := fun _ s => s.velocity.Within params) ?_ ?_ h
  · exact within_zero hlinear hangular
  · rintro h ⟨now, event⟩ hwithin
    cases event with
    | key key =>
      rw [machine_next, step_key, readKey_eq]
      split
      · rw [applyKey_spec]
        exact applyKey_within hlinear hangular _ key
      · exact hwithin
    | publishTick =>
      rw [machine_next, step_tick, publishTick_spec, tickVelocity]
      split
      · exact within_zero hlinear hangular
      · exact hwithin

/-! ## The stop -/

/-- The node holds when it last read a motion key. -/
theorem lastKeyAt_after (params : Params) (h : List Input) :
    ((machine params).after h).lastKeyAt = latest motionKeys h := by
  apply Machine.latest_optional_register _ State.lastKeyAt
  · rfl
  · rintro s ⟨now, event⟩
    cases event with
    | key key =>
      rw [machine_next, step_key, readKey_eq, motionKeys]
      dsimp only
      cases isMotionKey key with
      | true =>
        rw [if_pos rfl, applyKey_spec]
        rfl
      | false => rfl
    | publishTick =>
      rw [machine_next, step_tick, publishTick_spec]
      rfl

/-- A tick long after the last key has the target zero. -/
theorem tickVelocity_of_timedOut {h : List Input} {now keyAt : Time}
    (hlast : latest motionKeys h = some keyAt) (hage : now - keyAt > params.keyTimeout) :
    tickVelocity params ((machine params).after h) now = 0 := by
  have htimedOut : isTimedOut params ((machine params).after h) now = true := by
    rw [isTimedOut, lastKeyAt_after, hlast]
    exact decide_eq_true hage
  rw [tickVelocity, htimedOut, if_pos rfl]

/-- Without a motion key the target is zero. -/
theorem velocity_of_no_key {h : List Input} (hnone : latest motionKeys h = none) :
    ((machine params).after h).velocity = 0 := by
  rw [← lastKeyAt_after params] at hnone
  refine (machine params).invariant (P := fun _ s => s.lastKeyAt = none → s.velocity = 0)
    (fun _ => rfl) ?_ h hnone
  rintro h ⟨now, event⟩ ih
  cases event with
  | key key =>
    rw [machine_next, step_key, readKey_eq]
    split
    · rw [applyKey_spec]
      intro hkey
      cases hkey
    · exact ih
  | publishTick =>
    rw [machine_next, step_tick, publishTick_spec]
    intro hkey
    show tickVelocity params _ now = 0
    rw [tickVelocity, ih hkey, ite_self]

/-- **A motion is commanded on a recent key only.** -/
theorem recent_key_of_command {h : List Input} {i : Input} {msg : TwistStamped}
    (hmem : Publication.teleopCmd msg ∈ (machine params).out ((machine params).after h) i)
    (hne : msg.twist ≠ 0) :
    ∃ keyAt, latest motionKeys h = some keyAt ∧ i.now - keyAt ≤ params.keyTimeout := by
  rw [machine_out] at hmem
  have hvelocity : (step params ((machine params).after h) i).1.velocity ≠ 0 := by
    intro hzero
    rw [(command_spec hmem).1, hzero] at hne
    exact hne TeleopVelocity.twist_zero
  obtain ⟨now, event⟩ := i
  cases event with
  | key key =>
    -- a key sends nothing but the zero
    rw [step_key, readKey_eq] at hmem hvelocity
    cases hmotion : isMotionKey key with
    | true =>
      rw [hmotion, if_pos rfl, applyKey_spec] at hmem hvelocity
      dsimp only at hmem hvelocity
      rw [if_neg hvelocity] at hmem
      exact absurd hmem List.not_mem_nil
    | false =>
      rw [hmotion, if_neg Bool.false_ne_true] at hmem
      exact absurd hmem List.not_mem_nil
  | publishTick =>
    rw [step_tick, publishTick_spec] at hvelocity
    have htarget : tickVelocity params ((machine params).after h) now ≠ 0 := hvelocity
    cases hlast : latest motionKeys h with
    | none =>
      rw [tickVelocity, velocity_of_no_key hlast, ite_self] at htarget
      exact absurd rfl htarget
    | some keyAt =>
      refine ⟨keyAt, rfl, not_lt.mp fun hage => ?_⟩
      exact htarget (tickVelocity_of_timedOut hlast hage)

/-- The zero was sent after the last motion key, or by it. -/
def ZeroSent (params : Params) (h : List Input) : Prop :=
  ∃ pre i post, h = pre ++ i :: post ∧
    (∃ msg, Publication.teleopCmd msg ∈ (machine params).out ((machine params).after pre) i ∧
      msg.twist = 0) ∧
    ∀ j ∈ post, motionKeys j = none

/-- The node rests: its target is zero and was sent. -/
def State.Rests (s : State) : Prop := s.velocity = 0 ∧ s.stopSent = true

/-- A node that rests sends nothing and goes on resting, until a motion key comes. -/
theorem rests_step {s : State} (hrests : s.Rests) {i : Input} (hkey : motionKeys i = none) :
    (step params s i).1.Rests ∧ ∀ msg, Publication.teleopCmd msg ∉ (step params s i).2 := by
  obtain ⟨now, event⟩ := i
  cases event with
  | key key =>
    have hmotion : isMotionKey key = false := by
      cases hkind : isMotionKey key with
      | true => simp [motionKeys, hkind] at hkey
      | false => rfl
    rw [step_key, readKey_eq, hmotion, if_neg Bool.false_ne_true]
    exact ⟨hrests, fun msg => List.not_mem_nil⟩
  | publishTick =>
    have hzero : tickVelocity params s now = 0 := by
      rw [tickVelocity, hrests.1, ite_self]
    rw [step_tick, publishTick_spec, if_pos ⟨hzero, hrests.2⟩]
    refine ⟨⟨hzero, decide_eq_true hzero⟩, fun msg hmem => ?_⟩
    cases List.mem_singleton.mp hmem

/-- **A zero that was sent is not repeated** until a motion key comes. -/
theorem rests_of_zeroSent {h : List Input} (hsent : ZeroSent params h) :
    ((machine params).after h).Rests := by
  obtain ⟨pre, i, post, rfl, ⟨msg, hmem, hzero⟩, hquiet⟩ := hsent
  obtain ⟨htwist, hflag⟩ := command_spec hmem
  have hvelocity : (step params ((machine params).after pre) i).1.velocity = 0 :=
    TeleopVelocity.twist_eq_zero_iff.mp (htwist.symm.trans hzero)
  have hstart : ((machine params).after (pre ++ [i])).Rests := by
    rw [Machine.after_concat]
    exact ⟨hvelocity, hflag.mpr hvelocity⟩
  have hkept := (machine params).invariant_from hstart
    (fun s j hj hrests => (rests_step hrests hj).1) post hquiet
  rwa [List.append_assoc] at hkept

/-- **No stop is left unsent** after the history `h`. -/
structure StopsSent (params : Params) (h : List Input) : Prop where
  /-- After a tick the last command is the target. -/
  tick : ∀ now, lastTwist params (h ++ [⟨now, .publishTick⟩]) =
    ((machine params).after (h ++ [⟨now, .publishTick⟩])).velocity.twist
  /-- A tick long after the last key leaves the target zero and commands nothing else. -/
  timedOut : ∀ now keyAt, latest motionKeys h = some keyAt → now - keyAt > params.keyTimeout →
    ((machine params).after (h ++ [⟨now, .publishTick⟩])).velocity = 0 ∧
      ∀ msg, Publication.teleopCmd msg ∈
        (machine params).out ((machine params).after h) ⟨now, .publishTick⟩ → msg.twist = 0
  /-- Once the zero was sent, no tick commands anything. -/
  quiet : ZeroSent params h → ∀ now msg, Publication.teleopCmd msg ∉
    (machine params).out ((machine params).after h) ⟨now, .publishTick⟩
  /-- A stop key commands zero at once. -/
  stopKey : ∀ now, ∀ key ∈ stopKeys, ∃ msg,
    (machine params).out ((machine params).after h) ⟨now, .key key⟩ = [.teleopCmd msg] ∧
      msg.twist = 0
  /-- Every command is within the limits. -/
  within : ∀ i msg, Publication.teleopCmd msg ∈
    (machine params).out ((machine params).after h) i →
      ∃ velocity : TeleopVelocity, msg.twist = velocity.twist ∧
        |velocity.linearXMps| ≤ params.maxLinearVelocityMps ∧
        |velocity.angularZRadps| ≤ params.maxAngularVelocityRadps

/-- **Keyboard teleop never leaves a stop unsent**, along any run: whatever keys and ticks came, and
whatever the steps and the key timeout are. -/
theorem stops_sent (params : Params) (hlinear : 0 ≤ params.maxLinearVelocityMps)
    (hangular : 0 ≤ params.maxAngularVelocityRadps) (h : List Input) : StopsSent params h where
  tick := lastTwist_tick params h
  timedOut := by
    intro now keyAt hlast hage
    have hafter : ((machine params).after (h ++ [⟨now, .publishTick⟩])).velocity = 0 := by
      rw [after_tick]
      exact tickVelocity_of_timedOut hlast hage
    refine ⟨hafter, fun msg hmem => ?_⟩
    rw [Machine.after_concat] at hafter
    exact (command_spec hmem).1.trans (TeleopVelocity.twist_eq_zero_iff.mpr hafter)
  quiet := by
    intro hsent now
    exact (rests_step (rests_of_zeroSent hsent) rfl).2
  stopKey := by
    intro now key hkey
    have hmotion : isMotionKey key = true := by
      rw [isMotionKey, decide_eq_true hkey, Bool.or_true]
    have hzero : ((machine params).after h).velocity.applyKey key params.linearStepMps
        params.angularStepRadps params.maxLinearVelocityMps params.maxAngularVelocityRadps = 0 :=
      applyKey_of_mem_stopKeys hkey
    refine ⟨{ header := { stamp := now, frameId := params.robotId }, twist := 0 }, ?_, rfl⟩
    rw [machine_out, step_key, readKey_eq, if_pos hmotion, applyKey_spec, hzero, if_pos rfl]
  within := by
    intro i msg hmem
    have hwithin := within_after hlinear hangular (h ++ [i])
    rw [Machine.after_concat] at hwithin
    exact ⟨_, (command_spec hmem).1, hwithin⟩

/-- A key, its command, and the stop after the timeout. -/
theorem stops_sent_forward :
    StopsSent {} [⟨0, .key "w"⟩, ⟨50000000, .publishTick⟩, ⟨600000000, .publishTick⟩] := by
  apply stops_sent
  · decide +kernel
  · decide +kernel

end HumaWare.KeyboardTeleop
