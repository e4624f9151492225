import HumaWare.LocomotionAdapter.Effect

/-! # What the constraints of a robot at rest explain

A robot at rest is either held by the runtime or free to move, and its `active_constraints` should
tell which. The reason is written when a stop begins and cleared when the stop settles while the
output is free, and at no other place:

* **`motion_update`** — what a tick leaves in the fields of the motion, branch by branch;
* **`Misexplained`** — the ticks that get it wrong, by the branch that does;
* **`explained_tick_iff`**, **`explained_iff`** — the constraints explain the rest exactly where no
  tick is among them. -/

namespace HumaWare.LocomotionAdapter

open Reactive

/-- The constraints by which the node says that the runtime holds the robot. -/
def runtimeBlockReasons : List String :=
  ["mode_inactive", "mode_blocks_locomotion", "safety_blocks_locomotion", "runtime_blocks_output"]

/-- A list of constraints has a runtime block among its reasons. -/
def NamesBlock (constraints : List String) : Prop :=
  ∃ reason ∈ constraints, reason ∈ runtimeBlockReasons

instance (constraints : List String) : Decidable (NamesBlock constraints) :=
  inferInstanceAs (Decidable (∃ reason ∈ constraints, reason ∈ runtimeBlockReasons))

/-- A robot in this state is at rest. -/
def AtRest (state : UInt8) : Prop :=
  state = LocomotionState.stateStanding ∨ state = LocomotionState.stateInactive

instance (state : UInt8) : Decidable (AtRest state) := inferInstanceAs (Decidable (_ ∨ _))

/-- A tick after `h` explains the rest it publishes, if it publishes one: the constraints name a
runtime block exactly if the output is blocked. -/
def Explained (params : Params) (h : List Input) (now : Time) : Prop :=
  ∀ msg, Publication.locomotionState msg ∈
      (machine params).out ((machine params).after h) ⟨now, .tick⟩ → AtRest msg.state →
    (NamesBlock msg.activeConstraints ↔ isOutputBlocked ((machine params).after h) = true)

/-! ## The branches of a tick -/

/-- The last approved command is stale. -/
def State.Stale (s : State) (now : Time) : Prop :=
  ∃ lastCommandTime, s.lastCommandTime = some lastCommandTime ∧
    s.params.commandTimeout < now - lastCommandTime

/-- The output is blocked by a mode or a safety state that the timer does not list. -/
structure State.BlockedUnlisted (s : State) : Prop where
  blocked : isOutputBlocked s = true
  mode : s.activeMode ∉ haltingModes
  safety : s.safetyState ∉ haltingSafetyStates

/-- A tick that finds nothing to stop for leaves the robot at rest. -/
def State.RestsAt (s : State) (now : Time) : Prop :=
  AtRest s.state ∨ s.state = LocomotionState.stateStopping ∧
    ∃ start, s.stopStartedAt = some start ∧ s.params.stopSettleTime ≤ now - start

/-- **The ticks that explain a rest wrongly.** -/
inductive Misexplained (s : State) (now : Time) : Prop
  /-- The robot is held, and only said to wait for its first command. -/
  | waiting (hheld : s.BlockedUnlisted) (hnone : s.lastCommandTime = none)
  /-- The robot is held, and only said to have stopped for want of a fresh command. -/
  | timedOut (hheld : s.BlockedUnlisted) (hstale : s.Stale now) (hsettles : s.Settles now)
  /-- The robot is held, and keeps constraints that do not say so. -/
  | unnamed (hheld : s.BlockedUnlisted) (hfresh : s.Fresh now) (hrest : s.RestsAt now)
      (hnamed : ¬NamesBlock s.constraints)
  /-- The robot is free, and keeps the reason for which it was held. -/
  | lifted (hfree : isOutputBlocked s = false) (hfresh : s.Fresh now) (hrest : AtRest s.state)
      (hnamed : NamesBlock s.constraints)

/-- What a tick leaves in the fields of the motion. -/
theorem motion_update (s : State) (now : Time) :
    (updateStateForRuntime s now).motion =
      if s.activeMode ∈ [ModeState.modeInactive, ModeState.modeMaintenance] then Motion.halted
      else if s.activeMode ∈ [ModeState.modeFault, ModeState.modeShutdown] then
        s.stopped now "mode_blocks_locomotion"
      else if s.safetyState ∈ haltingSafetyStates then s.stopped now "safety_blocks_locomotion"
      else
        match s.lastCommandTime with
        | none => ⟨LocomotionState.stateStanding, s.stopStartedAt, s.linearVelocityMps,
            s.angularVelocityRadps, ["waiting_for_command"]⟩
        | some lastCommandTime =>
          if now - lastCommandTime > s.params.commandTimeout then s.stopped now "command_timeout"
          else (settleStopIfReady s now).motion := by
  unfold updateStateForRuntime
  by_cases hmode : s.activeMode ∈ [ModeState.modeInactive, ModeState.modeMaintenance]
  · rw [if_pos hmode, if_pos hmode]
    rfl
  have hstop : ∀ reason, (beginStop s.zeroVelocity now reason).motion = s.stopped now reason := by
    intro reason
    rw [motion_beginStop, if_neg hmode]
  rw [if_neg hmode, if_neg hmode]
  by_cases hfault : s.activeMode ∈ [ModeState.modeFault, ModeState.modeShutdown]
  · rw [if_pos hfault, if_pos hfault, hstop]
  rw [if_neg hfault, if_neg hfault]
  by_cases hsafety : s.safetyState ∈ haltingSafetyStates
  · rw [if_pos hsafety, ← hstop]
    exact congrArg State.motion (if_pos hsafety)
  rw [if_neg hsafety, ← hstop]
  refine (congrArg State.motion (if_neg hsafety)).trans ?_
  cases s.lastCommandTime with
  | none => rfl
  | some lastCommandTime =>
    dsimp only
    split <;> rfl

/-! ## Which ticks explain a rest -/

/-- A motion explains its rest. -/
def Motion.Explains (m : Motion) (blocked : Bool) : Prop :=
  AtRest m.state → (NamesBlock m.constraints ↔ blocked = true)

/-- Whether a publication is explained can be read off the motion that it tells. -/
theorem explained_iff_motion (params : Params) (h : List Input) (now : Time) :
    Explained params h now ↔
      (updateStateForRuntime ((machine params).after h) now).motion.Explains
        (isOutputBlocked ((machine params).after h)) := by
  simp only [Explained, machine_out, step, tick, List.mem_singleton,
    Publication.locomotionState.injEq, forall_eq]
  exact Iff.rfl

/-- A stop for a reason that names the block explains itself while the output is blocked. -/
theorem explains_stopped {s : State} {reason : String} (hblocked : isOutputBlocked s = true)
    (hreason : reason ∈ runtimeBlockReasons) (now : Time) :
    (s.stopped now reason).Explains (isOutputBlocked s) := by
  have hnames : NamesBlock [reason] := ⟨reason, List.mem_singleton_self _, hreason⟩
  unfold State.stopped
  split
  · intro _
    rw [hblocked]
    exact iff_of_true hnames rfl
  · intro hrest
    exact absurd hrest (by simp +decide [AtRest])

/-- A stop for another reason explains itself, unless it settles while the output is blocked. -/
theorem explains_stopped_iff {s : State} {reason : String} (hreason : reason ∉ runtimeBlockReasons)
    (now : Time) :
    (s.stopped now reason).Explains (isOutputBlocked s) ↔
      ¬(isOutputBlocked s = true ∧ s.Settles now) := by
  have hnames : ∀ blocked : Bool, ¬NamesBlock (if blocked then [reason] else []) := by
    rintro (_ | _) ⟨named, hmem, hnamed⟩
    · exact absurd hmem List.not_mem_nil
    · rw [if_pos rfl, List.mem_singleton] at hmem
      exact hreason (hmem ▸ hnamed)
  unfold State.stopped
  by_cases hsettles : s.Settles now
  · rw [if_pos hsettles]
    simp only [Motion.Explains, AtRest, true_or, forall_const, hsettles, and_true]
    exact ⟨fun hiff hblocked => hnames _ (hiff.mpr hblocked),
      fun hfree => iff_of_false (hnames _) hfree⟩
  · rw [if_neg hsettles]
    refine iff_of_true (fun hrest => absurd hrest (by simp +decide [AtRest])) ?_
    exact fun h => hsettles h.2

/-- A tick that finds nothing to stop for leaves the constraints of a robot at rest as they are, and
clears those of a stop that settles while the output is free. -/
theorem explains_settle_iff (s : State) (now : Time) :
    (settleStopIfReady s now).motion.Explains (isOutputBlocked s) ↔
      ¬(isOutputBlocked s = true ∧ s.RestsAt now ∧ ¬NamesBlock s.constraints) ∧
        ¬(isOutputBlocked s = false ∧ AtRest s.state ∧ NamesBlock s.constraints) := by
  have hnil : ¬NamesBlock [] := by decide
  by_cases hstopping : s.state = LocomotionState.stateStopping
  · have hnotRest : ¬AtRest s.state := by
      rw [hstopping]
      decide
    by_cases hsettled : ∃ start, s.stopStartedAt = some start ∧ s.params.stopSettleTime ≤ now - start
    · obtain ⟨start, hstart, hsettles⟩ := hsettled
      have hmotion : (settleStopIfReady s now).motion =
          ⟨LocomotionState.stateStanding, some start, s.linearVelocityMps, s.angularVelocityRadps,
            if isOutputBlocked s then s.constraints else []⟩ := by
        rw [settleStopIfReady, if_neg (not_not.mpr hstopping), hstart]
        dsimp only
        rw [if_pos hsettles]
        rfl
      have hrest : s.RestsAt now := Or.inr ⟨hstopping, start, hstart, hsettles⟩
      rw [hmotion]
      have hstanding : AtRest LocomotionState.stateStanding := Or.inl rfl
      cases hblocked : isOutputBlocked s <;>
        simp [Motion.Explains, hstanding, hnil, hrest, hnotRest]
    · have hmotion : (settleStopIfReady s now).motion = s.motion := by
        rw [settleStopIfReady, if_neg (not_not.mpr hstopping)]
        cases hstart : s.stopStartedAt with
        | none => rfl
        | some start =>
          dsimp only
          rw [if_neg fun hsettles => hsettled ⟨start, hstart, hsettles⟩]
      have hnot : ¬s.RestsAt now := fun hrest => hrest.elim hnotRest fun h => hsettled h.2
      rw [hmotion]
      simp [Motion.Explains, hnotRest, hnot]
  · have hmotion : (settleStopIfReady s now).motion = s.motion := by
      rw [settleStopIfReady, if_pos hstopping]
    have hrest : s.RestsAt now ↔ AtRest s.state := or_iff_left fun h => hstopping h.1
    rw [hmotion, hrest]
    cases hblocked : isOutputBlocked s <;> simp [Motion.Explains]

/-- A mode that the timer lists blocks the output. -/
theorem isOutputBlocked_of_mode {s : State} (hmode : s.activeMode ∈ haltingModes) :
    isOutputBlocked s = true := by
  rw [isOutputBlocked, Bool.or_eq_true, decide_eq_true_iff]
  left
  simp only [haltingModes, List.mem_cons, List.not_mem_nil, or_false] at hmode
  rcases hmode with h | h | h | h <;> rw [h] <;> decide

/-- A safety state that the timer lists blocks the output. -/
theorem isOutputBlocked_of_safety {s : State} (hsafety : s.safetyState ∈ haltingSafetyStates) :
    isOutputBlocked s = true := by
  rw [isOutputBlocked, Bool.or_eq_true, decide_eq_true_iff, decide_eq_true_iff]
  right
  simp only [haltingSafetyStates, List.mem_cons, List.not_mem_nil, or_false] at hsafety
  rcases hsafety with h | h | h | h <;> rw [h] <;> decide

/-- While the timer lists the mode or the safety state, no rest is explained wrongly. -/
theorem not_misexplained_of_listed {s : State}
    (hlisted : s.activeMode ∈ haltingModes ∨ s.safetyState ∈ haltingSafetyStates) (now : Time) :
    ¬Misexplained s now := by
  have hunlisted : ¬s.BlockedUnlisted := fun hheld => hlisted.elim hheld.mode hheld.safety
  have hblocked : isOutputBlocked s = true :=
    hlisted.elim isOutputBlocked_of_mode isOutputBlocked_of_safety
  rintro (⟨hheld, -⟩ | ⟨hheld, -⟩ | ⟨hheld, -⟩ | ⟨hfree, -⟩)
  · exact hunlisted hheld
  · exact hunlisted hheld
  · exact hunlisted hheld
  · exact Bool.false_ne_true (hfree.symm.trans hblocked)

/-- **A tick explains the rest it publishes exactly if it is not one of the four kinds.** -/
theorem explained_tick_iff (params : Params) (h : List Input) (now : Time) :
    Explained params h now ↔ ¬Misexplained ((machine params).after h) now := by
  rw [explained_iff_motion]
  generalize (machine params).after h = s
  rw [motion_update]
  by_cases hmode : s.activeMode ∈ haltingModes
  · have hblocked := isOutputBlocked_of_mode hmode
    refine iff_of_true ?_ (not_misexplained_of_listed (Or.inl hmode) now)
    split
    · intro _
      rw [hblocked]
      exact iff_of_true (by decide) rfl
    next hactive =>
    rw [if_pos]
    · exact explains_stopped hblocked (by decide) now
    · simp only [haltingModes, List.mem_cons, List.not_mem_nil, or_false, not_or] at hmode hactive ⊢
      exact (hmode.resolve_left hactive.1).resolve_left hactive.2
  have hactive := hmode
  simp only [haltingModes, List.mem_cons, List.not_mem_nil, or_false, not_or] at hactive
  rw [if_neg (by simp [hactive]), if_neg (by simp [hactive])]
  by_cases hsafety : s.safetyState ∈ haltingSafetyStates
  · rw [if_pos hsafety]
    exact iff_of_true (explains_stopped (isOutputBlocked_of_safety hsafety) (by decide) now)
      (not_misexplained_of_listed (Or.inr hsafety) now)
  rw [if_neg hsafety]
  cases hcommand : s.lastCommandTime with
  | none =>
    have hnotNamed : ¬NamesBlock ["waiting_for_command"] := by decide
    have hexplains : Motion.Explains ⟨LocomotionState.stateStanding, s.stopStartedAt,
        s.linearVelocityMps, s.angularVelocityRadps, ["waiting_for_command"]⟩ (isOutputBlocked s) ↔
        ¬isOutputBlocked s = true := by
      simp [Motion.Explains, AtRest, hnotNamed]
    rw [hexplains]
    apply not_congr
    constructor
    · exact fun hblocked => .waiting ⟨hblocked, hmode, hsafety⟩ hcommand
    · rintro (⟨hheld, -⟩ | ⟨hheld, -⟩ | ⟨hheld, -⟩ | ⟨-, ⟨_, hsome, -⟩, -⟩)
      · exact hheld.blocked
      · exact hheld.blocked
      · exact hheld.blocked
      · rw [hcommand] at hsome
        cases hsome
  | some lastCommandTime =>
    have hstale : s.Stale now ↔ now - lastCommandTime > s.params.commandTimeout := by
      simp [State.Stale, hcommand]
    have hfresh : s.Fresh now ↔ ¬now - lastCommandTime > s.params.commandTimeout := by
      simp [State.Fresh, hcommand]
    dsimp only
    by_cases htimeout : now - lastCommandTime > s.params.commandTimeout
    · have hnotFresh : ¬s.Fresh now := fun h => hfresh.mp h htimeout
      rw [if_pos htimeout, explains_stopped_iff (by decide)]
      apply not_congr
      constructor
      · rintro ⟨hblocked, hsettles⟩
        exact .timedOut ⟨hblocked, hmode, hsafety⟩ (hstale.mpr htimeout) hsettles
      · rintro (⟨-, hnone⟩ | ⟨hheld, -, hsettles⟩ | ⟨-, h, -⟩ | ⟨-, h, -⟩)
        · rw [hcommand] at hnone
          cases hnone
        · exact ⟨hheld.blocked, hsettles⟩
        · exact absurd h hnotFresh
        · exact absurd h hnotFresh
    · have hnotStale : ¬s.Stale now := fun h => htimeout (hstale.mp h)
      rw [if_neg htimeout, explains_settle_iff, ← not_or]
      apply not_congr
      constructor
      · rintro (⟨hblocked, hrest, hnamed⟩ | ⟨hfree, hrest, hnamed⟩)
        · exact .unnamed ⟨hblocked, hmode, hsafety⟩ (hfresh.mpr htimeout) hrest hnamed
        · exact .lifted hfree (hfresh.mpr htimeout) hrest hnamed
      · rintro (⟨-, hnone⟩ | ⟨-, h, -⟩ | ⟨hheld, -, hrest, hnamed⟩ | ⟨hfree, -, hrest, hnamed⟩)
        · rw [hcommand] at hnone
          cases hnone
        · exact absurd h hnotStale
        · exact Or.inl ⟨hheld.blocked, hrest, hnamed⟩
        · exact Or.inr ⟨hfree, hrest, hnamed⟩

/-- **The constraints explain every rest of a run exactly if none of its ticks is one of the four
kinds.** -/
theorem explained_iff (params : Params) (h : List Input) :
    (∀ pre now post, h = pre ++ ⟨now, .tick⟩ :: post → Explained params pre now) ↔
      ∀ pre now post, h = pre ++ ⟨now, .tick⟩ :: post →
        ¬Misexplained ((machine params).after pre) now := by
  simp only [explained_tick_iff]

/-- **A free robot that looks held.** The robot walks, is stopped by an e-stop and stands; when the
safety state is OK again, and the command it walked on is still fresh, the tick publishes that it
stands because safety blocks the locomotion. -/
theorem not_explained :
    ClockMonotone
        ([⟨0, .modeState { activeMode := ModeState.modeTeleop }⟩,
          ⟨0, .safetyState { state := SafetyState.stateOk }⟩,
          ⟨1, .approvedCmd { twist := { linear := { x := .fin (1 / 4) } } }⟩,
          ⟨2, .safetyState { state := SafetyState.stateEstop }⟩, ⟨3, .tick⟩, ⟨500000003, .tick⟩,
          ⟨500000004, .safetyState { state := SafetyState.stateOk }⟩,
          ⟨500000005, .tick⟩] : List Input) ∧
      ¬Explained {} [⟨0, .modeState { activeMode := ModeState.modeTeleop }⟩,
        ⟨0, .safetyState { state := SafetyState.stateOk }⟩,
        ⟨1, .approvedCmd { twist := { linear := { x := .fin (1 / 4) } } }⟩,
        ⟨2, .safetyState { state := SafetyState.stateEstop }⟩, ⟨3, .tick⟩, ⟨500000003, .tick⟩,
        ⟨500000004, .safetyState { state := SafetyState.stateOk }⟩] 500000005 := by
  refine ⟨by decide, ?_⟩
  intro hexplained
  have hblocked := (hexplained _ (List.mem_singleton_self _) (by decide +kernel)).mp
    (by decide +kernel)
  revert hblocked
  decide +kernel

end HumaWare.LocomotionAdapter
