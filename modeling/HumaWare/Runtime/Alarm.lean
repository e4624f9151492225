import Mathlib.Data.List.Infix
import HumaWare.Reactive.Delivery
import HumaWare.Runtime.Inbox
import HumaWare.SafetyManager.Findings
import HumaWare.SafetyManager.Reentry

/-! # No false approved-command alarm

With stops on block, every tick of an arbiter that has seen a safety state publishes on
`cmd_vel/approved`, whatever it decides. If it ticks often enough and its commands arrive soon
enough, the safety manager is never without one for longer than its timeout.

* **`TicksWithin`** — the arbiter's ticks, from the first safety state on, are at most a period
  apart;
* **`exists_recent_tick`** — the walk from tick to tick up to one that is recent, but not too recent
  for its command to have arrived;
* **`approvedCommandTimeout_never`** — the main result. -/

namespace HumaWare.Runtime

open Reactive
open SafetyManager (watchdogs safetyMsg mrmMsg)

section Network

variable (setup : Setup) (members : NodeId → Bool) (opens : Topic → Bool)

/-- The step `a` after the run `pre` is a tick of the arbiter, which has seen a safety state. -/
def SeenTick (pre : List Action) (a : Action) : Prop :=
  (network setup members opens).fired ((network setup members opens).machine.after pre) a.event =
      some (.commandArbiter .tick) ∧
    ((network setup members opens).machine.after pre).nodes.commandArbiter.lastSafety.isSome = true

/-- **The arbiter's ticks are at most `P` apart**, from its first safety state on: between such a
tick and any step more than `P` later there is another one, at most `P` after the first. -/
def TicksWithin (P : Duration) (h : List Action) : Prop :=
  ∀ pre a mid j post, h = pre ++ a :: (mid ++ j :: post) → SeenTick setup members opens pre a →
    a.now + P < j.now → ∃ m₁ c m₂, mid = m₁ ++ c :: m₂ ∧
      (network setup members opens).fired
        ((network setup members opens).machine.after (pre ++ a :: m₁)) c.event =
          some (.commandArbiter .tick) ∧
      c.now ≤ a.now + P

variable {setup members opens}

/-- The arbiter does not forget that it saw a safety state. -/
theorem lastSafety_isSome_append {h : List Action} (k : List Action)
    (hseen : ((network setup members opens).machine.after h).nodes.commandArbiter.lastSafety.isSome =
      true) :
    ((network setup members opens).machine.after
      (h ++ k)).nodes.commandArbiter.lastSafety.isSome = true := by
  rw [commandArbiter_after_run, CommandArbiter.lastSafety_after] at hseen ⊢
  rw [commandArbiterHistory_append, latest_append]
  cases latest CommandArbiter.safetyStream (commandArbiterSince setup members opens h k) with
  | none => exact hseen
  | some msg => rfl

/-- **Every command on `cmd_vel/approved` comes from a tick** of an arbiter that has seen a safety
state. -/
theorem seenTick_of_emitted (hclosed : opens .approvedCmd = false) {pre : List Action} {a : Action}
    {m : Message} (hm : m ∈ (network setup members opens).emitted
      ((network setup members opens).machine.after pre) a) (htopic : m.topic = .approvedCmd) :
    SeenTick setup members opens pre a := by
  obtain ⟨msg, -, hfired, htick⟩ := tick_of_approvedCmd hclosed hm htopic
  refine ⟨hfired, ?_⟩
  -- a candidate is approved behind the safety gate only, and a stop needs a safety state as well
  rcases (CommandArbiter.approves_iff (wellKeyed_after_run setup members opens pre) a.now).mp
    ⟨msg, htick⟩ with ⟨c, hc⟩ | ⟨-, hseen⟩
  · rw [CommandArbiter.State.eligible, Option.ite_none_right_eq_some] at hc
    exact hc.1.1
  · exact hseen

/-- **With stops on block, a tick of an arbiter that has seen a safety state publishes a
command.** -/
theorem SeenTick.emits {pre : List Action} {a : Action} (htick : SeenTick setup members opens pre a)
    (hstop : ((network setup members opens).machine.after
      pre).nodes.commandArbiter.params.publishStopOnBlock = true) :
    ∃ msg, .approvedCmd msg ∈ (network setup members opens).emitted
      ((network setup members opens).machine.after pre) a := by
  obtain ⟨hfired, hseen⟩ := htick
  obtain ⟨msg, hmsg⟩ := (CommandArbiter.approves_iff (wellKeyed_after_run setup members opens pre)
    a.now).mpr (Or.inr ⟨hstop, hseen⟩)
  have hout : .commandArbiter (.approved msg) ∈ stepOutputs setup members opens
      ((network setup members opens).machine.after pre) a := by
    rw [stepOutputs_commandArbiter_tick hfired]
    exact List.mem_map_of_mem hmsg
  exact ⟨msg, emitted_of_output hout rfl⟩

/-- **The walk from tick to tick.** From a tick more than `P + D` before the step `i`, the ticks
lead to one that is at most `P + D` before it and still more than `D`. -/
theorem exists_recent_tick {P D : Duration} (hD : 0 ≤ D) {h : List Action} {i : Action}
    (hticks : TicksWithin setup members opens P (h ++ [i])) {pre post : List Action} {a : Action}
    (hsplit : h = pre ++ a :: post) (htick : SeenTick setup members opens pre a)
    (hage : a.now + (P + D) < i.now) :
    ∃ pre a post, h = pre ++ a :: post ∧ SeenTick setup members opens pre a ∧
      a.now + D < i.now ∧ i.now ≤ a.now + (P + D) := by
  -- by induction on what is left of the run after the tick
  induction hlength : post.length using Nat.strong_induction_on generalizing pre a post with
  | _ n ih =>
    obtain ⟨m₁, c, m₂, rfl, hfired, hperiod⟩ := hticks pre a post i [] (by simp [hsplit]) htick
      (by linarith)
    have hseen := lastSafety_isSome_append (a :: m₁) htick.2
    have hsplit' : h = (pre ++ a :: m₁) ++ c :: m₂ := by
      rw [hsplit, List.append_assoc, List.cons_append]
    by_cases hfar : c.now + (P + D) < i.now
    · have hshorter : m₂.length < n := by
        rw [← hlength, List.length_append, List.length_cons]
        omega
      exact ih m₂.length hshorter hsplit' ⟨hfired, hseen⟩ hfar rfl
    · exact ⟨pre ++ a :: m₁, c, m₂, hsplit', ⟨hfired, hseen⟩, by linarith, not_lt.mp hfar⟩

/-- **Behind every command that the safety manager heard there is a tick**, no later than the
reception. -/
theorem exists_seenTick_of_heard (hclosed : opens .approvedCmd = false) {h : List Action}
    (hmono : ClockMonotone h) {t : Time}
    (hheard : latest (SafetyManager.heard .approvedCommand)
      (safetyManagerHistory setup members opens h) = some t) :
    ∃ pre a mid j post m, h = pre ++ a :: (mid ++ j :: post) ∧ SeenTick setup members opens pre a ∧
      a.now ≤ t ∧ m ∈ (network setup members opens).emitted
        ((network setup members opens).machine.after pre) a ∧
      m.topic = .approvedCmd ∧ members .safetyManager = true := by
  obtain ⟨x, hx, hx'⟩ := exists_mem_of_latest hheard
  obtain ⟨⟨msg, hevent⟩, rfl⟩ := SafetyManager.heard_approvedCommand_iff.mp hx'
  obtain ⟨y, hy, hinput⟩ := List.mem_filterMap.mp hx
  -- the callback was the one of the approved command
  obtain ⟨now, event⟩ := y
  cases event with
  | safetyManager event =>
    obtain rfl := Option.some.inj hinput
    obtain rfl : event = .approvedCommand msg := hevent
    obtain ⟨_, j, post, n, topic, k, p, l, hsplit, hnow, -, -, -, hreceive, pre, a, mid, rfl, -, hm⟩ :=
      (network setup members opens).exists_emitted hy (by simp [network, Event.acts])
    obtain ⟨hmember, hsub⟩ := receive_eq_some_iff.mp hreceive
    obtain ⟨rfl, hmessage⟩ := subscription_eq_some_iff.mp hsub
    have htopic : p.msg.topic = .approvedCmd := by
      rw [← Option.some.inj hmessage]
      rfl
    rw [List.append_assoc, List.cons_append] at hsplit
    refine ⟨pre, a, mid, j, post, p.msg, hsplit, seenTick_of_emitted hclosed hm htopic, ?_, hm, htopic,
      hmember⟩
    rw [hsplit] at hmono
    have hle : a.now ≤ j.now := hmono.le_of_cons (List.mem_append_right mid List.mem_cons_self)
    exact hle.trans (le_of_eq hnow)
  | modeManager | commandArbiter | nav2Bridge | locomotionAdapter | hardwareAdapter |
    skillServer => exact absurd hinput (by simp [safetyManagerInput])

/-- The inputs of the safety manager come in the order of their clock readings. -/
theorem clockMonotone_safetyManagerHistory {h : List Action} (hmono : ClockMonotone h) :
    ClockMonotone (safetyManagerHistory setup members opens h) := by
  refine List.pairwise_filterMap.mpr (((network setup members opens).clockMonotone_events hmono).imp ?_)
  rintro ⟨now, event⟩ ⟨now', event'⟩ hle x hx y hy
  cases event <;> simp only [safetyManagerInput, reduceCtorEq, Option.some.injEq] at hx
  cases event' <;> simp only [safetyManagerInput, reduceCtorEq, Option.some.injEq] at hy
  subst hx hy
  exact hle

/-- **The watchdog on the approved commands does not fire.** -/
theorem not_fires_approvedCommand (hclosed : opens .approvedCmd = false) {P D : Duration}
    {h : List Action} {i : Action} (hmono : ClockMonotone (h ++ [i]))
    (hstop : ∀ pre, pre <+: h → ((network setup members opens).machine.after
      pre).nodes.commandArbiter.params.publishStopOnBlock = true)
    (hticks : TicksWithin setup members opens P (h ++ [i]))
    (hdelivers : (network setup members opens).DeliversWithin .safetyManager .approvedCmd D (h ++ [i]))
    {e : SafetyManager.Event} (hfired : (network setup members opens).fired
      ((network setup members opens).machine.after h) i.event = some (.safetyManager e))
    (hquiet : SafetyManager.heard .approvedCommand ⟨i.now, e⟩ = none)
    (hbound : P + D ≤ (SafetyManager.paramsIn setup.safetyManager
      (safetyManagerHistory setup members opens (h ++ [i]))).approvedCommandTimeout) :
    ¬SafetyManager.Fires setup.safetyManager
      (safetyManagerHistory setup members opens (h ++ [i])) i.now .approvedCommand := by
  intro hfires
  obtain ⟨-, -, t, hlast, hage⟩ := SafetyManager.fires_approvedCommand_iff.mp hfires
  have hnone := SafetyManager.noCommandWithin_of_latest (clockMonotone_safetyManagerHistory hmono)
    hlast hage
  have hhistory : safetyManagerHistory setup members opens (h ++ [i]) =
      safetyManagerHistory setup members opens h ++ [⟨i.now, e⟩] := by
    rw [safetyManagerHistory, Network.events_concat, hfired, List.filterMap_append]
    rfl
  have hmono' : ClockMonotone h := hmono.of_append
  rw [hhistory, latest_concat, hquiet, Option.none_or] at hlast
  obtain ⟨pre, a, mid, j, post, m, rfl, htick, hle, hm, htopic, hmember⟩ :=
    exists_seenTick_of_heard hclosed hmono' hlast
  have hreceive : ∀ msg, (network setup members opens).receive .safetyManager (.approvedCmd msg) =
      some (.safetyManager (.approvedCommand msg)) := fun msg =>
    receive_eq_some_iff.mpr ⟨hmember, rfl⟩
  -- that tick's command was delivered within `D`, so `D` is not negative
  have hD : 0 ≤ D := by
    obtain ⟨msg, rfl⟩ := Message.eq_approvedCmd htopic
    obtain ⟨b, rest, hrest⟩ : ∃ b rest, mid ++ j :: post ++ [i] = b :: rest :=
      List.exists_cons_of_ne_nil (by simp)
    have hsplit : pre ++ a :: (mid ++ j :: post) ++ [i] = pre ++ a :: b :: rest := by
      rw [← hrest]
      simp
    rw [hsplit] at hdelivers hmono
    have hnext : a.now ≤ b.now := hmono.le_of_cons List.mem_cons_self
    have hnonneg := hdelivers.nonneg hm (by rw [hreceive]; rfl) hnext
    linarith
  -- from it the ticks lead to one whose command has arrived, and not long ago
  obtain ⟨pre', a', post', hsplit, htick', hlate, hrecent⟩ :=
    exists_recent_tick hD hticks rfl htick (by linarith)
  obtain ⟨msg, hmsg⟩ := htick'.emits (hstop pre' (by rw [hsplit]; exact List.prefix_append _ _))
  have hdelivers' : (network setup members opens).DeliversWithin .safetyManager .approvedCmd D
      (pre' ++ a' :: (post' ++ i :: [])) := by
    rw [hsplit, List.append_assoc, List.cons_append] at hdelivers
    exact hdelivers
  obtain ⟨r, hsince, hr⟩ := Network.handled_of_deliversWithin hmsg (hreceive msg) hdelivers'
    (hsplit ▸ hmono') hlate
  have hhandled : ⟨r, .approvedCommand msg⟩ ∈
      safetyManagerHistory setup members opens (pre ++ a :: (mid ++ j :: post) ++ [i]) := by
    rw [hhistory]
    refine List.mem_append_left _ (List.mem_filterMap.mpr
      ⟨⟨r, .safetyManager (.approvedCommand msg)⟩, ?_, rfl⟩)
    rw [hsplit]
    exact hr
  have hold := hnone _ hhandled msg rfl
  dsimp only at hold
  linarith

/-- **The main result.** Let the arbiter be the only publisher of approved commands, with stops on
block, its ticks at most `P` apart from its first safety state on, and let every approved command
reach the safety manager within `D`. Then, along every run with a non-decreasing clock, every
publication of the safety manager whose approved-command timeout is at least `P + D` evaluates the
watchdogs without `approved_command_timeout`, and publishes that text, as a warning or as the reason
of an MRM, only if an operator gave it. -/
theorem approvedCommandTimeout_never (setup : Setup) (members : NodeId → Bool) (opens : Topic → Bool)
    (hclosed : opens .approvedCmd = false) (P D : Duration) (h : List Action) (i : Action)
    (hmono : ClockMonotone (h ++ [i]))
    (hstop : ∀ pre, pre <+: h → ((network setup members opens).machine.after
      pre).nodes.commandArbiter.params.publishStopOnBlock = true)
    (hticks : TicksWithin setup members opens P (h ++ [i]))
    (hdelivers : (network setup members opens).DeliversWithin .safetyManager .approvedCmd D (h ++ [i]))
    (hbound : P + D ≤ ((network setup members opens).machine.after
      (h ++ [i])).nodes.safetyManager.params.approvedCommandTimeout)
    (safety : SafetyState) (hpub : .safetyManager (.safetyState safety) ∈
      stepOutputs setup members opens ((network setup members opens).machine.after h) i) :
    let s := ((network setup members opens).machine.after (h ++ [i])).nodes.safetyManager
    safety = safetyMsg s i.now ∧
      "approved_command_timeout" ∉ (watchdogs s i.now).warnings ++ (watchdogs s i.now).mrmReasons ∧
      (s.operatorReason ≠ some "approved_command_timeout" →
        "approved_command_timeout" ∉ safety.activeWarnings ∧
          ∀ mrm, .safetyManager (.mrmState mrm) ∈ stepOutputs setup members opens
              ((network setup members opens).machine.after h) i →
            mrm.reason ≠ "approved_command_timeout") := by
  intro s
  obtain ⟨e, hfired, hout⟩ := mem_stepOutputs_iff.mp hpub
  obtain ⟨e, rfl, hout⟩ := Nodes.mem_step_safetyManager hout
  -- the publication is made from the state that the step leaves
  have hs : s = (SafetyManager.step ((network setup members opens).machine.after
      h).nodes.safetyManager ⟨i.now, e⟩).1 := by
    show ((network setup members opens).machine.after (h ++ [i])).nodes.safetyManager = _
    rw [Machine.after_concat, Network.next_nodes, hfired]
    rfl
  have hsafety : safety = safetyMsg s i.now := by
    rw [hs]
    exact (SafetyManager.publication_eq hout).1
  have hquiet : SafetyManager.heard .approvedCommand ⟨i.now, e⟩ = none := by
    cases e with
    | approvedCommand msg => exact absurd hout List.not_mem_nil
    | _ => rfl
  have hreported : "approved_command_timeout" ∉
      (watchdogs s i.now).warnings ++ (watchdogs s i.now).mrmReasons := by
    intro hmem
    have hfires : s.Fires i.now .approvedCommand := SafetyManager.reported_iff.mp ⟨none, hmem⟩
    simp only [s, safetyManager_after_run] at hfires hbound
    rw [SafetyManager.params_after] at hbound
    rw [SafetyManager.fires_after_iff] at hfires
    exact not_fires_approvedCommand hclosed hmono hstop hticks hdelivers hfired hquiet hbound hfires
  refine ⟨hsafety, hreported, fun hoperator => ?_⟩
  rw [List.mem_append, not_or] at hreported
  obtain ⟨hwarnings, hreason⟩ := SafetyManager.not_shown_of_not_reported hreported.1 hreported.2
    hoperator (by decide)
  refine ⟨hsafety ▸ hwarnings, ?_⟩
  intro mrm hmrm
  obtain ⟨e', hfired', hout'⟩ := mem_stepOutputs_iff.mp hmrm
  obtain rfl := Option.some.inj (hfired.symm.trans hfired')
  obtain ⟨e', he', hout'⟩ := Nodes.mem_step_safetyManager hout'
  obtain rfl := Event.safetyManager.inj he'
  rw [SafetyManager.mrm_publication_eq hout', ← hs]
  exact hreason

/-- A run in `TELEOP`: a safety state for the arbiter, its tick, and the command handed over in
time. -/
def drivenRun : List Action :=
  [⟨0, .act (.modeManager .publishState)⟩,
    ⟨0, .deliver .safetyManager .modeState 0⟩,
    ⟨100000000, .act (.safetyManager .publishState)⟩,
    ⟨100000000, .deliver .commandArbiter .safetyState 0⟩,
    ⟨100000000, .act (.commandArbiter .tick)⟩,
    ⟨200000000, .deliver .safetyManager .approvedCmd 0⟩]

/-- The nodes of that run, started in `TELEOP`. -/
def drivenSetup : Setup := { modeManager := { initialMode := .str "teleop" } }

/-- The publication that follows raises no alarm. -/
theorem approvedCommandTimeout_never_driven :
    "approved_command_timeout" ∉ (safetyMsg ((network drivenSetup (fun _ => true)
      (fun t => t ≠ .approvedCmd)).machine.after (drivenRun ++
        [⟨400000000, .act (.safetyManager .publishState)⟩])).nodes.safetyManager
      400000000).activeWarnings := by
  have hnow : ∀ x ∈ drivenRun ++ [⟨400000000, .act (.safetyManager .publishState)⟩],
      0 ≤ x.now ∧ x.now ≤ 400000000 := by decide
  refine ((approvedCommandTimeout_never drivenSetup (fun _ => true) (fun t => t ≠ .approvedCmd)
    (by decide) 600000000 400000000 drivenRun ⟨400000000, .act (.safetyManager .publishState)⟩
    (by decide) ?_ ?_ ?_ (by decide) _ List.mem_cons_self).2.2 (by decide)).1
  · intro pre hpre
    have hall : ∀ pre ∈ drivenRun.inits, ((network drivenSetup (fun _ => true)
        (fun t => t ≠ .approvedCmd)).machine.after
          pre).nodes.commandArbiter.params.publishStopOnBlock = true := by decide
    exact hall pre ((List.mem_inits _ _).mpr hpre)
  · -- the whole run is shorter than the period
    intro pre a mid j post hsplit _ hlate
    obtain ⟨hstart, -⟩ := hnow a (by rw [hsplit]; simp)
    obtain ⟨-, hend⟩ := hnow j (by rw [hsplit]; simp)
    linarith
  · constructor
    · simp [drivenRun]
    · intro pre j post hsplit p hp
      obtain ⟨pre', a, post', rfl, hsent, -⟩ := (network drivenSetup (fun _ => true)
        (fun t => t ≠ .approvedCmd)).packet_emitted (List.mem_append_right _ hp)
      obtain ⟨hstart, -⟩ := hnow a (by rw [hsplit]; simp)
      obtain ⟨-, hend⟩ := hnow j (by rw [hsplit]; simp)
      rw [hsent]
      linarith

end Network

end HumaWare.Runtime
