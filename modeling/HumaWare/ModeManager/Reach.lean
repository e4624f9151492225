import HumaWare.ModeManager.Entry

/-! # Which modes an operator can reach

The guard looks at one request at a time. Of a sequence of requests, with the safety state as it is,
it leaves a set of modes that can be read off the state:

* **`State.Attains`** — the modes that some requests lead to;
* **`attains_step`** — no request leads out of them, or adds one;
* **`exists_requests`** — two requests lead to any of them;
* **`attains_iff`** — the main result, after every run. -/

namespace HumaWare.ModeManager

open Reactive

/-- **The modes that requests can lead to**: the active one, and, unless that is `SHUTDOWN`, every
supported one; of these an active mode once a safety state was received, or else `TELEOP` by a
takeover from an active mode, and a mode of autonomy under a safety state that does not block it. -/
def State.Attains (s : State) (mode : UInt8) : Prop :=
  mode = s.activeMode ∨
    s.activeMode ≠ ModeState.modeShutdown ∧ mode ∈ modeValues ∧
      (mode ∈ activeModes → s.safetySeen = true ∨
        mode = ModeState.modeTeleop ∧ s.activeMode ∈ activeModes) ∧
      (mode ∈ autonomyModes → s.safetyState ∉ autonomyBlockingSafetyStates)

instance (s : State) (mode : UInt8) : Decidable (s.Attains mode) :=
  inferInstanceAs (Decidable (_ ∨ _))

/-- A request leaves what the node holds of the safety state. -/
theorem step_request_safety (s : State) {i : Input} (hreq : i.event.IsRequest) :
    (step s i).1.safetySeen = s.safetySeen ∧ (step s i).1.safetyState = s.safetyState := by
  obtain ⟨now, event⟩ := i
  cases event with
  | setMode request =>
    simp only [step, (handleSetMode_spec s now request).2]
    split
    · exact ⟨rfl, rfl⟩
    · split <;> exact ⟨rfl, rfl⟩
  | takeover request =>
    simp only [step, (handleTakeover_spec s now request).2]
    split <;> exact ⟨rfl, rfl⟩
  | safetyState msg | publishState | setParameters params => exact hreq.elim

/-- **A request leads to a mode that is attained.** -/
theorem attains_activeMode (s : State) (i : Input) : s.Attains (step s i).1.activeMode := by
  rcases step_activeMode s i with
    hsame | ⟨request, -, haccepts, hmode⟩ | ⟨request, -, hactive, hmode⟩
  · exact Or.inl hsame
  · rw [hmode]
    rw [State.acceptsMode, Bool.and_eq_true, decide_eq_true_iff] at haccepts
    obtain ⟨hshutdown, hguard⟩ := evaluateTransition_set_iff.mp haccepts.2
    rcases hguard with hsame | ⟨hseen, hblocks, -, -⟩
    · exact Or.inl hsame
    by_cases hfinal : s.activeMode = ModeState.modeShutdown
    · exact Or.inl ((hshutdown hfinal).trans hfinal.symm)
    · exact Or.inr ⟨hfinal, haccepts.1, fun hmem => Or.inl (hseen hmem), hblocks⟩
  · rw [hmode]
    refine Or.inr ⟨fun hfinal => ?_, by decide, fun _ => Or.inr ⟨rfl, hactive⟩,
      fun h => absurd h (by decide)⟩
    rw [hfinal] at hactive
    exact absurd hactive (by decide)

/-- **A request adds no mode to those attained.** -/
theorem attains_step {s : State} {i : Input} (hreq : i.event.IsRequest) {mode : UInt8}
    (hattains : (step s i).1.Attains mode) : s.Attains mode := by
  obtain ⟨hseen, hsafety⟩ := step_request_safety s hreq
  rcases hattains with rfl | ⟨hfinal, hmem, hactive, hautonomy⟩
  · exact attains_activeMode s i
  refine Or.inr ⟨fun h => hfinal ((step_edge s i).shutdown h), hmem, fun hmode => ?_, ?_⟩
  · rcases hactive hmode with hseen' | ⟨rfl, hactive'⟩
    · exact Or.inl (hseen ▸ hseen')
    · -- the request came to an active mode: it was active before, or a safety state was received
      rcases attains_activeMode s i with hsame | ⟨-, -, hentered, -⟩
      · exact Or.inr ⟨rfl, hsame ▸ hactive'⟩
      · rcases hentered hactive' with hseen' | ⟨-, hactive''⟩
        · exact Or.inl hseen'
        · exact Or.inr ⟨rfl, hactive''⟩
  · rw [hsafety] at hautonomy
    exact hautonomy

/-! ## The requests -/

/-- What an accepted `mode/set` leaves. -/
theorem step_setMode {s : State} {requestedMode : UInt8}
    (haccepts : s.acceptsMode requestedMode = true) (now : Time) :
    (step s ⟨now, .setMode { requestedMode := requestedMode }⟩).1 =
      applyMode s now requestedMode "anonymous" "mode_set" := by
  simp only [step, (handleSetMode_spec s now _).2, haccepts, if_true]
  rfl

/-- What the guard asks of a request, test by test. -/
theorem acceptsMode_of_guard {s : State} {mode : UInt8}
    (hfinal : s.activeMode ≠ ModeState.modeShutdown) (hmem : mode ∈ modeValues)
    (hseen : mode ∈ activeModes → s.safetySeen = true)
    (hblocks : mode ∈ autonomyModes → s.safetyState ∉ autonomyBlockingSafetyStates)
    (hmaintenance : mode ∈ autonomyModes → s.activeMode ≠ ModeState.modeMaintenance)
    (hentry : mode = ModeState.modeAiPolicy → s.activeMode ∈ aiPolicyEntryModes) :
    s.acceptsMode mode = true := by
  rw [State.acceptsMode, Bool.and_eq_true, decide_eq_true_iff]
  exact ⟨hmem, evaluateTransition_set_iff.mpr
    ⟨fun h => absurd h hfinal, Or.inr ⟨hseen, hblocks, hmaintenance, hentry⟩⟩⟩

/-- **Two requests lead to every mode that is attained**, at any time. -/
theorem exists_requests {s : State} {mode : UInt8} (hattains : s.Attains mode) (now : Time) :
    ∃ k : List Input, k.length ≤ 2 ∧ (∀ i ∈ k, i.event.IsRequest ∧ i.now = now) ∧
      (k.foldl (fun s i => (step s i).1) s).activeMode = mode := by
  rcases hattains with rfl | ⟨hfinal, hmem, hactive, hblocks⟩
  · exact ⟨[], by simp, by simp, rfl⟩
  by_cases hautonomy : mode ∈ autonomyModes
  · -- `TELEOP` first, from where both modes of autonomy can be entered
    have hactive' : mode ∈ activeModes := mem_activeModes_of_autonomy hautonomy
    have hteleop : mode ≠ ModeState.modeTeleop := by
      rintro rfl
      exact absurd hautonomy (by decide)
    have hseen : s.safetySeen = true := (hactive hactive').resolve_right fun h => hteleop h.1
    have hfirst : s.acceptsMode ModeState.modeTeleop = true :=
      acceptsMode_of_guard hfinal (by decide) (fun _ => hseen) (fun h => absurd h (by decide))
        (fun h => absurd h (by decide)) (fun h => absurd h (by decide))
    let s₁ := applyMode s now ModeState.modeTeleop "anonymous" "mode_set"
    have hteleop₁ : s₁.activeMode = ModeState.modeTeleop := rfl
    have hsecond : s₁.acceptsMode mode = true := by
      refine acceptsMode_of_guard ?_ hmem (fun _ => hseen) hblocks (fun _ => ?_) fun _ => ?_
      · rw [hteleop₁]; decide
      · rw [hteleop₁]; decide
      · rw [hteleop₁]; decide
    refine ⟨[⟨now, .setMode { requestedMode := ModeState.modeTeleop }⟩,
      ⟨now, .setMode { requestedMode := mode }⟩], by simp, by simp [Event.IsRequest], ?_⟩
    rw [List.foldl_cons, List.foldl_cons, List.foldl_nil, step_setMode hfirst, step_setMode hsecond]
    rfl
  by_cases htakeover : mode = ModeState.modeTeleop ∧ s.activeMode ∈ activeModes
  · obtain ⟨rfl, hfrom⟩ := htakeover
    refine ⟨[⟨now, .takeover {}⟩], by simp, by simp [Event.IsRequest], ?_⟩
    rw [List.foldl_cons, List.foldl_nil, step, (handleTakeover_spec s now {}).2, if_pos hfrom]
    rfl
  · have haccepts : s.acceptsMode mode = true :=
      acceptsMode_of_guard hfinal hmem (fun h => (hactive h).resolve_right htakeover) hblocks
        (fun h => absurd h hautonomy) (fun h => absurd (by rw [h]; decide) hautonomy)
    refine ⟨[⟨now, .setMode { requestedMode := mode }⟩], by simp, by simp [Event.IsRequest], ?_⟩
    rw [List.foldl_cons, List.foldl_nil, step_setMode haccepts]
    rfl

/-- **What an operator can reach.** After every run, a sequence of `mode/set` and `mode/takeover`
requests leads to a mode exactly if it is attained, and then at any time at most two requests do. -/
theorem attains_iff (params : Params) (startedAt : Time) (h : List Input) (mode : UInt8) :
    (((machine params startedAt).after h).Attains mode ↔
      ∃ k : List Input, (∀ i ∈ k, i.event.IsRequest) ∧
        ((machine params startedAt).after (h ++ k)).activeMode = mode) ∧
    (((machine params startedAt).after h).Attains mode → ∀ now, ∃ k : List Input,
      k.length ≤ 2 ∧ (∀ i ∈ k, i.event.IsRequest ∧ i.now = now) ∧
        ((machine params startedAt).after (h ++ k)).activeMode = mode) := by
  have hshort : ((machine params startedAt).after h).Attains mode → ∀ now, ∃ k : List Input,
      k.length ≤ 2 ∧ (∀ i ∈ k, i.event.IsRequest ∧ i.now = now) ∧
        ((machine params startedAt).after (h ++ k)).activeMode = mode := by
    intro hattains now
    obtain ⟨k, hlength, hrequests, hmode⟩ := exists_requests hattains now
    exact ⟨k, hlength, hrequests, by rw [Machine.after_append]; exact hmode⟩
  have hback : ∀ k : List Input, (∀ i ∈ k, i.event.IsRequest) →
      ((machine params startedAt).after (h ++ k)).Attains mode →
        ((machine params startedAt).after h).Attains mode := by
    intro k
    induction k using List.reverseRecOn with
    | nil =>
      rw [List.append_nil]
      exact fun _ hattains => hattains
    | append_singleton k i ih =>
      intro hrequests hattains
      rw [← List.append_assoc, Machine.after_concat] at hattains
      exact ih (fun j hj => hrequests j (List.mem_append_left _ hj))
        (attains_step (hrequests i (by simp)) hattains)
  refine ⟨⟨fun hattains => ?_, ?_⟩, hshort⟩
  · obtain ⟨k, -, hrequests, hmode⟩ := hshort hattains 0
    exact ⟨k, fun i hi => (hrequests i hi).1, hmode⟩
  · rintro ⟨k, hrequests, hmode⟩
    exact hback k hrequests (Or.inl hmode.symm)

/-- In `MAINTENANCE` under an MRM: `TELEOP`, but no mode of autonomy. -/
example :
    let s := (machine { initialMode := .str "maintenance" } 0).after
      [⟨1, .safetyState { state := SafetyState.stateMrm }⟩]
    s.Attains ModeState.modeTeleop ∧ ¬s.Attains ModeState.modeAutonomy := by
  decide

end HumaWare.ModeManager
