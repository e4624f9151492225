import HumaWare.CommandArbiter.Node

/-! # What the clamp makes of a candidate

`_clamp` nests the two built-ins as `max(minimum, min(maximum, value))`. On ordered values this is
the usual clamp; a value that is not a number loses the comparison inside `min`, which then keeps
its first argument, the *upper limit*.

* **`restrained_clamp_iff`** — a clamped component is bounded, keeps its sign and is not amplified
  exactly if it was a number, or if the limit is zero;
* **`approved_restrained_iff`** — the same of every twist that a tick approves. -/

namespace HumaWare.CommandArbiter

open Python Reactive

/-- The component `out` makes no more of `value` than `limit` allows: it is bounded by the limit, is
zero or has the sign of `value`, and does not exceed it in absolute value. -/
structure Restrained (limit value out : PyFloat) : Prop where
  bounded : out.abs ≤ limit
  sign : out = 0 ∨ (0 < value ∧ 0 < out) ∨ (value < 0 ∧ out < 0)
  notAmplified : ¬value.abs < out.abs

/-- The twist `out` makes no more of `twist` than the two limits allow, and moves in the plane. -/
structure RestrainedTwist (maxLinear maxAngular : PyFloat) (twist out : Twist) : Prop where
  linearX : Restrained maxLinear twist.linear.x out.linear.x
  linearY : Restrained maxLinear twist.linear.y out.linear.y
  angularZ : Restrained maxAngular twist.angular.z out.angular.z
  linearZ : out.linear.z = 0
  angularX : out.angular.x = 0
  angularY : out.angular.y = 0

/-- On finite values the clamp is the usual one. -/
theorem clamp_fin (q v : ℚ) : clamp (.fin v) (-.fin q) (.fin q) = .fin (max (-q) (min q v)) := by
  rw [clamp, PyFloat.pyMin_fin, PyFloat.neg_fin, PyFloat.pyMax_fin]

/-- An infinite limit leaves a number alone. -/
theorem clamp_posInf {value : PyFloat} (h : value ≠ .nan) :
    clamp value (-.posInf) .posInf = value := by
  cases value with
  | nan => exact absurd rfl h
  | negInf => decide
  | fin v => rfl
  | posInf => decide

/-- An infinite value is clamped to the limit it lies beyond. -/
theorem clamp_infinite {q : ℚ} (hq : 0 ≤ q) :
    clamp .posInf (-.fin q) (.fin q) = .fin q ∧ clamp .negInf (-.fin q) (.fin q) = .fin (-q) := by
  have hmin : PyFloat.pyMin (.fin q) .posInf = .fin q := if_neg (by simp [LT.lt, PyFloat.blt])
  have hmin' : PyFloat.pyMin (.fin q) .negInf = .negInf := if_pos rfl
  have hmax' : PyFloat.pyMax (.fin (-q)) .negInf = .fin (-q) :=
    if_neg (by simp [LT.lt, PyFloat.blt])
  constructor
  · rw [clamp, hmin, PyFloat.neg_fin, PyFloat.pyMax_fin, max_eq_right (by linarith)]
  · rw [clamp, hmin', PyFloat.neg_fin, hmax']

/-- **What is not a number becomes the upper limit.** -/
theorem clamp_nan {limit : PyFloat} (h : 0 ≤ limit) : clamp .nan (-limit) limit = limit := by
  have hmin : PyFloat.pyMin limit .nan = limit := by
    -- no value compares larger than one that is not a number
    cases limit <;> rfl
  rw [clamp, hmin]
  cases limit with
  | nan => exact absurd h (by decide)
  | negInf => exact absurd h (by decide)
  | fin q =>
    have hq : 0 ≤ q := PyFloat.fin_le_fin.mp h
    rw [PyFloat.neg_fin, PyFloat.pyMax_fin, max_eq_right (by linarith)]
  | posInf => decide

/-- A finite value is restrained by the usual clamp. -/
theorem restrained_fin {q : ℚ} (hq : 0 ≤ q) (v : ℚ) :
    Restrained (.fin q) (.fin v) (.fin (max (-q) (min q v))) := by
  rcases le_total 0 v with hv | hv
  · -- on this side only the upper limit matters
    have hmin : 0 ≤ min q v := le_min hq hv
    rw [max_eq_right (by linarith)]
    refine ⟨?_, ?_, ?_⟩
    · rw [PyFloat.abs_fin, PyFloat.fin_le_fin, abs_of_nonneg hmin]
      exact min_le_left q v
    · rcases hmin.eq_or_lt with hzero | hpos
      · exact Or.inl (congrArg PyFloat.fin hzero.symm)
      · have hvpos : 0 < v := lt_of_lt_of_le hpos (min_le_right q v)
        exact Or.inr (Or.inl ⟨PyFloat.fin_lt_fin.mpr hvpos, PyFloat.fin_lt_fin.mpr hpos⟩)
    · rw [PyFloat.abs_fin, PyFloat.abs_fin, PyFloat.fin_lt_fin, abs_of_nonneg hv,
        abs_of_nonneg hmin]
      exact not_lt.mpr (min_le_right q v)
  · -- and on this side only the lower one
    have hmax : max (-q) v ≤ 0 := max_le (by linarith) hv
    rw [min_eq_right (hv.trans hq)]
    refine ⟨?_, ?_, ?_⟩
    · rw [PyFloat.abs_fin, PyFloat.fin_le_fin, abs_of_nonpos hmax]
      linarith [le_max_left (-q) v]
    · rcases hmax.eq_or_lt with hzero | hneg
      · exact Or.inl (congrArg PyFloat.fin hzero)
      · have hvneg : v < 0 := lt_of_le_of_lt (le_max_right (-q) v) hneg
        exact Or.inr (Or.inr ⟨PyFloat.fin_lt_fin.mpr hvneg, PyFloat.fin_lt_fin.mpr hneg⟩)
    · rw [PyFloat.abs_fin, PyFloat.abs_fin, PyFloat.fin_lt_fin, abs_of_nonpos hv,
        abs_of_nonpos hmax]
      linarith [le_max_right (-q) v]

/-- An infinite value is restrained by the limit it is clamped to. -/
theorem restrained_infinite {q : ℚ} (hq : 0 ≤ q) :
    Restrained (.fin q) .posInf (.fin q) ∧ Restrained (.fin q) .negInf (.fin (-q)) := by
  have habs : |(-q)| = |q| := abs_neg q
  constructor
  · refine ⟨?_, ?_, by simp [LT.lt, PyFloat.abs, PyFloat.blt]⟩
    · rw [PyFloat.abs_fin, PyFloat.fin_le_fin, abs_of_nonneg hq]
    · rcases hq.eq_or_lt with rfl | hpos
      · exact Or.inl rfl
      · exact Or.inr (Or.inl ⟨rfl, PyFloat.fin_lt_fin.mpr hpos⟩)
  · refine ⟨?_, ?_, by simp [LT.lt, PyFloat.abs, PyFloat.blt]⟩
    · rw [PyFloat.abs_fin, PyFloat.fin_le_fin, habs, abs_of_nonneg hq]
    · rcases hq.eq_or_lt with rfl | hpos
      · exact Or.inl (congrArg PyFloat.fin neg_zero)
      · exact Or.inr (Or.inr ⟨rfl, PyFloat.fin_lt_fin.mpr (neg_lt_zero.mpr hpos)⟩)

/-- A number is restrained by itself while there is no limit. -/
theorem restrained_self {value : PyFloat} (h : value ≠ .nan) : Restrained .posInf value value := by
  cases value with
  | nan => exact absurd rfl h
  | negInf => exact ⟨by decide, by decide, by decide⟩
  | posInf => exact ⟨by decide, by decide, by decide⟩
  | fin v =>
    refine ⟨rfl, ?_, by simp⟩
    rcases lt_trichotomy v 0 with hneg | rfl | hpos
    · exact Or.inr (Or.inr ⟨PyFloat.fin_lt_fin.mpr hneg, PyFloat.fin_lt_fin.mpr hneg⟩)
    · exact Or.inl rfl
    · exact Or.inr (Or.inl ⟨PyFloat.fin_lt_fin.mpr hpos, PyFloat.fin_lt_fin.mpr hpos⟩)

/-- What is not a number restrains nothing but zero. -/
theorem restrained_nan_iff {limit out : PyFloat} :
    Restrained limit .nan out ↔ out = 0 ∧ 0 ≤ limit := by
  constructor
  · rintro ⟨hbounded, hzero | ⟨hpos, -⟩ | ⟨hneg, -⟩, -⟩
    · rw [hzero] at hbounded
      exact ⟨hzero, hbounded⟩
    · exact absurd hpos (by decide)
    · exact absurd hneg (by decide)
  · rintro ⟨rfl, hlimit⟩
    exact ⟨hlimit, Or.inl rfl, by decide⟩

/-- **When the clamp restrains a component**: it was a number, or nothing is allowed at all. -/
theorem restrained_clamp_iff {limit : PyFloat} (h : 0 ≤ limit) (value : PyFloat) :
    Restrained limit value (clamp value (-limit) limit) ↔ value ≠ .nan ∨ limit = 0 := by
  by_cases hnan : value = .nan
  · -- the upper limit comes out, which is harmless only where it is zero
    subst hnan
    rw [clamp_nan h, restrained_nan_iff]
    constructor
    · rintro ⟨hzero, -⟩
      exact Or.inr hzero
    · rintro (hne | hzero)
      · exact absurd rfl hne
      · exact ⟨hzero, h⟩
  · refine iff_of_true ?_ (Or.inl hnan)
    cases limit with
    | nan => exact absurd h (by decide)
    | negInf => exact absurd h (by decide)
    | posInf =>
      rw [clamp_posInf hnan]
      exact restrained_self hnan
    | fin q =>
      have hq : 0 ≤ q := PyFloat.fin_le_fin.mp h
      cases value with
      | nan => exact absurd rfl hnan
      | negInf =>
        rw [(clamp_infinite hq).2]
        exact (restrained_infinite hq).2
      | posInf =>
        rw [(clamp_infinite hq).1]
        exact (restrained_infinite hq).1
      | fin v =>
        rw [clamp_fin]
        exact restrained_fin hq v

/-- What a tick publishes on `cmd_vel/approved` when it selects a candidate. -/
theorem approved_mem_tick_iff {s : State} {now : Time} {c : CandidateCommand}
    (hc : (selectCandidate s.activeMode s.lastSafety.isSome s.safetyState s.candidates now
      s.params.commandTimeout).1 = some c) {approved : TwistStamped} :
    Publication.approved approved ∈ tick s now ↔ approved = limitCommand s c.msg now := by
  unfold tick
  generalize selectCandidate s.activeMode s.lastSafety.isSome s.safetyState s.candidates now
    s.params.commandTimeout = selected at hc
  obtain ⟨candidate, reason⟩ := selected
  obtain rfl : candidate = some c := hc
  simp

/-- **The arbiter never amplifies, reverses or invents motion, numbers given.** In every state, for
all limits of at least zero: what a tick approves of the candidate it selects is restrained by the
candidate and the limits if and only if each of the three components it passes on is a number, or
has the limit zero. -/
theorem approved_restrained_iff {s : State} {now : Time} {c : CandidateCommand}
    (hc : (selectCandidate s.activeMode s.lastSafety.isSome s.safetyState s.candidates now
      s.params.commandTimeout).1 = some c)
    (hlinear : 0 ≤ s.params.maxLinearVelocityMps)
    (hangular : 0 ≤ s.params.maxAngularVelocityRadps) :
    (∀ approved, Publication.approved approved ∈ tick s now →
        RestrainedTwist s.params.maxLinearVelocityMps s.params.maxAngularVelocityRadps c.msg.twist
          approved.twist) ↔
      (c.msg.twist.linear.x ≠ .nan ∨ s.params.maxLinearVelocityMps = 0) ∧
        (c.msg.twist.linear.y ≠ .nan ∨ s.params.maxLinearVelocityMps = 0) ∧
        (c.msg.twist.angular.z ≠ .nan ∨ s.params.maxAngularVelocityRadps = 0) := by
  simp only [approved_mem_tick_iff hc, forall_eq, ← restrained_clamp_iff hlinear,
    ← restrained_clamp_iff hangular]
  constructor
  · intro h
    exact ⟨h.linearX, h.linearY, h.angularZ⟩
  · rintro ⟨hx, hy, hz⟩
    exact ⟨hx, hy, hz, rfl, rfl, rfl⟩

/-- A run that ends with a teleop candidate of the given forward velocity. -/
def teleopRun (forward : PyFloat) : List Input :=
  [⟨0, .safetyState { state := SafetyState.stateOk }⟩,
    ⟨0, .modeState { activeMode := ModeState.modeTeleop }⟩,
    ⟨0, .candidate .teleop { twist := { linear := { x := forward } } }⟩]

/-- A candidate beyond the limit is clamped to it. -/
theorem approved_restrained_fast :
    RestrainedTwist (.fin (1 / 2)) (.fin (1 / 2)) { linear := { x := .fin 10 } }
      { linear := { x := .fin (1 / 2) } } := by
  have hc : (selectCandidate ((machine {}).after (teleopRun (.fin 10))).activeMode
      ((machine {}).after (teleopRun (.fin 10))).lastSafety.isSome
      ((machine {}).after (teleopRun (.fin 10))).safetyState
      ((machine {}).after (teleopRun (.fin 10))).candidates 0
      ((machine {}).after (teleopRun (.fin 10))).params.commandTimeout).1 =
        some (Lane.teleop.candidate { twist := { linear := { x := .fin 10 } } } 0) := by decide
  have hpub : Publication.approved { twist := { linear := { x := .fin (1 / 2) } } } ∈
      tick ((machine {}).after (teleopRun (.fin 10))) 0 := by decide +kernel
  exact (approved_restrained_iff hc (by decide +kernel) (by decide +kernel)).mpr (by decide) _ hpub

/-- **A forward velocity that is not a number is approved as full speed.** -/
theorem not_approved_restrained :
    ¬∀ (s : State) (now : Time) (c : CandidateCommand),
      (selectCandidate s.activeMode s.lastSafety.isSome s.safetyState s.candidates now
        s.params.commandTimeout).1 = some c →
      0 ≤ s.params.maxLinearVelocityMps → 0 ≤ s.params.maxAngularVelocityRadps →
      ∀ approved, Publication.approved approved ∈ tick s now →
        RestrainedTwist s.params.maxLinearVelocityMps s.params.maxAngularVelocityRadps c.msg.twist
          approved.twist := by
  intro h
  -- the limit comes out, and it has no sign of the candidate's to agree with
  have hrestrained := h ((machine {}).after (teleopRun .nan)) 0
    (Lane.teleop.candidate { twist := { linear := { x := .nan } } } 0) (by decide +kernel)
    (by decide +kernel) (by decide +kernel) { twist := { linear := { x := .fin (1 / 2) } } }
    (by decide +kernel)
  exact absurd hrestrained.linearX.sign (by decide +kernel)

end HumaWare.CommandArbiter
