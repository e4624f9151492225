import HumaWare.Reactive.Delivery

/-! # What a subscriber holds

In most publish/subscribe programs a callback belongs to one node and, unless a timer or a call
triggers it, to one message. `Callbacks` says so of a network; a field that every message of one
topic overwrites is then a matter of the link alone.

* **`Callbacks.latest_heardOn`** — what a node handled last on a topic is the last packet it saw
  there;
* **`Callbacks.register_after`** — a field that stores something of every message of a topic holds
  it of the last packet seen;
* **`Callbacks.exists_emission_of_register`** — so a step of the run published what it holds;
* **`Callbacks.register_of_window`** — on a link that is not overtaken, a node that has seen a
  message published in a window and none published after it holds one from the window. -/

namespace Reactive

variable {T ν τ μ ε σ ο : Type*}

/-- Of the messages of topic `t`, `n` has seen one that `mid` published, and none published later,
when the run has gone on with `post`. -/
def Network.LastSeenIn [DecidableEq ν] [DecidableEq τ] (N : Network T ν τ μ ε σ ο) (n : ν) (t : τ)
    (pre mid post : List (Stamped T (Label ν τ μ ε))) : Prop :=
  (∃ p ∈ ((N.machine.after (pre ++ mid ++ post)).link n t).seen,
    ((N.machine.after pre).link n t).count ≤ p.serial) ∧
  ∀ p ∈ ((N.machine.after (pre ++ mid ++ post)).link n t).seen,
    p.serial < ((N.machine.after (pre ++ mid)).link n t).count

/-- What the callbacks of a network are for. -/
structure Callbacks (N : Network T ν τ μ ε σ ο) where
  /-- The node whose callback it is. -/
  node : ε → ν
  /-- The message that triggers it, where one does. -/
  message : ε → Option μ
  of_receive : ∀ {n m e}, N.receive n m = some e → node e = n ∧ message e = some m
  of_acts : ∀ {e}, N.acts e → message e = none

namespace Callbacks

variable {N : Network T ν τ μ ε σ ο} (C : Callbacks N)

section Heard

variable [DecidableEq ν] [DecidableEq τ]

/-- **A message that was handled was published** earlier in the run, and no more than `D` before if
its link makes no stale delivery. -/
theorem exists_sent [Add T] [LE T] {D : T} {h : List (Stamped T (Label ν τ μ ε))} {x : Stamped T ε}
    {m : μ} (hx : x ∈ N.events h) (hm : C.message x.event = some m)
    (harrives : N.ArrivesWithin (C.node x.event) (N.topic m) D h) :
    ∃ pre a post, h = pre ++ a :: post ∧ m ∈ N.emitted (N.machine.after pre) a ∧
      x.now ≤ a.now + D := by
  have hacts : ¬N.acts x.event := by
    intro hacts
    rw [C.of_acts hacts] at hm
    cases hm
  obtain ⟨pre, j, post, n, t, k, p, l, rfl, hnow, hlabel, htake, htopic, hreceive, pre', a, post', rfl,
    hsent, hemitted⟩ := N.exists_emitted hx hacts
  obtain ⟨hn, hmessage⟩ := C.of_receive hreceive
  obtain rfl := Option.some.inj (hmessage.symm.trans hm)
  subst htopic hn
  have hage := harrives _ j post k p l rfl hlabel htake
  rw [hnow, hsent] at hage
  exact ⟨pre', a, post' ++ j :: post, by simp, hemitted, hage⟩

/-- The message of topic `t` that a callback hands to `n`. -/
def heardOn (n : ν) (t : τ) (e : ε) : Option μ :=
  if C.node e = n then (C.message e).filter fun m => N.topic m = t else none

/-- A callback hands a message to its own node, on the topic of the message. -/
theorem heardOn_eq_some_iff {n : ν} {t : τ} {e : ε} {m : μ} :
    C.heardOn n t e = some m ↔ C.node e = n ∧ C.message e = some m ∧ N.topic m = t := by
  rw [heardOn, Option.ite_none_right_eq_some, Option.filter_eq_some_iff, decide_eq_true_iff]

/-- **What a node handled last on a topic is the last packet it saw there.** -/
theorem latest_heardOn (n : ν) (t : τ) (h : List (Stamped T (Label ν τ μ ε))) :
    latest (fun x => C.heardOn n t x.event) (N.events h) =
      ((N.machine.after h).link n t).seen.getLast?.map Packet.msg := by
  refine N.latest_seen n t (C.heardOn n t) id ?_ ?_ h
  · -- timers, calls and parameter changes hand no message over
    intro e hacts
    simp [heardOn, C.of_acts hacts]
  · intro n' m e hreceive
    obtain ⟨rfl, hmessage⟩ := C.of_receive hreceive
    rw [heardOn, hmessage]
    by_cases hnode : C.node e = n <;> by_cases htopic : N.topic m = t <;> simp [hnode, htopic]

/-- **A field that every message of one topic overwrites** holds what it stores of the last packet
seen on that link. -/
theorem register_after {α : Type*} {n : ν} {t : τ} (reg : σ → α) (g : μ → α)
    (keep : ∀ s x, reg (N.nodes.next s x) = ((C.heardOn n t x.event).map g).getD (reg s))
    (h : List (Stamped T (Label ν τ μ ε))) :
    reg (N.machine.after h).nodes =
      (((N.machine.after h).link n t).seen.getLast?.map fun p => g p.msg).getD
        (reg N.nodes.init) := by
  have hregister := N.nodes.latest_register reg (fun x => (C.heardOn n t x.event).map g) keep
    (N.events h)
  rw [N.nodes_after, hregister, latest_map, latest_heardOn, Option.map_map]
  rfl

/-- **What such a field holds was published**, unless it holds what it began with: it stores something
of the last message seen, and a step of the run published that. -/
theorem exists_emission_of_register {α : Type*} {n : ν} {t : τ} (reg : σ → α) (g : μ → α)
    (keep : ∀ s x, reg (N.nodes.next s x) = ((C.heardOn n t x.event).map g).getD (reg s))
    {h : List (Stamped T (Label ν τ μ ε))} (hheld : reg (N.machine.after h).nodes ≠ reg N.nodes.init) :
    ∃ pre i post m, h = pre ++ i :: post ∧ m ∈ N.emitted (N.machine.after pre) i ∧ N.topic m = t ∧
      ((N.machine.after h).link n t).seen.getLast?.map Packet.msg = some m ∧
      reg (N.machine.after h).nodes = g m := by
  have hregister := C.register_after reg g keep h
  cases hlast : ((N.machine.after h).link n t).seen.getLast? with
  | none =>
    rw [hlast] at hregister
    exact absurd hregister hheld
  | some p =>
    rw [hlast] at hregister
    obtain ⟨pre, i, post, hsplit, -, hm, htopic, -⟩ :=
      N.packet_emitted (List.mem_append_left _ (List.mem_of_getLast? hlast))
    exact ⟨pre, i, post, p.msg, hsplit, hm, htopic, rfl, hregister⟩

/-- **A subscriber that has seen a message from a window**, and none from after it, holds one from
the window. -/
theorem register_of_window {α : Type*} {n : ν} {t : τ} (reg : σ → α) (g : μ → α)
    (keep : ∀ s x, reg (N.nodes.next s x) = ((C.heardOn n t x.event).map g).getD (reg s))
    {P : μ → Prop} {pre mid post : List (Stamped T (Label ν τ μ ε))}
    (hmid : ∀ m₁ i m₂, mid = m₁ ++ i :: m₂ →
      ∀ m ∈ N.emitted (N.machine.after (pre ++ m₁)) i, N.topic m = t → P m)
    (hfifo : Network.FifoOn n t (pre ++ mid ++ post)) (hseen : N.LastSeenIn n t pre mid post) :
    ∃ m, P m ∧ N.topic m = t ∧ reg (N.machine.after (pre ++ mid ++ post)).nodes = g m := by
  obtain ⟨q, hq, hlow, hhigh⟩ := N.last_seen_of_window hfifo hseen.1 hseen.2
  have hmem : q ∈ ((N.machine.after (pre ++ mid ++ post)).link n t).seen :=
    List.mem_of_getLast? hq
  obtain ⟨-, -, -, -, -, -, htopic, -⟩ := N.packet_emitted (List.mem_append_left _ hmem)
  refine ⟨q.msg, N.packet_window hmid post (List.mem_append_left _ hmem) hlow hhigh, htopic, ?_⟩
  rw [C.register_after reg g keep, hq]
  rfl

/-- The same for a window that is still open: from some point of the run on, every message of the
topic has the property. -/
theorem register_since {α : Type*} {n : ν} {t : τ} (reg : σ → α) (g : μ → α)
    (keep : ∀ s x, reg (N.nodes.next s x) = ((C.heardOn n t x.event).map g).getD (reg s))
    {P : μ → Prop} {pre post : List (Stamped T (Label ν τ μ ε))}
    (hpost : ∀ m₁ i m₂, post = m₁ ++ i :: m₂ →
      ∀ m ∈ N.emitted (N.machine.after (pre ++ m₁)) i, N.topic m = t → P m)
    (hfifo : Network.FifoOn n t (pre ++ post))
    (hseen : ∃ p ∈ ((N.machine.after (pre ++ post)).link n t).seen,
      ((N.machine.after pre).link n t).count ≤ p.serial) :
    ∃ m, P m ∧ N.topic m = t ∧ reg (N.machine.after (pre ++ post)).nodes = g m := by
  rw [← List.append_nil (pre ++ post)] at hfifo hseen ⊢
  refine C.register_of_window reg g keep hpost hfifo ⟨hseen, fun p hp => ?_⟩
  rw [List.append_nil] at hp
  exact ((N.machine.after (pre ++ post)).link n t).bounded p (List.mem_append_left _ hp)

end Heard

end Callbacks

end Reactive
