import Mathlib.Algebra.Order.Group.Defs
import HumaWare.Reactive.History
import HumaWare.Reactive.Inbox

/-! # Watching a publisher by the clock

A node that notes when it last heard of a topic can tell a live publisher from a dead one, within
limits that the network sets. If the topic is published at least every `P` and delivered within `D`,
what was heard last is never older than `P + D`; if it is no longer published and nothing is delivered
later than `D`, what was heard last is at most `D` younger than the last publication.

* **`Network.exists_recent_emission`** — the walk from publication to publication up to one that is
  recent, but not too recent to have arrived;
* **`Callbacks.heardAt_of_cadence`** — a live publisher was heard of recently;
* **`Callbacks.heardAt_of_silence`** — a dead one was not;
* **`Callbacks.register_of_cadence`** — a field fed by a live publisher is up to date;
  `Callbacks.heardAt_of_emission` and `Callbacks.register_of_emission` are what one publication gives. -/

namespace Reactive

variable {T ν τ μ ε σ ο : Type*}

namespace Network

section Emission

variable [DecidableEq ν] [DecidableEq τ] (N : Network T ν τ μ ε σ ο)

/-- The step `a` after the run `pre` publishes on the topic. -/
def Emits (t : τ) (pre : List (Stamped T (Label ν τ μ ε))) (a : Stamped T (Label ν τ μ ε)) : Prop :=
  ∃ m ∈ N.emitted (N.machine.after pre) a, N.topic m = t

/-- **The topic is published at least every `P`** once it is: between a publication and any step more
than `P` later there is another one, at most `P` after the first. -/
def Cadence [Add T] [LE T] [LT T] (t : τ) (P : T) (h : List (Stamped T (Label ν τ μ ε))) : Prop :=
  ∀ pre a mid j post, h = pre ++ a :: (mid ++ j :: post) → N.Emits t pre a → a.now + P < j.now →
    ∃ m₁ c m₂, mid = m₁ ++ c :: m₂ ∧ N.Emits t (pre ++ a :: m₁) c ∧ c.now ≤ a.now + P

variable {N}

/-- The earlier part of a run along which a topic is published regularly. -/
theorem Cadence.of_append [Add T] [LE T] [LT T] {t : τ} {P : T}
    {h k : List (Stamped T (Label ν τ μ ε))} (hcadence : N.Cadence t P (h ++ k)) :
    N.Cadence t P h := by
  intro pre a mid j post hsplit
  exact hcadence pre a mid j (post ++ k) (by rw [hsplit]; simp)

/-- The cadence of a run, step by step. -/
theorem cadence_of_getElem [Add T] [LE T] [LT T] {t : τ} {P : T}
    {h : List (Stamped T (Label ν τ μ ε))}
    (hnext : ∀ k (hk : k < h.length), N.Emits t (h.take k) h[k] →
      ∀ l (hl : l < h.length), k < l → h[k].now + P < h[l].now →
        ∃ m, ∃ hm : m < l, k < m ∧ N.Emits t (h.take m) h[m] ∧ h[m].now ≤ h[k].now + P) :
    N.Cadence t P h := by
  rintro pre a mid j post rfl hemits hlate
  obtain ⟨m, hm, hbetween, hemits', hle⟩ := hnext pre.length (by simp) (by simpa using hemits)
    (pre.length + (mid.length + 1)) (by simp) (by omega) (by simpa using hlate)
  obtain ⟨k, rfl⟩ : ∃ k, m = pre.length + (k + 1) := ⟨m - pre.length - 1, by omega⟩
  have hk : k < mid.length := by omega
  refine ⟨mid.take k, mid[k], mid.drop (k + 1), ?_, ?_, ?_⟩
  · rw [List.getElem_cons_drop, List.take_append_drop]
  · simpa [List.take_append, List.getElem_append_left hk, Nat.sub_eq_zero_of_le hk.le,
      List.take_of_length_le] using hemits'
  · simpa [List.getElem_append_left hk] using hle

variable [AddCommGroup T] [LinearOrder T] [IsOrderedAddMonoid T]

/-- **The walk from publication to publication.** From one that is more than `D` old they lead to one
that is more than `D` old and at most `P + D`. -/
theorem exists_recent_emission {t : τ} {P D : T} {h : List (Stamped T (Label ν τ μ ε))}
    {i : Stamped T (Label ν τ μ ε)} (hD : 0 ≤ D) (hcadence : N.Cadence t P (h ++ [i]))
    {pre post : List (Stamped T (Label ν τ μ ε))} {a : Stamped T (Label ν τ μ ε)}
    (hsplit : h = pre ++ a :: post) (hemits : N.Emits t pre a) (hlate : a.now + D < i.now) :
    ∃ pre a post, h = pre ++ a :: post ∧ N.Emits t pre a ∧ a.now + D < i.now ∧
      i.now ≤ a.now + (P + D) := by
  -- by induction on what is left of the run after the publication
  induction hlength : post.length using Nat.strong_induction_on generalizing pre a post with
  | _ n ih =>
    by_cases hold : i.now ≤ a.now + (P + D)
    · exact ⟨pre, a, post, hsplit, hemits, hlate, hold⟩
    have hfar : a.now + (P + D) < i.now := not_le.mp hold
    have hperiod : a.now + P < i.now :=
      lt_of_le_of_lt (add_le_add_right (le_add_of_nonneg_right hD) a.now) hfar
    obtain ⟨m₁, c, m₂, rfl, hemits', hnext⟩ := hcadence pre a post i [] (by simp [hsplit]) hemits hperiod
    have hshorter : m₂.length < n := by
      rw [← hlength, List.length_append, List.length_cons]
      omega
    have hsplit' : h = pre ++ a :: m₁ ++ c :: m₂ := by
      rw [hsplit, List.append_assoc, List.cons_append]
    have hlate' : c.now + D < i.now :=
      calc c.now + D
          ≤ a.now + P + D := add_le_add_left hnext D
        _ = a.now + (P + D) := add_assoc _ _ _
        _ < i.now := hfar
    exact ih m₂.length hshorter hsplit' hemits' hlate' rfl

end Emission

end Network

namespace Callbacks

variable {N : Network T ν τ μ ε σ ο} (C : Callbacks N) [DecidableEq ν] [DecidableEq τ]

/-- The clock reading at which a callback hands a message of the topic to `n`. -/
def heardAt (n : ν) (t : τ) (x : Stamped T ε) : Option T :=
  if (C.heardOn n t x.event).isSome then some x.now else none

/-- A callback notes its clock reading if it hands a message of the topic to the node. -/
theorem heardAt_eq_some_iff {n : ν} {t : τ} {x : Stamped T ε} {now : T} :
    C.heardAt n t x = some now ↔ (C.heardOn n t x.event).isSome = true ∧ x.now = now := by
  rw [heardAt, Option.ite_none_right_eq_some, Option.some.injEq]

/-- **A field that dates the messages of a topic** holds when one was last handed over. -/
theorem heardAt_register {n : ν} {t : τ} (reg : σ → Option T) (start : reg N.nodes.init = none)
    (keep : ∀ s x, reg (N.nodes.next s x) = (C.heardAt n t x).or (reg s))
    (h : List (Stamped T (Label ν τ μ ε))) :
    reg (N.machine.after h).nodes = latest (C.heardAt n t) (N.events h) := by
  rw [N.nodes_after]
  exact N.nodes.latest_optional_register reg _ start keep _

/-- What was heard was published, no more than `D` before. -/
theorem exists_emission_of_heardAt [Add T] [LE T] {n : ν} {t : τ} {D now : T}
    {h : List (Stamped T (Label ν τ μ ε))} (harrives : N.ArrivesWithin n t D h)
    (hheard : latest (C.heardAt n t) (N.events h) = some now) :
    ∃ pre a post, h = pre ++ a :: post ∧ N.Emits t pre a ∧ now ≤ a.now + D := by
  obtain ⟨x, hx, hdated⟩ := exists_mem_of_latest hheard
  obtain ⟨hsome, rfl⟩ := C.heardAt_eq_some_iff.mp hdated
  obtain ⟨m, hm⟩ := Option.isSome_iff_exists.mp hsome
  obtain ⟨rfl, hmessage, rfl⟩ := C.heardOn_eq_some_iff.mp hm
  obtain ⟨pre, a, post, hsplit, hemitted, hage⟩ := C.exists_sent hx hmessage harrives
  exact ⟨pre, a, post, hsplit, ⟨m, hemitted, rfl⟩, hage⟩

/-- **A dead publisher.** If nothing was published on the topic after the reading `since`, nothing was
heard of it more than `D` later. -/
theorem heardAt_of_silence [Add T] [Preorder T] [AddRightMono T] {n : ν} {t : τ} {D since now : T}
    {h : List (Stamped T (Label ν τ μ ε))} (harrives : N.ArrivesWithin n t D h)
    (hsilent : ∀ pre a post, h = pre ++ a :: post → N.Emits t pre a → a.now ≤ since)
    (hheard : latest (C.heardAt n t) (N.events h) = some now) : now ≤ since + D := by
  obtain ⟨pre, a, post, hsplit, hemits, hage⟩ := C.exists_emission_of_heardAt harrives hheard
  exact hage.trans (add_le_add_left (hsilent pre a post hsplit hemits) D)

variable [AddCommGroup T] [LinearOrder T] [IsOrderedAddMonoid T]

omit [IsOrderedAddMonoid T] in
/-- A message that is more than `D` old was handed over, if its link delivers everything within `D`;
so the topic was heard of since. -/
theorem heardAt_of_emission {n : ν} {t : τ} {D : T} {h pre post : List (Stamped T (Label ν τ μ ε))}
    {a i : Stamped T (Label ν τ μ ε)} (hmono : ClockMonotone (h ++ [i]))
    (hdelivers : N.DeliversWithin n t D (h ++ [i]))
    (hreceive : ∀ m, N.topic m = t → (N.receive n m).isSome) (hsplit : h = pre ++ a :: post)
    (hemits : N.Emits t pre a) (hlate : a.now + D < i.now) :
    ∃ now, latest (C.heardAt n t) (N.events h) = some now ∧ a.now ≤ now := by
  obtain ⟨m, hm, rfl⟩ := hemits
  subst hsplit
  obtain ⟨e, he⟩ := Option.isSome_iff_exists.mp (hreceive m rfl)
  obtain ⟨hnode, hmessage⟩ := C.of_receive he
  rw [List.append_assoc, List.cons_append] at hdelivers
  have hmono' : ClockMonotone (pre ++ a :: post) := hmono.of_append
  obtain ⟨r, hsince, hr⟩ := Network.handled_of_deliversWithin hm he hdelivers hmono' hlate
  -- what was heard last is no older than this message
  have hheard : C.heardAt n (N.topic m) ⟨r, e⟩ = some r := by
    refine C.heardAt_eq_some_iff.mpr ⟨?_, rfl⟩
    rw [C.heardOn_eq_some_iff.mpr ⟨hnode, hmessage, rfl⟩]
    rfl
  obtain ⟨now, hlast, hle⟩ := le_latest_of_mem (N.clockMonotone_events hmono')
    (fun x now hx => ((C.heardAt_eq_some_iff).mp hx).2) hr hheard
  exact ⟨now, hlast, hsince.trans hle⟩

/-- **A live publisher.** If the topic is published at least every `P`, first more than `D` ago, and
its link delivers everything within `D`, then what was heard last is at most `P + D` old. -/
theorem heardAt_of_cadence {n : ν} {t : τ} {P D : T} {h : List (Stamped T (Label ν τ μ ε))}
    {i : Stamped T (Label ν τ μ ε)} (hmono : ClockMonotone (h ++ [i])) (hD : 0 ≤ D)
    (hcadence : N.Cadence t P (h ++ [i])) (hdelivers : N.DeliversWithin n t D (h ++ [i]))
    (hreceive : ∀ m, N.topic m = t → (N.receive n m).isSome)
    (hstarted : ∃ pre a post, h = pre ++ a :: post ∧ N.Emits t pre a ∧ a.now + D < i.now) :
    ∃ now, latest (C.heardAt n t) (N.events h) = some now ∧ i.now ≤ now + (P + D) := by
  obtain ⟨pre, a, post, hsplit, hemits, hlate⟩ := hstarted
  obtain ⟨pre, a, post, hsplit, hemits, hlate, hrecent⟩ :=
    Network.exists_recent_emission hD hcadence hsplit hemits hlate
  obtain ⟨now, hlast, hle⟩ := C.heardAt_of_emission hmono hdelivers hreceive hsplit hemits hlate
  exact ⟨now, hlast, hrecent.trans (add_le_add_left hle _)⟩

omit [IsOrderedAddMonoid T] in
/-- On a link that is moreover not overtaken, a field that every message of the topic overwrites holds
it of a message that is no older than one which is more than `D` old. -/
theorem register_of_emission {α : Type*} {n : ν} {t : τ} (reg : σ → α) (g : μ → α)
    (keep : ∀ s x, reg (N.nodes.next s x) = ((C.heardOn n t x.event).map g).getD (reg s)) {D : T}
    {h pre post : List (Stamped T (Label ν τ μ ε))} {a i : Stamped T (Label ν τ μ ε)}
    (hmono : ClockMonotone (h ++ [i])) (hdelivers : N.DeliversWithin n t D (h ++ [i]))
    (hfifo : Network.FifoOn n t h) (hreceive : ∀ m, N.topic m = t → (N.receive n m).isSome)
    (hsplit : h = pre ++ a :: post) (hemits : N.Emits t pre a) (hlate : a.now + D < i.now) :
    ∃ pre' a' post' m, h = pre' ++ a' :: post' ∧ m ∈ N.emitted (N.machine.after pre') a' ∧
      N.topic m = t ∧ reg (N.machine.after h).nodes = g m ∧ a.now ≤ a'.now := by
  obtain ⟨m, hm, rfl⟩ := hemits
  subst hsplit
  have hmono' : ClockMonotone (pre ++ a :: post) := hmono.of_append
  rw [List.append_assoc, List.cons_append] at hdelivers
  obtain ⟨p, hp, -, hsent, -⟩ := Network.seen_of_deliversWithin hm (hreceive m rfl) hdelivers hlate
  -- the field holds it of the last packet seen, which is no older than this one
  obtain ⟨q, hq⟩ : ∃ q, ((N.machine.after (pre ++ a :: post)).link n (N.topic m)).seen.getLast? =
      some q := ⟨_, List.getLast?_eq_some_getLast (List.ne_nil_of_mem hp)⟩
  have hle : p.sentAt ≤ q.sentAt := N.sentAt_le_last hmono' hfifo hp hq
  obtain ⟨pre', a', post', hsplit', hsent', hemitted, htopic, -⟩ :=
    N.packet_emitted (List.mem_append_left _ (List.mem_of_getLast? hq))
  rw [hsent, hsent'] at hle
  refine ⟨pre', a', post', q.msg, hsplit', hemitted, htopic, ?_, hle⟩
  rw [C.register_after reg g keep, hq]
  rfl

/-- **A subscriber of a live publisher is up to date.** On a link that is moreover not overtaken, a
field that every message of the topic overwrites holds it of a message published at most `P + D`
ago. -/
theorem register_of_cadence {α : Type*} {n : ν} {t : τ} (reg : σ → α) (g : μ → α)
    (keep : ∀ s x, reg (N.nodes.next s x) = ((C.heardOn n t x.event).map g).getD (reg s)) {P D : T}
    {h : List (Stamped T (Label ν τ μ ε))} {i : Stamped T (Label ν τ μ ε)}
    (hmono : ClockMonotone (h ++ [i])) (hD : 0 ≤ D) (hcadence : N.Cadence t P (h ++ [i]))
    (hdelivers : N.DeliversWithin n t D (h ++ [i])) (hfifo : Network.FifoOn n t h)
    (hreceive : ∀ m, N.topic m = t → (N.receive n m).isSome)
    (hstarted : ∃ pre a post, h = pre ++ a :: post ∧ N.Emits t pre a ∧ a.now + D < i.now) :
    ∃ pre a post m, h = pre ++ a :: post ∧ m ∈ N.emitted (N.machine.after pre) a ∧ N.topic m = t ∧
      reg (N.machine.after h).nodes = g m ∧ i.now ≤ a.now + (P + D) := by
  obtain ⟨pre, a, post, hsplit, hemits, hlate⟩ := hstarted
  obtain ⟨pre, a, post, hsplit, hemits, hlate, hrecent⟩ :=
    Network.exists_recent_emission hD hcadence hsplit hemits hlate
  obtain ⟨pre', a', post', m, hsplit', hm, htopic, hheld, hle⟩ :=
    C.register_of_emission reg g keep hmono hdelivers hfifo hreceive hsplit hemits hlate
  exact ⟨pre', a', post', m, hsplit', hm, htopic, hheld, hrecent.trans (add_le_add_left hle _)⟩

end Callbacks

end Reactive
