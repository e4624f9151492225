import HumaWare.Reactive.Network
import Mathlib.Order.Lattice

/-! # Lossless and timely links

A link is *timely* along a run if it loses no packet and no step finds a packet in flight on it that
was published more than a bound ago.

* **`Network.packet_kept`** — what is on a lossless link stays on it, in flight or seen;
* **`Network.exists_received`** — a packet seen was handed over by a step of the run;
* **`Network.sentAt_le_last`** — a subscriber on a link that is not overtaken has seen the youngest
  packet last;
* **`Network.ArrivesWithin`** — a link that may lose packets, but hands over none that is older than a
  bound;
* **`Network.seen_of_deliversWithin`**, **`Network.handled_of_deliversWithin`** — on a timely link, a
  message published more than the bound ago has been seen and handled by its subscriber, after it was
  published. -/

namespace Reactive.Network

variable {T ν τ μ ε σ ο : Type*} [DecidableEq ν] [DecidableEq τ] (N : Network T ν τ μ ε σ ο)

/-- A step that does not lose a packet of a link leaves on it what was on it. -/
theorem packet_kept_next {s : NetState T ν τ μ σ} {i : Stamped T (Label ν τ μ ε)} {n : ν} {t : τ}
    {p : Packet T μ} (hp : p ∈ (s.link n t).seen ++ (s.link n t).pending)
    (hdrop : ∀ k, i.event ≠ .drop n t k) :
    p ∈ ((N.machine.next s i).link n t).seen ++ ((N.machine.next s i).link n t).pending := by
  have hkept : p ∈ (relink s i.event n t).seen ++ (relink s i.event n t).pending := by
    rcases relink_cases s i.event n t with hr | ⟨k, hl, -⟩ | ⟨k, q, l', -, htake, hr⟩
    · rwa [hr]
    · exact absurd hl (hdrop k)
    · rw [hr]
      exact Link.subset_take? htake hp
  rw [next_link, Link.pushAll_seen]
  rcases List.mem_append.mp hkept with hseen | hpending
  · exact List.mem_append_left _ hseen
  · exact List.mem_append_right _ ((Link.pending_prefix_pushAll _ _ _).subset hpending)

/-- **What is on a link stays on it** as long as the link loses nothing. -/
theorem packet_kept {h k : List (Stamped T (Label ν τ μ ε))} {n : ν} {t : τ} {p : Packet T μ}
    (hp : p ∈ ((N.machine.after h).link n t).seen ++ ((N.machine.after h).link n t).pending)
    (hdrop : ∀ i ∈ k, ∀ j, i.event ≠ .drop n t j) :
    p ∈ ((N.machine.after (h ++ k)).link n t).seen ++
      ((N.machine.after (h ++ k)).link n t).pending := by
  induction k using List.reverseRecOn with
  | nil => rwa [List.append_nil]
  | append_singleton k i ih =>
    have hprev := ih fun j hj => hdrop j (List.mem_append_left _ hj)
    rw [← List.append_assoc, Machine.after_concat]
    exact N.packet_kept_next hprev (hdrop i (by simp))

/-- **A packet seen was handed over** by a step of the run, which fired its subscriber's
callback. -/
theorem exists_received {h : List (Stamped T (Label ν τ μ ε))} {n : ν} {t : τ} {p : Packet T μ}
    (hp : p ∈ ((N.machine.after h).link n t).seen) :
    ∃ pre j post e, h = pre ++ j :: post ∧ p ∈ ((N.machine.after pre).link n t).pending ∧
      N.receive n p.msg = some e ∧ N.fired (N.machine.after pre) j.event = some e := by
  induction h using List.reverseRecOn with
  | nil => simp [machine, Link.empty] at hp
  | append_singleton h i ih =>
    rw [Machine.after_concat, next_link, Link.pushAll_seen] at hp
    have hearlier : p ∈ ((N.machine.after h).link n t).seen → ∃ pre j post e,
        h ++ [i] = pre ++ j :: post ∧ p ∈ ((N.machine.after pre).link n t).pending ∧
          N.receive n p.msg = some e ∧ N.fired (N.machine.after pre) j.event = some e := by
      intro hseen
      obtain ⟨pre, j, post, e, rfl, hrest⟩ := ih hseen
      exact ⟨pre, j, post ++ [i], e, by simp, hrest⟩
    rcases relink_cases (N.machine.after h) i.event n t with hr | ⟨k, -, hr⟩ |
      ⟨k, q, l', hl, htake, hr⟩
    · exact hearlier (hr ▸ hp)
    · rw [hr, Link.drop_seen] at hp
      exact hearlier hp
    · rw [hr, Link.take?_seen htake, List.mem_append, List.mem_singleton] at hp
      rcases hp with hp | rfl
      · exact hearlier hp
      · -- the last step handed it over
        have hpending := Link.take?_mem htake
        obtain ⟨-, -, -, -, -, -, -, hsome⟩ := N.packet_emitted (List.mem_append_right _ hpending)
        obtain ⟨e, he⟩ := Option.isSome_iff_exists.mp hsome
        refine ⟨h, i, [], e, rfl, hpending, he, ?_⟩
        rw [hl, fired, htake, Option.bind_some, he]

/-- The event that a step of the run fires is among the events of the run. -/
theorem mem_events_of_fired {pre post : List (Stamped T (Label ν τ μ ε))}
    {j : Stamped T (Label ν τ μ ε)} {e : ε} (he : N.fired (N.machine.after pre) j.event = some e) :
    ⟨j.now, e⟩ ∈ N.events (pre ++ j :: post) := by
  have hprefix : N.events (pre ++ [j]) <+: N.events (pre ++ [j] ++ post) :=
    N.component.history_append_prefix _ _
  rw [List.append_assoc, List.singleton_append] at hprefix
  refine hprefix.subset ?_
  rw [events_concat, he]
  simp

/-- Along a run with a non-decreasing clock, the events are fired in the order of their clock
readings. -/
theorem clockMonotone_events [LE T] {h : List (Stamped T (Label ν τ μ ε))} (hmono : ClockMonotone h) :
    ClockMonotone (N.events h) := by
  induction h using List.reverseRecOn with
  | nil => exact List.Pairwise.nil
  | append_singleton h i ih =>
    obtain ⟨hprev, -, hlast⟩ := List.pairwise_append.mp hmono
    rw [events_concat]
    refine List.pairwise_append.mpr ⟨ih hprev, ?_, ?_⟩
    · cases N.fired (N.machine.after h) i.event with
      | none => exact List.Pairwise.nil
      | some e => exact List.pairwise_singleton _ _
    · intro x hx y hy
      obtain ⟨pre, j, post, hsplit, hnow, -⟩ := N.exists_fired hx
      obtain ⟨e, -, rfl⟩ : ∃ e, N.fired (N.machine.after h) i.event = some e ∧ ⟨i.now, e⟩ = y := by
        simpa using hy
      rw [← hnow]
      exact hlast j (by simp [hsplit]) i (List.mem_singleton_self _)

/-- On a link that is not overtaken, with a clock that does not run back, the last packet seen was
published no earlier than any other. -/
theorem sentAt_le_last [Preorder T] {h : List (Stamped T (Label ν τ μ ε))} {n : ν} {t : τ}
    {p q : Packet T μ} (hmono : ClockMonotone h) (hfifo : FifoOn n t h)
    (hp : p ∈ ((N.machine.after h).link n t).seen)
    (hq : ((N.machine.after h).link n t).seen.getLast? = some q) : p.sentAt ≤ q.sentAt := by
  obtain ⟨pre, a, post, rfl, hpublished, -⟩ := N.exists_published (List.mem_append_left _ hp)
  obtain ⟨pre', a', post', hsplit, hpublished', -⟩ :=
    N.exists_published (List.mem_append_left _ (List.mem_of_getLast? hq))
  rw [hpublished.sentAt, hpublished'.sentAt]
  rcases hpublished.later_or_same N hpublished' hsplit ((N.inOrder hfifo).le_last hp hq) with
    ⟨-, rfl⟩ | ⟨mid, rfl, rfl⟩
  · exact le_refl _
  · rw [hsplit] at hmono
    exact hmono.le_of_append (by simp) List.mem_cons_self

/-- **No stale delivery.** What the run hands over on the link was published at most `D` before; what
it loses may be of any age. -/
def ArrivesWithin [Add T] [LE T] (n : ν) (t : τ) (D : T) (h : List (Stamped T (Label ν τ μ ε))) :
    Prop :=
  ∀ pre j post k p l, h = pre ++ j :: post → j.event = .deliver n t k →
    ((N.machine.after pre).link n t).take? k = some (p, l) → j.now ≤ p.sentAt + D

variable {N} in
/-- The earlier part of a run without stale deliveries has none. -/
theorem ArrivesWithin.of_append [Add T] [LE T] {n : ν} {t : τ} {D : T}
    {h k : List (Stamped T (Label ν τ μ ε))} (harrives : N.ArrivesWithin n t D (h ++ k)) :
    N.ArrivesWithin n t D h := by
  intro pre j post i p l hsplit
  exact harrives pre j (post ++ k) i p l (by rw [hsplit]; simp)

/-- A run whose clock readings span no more than `D` makes no stale delivery. -/
theorem arrivesWithin_of_span [Add T] [LE T] {D : T} {h : List (Stamped T (Label ν τ μ ε))}
    (hspan : ∀ a ∈ h, ∀ b ∈ h, b.now ≤ a.now + D) (n : ν) (t : τ) : N.ArrivesWithin n t D h := by
  rintro pre j post k p l rfl - htake
  obtain ⟨pre', a, post', rfl, hsent, -⟩ :=
    N.packet_emitted (List.mem_append_right _ (Link.take?_mem htake))
  rw [hsent]
  exact hspan a (by simp) j (by simp)

section Timely

variable [Add T] [LinearOrder T]

/-- **A timely link.** The run loses no packet of the link, and none of its steps finds one in
flight that was published more than `D` ago. -/
structure DeliversWithin (n : ν) (t : τ) (D : T) (h : List (Stamped T (Label ν τ μ ε))) : Prop where
  lossless : ∀ i ∈ h, ∀ k, i.event ≠ .drop n t k
  timely : ∀ pre j post, h = pre ++ j :: post →
    ∀ p ∈ ((N.machine.after pre).link n t).pending, j.now ≤ p.sentAt + D

variable {N}

/-- The earlier part of a run on which a link is timely. -/
theorem DeliversWithin.of_append {n : ν} {t : τ} {D : T} {h k : List (Stamped T (Label ν τ μ ε))}
    (hdelivers : N.DeliversWithin n t D (h ++ k)) : N.DeliversWithin n t D h where
  lossless i hi := hdelivers.lossless i (List.mem_append_left _ hi)
  timely pre j post hsplit := hdelivers.timely pre j (post ++ k) (by rw [hsplit]; simp)

/-- A timely link makes no stale delivery. -/
theorem DeliversWithin.arrivesWithin {n : ν} {t : τ} {D : T} {h : List (Stamped T (Label ν τ μ ε))}
    (hdelivers : N.DeliversWithin n t D h) : N.ArrivesWithin n t D h := by
  intro pre j post k p l hsplit _ htake
  exact hdelivers.timely pre j post hsplit p (Link.take?_mem htake)

/-- A link that delivers what a step published within `D` does not do so within less than
nothing. -/
theorem DeliversWithin.nonneg {n : ν} {D : T} {pre post : List (Stamped T (Label ν τ μ ε))}
    {a j : Stamped T (Label ν τ μ ε)} {m : μ}
    (hdelivers : N.DeliversWithin n (N.topic m) D (pre ++ a :: j :: post))
    (hm : m ∈ N.emitted (N.machine.after pre) a) (hreceive : (N.receive n m).isSome)
    (hle : a.now ≤ j.now) : a.now ≤ a.now + D := by
  obtain ⟨p, hpending, -, hsent, -⟩ := N.exists_pending_next hm hreceive
  rw [← Machine.after_concat] at hpending
  have hage := hdelivers.timely (pre ++ [a]) j post (by simp) p hpending
  rw [hsent] at hage
  exact hle.trans hage

/-- **A message published more than the bound ago was seen**: its packet lies with the subscriber,
under a serial number that was fresh when it was published. -/
theorem seen_of_deliversWithin {n : ν} {D : T} {pre mid post : List (Stamped T (Label ν τ μ ε))}
    {a j : Stamped T (Label ν τ μ ε)} {m : μ} (hm : m ∈ N.emitted (N.machine.after pre) a)
    (hreceive : (N.receive n m).isSome)
    (hdelivers : N.DeliversWithin n (N.topic m) D (pre ++ a :: (mid ++ j :: post)))
    (hlate : a.now + D < j.now) :
    ∃ p ∈ ((N.machine.after (pre ++ a :: mid)).link n (N.topic m)).seen,
      p.msg = m ∧ p.sentAt = a.now ∧
        ((N.machine.after pre).link n (N.topic m)).count ≤ p.serial := by
  -- the packet is in flight after its publication, and still on the link before `j`
  obtain ⟨p, hpending, rfl, hsent, hserial⟩ :
      ∃ p ∈ ((N.machine.after (pre ++ [a])).link n (N.topic m)).pending, p.msg = m ∧
        p.sentAt = a.now ∧ ((N.machine.after pre).link n (N.topic m)).count ≤ p.serial := by
    rw [Machine.after_concat]
    exact N.exists_pending_next hm hreceive
  have hkept := N.packet_kept (k := mid) (List.mem_append_right _ hpending) fun i hi =>
    hdelivers.lossless i (by simp [hi])
  rw [List.append_assoc, List.singleton_append] at hkept
  refine ⟨p, (List.mem_append.mp hkept).resolve_right fun hpending => ?_, rfl, hsent, hserial⟩
  have hage := hdelivers.timely (pre ++ a :: mid) j post (by simp) p hpending
  rw [hsent] at hage
  exact absurd hlate (not_lt.mpr hage)

/-- **A message published more than the bound ago was handled**, at a clock reading no earlier than
its publication. -/
theorem handled_of_deliversWithin {n : ν} {D : T} {pre mid post : List (Stamped T (Label ν τ μ ε))}
    {a j : Stamped T (Label ν τ μ ε)} {m : μ} {e : ε} (hm : m ∈ N.emitted (N.machine.after pre) a)
    (he : N.receive n m = some e)
    (hdelivers : N.DeliversWithin n (N.topic m) D (pre ++ a :: (mid ++ j :: post)))
    (hmono : ClockMonotone (pre ++ a :: mid)) (hlate : a.now + D < j.now) :
    ∃ r, a.now ≤ r ∧ ⟨r, e⟩ ∈ N.events (pre ++ a :: mid) := by
  obtain ⟨p, hseen, rfl, hsent, -⟩ := seen_of_deliversWithin hm (he ▸ rfl) hdelivers hlate
  -- so a step handed it over, which found it in flight
  obtain ⟨pre', j', post', e', hsplit, hpending', he', hfired⟩ := N.exists_received hseen
  obtain rfl : e = e' := Option.some.inj (he.symm.trans he')
  refine ⟨j'.now, ?_, hsplit ▸ N.mem_events_of_fired hfired⟩
  obtain ⟨pre'', i'', post'', rfl, hsent', -⟩ :=
    N.packet_emitted (List.mem_append_right _ hpending')
  rw [hsplit] at hmono
  have hle : i''.now ≤ j'.now := hmono.le_of_append (by simp) List.mem_cons_self
  rwa [← hsent', hsent] at hle

end Timely

end Reactive.Network
