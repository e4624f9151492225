import HumaWare.Reactive.History
import HumaWare.Reactive.Link

/-! # Publish/subscribe networks

A network joins the callbacks of several nodes (one reactive machine over the tagged union of their
events) by one `Link` for every subscriber and topic. A run is a list of labels: a callback that no
message triggers (a timer, a service call, a parameter change), the delivery or the loss of a packet
in flight, or a message published by a party outside of the network. Deliveries may pick any packet
in flight; a run in which every delivery picks the oldest one is *FIFO*.

* **`Network.component`** — the nodes run their own program inside the network: their joint state is
  the node machine's state after the events fired so far (`Network.nodes_after`);
* **`Network.exists_published`** — every packet was published by an earlier step of the run, which
  gave out its serial number; `Network.PublishedBy.unique`: by one step only;
* **`Network.packet_window`** — what every message of a stretch of the run has, every packet with a
  serial number from that stretch has;
* **`Network.inOrder`** — a link on which no delivery overtakes is in order;
* **`Network.latest_seen`** — a component of the state that every message of one topic overwrites
  holds what the last packet seen on that link carries. -/

namespace Reactive

/-- A publish/subscribe system: nodes `ν`, topics `τ`, messages `μ`, node events `ε`. -/
structure Network (T ν τ μ ε σ ο : Type*) where
  /-- The topic a message is published on. -/
  topic : μ → τ
  /-- The callback a delivered message triggers at a node; none where the node does not
  subscribe. -/
  receive : ν → μ → Option ε
  /-- The callbacks of all nodes, as one machine. -/
  nodes : Machine σ (Stamped T ε) ο
  /-- The messages among what a callback outputs. -/
  emits : ο → List μ
  /-- The callbacks that no message triggers. -/
  acts : ε → Bool
  /-- The topics on which parties outside of the network publish. -/
  opens : τ → Bool

/-- What can happen next in a network. -/
inductive Label (ν τ μ ε : Type*)
  /-- A timer expires, a service is called, a parameter is set. -/
  | act (e : ε)
  /-- The packet at position `k` of what is in flight to `n` on `t` reaches its callback. -/
  | deliver (n : ν) (t : τ) (k : ℕ)
  /-- The packet at position `k` of what is in flight to `n` on `t` is lost. -/
  | drop (n : ν) (t : τ) (k : ℕ)
  /-- A party outside of the network publishes a message. -/
  | inject (m : μ)
  deriving DecidableEq

/-- The label does not overtake: a delivery picks the oldest packet in flight. -/
def Label.InOrder {ν τ μ ε : Type*} : Label ν τ μ ε → Prop
  | .deliver _ _ k => k = 0
  | _ => True

/-- The joint state of the nodes and of the link to every subscriber of every topic. -/
structure NetState (T ν τ μ σ : Type*) where
  /-- The joint state of the nodes. -/
  nodes : σ
  /-- The link to a subscriber of a topic. -/
  link : ν → τ → Link T μ

namespace Network

variable {T ν τ μ ε σ ο : Type*}

section Callbacks

variable (N : Network T ν τ μ ε σ ο)

/-- The callback that a label fires, if it fires one. -/
def fired (s : NetState T ν τ μ σ) : Label ν τ μ ε → Option ε
  | .act e => if N.acts e then some e else none
  | .deliver n t k => ((s.link n t).take? k).bind fun pl => N.receive n pl.1.msg
  | .drop _ _ _ => none
  | .inject _ => none

/-- The messages a step publishes: what the fired callback emits, or what an outside party does. -/
def emitted (s : NetState T ν τ μ σ) (i : Stamped T (Label ν τ μ ε)) : List μ :=
  match N.fired s i.event, i.event with
  | some e, _ => N.emits (N.nodes.out s.nodes ⟨i.now, e⟩)
  | none, .inject m => if N.opens (N.topic m) then [m] else []
  | none, _ => []

/-- A fired callback is a timer, service or parameter callback, or handles a packet in flight. -/
theorem fired_cases {s : NetState T ν τ μ σ} {l : Label ν τ μ ε} {e : ε}
    (h : N.fired s l = some e) :
    (l = .act e ∧ N.acts e) ∨
      ∃ n t k p l', l = .deliver n t k ∧ (s.link n t).take? k = some (p, l') ∧
        N.receive n p.msg = some e := by
  cases l with
  | act e' =>
    simp only [fired, Option.ite_none_right_eq_some, Option.some.injEq] at h
    obtain ⟨hacts, rfl⟩ := h
    exact Or.inl ⟨rfl, hacts⟩
  | deliver n t k =>
    obtain ⟨⟨p, l'⟩, htake, hrec⟩ := Option.bind_eq_some_iff.mp h
    exact Or.inr ⟨n, t, k, p, l', rfl, htake, hrec⟩
  | drop n t k => simp [fired] at h
  | inject m => simp [fired] at h

/-- A message is published by the callback fired, or by an outside party on an open topic. -/
theorem emitted_cases {s : NetState T ν τ μ σ} {i : Stamped T (Label ν τ μ ε)} {m : μ}
    (h : m ∈ N.emitted s i) :
    (∃ e, N.fired s i.event = some e ∧ m ∈ N.emits (N.nodes.out s.nodes ⟨i.now, e⟩)) ∨
      (i.event = .inject m ∧ N.opens (N.topic m)) := by
  unfold emitted at h
  split at h
  · next e he => exact Or.inl ⟨e, he, h⟩
  · next m' _ hm =>
    split at h
    · next hopen =>
      obtain rfl := List.mem_singleton.mp h
      exact Or.inr ⟨hm, hopen⟩
    · simp at h
  · simp at h

/-- The messages among `ms` that travel on the link to `n` on `t`. -/
def addressed [DecidableEq τ] (n : ν) (t : τ) (ms : List μ) : List μ :=
  ms.filter fun m => N.topic m = t ∧ (N.receive n m).isSome

/-- The messages on a link are those of its topic that the node subscribes to. -/
theorem mem_addressed [DecidableEq τ] {n : ν} {t : τ} {ms : List μ} {m : μ} :
    m ∈ N.addressed n t ms ↔ m ∈ ms ∧ N.topic m = t ∧ (N.receive n m).isSome := by
  simp [addressed]

end Callbacks

variable [DecidableEq ν] [DecidableEq τ]

/-- Replace one link. -/
def setLink (link : ν → τ → Link T μ) (n : ν) (t : τ) (l : Link T μ) : ν → τ → Link T μ :=
  fun n' t' => if n' = n ∧ t' = t then l else link n' t'

/-- The link that was set. -/
@[simp] theorem setLink_self (link : ν → τ → Link T μ) (n : ν) (t : τ) (l : Link T μ) :
    setLink link n t l n t = l := by simp [setLink]

/-- The other links. -/
theorem setLink_ne (link : ν → τ → Link T μ) {n n' : ν} {t t' : τ} (l : Link T μ)
    (h : ¬(n' = n ∧ t' = t)) : setLink link n t l n' t' = link n' t' := if_neg h

/-- The links after a packet was handed over or lost, before anything is published. -/
def relink (s : NetState T ν τ μ σ) : Label ν τ μ ε → ν → τ → Link T μ
  | .deliver n t k =>
    match (s.link n t).take? k with
    | none => s.link
    | some (_, l) => setLink s.link n t l
  | .drop n t k => setLink s.link n t ((s.link n t).drop k)
  | _ => s.link

/-- **How one link changes before publishing**: not at all, by losing a packet, or by handing one
over to its subscriber. -/
theorem relink_cases (s : NetState T ν τ μ σ) (l : Label ν τ μ ε) (n : ν) (t : τ) :
    (relink s l n t = s.link n t) ∨
      (∃ k, l = .drop n t k ∧ relink s l n t = (s.link n t).drop k) ∨
      ∃ k p l', l = .deliver n t k ∧ (s.link n t).take? k = some (p, l') ∧
        relink s l n t = l' := by
  cases l with
  | act e => exact Or.inl rfl
  | inject m => exact Or.inl rfl
  | drop n' t' k =>
    by_cases h : n = n' ∧ t = t'
    · obtain ⟨rfl, rfl⟩ := h
      exact Or.inr (Or.inl ⟨k, rfl, setLink_self _ _ _ _⟩)
    · exact Or.inl (setLink_ne _ _ h)
  | deliver n' t' k =>
    cases htake : (s.link n' t').take? k with
    | none => exact Or.inl (by simp [relink, htake])
    | some pl =>
      obtain ⟨p, l'⟩ := pl
      by_cases h : n = n' ∧ t = t'
      · obtain ⟨rfl, rfl⟩ := h
        exact Or.inr (Or.inr ⟨k, p, l', rfl, htake, by simp [relink, htake]⟩)
      · exact Or.inl (by simp [relink, htake, setLink_ne _ _ h])

/-- Handing over and losing packets publishes nothing. -/
theorem relink_count (s : NetState T ν τ μ σ) (l : Label ν τ μ ε) (n : ν) (t : τ) :
    (relink s l n t).count = (s.link n t).count := by
  rcases relink_cases s l n t with h | ⟨k, -, h⟩ | ⟨k, p, l', -, htake, h⟩
  · rw [h]
  · rw [h, Link.drop_count]
  · rw [h, Link.take?_count htake]

/-- Handing over and losing packets puts nothing in flight. -/
theorem relink_pending_subset (s : NetState T ν τ μ σ) (l : Label ν τ μ ε) (n : ν) (t : τ) :
    (relink s l n t).pending ⊆ (s.link n t).pending := by
  rcases relink_cases s l n t with h | ⟨k, -, h⟩ | ⟨k, p, l', -, htake, h⟩
  · rw [h]
    exact List.Subset.refl _
  · rw [h, Link.drop_pending]
    exact (List.eraseIdx_sublist _ k).subset
  · rw [h, Link.take?_pending htake]
    exact (List.eraseIdx_sublist _ k).subset

/-- A packet is seen once it was in flight. -/
theorem relink_seen_subset (s : NetState T ν τ μ σ) (l : Label ν τ μ ε) (n : ν) (t : τ) :
    (relink s l n t).seen ⊆ (s.link n t).seen ++ (s.link n t).pending := by
  intro q hq
  rcases relink_cases s l n t with h | ⟨k, -, h⟩ | ⟨k, p, l', -, htake, h⟩
  · rw [h] at hq
    exact List.mem_append_left _ hq
  · rw [h, Link.drop_seen] at hq
    exact List.mem_append_left _ hq
  · rw [h, Link.take?_seen htake, List.mem_append, List.mem_singleton] at hq
    rcases hq with hq | rfl
    · exact List.mem_append_left _ hq
    · exact List.mem_append_right _ (Link.take?_mem htake)

/-- A delivery leaves its link without the packet handed over. -/
theorem relink_deliver {s : NetState T ν τ μ σ} {n : ν} {t : τ} {k : ℕ} {p : Packet T μ} {l : Link T μ}
    (htake : (s.link n t).take? k = some (p, l)) :
    relink s (.deliver n t k : Label ν τ μ ε) n t = l := by
  have hrelink : relink s (.deliver n t k : Label ν τ μ ε) = setLink s.link n t l := by
    simp only [relink, htake]
  rw [hrelink, setLink_self]

variable (N : Network T ν τ μ ε σ ο)

/-- One step of the network. The output is that of the callback fired, if one was. -/
def step (s : NetState T ν τ μ σ) (i : Stamped T (Label ν τ μ ε)) :
    NetState T ν τ μ σ × Option ο :=
  ({ nodes := match N.fired s i.event with
        | some e => N.nodes.next s.nodes ⟨i.now, e⟩
        | none => s.nodes
     link := fun n t =>
        (relink s i.event n t).pushAll i.now (N.addressed n t (N.emitted s i)) },
   (N.fired s i.event).map fun e => N.nodes.out s.nodes ⟨i.now, e⟩)

/-- The network as one reactive machine. -/
def machine : Machine (NetState T ν τ μ σ) (Stamped T (Label ν τ μ ε)) (Option ο) where
  init := ⟨N.nodes.init, fun _ _ => Link.empty⟩
  step := N.step

/-- A step runs the callback that it fires, if it fires one. -/
theorem next_nodes (s : NetState T ν τ μ σ) (i : Stamped T (Label ν τ μ ε)) :
    (N.machine.next s i).nodes = match N.fired s i.event with
      | some e => N.nodes.next s.nodes ⟨i.now, e⟩
      | none => s.nodes := rfl

/-- A step takes what it delivers or drops off a link, and pushes what it publishes. -/
theorem next_link (s : NetState T ν τ μ σ) (i : Stamped T (Label ν τ μ ε)) (n : ν) (t : τ) :
    (N.machine.next s i).link n t =
      (relink s i.event n t).pushAll i.now (N.addressed n t (N.emitted s i)) := rfl

/-- The output of a step is that of the callback that it fires. -/
theorem out_eq (s : NetState T ν τ μ σ) (i : Stamped T (Label ν τ μ ε)) :
    N.machine.out s i = (N.fired s i.event).map fun e => N.nodes.out s.nodes ⟨i.now, e⟩ := rfl

/-- The nodes as a component of the network: a step feeds them the event it fires. -/
def component : Component N.machine N.nodes where
  proj := NetState.nodes
  feed s i := ((N.fired s i.event).map fun e => ⟨i.now, e⟩).toList
  proj_init := rfl
  proj_next s i := by
    rw [next_nodes]
    cases N.fired s i.event <;> rfl

/-- The events fired along a run, with their clock readings. -/
def events (h : List (Stamped T (Label ν τ μ ε))) : List (Stamped T ε) := N.component.history h

/-- An empty run fires nothing. -/
@[simp] theorem events_nil : N.events [] = [] := rfl

/-- The callback fired by the last step comes last. -/
theorem events_concat (h : List (Stamped T (Label ν τ μ ε))) (i : Stamped T (Label ν τ μ ε)) :
    N.events (h ++ [i]) = N.events h ++
      ((N.fired (N.machine.after h) i.event).map fun e => ⟨i.now, e⟩).toList :=
  N.component.history_concat h i

/-- The events fired along `k`, when it continues the run `h`. -/
def eventsFrom (h k : List (Stamped T (Label ν τ μ ε))) : List (Stamped T ε) :=
  N.component.historyFrom (N.machine.after h) k

/-- The callbacks fired in a longer run. -/
theorem events_append (h k : List (Stamped T (Label ν τ μ ε))) :
    N.events (h ++ k) = N.events h ++ N.eventsFrom h k := N.component.historyFrom_append _ h k

/-- **The nodes run their own program inside the network.** -/
theorem nodes_after (h : List (Stamped T (Label ν τ μ ε))) :
    (N.machine.after h).nodes = N.nodes.after (N.events h) := N.component.proj_after h

/-- Every event fired along a run was fired by one of its steps. -/
theorem exists_fired {h : List (Stamped T (Label ν τ μ ε))} {x : Stamped T ε}
    (hx : x ∈ N.events h) : ∃ pre i post, h = pre ++ i :: post ∧ i.now = x.now ∧
      N.fired (N.machine.after pre) i.event = some x.event ∧
      N.events pre ++ [x] <+: N.events h := by
  induction h using List.reverseRecOn with
  | nil => simp at hx
  | append_singleton h i ih =>
    rw [events_concat, List.mem_append] at hx
    rcases hx with hx | hx
    · obtain ⟨pre, j, post, rfl, hnow, hfired, hpre⟩ := ih hx
      exact ⟨pre, j, post ++ [i], by simp, hnow, hfired,
        hpre.trans (N.component.history_append_prefix _ _)⟩
    · -- the last step fired it
      obtain ⟨e, he, rfl⟩ : ∃ e, N.fired (N.machine.after h) i.event = some e ∧ ⟨i.now, e⟩ = x := by
        simpa using hx
      exact ⟨h, i, [], rfl, rfl, he, by rw [events_concat, he]; exact List.prefix_rfl⟩

/-- The messages published so far only get more. -/
theorem count_le_next (s : NetState T ν τ μ σ) (i : Stamped T (Label ν τ μ ε)) (n : ν) (t : τ) :
    (s.link n t).count ≤ ((N.machine.next s i).link n t).count := by
  rw [next_link, ← relink_count s i.event n t]
  exact Link.count_le_pushAll _ _ _

/-- **Where the packets of a link come from.** After a step, a packet on a link was on it before, or
carries, under a fresh serial number and the step's clock reading, a message that the step published
and that the link's subscriber listens to. -/
theorem packet_next {s : NetState T ν τ μ σ} {i : Stamped T (Label ν τ μ ε)} {n : ν} {t : τ}
    {p : Packet T μ}
    (hp : p ∈ ((N.machine.next s i).link n t).seen ++ ((N.machine.next s i).link n t).pending) :
    p ∈ (s.link n t).seen ++ (s.link n t).pending ∨
      ((s.link n t).count ≤ p.serial ∧ p.sentAt = i.now ∧
        p.msg ∈ N.addressed n t (N.emitted s i)) := by
  rw [next_link, List.mem_append, Link.pushAll_seen] at hp
  rcases hp with hp | hp
  · exact Or.inl (relink_seen_subset s i.event n t hp)
  · -- the serial numbers given out start at the link's count, which handing over leaves alone
    rcases Link.mem_pushAll_pending hp with hp | ⟨hserial, hsent, hmsg⟩
    · exact Or.inl (List.mem_append_right _ (relink_pending_subset s i.event n t hp))
    · rw [relink_count] at hserial
      exact Or.inr ⟨hserial, hsent, hmsg⟩

/-- What is in flight after a step was in flight before, or was published by the step. -/
theorem pending_next {s : NetState T ν τ μ σ} {i : Stamped T (Label ν τ μ ε)} {n : ν} {t : τ}
    {p : Packet T μ} (hp : p ∈ ((N.machine.next s i).link n t).pending) :
    p ∈ (s.link n t).pending ∨ (N.topic p.msg = t ∧ p.msg ∈ N.emitted s i) := by
  rw [next_link] at hp
  rcases Link.mem_pushAll_pending hp with hp | ⟨-, -, hmsg⟩
  · exact Or.inl (relink_pending_subset s i.event n t hp)
  · obtain ⟨hemitted, htopic, -⟩ := N.mem_addressed.mp hmsg
    exact Or.inr ⟨htopic, hemitted⟩

/-- What a step publishes is in flight to every subscriber afterwards, under a fresh serial number. -/
theorem exists_pending_next {s : NetState T ν τ μ σ} {i : Stamped T (Label ν τ μ ε)} {n : ν} {m : μ}
    (hm : m ∈ N.emitted s i) (hreceive : (N.receive n m).isSome) :
    ∃ p ∈ ((N.machine.next s i).link n (N.topic m)).pending, p.msg = m ∧ p.sentAt = i.now ∧
      (s.link n (N.topic m)).count ≤ p.serial := by
  rw [next_link, ← relink_count s i.event n (N.topic m)]
  exact Link.exists_mem_pushAll i.now _ (N.mem_addressed.mpr ⟨hm, rfl, hreceive⟩)

/-- The link to a subscriber of what a step publishes is not empty afterwards. -/
theorem pending_ne_nil_after {h : List (Stamped T (Label ν τ μ ε))} {i : Stamped T (Label ν τ μ ε)}
    {n : ν} {m : μ} (hm : m ∈ N.emitted (N.machine.after h) i) (hreceive : (N.receive n m).isSome) :
    ((N.machine.after (h ++ [i])).link n (N.topic m)).pending ≠ [] := by
  rw [Machine.after_concat]
  obtain ⟨p, hp, -⟩ := N.exists_pending_next hm hreceive
  exact List.ne_nil_of_mem hp

/-- The count of a link only grows. -/
theorem count_le_after (h k : List (Stamped T (Label ν τ μ ε))) (n : ν) (t : τ) :
    ((N.machine.after h).link n t).count ≤ ((N.machine.after (h ++ k)).link n t).count := by
  induction k using List.reverseRecOn with
  | nil => exact Nat.le_of_eq (by rw [List.append_nil])
  | append_singleton k i ih =>
    rw [← List.append_assoc, Machine.after_concat]
    exact Nat.le_trans ih (N.count_le_next _ i n t)

/-- The step `a`, taken after `pre`, published the packet `p` of the link to `n` on `t`: it gave out
the packet's serial number. -/
structure PublishedBy (pre : List (Stamped T (Label ν τ μ ε))) (a : Stamped T (Label ν τ μ ε)) (n : ν)
    (t : τ) (p : Packet T μ) : Prop where
  low : ((N.machine.after pre).link n t).count ≤ p.serial
  high : p.serial < ((N.machine.after (pre ++ [a])).link n t).count
  sentAt : p.sentAt = a.now
  emitted : p.msg ∈ N.emitted (N.machine.after pre) a
  topic : N.topic p.msg = t

/-- **Provenance.** Every packet on a link, seen or in flight, was published by an earlier step of
the run at the clock reading it carries. -/
theorem exists_published {h : List (Stamped T (Label ν τ μ ε))} {n : ν} {t : τ} {p : Packet T μ}
    (hp : p ∈ ((N.machine.after h).link n t).seen ++ ((N.machine.after h).link n t).pending) :
    ∃ pre a post, h = pre ++ a :: post ∧ N.PublishedBy pre a n t p ∧
      (N.receive n p.msg).isSome := by
  induction h using List.reverseRecOn with
  | nil => simp [machine] at hp
  | append_singleton h i ih =>
    have hbounded := ((N.machine.after (h ++ [i])).link n t).bounded p hp
    rw [Machine.after_concat] at hp
    rcases N.packet_next hp with hp | ⟨hserial, hsent, hmsg⟩
    · obtain ⟨pre, a, post, rfl, hrest⟩ := ih hp
      exact ⟨pre, a, post ++ [i], by simp, hrest⟩
    · obtain ⟨hemitted, htopic, hreceive⟩ := N.mem_addressed.mp hmsg
      exact ⟨h, i, [], rfl, ⟨hserial, hbounded, hsent, hemitted, htopic⟩, hreceive⟩

/-- A later step gives out higher serial numbers. -/
theorem PublishedBy.lt_of_later {pre mid : List (Stamped T (Label ν τ μ ε))}
    {a b : Stamped T (Label ν τ μ ε)} {n : ν} {t : τ} {p q : Packet T μ}
    (hp : N.PublishedBy pre a n t p) (hq : N.PublishedBy (pre ++ a :: mid) b n t q) :
    p.serial < q.serial := by
  have hle := N.count_le_after (pre ++ [a]) mid n t
  rw [List.append_assoc, List.singleton_append] at hle
  exact Nat.lt_of_lt_of_le (Nat.lt_of_lt_of_le hp.high hle) hq.low

/-- **Serial numbers tell the order of publication.** -/
theorem PublishedBy.later_or_same {pre pre' post post' : List (Stamped T (Label ν τ μ ε))}
    {a a' : Stamped T (Label ν τ μ ε)} {n : ν} {t : τ} {p q : Packet T μ}
    (hp : N.PublishedBy pre a n t p) (hq : N.PublishedBy pre' a' n t q)
    (hsplit : pre ++ a :: post = pre' ++ a' :: post') (hle : p.serial ≤ q.serial) :
    (pre = pre' ∧ a = a') ∨ ∃ mid, pre' = pre ++ a :: mid ∧ post = mid ++ a' :: post' := by
  rcases List.append_eq_append_iff.mp hsplit with ⟨as, hpre, hpost⟩ | ⟨as, hpre, hpost⟩
  · cases as with
    | nil => exact Or.inl ⟨by simpa using hpre.symm, (List.cons.inj hpost).1⟩
    | cons b as =>
      obtain ⟨rfl, htail⟩ := List.cons.inj hpost
      exact Or.inr ⟨as, hpre, htail⟩
  · cases as with
    | nil => exact Or.inl ⟨by simpa using hpre, (List.cons.inj hpost).1.symm⟩
    | cons b as =>
      -- the other step would be the earlier one
      obtain ⟨rfl, -⟩ := List.cons.inj hpost
      subst hpre
      exact absurd hle (Nat.not_le.mpr (hq.lt_of_later N hp))

/-- A packet is published once. -/
theorem PublishedBy.unique {pre pre' post post' : List (Stamped T (Label ν τ μ ε))}
    {a a' : Stamped T (Label ν τ μ ε)} {n : ν} {t : τ} {p : Packet T μ}
    (hp : N.PublishedBy pre a n t p) (hp' : N.PublishedBy pre' a' n t p)
    (hsplit : pre ++ a :: post = pre' ++ a' :: post') : pre = pre' ∧ a = a' := by
  rcases hp.later_or_same N hp' hsplit (Nat.le_refl _) with hsame | ⟨mid, rfl, -⟩
  · exact hsame
  · exact absurd (hp.lt_of_later N hp') (Nat.lt_irrefl _)

/-- What `exists_published` says about the message alone. -/
theorem packet_emitted {h : List (Stamped T (Label ν τ μ ε))} {n : ν} {t : τ} {p : Packet T μ}
    (hp : p ∈ ((N.machine.after h).link n t).seen ++ ((N.machine.after h).link n t).pending) :
    ∃ pre i post, h = pre ++ i :: post ∧ p.sentAt = i.now ∧
      p.msg ∈ N.emitted (N.machine.after pre) i ∧ N.topic p.msg = t ∧
      (N.receive n p.msg).isSome := by
  obtain ⟨pre, a, post, hsplit, hpublished, hreceive⟩ := N.exists_published hp
  exact ⟨pre, a, post, hsplit, hpublished.sentAt, hpublished.emitted, hpublished.topic, hreceive⟩

/-- **Where a message callback comes from.** An event that no label triggers by itself was fired by
the delivery of a packet, which an earlier step had published. -/
theorem exists_emitted {h : List (Stamped T (Label ν τ μ ε))} {x : Stamped T ε}
    (hx : x ∈ N.events h) (hacts : ¬N.acts x.event) :
    ∃ pre j post n t k p l, h = pre ++ j :: post ∧ j.now = x.now ∧ j.event = .deliver n t k ∧
      ((N.machine.after pre).link n t).take? k = some (p, l) ∧ N.topic p.msg = t ∧
      N.receive n p.msg = some x.event ∧
      ∃ pre' a post', pre = pre' ++ a :: post' ∧ p.sentAt = a.now ∧
        p.msg ∈ N.emitted (N.machine.after pre') a := by
  obtain ⟨pre, j, post, hsplit, hnow, hfired, -⟩ := N.exists_fired hx
  rcases N.fired_cases hfired with ⟨-, hact⟩ | ⟨n, t, k, p, l, hlabel, htake, hreceive⟩
  · exact absurd hact hacts
  · obtain ⟨pre', a, post', hpre, hsent, hemitted, htopic, -⟩ :=
      N.packet_emitted (List.mem_append_right _ (Link.take?_mem htake))
    exact ⟨pre, j, post, n, t, k, p, l, hsplit, hnow, hlabel, htake, htopic, hreceive, pre', a, post',
      hpre, hsent, hemitted⟩

/-- **A window of serial numbers.** If every message published on a topic during `mid` has a
property, then so does, however the run goes on, every packet of the topic whose serial number was
given out during `mid`. -/
theorem packet_window {P : μ → Prop} {pre mid : List (Stamped T (Label ν τ μ ε))} {n : ν} {t : τ}
    (hmid : ∀ m₁ i m₂, mid = m₁ ++ i :: m₂ →
      ∀ m ∈ N.emitted (N.machine.after (pre ++ m₁)) i, N.topic m = t → P m)
    (post : List (Stamped T (Label ν τ μ ε))) {p : Packet T μ}
    (hp : p ∈ ((N.machine.after (pre ++ mid ++ post)).link n t).seen ++
      ((N.machine.after (pre ++ mid ++ post)).link n t).pending)
    (hlow : ((N.machine.after pre).link n t).count ≤ p.serial)
    (hhigh : p.serial < ((N.machine.after (pre ++ mid)).link n t).count) : P p.msg := by
  induction post using List.reverseRecOn with
  | append_singleton post i ih =>
    rw [← List.append_assoc, Machine.after_concat] at hp
    rcases N.packet_next hp with hp | ⟨hserial, -, -⟩
    · exact ih hp
    · -- a packet published after the window has a higher serial number
      have hcount := N.count_le_after (pre ++ mid) post n t
      omega
  | nil =>
    -- inside the window the run is taken back step by step; the bound from above is not needed
    rw [List.append_nil] at hp
    clear hhigh
    induction mid using List.reverseRecOn with
    | nil =>
      -- before the window no packet had a serial number from it
      rw [List.append_nil] at hp
      have hbounded := ((N.machine.after pre).link n t).bounded p hp
      omega
    | append_singleton mid i ih =>
      rw [← List.append_assoc, Machine.after_concat] at hp
      rcases N.packet_next hp with hp | ⟨-, -, hmsg⟩
      · exact ih (fun m₁ j m₂ hsplit => hmid m₁ j (m₂ ++ [i]) (by simp [hsplit])) hp
      · obtain ⟨hemitted, htopic, -⟩ := N.mem_addressed.mp hmsg
        exact hmid mid i [] rfl _ hemitted htopic

/-- **The oldest packet in flight can be delivered**, and it triggers its subscriber's callback. -/
theorem fired_deliver_zero {h : List (Stamped T (Label ν τ μ ε))} {n : ν} {t : τ} {p : Packet T μ}
    {ps : List (Packet T μ)} (hpending : ((N.machine.after h).link n t).pending = p :: ps) :
    N.topic p.msg = t ∧ ∃ e l, ((N.machine.after h).link n t).take? 0 = some (p, l) ∧
      l.pending = ps ∧ N.receive n p.msg = some e ∧
      N.fired (N.machine.after h) (.deliver n t 0) = some e := by
  have hp : p ∈ ((N.machine.after h).link n t).pending := hpending ▸ List.mem_cons_self
  obtain ⟨-, -, -, -, -, -, htopic, hsome⟩ := N.packet_emitted (List.mem_append_right _ hp)
  obtain ⟨e, he⟩ := Option.isSome_iff_exists.mp hsome
  obtain ⟨q, l, htake⟩ := Link.exists_take?_zero (List.ne_nil_of_mem hp)
  obtain ⟨hq, -⟩ := Link.take?_eq_some_iff.mp htake
  obtain rfl : p = q := by simpa [hpending] using hq
  refine ⟨htopic, e, l, htake, ?_, he, ?_⟩
  · rw [Link.take?_pending htake, hpending]
    rfl
  · rw [fired, htake, Option.bind_some, he]

/-- No delivery of the run overtakes. -/
def Fifo (h : List (Stamped T (Label ν τ μ ε))) : Prop := ∀ i ∈ h, i.event.InOrder

/-- No delivery of the run on the link to `n` on `t` overtakes. -/
def FifoOn (n : ν) (t : τ) (h : List (Stamped T (Label ν τ μ ε))) : Prop :=
  ∀ i ∈ h, ∀ k, i.event = .deliver n t k → k = 0

omit [DecidableEq ν] [DecidableEq τ] in
/-- A FIFO run is FIFO on every link. -/
theorem Fifo.on {h : List (Stamped T (Label ν τ μ ε))} (hfifo : Fifo h) (n : ν) (t : τ) :
    FifoOn n t h := by
  intro i hi k hl
  have hi := hfifo i hi
  rw [hl] at hi
  exact hi

/-- **A link on which no delivery overtakes is in order.** -/
theorem inOrder {h : List (Stamped T (Label ν τ μ ε))} {n : ν} {t : τ} (hfifo : FifoOn n t h) :
    ((N.machine.after h).link n t).InOrder := by
  induction h using List.reverseRecOn with
  | nil => exact Link.inOrder_empty
  | append_singleton h i ih =>
    have hprev := ih fun j hj => hfifo j (List.mem_append_left _ hj)
    rw [Machine.after_concat, next_link]
    refine Link.InOrder.pushAll ?_ _ _
    rcases relink_cases (N.machine.after h) i.event n t with hr | ⟨k, -, hr⟩ |
      ⟨k, p, l', hl, htake, hr⟩
    · rwa [hr]
    · rw [hr]; exact hprev.drop k
    · -- the delivery picked the oldest packet
      rw [hr]
      obtain rfl : k = 0 := hfifo i (by simp) k hl
      exact hprev.take?_zero htake

/-- On a FIFO link, a subscriber that saw a packet from a window of serial numbers and none from
beyond it saw one from the window last. -/
theorem last_seen_of_window {h : List (Stamped T (Label ν τ μ ε))} {n : ν} {t : τ}
    (hfifo : FifoOn n t h) {low high : ℕ}
    (hseen : ∃ p ∈ ((N.machine.after h).link n t).seen, low ≤ p.serial)
    (hbeyond : ∀ p ∈ ((N.machine.after h).link n t).seen, p.serial < high) :
    ∃ q, ((N.machine.after h).link n t).seen.getLast? = some q ∧ low ≤ q.serial ∧
      q.serial < high := by
  obtain ⟨p, hp, hlow⟩ := hseen
  obtain ⟨q, hq⟩ : ∃ q, ((N.machine.after h).link n t).seen.getLast? = some q :=
    ⟨_, List.getLast?_eq_some_getLast (List.ne_nil_of_mem hp)⟩
  have hle : p.serial ≤ q.serial := (N.inOrder hfifo).le_last hp hq
  exact ⟨q, hq, Nat.le_trans hlow hle, hbeyond q (List.mem_of_getLast? hq)⟩

/-- **A register fed by one topic.** Let `val` pick the events that are messages of topic `t`
delivered to `n`, with what is stored of them. Then the latest such event of the run is the last
packet seen on that link. -/
theorem latest_seen {α : Type*} (n : ν) (t : τ) (val : ε → Option α) (f : μ → α)
    (hact : ∀ e, N.acts e → val e = none)
    (hrecv : ∀ n' m e, N.receive n' m = some e →
      val e = if n' = n ∧ N.topic m = t then some (f m) else none)
    (h : List (Stamped T (Label ν τ μ ε))) :
    latest (fun x => val x.event) (N.events h) =
      ((N.machine.after h).link n t).seen.getLast?.map fun p => f p.msg := by
  induction h using List.reverseRecOn with
  | nil => rfl
  | append_singleton h i ih =>
    rw [events_concat, Machine.after_concat, next_link, Link.pushAll_seen]
    cases hl : i.event with
    | act e =>
      by_cases he : N.acts e
      · simp [fired, he, hact e he, ih, relink]
      · simp [fired, he, ih, relink]
    | inject m => simp [fired, ih, relink]
    | drop n' t' k =>
      by_cases hnt : n = n' ∧ t = t'
      · obtain ⟨rfl, rfl⟩ := hnt
        simp [fired, ih, relink]
      · simp [fired, ih, relink, setLink_ne _ _ hnt]
    | deliver n' t' k =>
      cases htake : ((N.machine.after h).link n' t').take? k with
      | none => simp [fired, htake, ih, relink]
      | some pl =>
        obtain ⟨p, l'⟩ := pl
        obtain ⟨-, -, -, -, -, -, hp, hsome⟩ :=
          N.packet_emitted (List.mem_append_right _ (Link.take?_mem htake))
        obtain ⟨e, he⟩ := Option.isSome_iff_exists.mp hsome
        -- handed over on this very link, or on another one, which `val` does not pick
        by_cases hnt : n = n' ∧ t = t'
        · obtain ⟨rfl, rfl⟩ := hnt
          have hval : val e = some (f p.msg) := by rw [hrecv _ _ _ he, if_pos ⟨rfl, hp⟩]
          simp [fired, htake, he, hval, relink, Link.take?_seen htake]
        · have hval : val e = none := by
            rw [hrecv _ _ _ he, if_neg]
            rintro ⟨rfl, rfl⟩
            exact hnt ⟨rfl, hp⟩
          simp [fired, htake, he, hval, ih, relink, setLink_ne _ _ hnt]

end Network

end Reactive
