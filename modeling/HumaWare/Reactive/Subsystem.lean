import HumaWare.Reactive.Network
import Mathlib.Logic.Function.Basic

/-! # A network inside a larger one

Some nodes of a large network, seen by themselves, are a network again, in which the other nodes are
parties outside: what those publish comes as injections. `Subsystem N B` says how the small network
`N` lies in the large one `B`, and `Subsystem.view` turns a run of `B` into the run of `N` that its
nodes see.

* **`Subsystem.agrees_view`** — along every run of `B`, the share of `N` in the large state is the
  state of `N` after the view;
* **`Subsystem.view_concat_of_fired`** — a callback of the small network is one step of the view;
* **`Subsystem.events_view`** — the events of the view are those of the run that are callbacks of the
  small network.

So an invariant of every run of the open network `N` is one of every run of `B`. -/

namespace Reactive

/-! ## Links with other messages -/

namespace Link

variable {T μ μ' : Type*}

/-- The packet with another message. -/
def mapPacket (f : μ → μ') (p : Packet T μ) : Packet T μ' := ⟨p.serial, p.sentAt, f p.msg⟩

/-- The link with other messages. -/
def map (f : μ → μ') (l : Link T μ) : Link T μ' where
  count := l.count
  seen := l.seen.map (mapPacket f)
  pending := l.pending.map (mapPacket f)
  bounded := by
    intro p hp
    rw [← List.map_append, List.mem_map] at hp
    obtain ⟨q, hq, rfl⟩ := hp
    exact l.bounded q hq
  ascending := List.pairwise_map.mpr l.ascending

variable (f : μ → μ')

/-- Renaming messages does not change the count. -/
@[simp] theorem map_count (l : Link T μ) : (l.map f).count = l.count := rfl

/-- What was seen is renamed. -/
@[simp] theorem map_seen (l : Link T μ) : (l.map f).seen = l.seen.map (mapPacket f) := rfl

/-- What is in flight is renamed. -/
@[simp] theorem map_pending (l : Link T μ) : (l.map f).pending = l.pending.map (mapPacket f) := rfl

/-- Renaming commutes with pushes. -/
theorem map_pushAll (now : T) (l : Link T μ) (ms : List μ) :
    (l.pushAll now ms).map f = (l.map f).pushAll now (ms.map f) := by
  induction ms generalizing l with
  | nil => rfl
  | cons m ms ih =>
    have hpush : (l.push now m).map f = (l.map f).push now (f m) :=
      ext_packets rfl rfl (by simp [mapPacket])
    rw [pushAll_cons, ih, hpush, List.map_cons, pushAll_cons]

/-- Renaming commutes with a removal. -/
theorem pending_eraseIdx_map (l : Link T μ) (k : ℕ) :
    (l.pending.eraseIdx k).map (mapPacket f) = (l.map f).pending.eraseIdx k := by
  rw [map_pending, List.eraseIdx_eq_take_drop_succ, List.eraseIdx_eq_take_drop_succ,
    List.map_append, List.map_take, List.map_drop]

/-- Renaming commutes with a loss. -/
theorem map_drop (l : Link T μ) (k : ℕ) : (l.drop k).map f = (l.map f).drop k :=
  ext_packets rfl rfl (pending_eraseIdx_map f l k)

/-- Handing a packet over, on the link with other messages. -/
theorem take?_map (l : Link T μ) (k : ℕ) :
    (l.map f).take? k = (l.take? k).map fun pl => (mapPacket f pl.1, pl.2.map f) := by
  cases htake : l.take? k with
  | none =>
    have hnone : l.pending[k]? = none := by
      by_contra hsome
      obtain ⟨p, hp⟩ := Option.ne_none_iff_exists'.mp hsome
      have hsome' := take?_eq_some_iff.mpr ⟨hp, rfl⟩
      rw [htake] at hsome'
      cases hsome'
    rw [Option.map_none]
    by_contra hsome
    obtain ⟨⟨p, l'⟩, hp⟩ := Option.ne_none_iff_exists'.mp hsome
    obtain ⟨hp, -⟩ := take?_eq_some_iff.mp hp
    rw [map_pending, List.getElem?_map, hnone] at hp
    cases hp
  | some pl =>
    obtain ⟨p, l'⟩ := pl
    obtain ⟨hp, rfl⟩ := take?_eq_some_iff.mp htake
    have hp' : (l.map f).pending[k]? = some (mapPacket f p) := by
      rw [map_pending, List.getElem?_map, hp]
      rfl
    rw [Option.map_some]
    refine take?_eq_some_iff.mpr ⟨hp', ext_packets rfl ?_ ?_⟩
    · simp [handOver]
    · exact pending_eraseIdx_map f l k

end Link

/-! ## Subsystems -/

variable {T ν τ μ ε σ ο ν' τ' μ' ε' σ' ο' : Type*}

/-- How the small network `N` lies in the large network `B`. -/
structure Subsystem (N : Network T ν τ μ ε σ ο) (B : Network T ν' τ' μ' ε' σ' ο') where
  node : ν → ν'
  node? : ν' → Option ν
  node_inv : Function.IsPartialInv node node?
  top : τ → τ'
  top? : τ' → Option τ
  top_inv : Function.IsPartialInv top top?
  msg : μ → μ'
  msg? : μ' → Option μ
  msg_inv : Function.IsPartialInv msg msg?
  event : ε → ε'
  event? : ε' → Option ε
  event_inv : Function.IsPartialInv event event?
  /-- What of the large state belongs to the small network. -/
  share : σ' → σ
  topic_msg : ∀ m, B.topic (msg m) = top (N.topic m)
  /-- The nodes listen to the messages of the small network, and to no others. -/
  receive_node : ∀ n m', B.receive (node n) m' = ((msg? m').bind (N.receive n)).map event
  /-- The other nodes have other callbacks. -/
  receive_other : ∀ n' m' e, node? n' = none → B.receive n' m' ≠ some (event e)
  acts_event : ∀ e, B.acts (event e) = N.acts e
  share_init : share B.nodes.init = N.nodes.init
  share_next : ∀ s now e,
    share (B.nodes.next s ⟨now, event e⟩) = N.nodes.next (share s) ⟨now, e⟩
  share_other : ∀ s now e', event? e' = none → share (B.nodes.next s ⟨now, e'⟩) = share s
  emits_event : ∀ s now e, (B.emits (B.nodes.out s ⟨now, event e⟩)).filterMap msg? =
    N.emits (N.nodes.out (share s) ⟨now, e⟩)
  /-- The other nodes publish on open topics only. -/
  opens_other : ∀ s now e' m, event? e' = none → msg m ∈ B.emits (B.nodes.out s ⟨now, e'⟩) →
    N.opens (N.topic m)
  opens_msg : ∀ m, B.opens (B.topic (msg m)) → N.opens (N.topic m)

namespace Subsystem

variable {N : Network T ν τ μ ε σ ο} {B : Network T ν' τ' μ' ε' σ' ο'} (S : Subsystem N B)

/-- A node of the part is found in the whole. -/
@[simp] theorem node?_node (n : ν) : S.node? (S.node n) = some n := S.node_inv.eq n

/-- So is a topic. -/
@[simp] theorem top?_top (t : τ) : S.top? (S.top t) = some t := S.top_inv.eq t

/-- So is a message. -/
@[simp] theorem msg?_msg (m : μ) : S.msg? (S.msg m) = some m := S.msg_inv.eq m

/-- So is an event. -/
@[simp] theorem event?_event (e : ε) : S.event? (S.event e) = some e := S.event_inv.eq e

/-- A label of the large network as one of the small network: a callback of its nodes, or what
happens on one of its links. -/
def label? : Label ν' τ' μ' ε' → Option (Label ν τ μ ε)
  | .act e' => (S.event? e').map .act
  | .deliver n' t' k => (S.node? n').bind fun n => (S.top? t').map fun t => .deliver n t k
  | .drop n' t' k => (S.node? n').bind fun n => (S.top? t').map fun t => .drop n t k
  | .inject _ => none

/-- The steps of the small network that one step of the large network is: one with the same label,
or the injections of what is published elsewhere. -/
def feed (s : NetState T ν' τ' μ' σ') (i : Stamped T (Label ν' τ' μ' ε')) :
    List (Stamped T (Label ν τ μ ε)) :=
  match S.label? i.event with
  | some l => [⟨i.now, l⟩]
  | none => ((B.emitted s i).filterMap S.msg?).map fun m => ⟨i.now, .inject m⟩

/-- What comes to be a label of the small network. -/
theorem label?_cases {l' : Label ν' τ' μ' ε'} {l : Label ν τ μ ε} (hl : S.label? l' = some l) :
    (∃ e, l' = .act (S.event e) ∧ l = .act e) ∨
      (∃ n t k, l' = .deliver (S.node n) (S.top t) k ∧ l = .deliver n t k) ∨
      ∃ n t k, l' = .drop (S.node n) (S.top t) k ∧ l = .drop n t k := by
  cases l' with
  | act e' =>
    obtain ⟨e, he, rfl⟩ := Option.map_eq_some_iff.mp hl
    obtain rfl := (S.event_inv e e').mp he
    exact Or.inl ⟨e, rfl, rfl⟩
  | deliver n' t' k =>
    obtain ⟨n, hn, hl⟩ := Option.bind_eq_some_iff.mp hl
    obtain ⟨t, ht, rfl⟩ := Option.map_eq_some_iff.mp hl
    obtain rfl := (S.node_inv n n').mp hn
    obtain rfl := (S.top_inv t t').mp ht
    exact Or.inr (Or.inl ⟨n, t, k, rfl, rfl⟩)
  | drop n' t' k =>
    obtain ⟨n, hn, hl⟩ := Option.bind_eq_some_iff.mp hl
    obtain ⟨t, ht, rfl⟩ := Option.map_eq_some_iff.mp hl
    obtain rfl := (S.node_inv n n').mp hn
    obtain rfl := (S.top_inv t t').mp ht
    exact Or.inr (Or.inr ⟨n, t, k, rfl, rfl⟩)
  | inject m' => cases hl

/-! ## One step -/

/-- The state of the small network and its share of the large one, on its nodes and its links. -/
structure Agrees (s : NetState T ν τ μ σ) (s' : NetState T ν' τ' μ' σ') : Prop where
  nodes : S.share s'.nodes = s.nodes
  link : ∀ n t, s'.link (S.node n) (S.top t) = (s.link n t).map S.msg

/-- The small network fires what the large one does. -/
theorem fired_of_label? {s : NetState T ν τ μ σ} {s' : NetState T ν' τ' μ' σ'}
    (hagrees : S.Agrees s s') {l' : Label ν' τ' μ' ε'} {l : Label ν τ μ ε}
    (hl : S.label? l' = some l) : B.fired s' l' = (N.fired s l).map S.event := by
  rcases S.label?_cases hl with ⟨e, rfl, rfl⟩ | ⟨n, t, k, rfl, rfl⟩ | ⟨n, t, k, rfl, rfl⟩
  · rw [Network.fired, Network.fired, S.acts_event]
    split <;> rfl
  · rw [Network.fired, Network.fired, hagrees.link, Link.take?_map]
    cases (s.link n t).take? k with
    | none => rfl
    | some pl =>
      rw [Option.map_some, Option.bind_some, Option.bind_some, S.receive_node]
      show ((S.msg? (S.msg pl.1.msg)).bind (N.receive n)).map S.event = _
      rw [msg?_msg, Option.bind_some]
  · rfl

/-- What the small network publishes with a label of its own. -/
theorem emitted_of_label? {s : NetState T ν τ μ σ} {s' : NetState T ν' τ' μ' σ'}
    (hagrees : S.Agrees s s') {i : Stamped T (Label ν' τ' μ' ε')} {l : Label ν τ μ ε}
    (hl : S.label? i.event = some l) :
    (B.emitted s' i).filterMap S.msg? = N.emitted s ⟨i.now, l⟩ := by
  have hfired := S.fired_of_label? hagrees hl
  obtain ⟨now, l'⟩ := i
  cases he : N.fired s l with
  | some e =>
    rw [he, Option.map_some] at hfired
    have hbig : B.emitted s' ⟨now, l'⟩ = B.emits (B.nodes.out s'.nodes ⟨now, S.event e⟩) := by
      simp only [Network.emitted, hfired]
    have hsmall : N.emitted s ⟨now, l⟩ = N.emits (N.nodes.out s.nodes ⟨now, e⟩) := by
      simp only [Network.emitted, he]
    rw [hbig, hsmall, S.emits_event, hagrees.nodes]
  | none =>
    rw [he, Option.map_none] at hfired
    rcases S.label?_cases hl with ⟨e, rfl, rfl⟩ | ⟨n, t, k, rfl, rfl⟩ | ⟨n, t, k, rfl, rfl⟩ <;>
      simp [Network.emitted, hfired, he]

variable [DecidableEq τ']

/-- The messages that travel on a link of the small network. -/
theorem addressed_msg [DecidableEq τ] (n : ν) (t : τ) (ms' : List μ') :
    B.addressed (S.node n) (S.top t) ms' = (N.addressed n t (ms'.filterMap S.msg?)).map S.msg := by
  induction ms' with
  | nil => rfl
  | cons m' ms' ih =>
    rw [Network.addressed] at ih ⊢
    rw [List.filter_cons, ih, S.receive_node]
    cases hm : S.msg? m' with
    | none => simp [hm]
    | some m =>
      obtain rfl := (S.msg_inv m m').mp hm
      rw [List.filterMap_cons_some hm, Network.addressed, Network.addressed, List.filter_cons]
      simp only [S.topic_msg, Option.bind_some, Option.isSome_map, S.top_inv.injective.eq_iff]
      split <;> rfl

variable [DecidableEq ν']

/-- The links of the small network, after a packet was handed over or lost. -/
theorem relink_of_label? [DecidableEq ν] [DecidableEq τ] {s : NetState T ν τ μ σ}
    {s' : NetState T ν' τ' μ' σ'} (hagrees : S.Agrees s s') {l' : Label ν' τ' μ' ε'}
    {l : Label ν τ μ ε} (hl : S.label? l' = some l) (n : ν) (t : τ) :
    Network.relink s' l' (S.node n) (S.top t) = (Network.relink s l n t).map S.msg := by
  have hlink : ∀ n₀ t₀ (l₀ : Link T μ),
      Network.setLink s'.link (S.node n₀) (S.top t₀) (l₀.map S.msg) (S.node n) (S.top t) =
        (Network.setLink s.link n₀ t₀ l₀ n t).map S.msg := by
    intro n₀ t₀ l₀
    simp only [Network.setLink, S.node_inv.injective.eq_iff, S.top_inv.injective.eq_iff]
    split
    · rfl
    · exact hagrees.link n t
  rcases S.label?_cases hl with ⟨e, rfl, rfl⟩ | ⟨n₀, t₀, k, rfl, rfl⟩ | ⟨n₀, t₀, k, rfl, rfl⟩
  · exact hagrees.link n t
  · rw [Network.relink, Network.relink, hagrees.link, Link.take?_map]
    cases (s.link n₀ t₀).take? k with
    | none => exact hagrees.link n t
    | some pl => exact hlink n₀ t₀ pl.2
  · rw [Network.relink, Network.relink, hagrees.link, ← Link.map_drop]
    exact hlink n₀ t₀ _

/-! ## Runs -/

/-- The large network, answering with the steps of the small one. -/
def viewer : Machine (NetState T ν' τ' μ' σ') (Stamped T (Label ν' τ' μ' ε'))
    (List (Stamped T (Label ν τ μ ε))) where
  init := B.machine.init
  step s i := (B.machine.next s i, S.feed s i)

/-- **The run of the small network** that its nodes see along a run of the large one. -/
def view (h : List (Stamped T (Label ν' τ' μ' ε'))) : List (Stamped T (Label ν τ μ ε)) :=
  (S.viewer.outputs h).flatten

/-- The view of a longer run appends what the part sees of the last step. -/
theorem view_concat (h : List (Stamped T (Label ν' τ' μ' ε'))) (i : Stamped T (Label ν' τ' μ' ε')) :
    S.view (h ++ [i]) = S.view h ++ S.feed (B.machine.after h) i := by
  rw [view, Machine.outputs_concat, List.flatten_append, List.flatten_singleton]
  rfl

/-- A callback of another label is one of another node. -/
theorem event?_of_fired {h : List (Stamped T (Label ν' τ' μ' ε'))} {l' : Label ν' τ' μ' ε'}
    (hl : S.label? l' = none) {e' : ε'} (hfired : B.fired (B.machine.after h) l' = some e') :
    S.event? e' = none := by
  rcases B.fired_cases hfired with ⟨rfl, -⟩ | ⟨n', t', k, p, l, rfl, htake, hreceive⟩
  · exact Option.map_eq_none_iff.mp hl
  · by_contra hsome
    obtain ⟨e, he⟩ := Option.ne_none_iff_exists'.mp hsome
    obtain rfl := (S.event_inv e e').mp he
    cases hn : S.node? n' with
    | none => exact S.receive_other n' p.msg e hn hreceive
    | some n =>
      -- a node of the small network listens to its messages only, and they travel on its links
      obtain rfl := (S.node_inv n n').mp hn
      obtain ⟨-, -, -, -, -, -, htopic, -⟩ :=
        B.packet_emitted (List.mem_append_right _ (Link.take?_mem htake))
      rw [S.receive_node] at hreceive
      obtain ⟨e₀, hbind, -⟩ := Option.map_eq_some_iff.mp hreceive
      obtain ⟨m, hm, -⟩ := Option.bind_eq_some_iff.mp hbind
      rw [← (S.msg_inv m p.msg).mp hm, S.topic_msg] at htopic
      subst htopic
      simp [label?] at hl

/-- What another label publishes for the small network, it publishes on open topics. -/
theorem opens_of_emitted {h : List (Stamped T (Label ν' τ' μ' ε'))}
    {i : Stamped T (Label ν' τ' μ' ε')} (hl : S.label? i.event = none) {m : μ}
    (hm : S.msg m ∈ B.emitted (B.machine.after h) i) : N.opens (N.topic m) := by
  rcases B.emitted_cases hm with ⟨e', hfired, hm⟩ | ⟨-, hopen⟩
  · exact S.opens_other _ _ e' m (S.event?_of_fired hl hfired) hm
  · exact S.opens_msg m hopen

/-- Another label hands over and loses nothing of the small network's. -/
theorem relink_of_label?_none {s' : NetState T ν' τ' μ' σ'} {l' : Label ν' τ' μ' ε'}
    (hl : S.label? l' = none) (n : ν) (t : τ) :
    Network.relink s' l' (S.node n) (S.top t) = s'.link (S.node n) (S.top t) := by
  rcases Network.relink_cases s' l' (S.node n) (S.top t) with h | ⟨k, rfl, -⟩ | ⟨k, -, -, rfl, -, -⟩
  · exact h
  · simp [label?] at hl
  · simp [label?] at hl

variable [DecidableEq ν] [DecidableEq τ]

/-- Injections on open topics publish their messages, in order, and do nothing else. -/
theorem after_injections (now : T) {ms : List μ} (hopen : ∀ m ∈ ms, N.opens (N.topic m))
    (s : NetState T ν τ μ σ) :
    ((ms.map fun m => ⟨now, .inject m⟩).foldl N.machine.next s).nodes = s.nodes ∧
      ∀ n t, ((ms.map fun m => ⟨now, .inject m⟩).foldl N.machine.next s).link n t =
        (s.link n t).pushAll now (N.addressed n t ms) := by
  induction ms generalizing s with
  | nil => exact ⟨rfl, fun n t => rfl⟩
  | cons m ms ih =>
    obtain ⟨hnodes, hlink⟩ := ih (fun m' hm' => hopen m' (List.mem_cons_of_mem _ hm'))
      (N.machine.next s ⟨now, .inject m⟩)
    refine ⟨hnodes, fun n t => (hlink n t).trans ?_⟩
    have hm : N.emitted s ⟨now, .inject m⟩ = [m] := by
      simp only [Network.emitted, Network.fired]
      exact if_pos (hopen m List.mem_cons_self)
    rw [Network.next_link, hm]
    simp only [Network.addressed, List.filter_cons, List.filter_nil]
    split <;> rfl

/-- **One step of the large network** is the steps of the small one that it feeds to it. -/
theorem agrees_next {h : List (Stamped T (Label ν' τ' μ' ε'))} {s : NetState T ν τ μ σ}
    (hagrees : S.Agrees s (B.machine.after h)) (i : Stamped T (Label ν' τ' μ' ε')) :
    S.Agrees ((S.feed (B.machine.after h) i).foldl N.machine.next s)
      (B.machine.next (B.machine.after h) i) := by
  rw [feed]
  cases hl : S.label? i.event with
  | some l =>
    have hfired := S.fired_of_label? hagrees hl
    constructor
    · rw [Network.next_nodes, hfired]
      show _ = (N.machine.next s ⟨i.now, l⟩).nodes
      rw [Network.next_nodes]
      cases N.fired s l with
      | none => exact hagrees.nodes
      | some e =>
        rw [← hagrees.nodes]
        exact S.share_next _ _ _
    · intro n t
      show _ = ((N.machine.next s ⟨i.now, l⟩).link n t).map S.msg
      rw [Network.next_link, Network.next_link, S.relink_of_label? hagrees hl, S.addressed_msg,
        S.emitted_of_label? hagrees hl, Link.map_pushAll]
  | none =>
    have hopen : ∀ m ∈ (B.emitted (B.machine.after h) i).filterMap S.msg?,
        N.opens (N.topic m) := by
      intro m hm
      obtain ⟨m', hm', hmsg⟩ := List.mem_filterMap.mp hm
      rw [← (S.msg_inv m m').mp hmsg] at hm'
      exact S.opens_of_emitted hl hm'
    obtain ⟨hnodes, hlink⟩ := after_injections i.now hopen s
    constructor
    · rw [hnodes, ← hagrees.nodes, Network.next_nodes]
      cases hfired : B.fired (B.machine.after h) i.event with
      | none => rfl
      | some e' => exact S.share_other _ _ _ (S.event?_of_fired hl hfired)
    · intro n t
      rw [hlink, Network.next_link, S.relink_of_label?_none hl, S.addressed_msg, hagrees.link,
        Link.map_pushAll]

/-- **The simulation.** The share of the small network in the state after a run is its own state
after the view of the run. -/
theorem agrees_view (h : List (Stamped T (Label ν' τ' μ' ε'))) :
    S.Agrees (N.machine.after (S.view h)) (B.machine.after h) := by
  induction h using List.reverseRecOn with
  | nil => exact ⟨S.share_init, fun n t => rfl⟩
  | append_singleton h i ih =>
    rw [view_concat, Machine.after_append, Machine.after_concat]
    exact S.agrees_next ih i

/-! ## What the view says -/

/-- **A callback of the small network** is one step of the view, which fires it. -/
theorem view_concat_of_fired {h : List (Stamped T (Label ν' τ' μ' ε'))}
    {i : Stamped T (Label ν' τ' μ' ε')} {e : ε}
    (hfired : B.fired (B.machine.after h) i.event = some (S.event e)) :
    ∃ l, S.label? i.event = some l ∧ S.view (h ++ [i]) = S.view h ++ [⟨i.now, l⟩] ∧
      N.fired (N.machine.after (S.view h)) l = some e := by
  cases hl : S.label? i.event with
  | none =>
    have hother := S.event?_of_fired hl hfired
    rw [event?_event] at hother
    cases hother
  | some l =>
    refine ⟨l, rfl, by rw [view_concat, feed, hl], ?_⟩
    have hmap := S.fired_of_label? (S.agrees_view h) hl
    rw [hfired] at hmap
    obtain ⟨e', he', heq⟩ := Option.map_eq_some_iff.mp hmap.symm
    rw [he', S.event_inv.injective heq]

/-- Injections fire nothing. -/
theorem events_injections (h : List (Stamped T (Label ν τ μ ε))) (now : T) (ms : List μ) :
    N.events (h ++ ms.map fun m => ⟨now, .inject m⟩) = N.events h := by
  induction ms using List.reverseRecOn with
  | nil => rw [List.map_nil, List.append_nil]
  | append_singleton ms m ih =>
    rw [List.map_append, ← List.append_assoc, List.map_singleton, N.events_concat, ih]
    exact List.append_nil _

/-- **The events of the view** are those of the run that are callbacks of the small network. -/
theorem events_view (h : List (Stamped T (Label ν' τ' μ' ε'))) :
    N.events (S.view h) =
      (B.events h).filterMap fun x => (S.event? x.event).map fun e => ⟨x.now, e⟩ := by
  induction h using List.reverseRecOn with
  | nil => rfl
  | append_singleton h i ih =>
    rw [B.events_concat, List.filterMap_append, ← ih, view_concat, feed]
    cases hl : S.label? i.event with
    | some l =>
      show N.events (S.view h ++ [⟨i.now, l⟩]) = _
      rw [N.events_concat, S.fired_of_label? (S.agrees_view h) hl]
      cases N.fired (N.machine.after (S.view h)) l <;> simp
    | none =>
      show N.events (S.view h ++ (List.filterMap S.msg? _).map _) = _
      rw [events_injections]
      cases hfired : B.fired (B.machine.after h) i.event with
      | none => simp
      | some e' => simp [S.event?_of_fired hl hfired]

/-- The events of the view, one by one. -/
theorem mem_events_view {h : List (Stamped T (Label ν' τ' μ' ε'))} {x : Stamped T ε}
    (hx : x ∈ N.events (S.view h)) : ⟨x.now, S.event x.event⟩ ∈ B.events h := by
  rw [events_view, List.mem_filterMap] at hx
  obtain ⟨y, hy, hpicked⟩ := hx
  obtain ⟨e, he, rfl⟩ := Option.map_eq_some_iff.mp hpicked
  rw [(S.event_inv e y.event).mp he]
  exact hy

end Subsystem

end Reactive
