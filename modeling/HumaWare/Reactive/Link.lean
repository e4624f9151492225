import Mathlib.Data.List.Basic
import Mathlib.Data.List.Pairwise
import Mathlib.Data.Nat.Notation

/-! # Links: channels that may delay, drop and reorder

A `Link` carries the messages of one topic from its publishers to one subscriber. Publishing appends
a `Packet` to what is in flight; handing one over moves it to what the subscriber has seen; dropping
one forgets it. Every packet keeps the serial number and the clock reading of its publication, so a
statement such as *the subscriber has processed a message published in this window* is one about
serial numbers.

Two facts hold of every link and are therefore fields: serial numbers stay below the number of
messages published so far, and what is in flight is in publication order. A link that always hands
over its oldest packet is *in order* (`Link.InOrder`): whatever was seen was published before
whatever is in flight, and was seen in publication order. -/

namespace Reactive

/-- One published message on its way to one subscriber. -/
structure Packet (T μ : Type*) where
  /-- The position of the message among all those published on the link. -/
  serial : ℕ
  /-- The clock reading at which it was published. -/
  sentAt : T
  /-- The message. -/
  msg : μ
  deriving DecidableEq

/-- The state of a channel from the publishers of a topic to one subscriber. -/
structure Link (T μ : Type*) where
  /-- How many messages were published on the link so far. -/
  count : ℕ
  /-- The packets the subscriber has processed, in the order in which it did. -/
  seen : List (Packet T μ)
  /-- The packets in flight, oldest first. -/
  pending : List (Packet T μ)
  bounded : ∀ p ∈ seen ++ pending, p.serial < count
  ascending : pending.Pairwise fun p q => p.serial < q.serial

namespace Link

variable {T μ : Type*}

/-- Nothing was published yet. -/
def empty : Link T μ := ⟨0, [], [], by simp, List.Pairwise.nil⟩

/-- Links with the same packets are the same. -/
theorem ext_packets {l l' : Link T μ} (hcount : l.count = l'.count) (hseen : l.seen = l'.seen)
    (hpending : l.pending = l'.pending) : l = l' := by
  obtain ⟨count, seen, pending, hbounded, hascending⟩ := l
  obtain ⟨count', seen', pending', hbounded', hascending'⟩ := l'
  obtain rfl : count = count' := hcount
  obtain rfl : seen = seen' := hseen
  obtain rfl : pending = pending' := hpending
  rfl

/-- Publish one message at the clock reading `now`. -/
def push (now : T) (l : Link T μ) (m : μ) : Link T μ where
  count := l.count + 1
  seen := l.seen
  pending := l.pending ++ [⟨l.count, now, m⟩]
  bounded := by
    intro p hp
    rw [← List.append_assoc, List.mem_append, List.mem_singleton] at hp
    rcases hp with hp | rfl
    · exact Nat.lt_succ_of_lt (l.bounded p hp)
    · exact Nat.lt_succ_self _
  ascending := by
    refine List.pairwise_append.mpr ⟨l.ascending, List.pairwise_singleton _ _, ?_⟩
    intro p hp q hq
    rw [List.mem_singleton.mp hq]
    exact l.bounded p (List.mem_append_right _ hp)

/-- Publish several messages at once, in order. -/
def pushAll (now : T) (l : Link T μ) (ms : List μ) : Link T μ := ms.foldl (push now) l

/-- Lose the packet at position `k` of what is in flight. -/
def drop (l : Link T μ) (k : ℕ) : Link T μ where
  count := l.count
  seen := l.seen
  pending := l.pending.eraseIdx k
  bounded := by
    intro p hp
    rcases List.mem_append.mp hp with hp | hp
    · exact l.bounded p (List.mem_append_left _ hp)
    · exact l.bounded p (List.mem_append_right _ ((List.eraseIdx_sublist _ k).subset hp))
  ascending := l.ascending.sublist (List.eraseIdx_sublist _ k)

/-- Hand the packet `p` at position `k` of what is in flight to the subscriber. -/
def handOver (l : Link T μ) (k : ℕ) (p : Packet T μ) (hp : l.pending[k]? = some p) : Link T μ where
  count := l.count
  seen := l.seen ++ [p]
  pending := l.pending.eraseIdx k
  bounded := by
    intro q hq
    rw [List.append_assoc, List.mem_append, List.singleton_append, List.mem_cons] at hq
    rcases hq with hq | rfl | hq
    · exact l.bounded q (List.mem_append_left _ hq)
    · exact l.bounded q (List.mem_append_right _ (List.mem_of_getElem? hp))
    · exact l.bounded q (List.mem_append_right _ ((List.eraseIdx_sublist _ k).subset hq))
  ascending := l.ascending.sublist (List.eraseIdx_sublist _ k)

/-- The packet at position `k` of what is in flight and the link after its hand-over. -/
def take? (l : Link T μ) (k : ℕ) : Option (Packet T μ × Link T μ) :=
  match hp : l.pending[k]? with
  | none => none
  | some p => some (p, l.handOver k p hp)

/-- Nothing was seen on an empty link. -/
@[simp] theorem empty_seen : (empty : Link T μ).seen = [] := rfl

/-- Nothing is in flight on an empty link. -/
@[simp] theorem empty_pending : (empty : Link T μ).pending = [] := rfl

/-- A message pushed is counted. -/
@[simp] theorem push_count (now : T) (l : Link T μ) (m : μ) :
    (l.push now m).count = l.count + 1 := rfl

/-- A message pushed is not seen yet. -/
@[simp] theorem push_seen (now : T) (l : Link T μ) (m : μ) : (l.push now m).seen = l.seen := rfl

/-- A message pushed is in flight behind the others. -/
@[simp] theorem push_pending (now : T) (l : Link T μ) (m : μ) :
    (l.push now m).pending = l.pending ++ [⟨l.count, now, m⟩] := rfl

/-- A loss does not change the count. -/
@[simp] theorem drop_count (l : Link T μ) (k : ℕ) : (l.drop k).count = l.count := rfl

/-- A loss does not change what was seen. -/
@[simp] theorem drop_seen (l : Link T μ) (k : ℕ) : (l.drop k).seen = l.seen := rfl

/-- A packet lost is no longer in flight. -/
@[simp] theorem drop_pending (l : Link T μ) (k : ℕ) :
    (l.drop k).pending = l.pending.eraseIdx k := rfl

/-- Pushing nothing. -/
@[simp] theorem pushAll_nil (now : T) (l : Link T μ) : l.pushAll now [] = l := rfl

/-- Pushing one message after the other. -/
@[simp] theorem pushAll_cons (now : T) (l : Link T μ) (m : μ) (ms : List μ) :
    l.pushAll now (m :: ms) = (l.push now m).pushAll now ms := rfl

/-- Publishing leaves what was seen alone. -/
@[simp] theorem pushAll_seen (now : T) (l : Link T μ) (ms : List μ) :
    (l.pushAll now ms).seen = l.seen := by
  induction ms generalizing l with
  | nil => rfl
  | cons m ms ih => rw [pushAll_cons, ih, push_seen]

/-- Publishing appends to what is in flight and takes nothing away. -/
theorem pending_prefix_pushAll (now : T) (l : Link T μ) (ms : List μ) :
    l.pending <+: (l.pushAll now ms).pending := by
  induction ms generalizing l with
  | nil => exact List.prefix_rfl
  | cons m ms ih =>
    rw [pushAll_cons]
    exact (List.prefix_append l.pending _).trans (ih (l.push now m))

/-- The count does not go back. -/
theorem count_le_pushAll (now : T) (l : Link T μ) (ms : List μ) :
    l.count ≤ (l.pushAll now ms).count := by
  induction ms generalizing l with
  | nil => exact Nat.le_refl _
  | cons m ms ih => exact Nat.le_trans (Nat.le_succ _) (ih (l.push now m))

/-- **What publishing adds.** A packet in flight after publishing `ms` was in flight before, or
carries one of `ms` under a fresh serial number and the clock reading of the publication. -/
theorem mem_pushAll_pending {now : T} {l : Link T μ} {ms : List μ} {p : Packet T μ}
    (hp : p ∈ (l.pushAll now ms).pending) :
    p ∈ l.pending ∨ (l.count ≤ p.serial ∧ p.sentAt = now ∧ p.msg ∈ ms) := by
  induction ms generalizing l with
  | nil => exact Or.inl hp
  | cons m ms ih =>
    rw [pushAll_cons] at hp
    -- by the induction hypothesis it is there after `m`, which took the first fresh number
    rcases ih hp with h | ⟨hs, ht, hm⟩
    · rw [push_pending, List.mem_append, List.mem_singleton] at h
      rcases h with h | rfl
      · exact Or.inl h
      · exact Or.inr ⟨Nat.le_refl _, rfl, List.mem_cons_self⟩
    · exact Or.inr ⟨Nat.le_trans (Nat.le_succ _) hs, ht, List.mem_cons_of_mem _ hm⟩

/-- Every message published is in flight afterwards, under a fresh serial number. -/
theorem exists_mem_pushAll (now : T) (l : Link T μ) {ms : List μ} {m : μ} (hm : m ∈ ms) :
    ∃ p ∈ (l.pushAll now ms).pending, p.msg = m ∧ p.sentAt = now ∧ l.count ≤ p.serial := by
  induction ms generalizing l with
  | nil => exact absurd hm List.not_mem_nil
  | cons m' ms ih =>
    rw [pushAll_cons]
    rcases List.mem_cons.mp hm with rfl | hm
    · refine ⟨⟨l.count, now, m⟩, (pending_prefix_pushAll now _ ms).subset ?_, rfl, rfl, Nat.le_refl _⟩
      rw [push_pending]
      exact List.mem_append_right _ (List.mem_singleton_self _)
    · obtain ⟨p, hp, hmsg, hsent, hserial⟩ := ih (l.push now m') hm
      exact ⟨p, hp, hmsg, hsent, Nat.le_of_succ_le hserial⟩

/-- **What a hand-over does.** -/
theorem take?_eq_some_iff {l l' : Link T μ} {k : ℕ} {p : Packet T μ} :
    l.take? k = some (p, l') ↔ ∃ hp : l.pending[k]? = some p, l' = l.handOver k p hp := by
  unfold take?
  split
  · next hnone => simp [hnone]
  · next q hq =>
    simp only [Option.some.injEq, Prod.mk.injEq, hq]
    constructor
    · rintro ⟨rfl, rfl⟩; exact ⟨rfl, rfl⟩
    · rintro ⟨h, rfl⟩; cases h; exact ⟨rfl, rfl⟩

/-- A packet taken was in flight. -/
theorem take?_mem {l l' : Link T μ} {k : ℕ} {p : Packet T μ} (h : l.take? k = some (p, l')) :
    p ∈ l.pending := by
  obtain ⟨hp, -⟩ := take?_eq_some_iff.mp h
  exact List.mem_of_getElem? hp

/-- Taking a packet does not change the count. -/
theorem take?_count {l l' : Link T μ} {k : ℕ} {p : Packet T μ} (h : l.take? k = some (p, l')) :
    l'.count = l.count := by
  obtain ⟨hp, rfl⟩ := take?_eq_some_iff.mp h; rfl

/-- A packet taken is seen last. -/
theorem take?_seen {l l' : Link T μ} {k : ℕ} {p : Packet T μ} (h : l.take? k = some (p, l')) :
    l'.seen = l.seen ++ [p] := by
  obtain ⟨hp, rfl⟩ := take?_eq_some_iff.mp h; rfl

/-- A packet taken is no longer in flight. -/
theorem take?_pending {l l' : Link T μ} {k : ℕ} {p : Packet T μ} (h : l.take? k = some (p, l')) :
    l'.pending = l.pending.eraseIdx k := by
  obtain ⟨hp, rfl⟩ := take?_eq_some_iff.mp h; rfl

/-- Handing a packet over loses none. -/
theorem subset_take? {l l' : Link T μ} {k : ℕ} {p : Packet T μ} (h : l.take? k = some (p, l')) :
    l.seen ++ l.pending ⊆ l'.seen ++ l'.pending := by
  obtain ⟨hp, -⟩ := take?_eq_some_iff.mp h
  intro q hq
  rw [take?_seen h, take?_pending h, List.append_assoc, List.singleton_append]
  rcases List.mem_append.mp hq with hq | hq
  · exact List.mem_append_left _ hq
  · obtain ⟨i, hi⟩ := List.mem_iff_getElem?.mp hq
    apply List.mem_append_right
    by_cases hik : i = k
    · subst hik
      obtain rfl : p = q := Option.some.inj (hp.symm.trans hi)
      exact List.mem_cons_self
    · exact List.mem_cons_of_mem _ (List.mem_eraseIdx_iff_getElem?.mpr ⟨i, hik, hi⟩)

/-- Handing over the oldest packet is possible as soon as something is in flight. -/
theorem exists_take?_zero {l : Link T μ} (h : l.pending ≠ []) : ∃ p l', l.take? 0 = some (p, l') := by
  obtain ⟨p, ps, hps⟩ := List.exists_cons_of_ne_nil h
  exact ⟨p, _, take?_eq_some_iff.mpr ⟨by simp [hps], rfl⟩⟩

/-- Everything on the link, seen or in flight, is in publication order. -/
def InOrder (l : Link T μ) : Prop := (l.seen ++ l.pending).Pairwise fun p q => p.serial < q.serial

/-- An empty link is in order. -/
theorem inOrder_empty : (empty : Link T μ).InOrder := List.Pairwise.nil

/-- A push keeps the order. -/
theorem InOrder.push {l : Link T μ} (h : l.InOrder) (now : T) (m : μ) : (l.push now m).InOrder := by
  rw [InOrder, push_seen, push_pending, ← List.append_assoc]
  refine List.pairwise_append.mpr ⟨h, List.pairwise_singleton _ _, ?_⟩
  intro p hp q hq
  rw [List.mem_singleton.mp hq]
  exact l.bounded p hp

/-- Pushes keep the order. -/
theorem InOrder.pushAll {l : Link T μ} (h : l.InOrder) (now : T) (ms : List μ) :
    (l.pushAll now ms).InOrder := by
  induction ms generalizing l with
  | nil => exact h
  | cons m ms ih => exact ih (h.push now m)

/-- Losing packets does not disturb the order. -/
theorem InOrder.drop {l : Link T μ} (h : l.InOrder) (k : ℕ) : (l.drop k).InOrder :=
  List.Pairwise.sublist ((List.Sublist.refl _).append (List.eraseIdx_sublist _ k)) h

/-- Handing over the oldest packet keeps a link in order. -/
theorem InOrder.take?_zero {l l' : Link T μ} {p : Packet T μ} (h : l.InOrder)
    (ht : l.take? 0 = some (p, l')) : l'.InOrder := by
  obtain ⟨hp, rfl⟩ := take?_eq_some_iff.mp ht
  cases hl : l.pending with
  | nil => simp [hl] at hp
  | cons q qs =>
    have hq : q = p := by simpa [hl] using hp
    subst hq
    have : (l.seen ++ q :: qs).Pairwise fun p q => p.serial < q.serial := by rw [← hl]; exact h
    simpa [InOrder, handOver, hl] using this

/-- On a link in order, nothing seen was published after the packet seen last. -/
theorem InOrder.le_last {l : Link T μ} (h : l.InOrder) {p q : Packet T μ} (hp : p ∈ l.seen)
    (hq : l.seen.getLast? = some q) : p.serial ≤ q.serial := by
  obtain ⟨init, hinit⟩ := List.getLast?_eq_some_iff.mp hq
  have hseen : (init ++ [q]).Pairwise fun p q => p.serial < q.serial :=
    hinit ▸ (List.pairwise_append.mp h).1
  rw [hinit, List.mem_append, List.mem_singleton] at hp
  rcases hp with hp | rfl
  · exact Nat.le_of_lt ((List.pairwise_append.mp hseen).2.2 p hp q (List.mem_singleton_self q))
  · exact Nat.le_refl _

end Link

end Reactive
