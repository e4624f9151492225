import HumaWare.Reactive.Inbox
import Mathlib.Logic.Relation

/-! # The order of independent steps

Two neighbouring steps of a run are independent when they are at different nodes, what they hand over
or lose is in flight already, and they publish on different topics. In a network whose nodes are
separate they commute: the run in which they are swapped ends in the same state of every node and of
every link, and on the way each node reads the same inputs and outputs the same.

* **`Link.take?_pushAll`**, **`Link.drop_pushAll`** — publishing behind a packet does not touch it;
* **`Callbacks.next_comm`** — two independent steps commute;
* **`Callbacks.Rearranges`** — runs that differ by swaps of independent neighbours;
* **`Callbacks.after_rearranges`** — they agree on every node, on every link and on what each node
  reads and outputs. -/

namespace Reactive

variable {T ν τ μ ε σ ο : Type*}

namespace Link

/-- Publishing behind a packet does not touch it: it can be handed over before or after. -/
theorem take?_pushAll {l l' : Link T μ} {k : ℕ} {p : Packet T μ} (h : l.take? k = some (p, l'))
    (now : T) (ms : List μ) : (l.pushAll now ms).take? k = some (p, l'.pushAll now ms) := by
  induction ms generalizing l l' with
  | nil => exact h
  | cons m ms ih =>
    refine ih ?_
    obtain ⟨hp, rfl⟩ := take?_eq_some_iff.mp h
    have hk : k < l.pending.length := (List.getElem?_eq_some_iff.mp hp).1
    have hp' : (l.push now m).pending[k]? = some p := by
      rw [push_pending, List.getElem?_append_left hk, hp]
    refine take?_eq_some_iff.mpr ⟨hp', ext_packets rfl rfl ?_⟩
    exact (List.eraseIdx_append_of_lt_length hk _).symm

/-- The same for losing it. -/
theorem drop_pushAll {l : Link T μ} {k : ℕ} (hk : k < l.pending.length) (now : T) (ms : List μ) :
    (l.pushAll now ms).drop k = (l.drop k).pushAll now ms := by
  induction ms generalizing l with
  | nil => rfl
  | cons m ms ih =>
    have hk' : k < (l.push now m).pending.length := by
      rw [push_pending, List.length_append]
      exact Nat.lt_add_right _ hk
    rw [pushAll_cons, ih hk', pushAll_cons]
    congr 1
    exact ext_packets rfl rfl (List.eraseIdx_append_of_lt_length hk _)

end Link

/-- What the label hands over or loses is in flight. -/
def NetState.InFlight (s : NetState T ν τ μ σ) : Label ν τ μ ε → Prop
  | .deliver n t k => k < (s.link n t).pending.length
  | .drop n t k => k < (s.link n t).pending.length
  | _ => True

namespace Network

variable [DecidableEq ν] [DecidableEq τ]

/-- What a label hands over or loses, link by link. -/
def relinkOn (l : Label ν τ μ ε) (n : ν) (t : τ) (link : Link T μ) : Link T μ :=
  match l with
  | .deliver n' t' k => if n = n' ∧ t = t' then ((link.take? k).map Prod.snd).getD link else link
  | .drop n' t' k => if n = n' ∧ t = t' then link.drop k else link
  | _ => link

/-- What a label does to a link depends on that link alone. -/
theorem relink_eq_relinkOn (s : NetState T ν τ μ σ) (l : Label ν τ μ ε) (n : ν) (t : τ) :
    relink s l n t = relinkOn l n t (s.link n t) := by
  cases l with
  | act e => rfl
  | inject m => rfl
  | drop n' t' k =>
    by_cases h : n = n' ∧ t = t'
    · obtain ⟨rfl, rfl⟩ := h
      simp [relink, relinkOn]
    · rw [relink, setLink_ne _ _ h, relinkOn, if_neg h]
  | deliver n' t' k =>
    by_cases h : n = n' ∧ t = t'
    · obtain ⟨rfl, rfl⟩ := h
      cases htake : (s.link n t).take? k <;> simp [relink, relinkOn, htake]
    · cases htake : (s.link n' t').take? k <;> simp [relink, relinkOn, htake, setLink, h]

/-- Publishing behind what is in flight does not touch it. -/
theorem relinkOn_pushAll {s : NetState T ν τ μ σ} {l : Label ν τ μ ε} (hflight : s.InFlight l) (n : ν)
    (t : τ) (now : T) (ms : List μ) :
    relinkOn l n t ((s.link n t).pushAll now ms) = (relinkOn l n t (s.link n t)).pushAll now ms := by
  cases l with
  | act e => rfl
  | inject m => rfl
  | drop n' t' k =>
    simp only [relinkOn]
    split
    · next h =>
      obtain ⟨rfl, rfl⟩ := h
      exact Link.drop_pushAll hflight now ms
    · rfl
  | deliver n' t' k =>
    simp only [relinkOn]
    split
    · next h =>
      obtain ⟨rfl, rfl⟩ := h
      have hp : (s.link n t).pending[k]? = some (s.link n t).pending[k] :=
        List.getElem?_eq_getElem hflight
      have htake := Link.take?_eq_some_iff.mpr ⟨hp, rfl⟩
      rw [htake, Link.take?_pushAll htake]
      rfl
    · rfl

end Network

namespace Callbacks

variable {N : Network T ν τ μ ε σ ο} (C : Callbacks N)

/-- Where a label takes place. -/
def site : Label ν τ μ ε → Option ν
  | .act e => some (C.node e)
  | .deliver n _ _ => some n
  | .drop n _ _ => some n
  | .inject _ => none

/-- A callback is fired at its node. -/
theorem site_of_fired {s : NetState T ν τ μ σ} {l : Label ν τ μ ε} {e : ε}
    (h : N.fired s l = some e) : C.site l = some (C.node e) := by
  rcases N.fired_cases h with ⟨rfl, -⟩ | ⟨n, t, k, p, l', rfl, -, hreceive⟩
  · rfl
  · rw [(C.of_receive hreceive).1]
    rfl

/-- **The nodes are separate**: callbacks of different nodes commute, and neither sees what the other
does. -/
structure Separate : Prop where
  next : ∀ s x y, C.node x.event ≠ C.node y.event →
    N.nodes.next (N.nodes.next s x) y = N.nodes.next (N.nodes.next s y) x
  out : ∀ s x y, C.node x.event ≠ C.node y.event → N.nodes.out (N.nodes.next s x) y = N.nodes.out s y

/-- **Two steps are independent** in a state. -/
structure Independent (s : NetState T ν τ μ σ) (i j : Stamped T (Label ν τ μ ε)) : Prop where
  /-- They are at different nodes. -/
  site : ∀ n, C.site i.event = some n → C.site j.event ≠ some n
  /-- What they hand over or lose is in flight. -/
  left : s.InFlight i.event
  right : s.InFlight j.event
  /-- They publish on different topics. -/
  topics : ∀ m ∈ N.emitted s i, ∀ m' ∈ N.emitted s j, N.topic m ≠ N.topic m'

variable {C} {s : NetState T ν τ μ σ} {i j : Stamped T (Label ν τ μ ε)}

/-- Independence does not depend on the order. -/
theorem Independent.symm (h : C.Independent s i j) : C.Independent s j i where
  site n hj hi := h.site n hi hj
  left := h.right
  right := h.left
  topics m hm m' hm' := (h.topics m' hm' m hm).symm

section Commute

variable [DecidableEq ν] [DecidableEq τ]

/-- A label leaves the links of other sites. -/
theorem relinkOn_of_site {l : Label ν τ μ ε} {n : ν} (hsite : C.site l ≠ some n) (t : τ)
    (link : Link T μ) : Network.relinkOn l n t link = link := by
  cases l with
  | act e => rfl
  | inject m => rfl
  | drop n' t' k => exact if_neg fun h => hsite (by rw [h.1]; rfl)
  | deliver n' t' k => exact if_neg fun h => hsite (by rw [h.1]; rfl)

/-- A step at another node fires the same callback. -/
theorem fired_next (h : C.Independent s i j) :
    N.fired (N.machine.next s i) j.event = N.fired s j.event := by
  obtain ⟨now, l⟩ := j
  cases l with
  | act e => rfl
  | drop n t k => rfl
  | inject m => rfl
  | deliver n t k =>
    have hsite : C.site i.event ≠ some n := fun hi => h.site n hi rfl
    have hk : k < (s.link n t).pending.length := h.right
    have hp : (s.link n t).pending[k]? = some (s.link n t).pending[k] := List.getElem?_eq_getElem hk
    have htake := Link.take?_eq_some_iff.mpr ⟨hp, rfl⟩
    rw [Network.fired, Network.fired, Network.next_link, Network.relink_eq_relinkOn,
      relinkOn_of_site hsite, htake, Link.take?_pushAll htake]
    rfl

/-- It outputs the same. -/
theorem out_next (hseparate : C.Separate) (h : C.Independent s i j) :
    N.machine.out (N.machine.next s i) j = N.machine.out s j := by
  rw [Network.out_eq, Network.out_eq, fired_next h]
  cases hj : N.fired s j.event with
  | none => rfl
  | some e =>
    rw [Option.map_some, Option.map_some, Network.next_nodes]
    cases hi : N.fired s i.event with
    | none => rfl
    | some e' =>
      have hnode : C.node e' ≠ C.node e :=
        fun hnode => h.site _ (C.site_of_fired hi) (by rw [C.site_of_fired hj, hnode])
      exact congrArg some (hseparate.out s.nodes ⟨i.now, e'⟩ ⟨j.now, e⟩ hnode)

/-- It publishes the same. -/
theorem emitted_next (hseparate : C.Separate) (h : C.Independent s i j) :
    N.emitted (N.machine.next s i) j = N.emitted s j := by
  have hout := out_next hseparate h
  rw [Network.out_eq, Network.out_eq, fired_next h] at hout
  rw [Network.emitted, Network.emitted, fired_next h]
  cases hj : N.fired s j.event with
  | none => cases j.event <;> rfl
  | some e =>
    rw [hj, Option.map_some, Option.map_some, Option.some.injEq] at hout
    exact congrArg N.emits hout

omit [DecidableEq ν] in
/-- What two steps on different topics publish on one link comes from one of them. -/
theorem pushAll_comm (h : C.Independent s i j) (n : ν) (t : τ) (link : Link T μ) :
    (link.pushAll i.now (N.addressed n t (N.emitted s i))).pushAll j.now
        (N.addressed n t (N.emitted s j)) =
      (link.pushAll j.now (N.addressed n t (N.emitted s j))).pushAll i.now
        (N.addressed n t (N.emitted s i)) := by
  cases hi : N.addressed n t (N.emitted s i) with
  | nil => rfl
  | cons m ms =>
    cases hj : N.addressed n t (N.emitted s j) with
    | nil => rfl
    | cons m' ms' =>
      obtain ⟨hm, htopic, -⟩ := N.mem_addressed.mp (hi ▸ List.mem_cons_self)
      obtain ⟨hm', htopic', -⟩ := N.mem_addressed.mp (hj ▸ List.mem_cons_self)
      exact absurd (htopic.trans htopic'.symm) (h.topics m hm m' hm')

/-- The links of a node at which the first step is not. -/
theorem link_comm (hseparate : C.Separate) (h : C.Independent s i j) {n : ν}
    (hsite : C.site i.event ≠ some n) (t : τ) :
    (N.machine.next (N.machine.next s i) j).link n t =
      (N.machine.next (N.machine.next s j) i).link n t := by
  simp only [Network.next_link, Network.relink_eq_relinkOn, emitted_next hseparate h,
    emitted_next hseparate h.symm]
  rw [relinkOn_of_site hsite, relinkOn_of_site hsite, Network.relinkOn_pushAll h.right]
  exact pushAll_comm h n t _

/-- **Two independent steps commute.** -/
theorem next_comm (hseparate : C.Separate) (h : C.Independent s i j) :
    N.machine.next (N.machine.next s i) j = N.machine.next (N.machine.next s j) i := by
  have hnodes : (N.machine.next (N.machine.next s i) j).nodes =
      (N.machine.next (N.machine.next s j) i).nodes := by
    simp only [Network.next_nodes, fired_next h, fired_next h.symm]
    cases hi : N.fired s i.event with
    | none => cases N.fired s j.event <;> rfl
    | some e =>
      cases hj : N.fired s j.event with
      | none => rfl
      | some e' =>
        have hnode : C.node e ≠ C.node e' :=
          fun hnode => h.site _ (C.site_of_fired hi) (by rw [C.site_of_fired hj, hnode])
        exact hseparate.next s.nodes ⟨i.now, e⟩ ⟨j.now, e'⟩ hnode
  have hlink : (N.machine.next (N.machine.next s i) j).link =
      (N.machine.next (N.machine.next s j) i).link := by
    funext n t
    by_cases hsite : C.site i.event = some n
    · exact (link_comm hseparate h.symm (h.site n hsite) t).symm
    · exact link_comm hseparate h hsite t
  calc N.machine.next (N.machine.next s i) j
      = ⟨(N.machine.next (N.machine.next s i) j).nodes,
          (N.machine.next (N.machine.next s i) j).link⟩ := rfl
    _ = N.machine.next (N.machine.next s j) i := by rw [hnodes, hlink]

end Commute

/-! ## Runs -/

section Runs

variable (C) [DecidableEq ν] [DecidableEq τ]

/-- One swap of two independent neighbours. -/
inductive Swaps : List (Stamped T (Label ν τ μ ε)) → List (Stamped T (Label ν τ μ ε)) → Prop
  | swap (pre post : List (Stamped T (Label ν τ μ ε))) (i j : Stamped T (Label ν τ μ ε)) :
      C.Independent (N.machine.after pre) i j → Swaps (pre ++ i :: j :: post) (pre ++ j :: i :: post)

/-- The runs differ in the order of independent steps alone. -/
def Rearranges : List (Stamped T (Label ν τ μ ε)) → List (Stamped T (Label ν τ μ ε)) → Prop :=
  Relation.EqvGen C.Swaps

/-- What a node reads and outputs in one step. -/
def traceStep (n : ν) (s : NetState T ν τ μ σ) (i : Stamped T (Label ν τ μ ε)) :
    List (Stamped T ε × ο) :=
  match N.fired s i.event with
  | some e => if C.node e = n then [(⟨i.now, e⟩, N.nodes.out s.nodes ⟨i.now, e⟩)] else []
  | none => []

/-- What a node reads and outputs along the steps `h` from the state `s` on. -/
def traceFrom (n : ν) (s : NetState T ν τ μ σ) :
    List (Stamped T (Label ν τ μ ε)) → List (Stamped T ε × ο)
  | [] => []
  | i :: h => C.traceStep n s i ++ traceFrom n (N.machine.next s i) h

/-- **What a node reads and outputs in a run**, in order. -/
def trace (n : ν) (h : List (Stamped T (Label ν τ μ ε))) : List (Stamped T ε × ο) :=
  C.traceFrom n N.machine.init h

/-- The trace of a longer run goes on where that of the shorter one ends. -/
theorem trace_append (n : ν) (h k : List (Stamped T (Label ν τ μ ε))) :
    C.trace n (h ++ k) = C.trace n h ++ C.traceFrom n (N.machine.after h) k := by
  have hfrom : ∀ s, C.traceFrom n s (h ++ k) =
      C.traceFrom n s h ++ C.traceFrom n (h.foldl N.machine.next s) k := by
    induction h with
    | nil => exact fun s => rfl
    | cons i h ih =>
      intro s
      rw [List.cons_append, traceFrom, ih, traceFrom, List.foldl_cons, List.append_assoc]
  exact hfrom N.machine.init

variable {C}

/-- A step at another node does not show in what a node does. -/
theorem traceStep_next (hseparate : C.Separate) (h : C.Independent s i j) (n : ν) :
    C.traceStep n (N.machine.next s i) j = C.traceStep n s j := by
  have hout := out_next hseparate h
  rw [Network.out_eq, Network.out_eq, fired_next h] at hout
  rw [traceStep, traceStep, fired_next h]
  cases hj : N.fired s j.event with
  | none => rfl
  | some e =>
    rw [hj, Option.map_some, Option.map_some, Option.some.injEq] at hout
    dsimp only
    rw [hout]

omit [DecidableEq τ] in
/-- Of two independent steps, one is not the node's. -/
theorem traceStep_comm (h : C.Independent s i j) (n : ν) :
    C.traceStep n s i ++ C.traceStep n s j = C.traceStep n s j ++ C.traceStep n s i := by
  rw [traceStep, traceStep]
  cases hi : N.fired s i.event with
  | none => rw [List.nil_append, List.append_nil]
  | some e =>
    cases hj : N.fired s j.event with
    | none => rw [List.nil_append, List.append_nil]
    | some e' =>
      dsimp only
      by_cases hnode : C.node e = n
      · have hnode' : C.node e' ≠ n :=
          fun hnode' => h.site n (by rw [C.site_of_fired hi, hnode]) (by rw [C.site_of_fired hj, hnode'])
        rw [if_neg hnode', List.nil_append, List.append_nil]
      · rw [if_neg hnode, List.nil_append, List.append_nil]

/-- Swaps of independent neighbours change neither the state nor what a node sees. -/
theorem after_swaps (hseparate : C.Separate) {h h' : List (Stamped T (Label ν τ μ ε))}
    (hswaps : C.Swaps h h') :
    N.machine.after h = N.machine.after h' ∧ ∀ n, C.trace n h = C.trace n h' := by
  obtain ⟨pre, post, i, j, hind⟩ := hswaps
  have hcomm := next_comm hseparate hind
  constructor
  · rw [Machine.after_append, Machine.after_append, List.foldl_cons, List.foldl_cons, List.foldl_cons,
      List.foldl_cons, hcomm]
  · intro n
    simp only [trace_append, traceFrom, hcomm, traceStep_next hseparate hind,
      traceStep_next hseparate hind.symm]
    rw [← List.append_assoc (C.traceStep n _ i), traceStep_comm hind, List.append_assoc]

/-- **Runs that differ in the order of independent steps alone agree** on the state of every node and
of every link, and on what each node reads and outputs. -/
theorem after_rearranges (hseparate : C.Separate) {h h' : List (Stamped T (Label ν τ μ ε))}
    (hrearranges : C.Rearranges h h') :
    N.machine.after h = N.machine.after h' ∧ ∀ n, C.trace n h = C.trace n h' := by
  induction hrearranges with
  | rel h h' hswaps => exact after_swaps hseparate hswaps
  | refl h => exact ⟨rfl, fun _ => rfl⟩
  | symm h h' _ ih => exact ⟨ih.1.symm, fun n => (ih.2 n).symm⟩
  | trans h h' h'' _ _ ih ih' => exact ⟨ih.1.trans ih'.1, fun n => (ih.2 n).trans (ih'.2 n)⟩

end Runs

end Callbacks

end Reactive
