import HomeBridge.Lib.Entries
import HomeBridge.Lib.Run
import HomeBridge.Ihaplite.MsgHandler

/-!
# In which order messages are delivered

The handler's queue has no order of its own: a message goes into the first free slot, and a pass presents the slots from the first to the
last. Slots in the middle are freed while others stay occupied, for a message whose receiver is busy is left where it is. So what keeps
the order of two messages for one receiver is that the later one is behind the earlier one, and that the handler does not go past the
earlier one on its way.
-/

namespace HomeBridge

open Runs

/-- The globals with a history: which message, by its number, is in each slot, how many have been queued, and which have been delivered,
and to whom. -/
structure QueueRun where
  g : Globals
  number : Nat → Nat
  queued : Nat
  delivered : List (Nat × Nat)

/-- The steps: `queue_add` of a new message, between two passes; the next turn of `while( queue_nextmsg() )`, with what `trylock` answers. -/
inductive QueueAct where
  | add (context : Context)
  | next (locked : Bool)

namespace QueueRun

/-- The task a context is for. -/
def receiverOf (q : QueueRun) (context : Context) : Nat := (cell q.g context.sender).1

/-- The task the message in a slot is for. -/
def receiver (q : QueueRun) (i : Nat) : Nat := q.receiverOf (q.g.queue_struct i)

/-- The slots are free, and no pass is under way. -/
def start (front : Nat → Nat × Nat) : QueueRun := ⟨Globals.init front, fun _ => 0, 0, []⟩

/-- A message is queued, or dropped where every slot is occupied. -/
def add (q : QueueRun) (context : Context) : QueueRun :=
  let g := (queue_add { q.g with msg_context := context }).2
  match firstFree q.g with
  | some counter => { q with g := g, number := Function.update q.number counter q.queued, queued := q.queued + 1 }
  | none => { q with g := g }

/-- A turn of the loop. -/
def next (q : QueueRun) (locked : Bool) : QueueRun :=
  match queue_nextmsg q.g with
  | (true, g) => { q with
    g := deliver locked g
    delivered := if locked then q.delivered ++ [(receiver_taskid g, q.number g.currentmsg.toNat)] else q.delivered }
  | (false, g) => { q with g := g }

/-- One step. -/
def step (q : QueueRun) : QueueAct → Option QueueRun
  | .add context => if q.g.currentmsg = -1 then some (q.add context) else none
  | .next locked => some (q.next locked)

/-- Messages for one receiver are delivered in the order they were queued in, and none while an earlier one is still queued. -/
structure InOrder (q : QueueRun) : Prop where
  sorted : q.delivered.Pairwise fun d e => d.1 = e.1 → d.2 < e.2
  waiting : ∀ d ∈ q.delivered, ∀ i < QUEUESIZE, q.g.queue i = true → q.receiver i = d.1 → d.2 < q.number i

/-- A new message does not get a slot in front of one for the same receiver, and none is delivered from behind one for the same
receiver. -/
def KeepsOrder (q : QueueRun) : QueueAct → Prop
  | .add context => ∀ counter ∈ firstFree q.g, ∀ j < QUEUESIZE, counter < j → q.g.queue j = true → q.receiver j ≠ q.receiverOf context
  | .next locked => locked = true → ∀ i ∈ nextOccupied q.g, ∀ j < i, q.g.queue j = true → q.receiver j ≠ q.receiver i

instance (q : QueueRun) (a : QueueAct) : Decidable (q.KeepsOrder a) := by
  cases a <;> unfold KeepsOrder <;> infer_instance

/-! ## The invariant -/

/-- Of two queued messages for one receiver, the one in the lower slot is the earlier one. -/
structure Inv (q : QueueRun) : Prop where
  inOrder : InOrder q
  slots : ∀ i j, i < j → j < QUEUESIZE → q.g.queue i = true → q.g.queue j = true → q.receiver i = q.receiver j →
    q.number i < q.number j
  queued : ∀ i < QUEUESIZE, q.g.queue i = true → q.number i < q.queued
  delivered : ∀ d ∈ q.delivered, d.2 < q.queued

/-- Nothing is queued at the start. -/
theorem inv_start (front : Nat → Nat × Nat) : Inv (start front) := ⟨⟨.nil, nofun⟩, nofun, nofun, nofun⟩

section step

variable {q q' : QueueRun}

/-- The slot `queue_add` takes. -/
theorem firstFree_eq_some {g : Globals} {c : Nat} (h : firstFree g = some c) : c < QUEUESIZE ∧ g.queue c = false := by
  obtain ⟨h1, h2, _⟩ := List.find?_range_eq_some.mp h
  exact ⟨List.mem_range.mp h2, by simpa using h1⟩

/-- A full queue drops the new message. -/
theorem add_none {context : Context} (h : firstFree q.g = none) : q.add context = { q with g := { q.g with msg_context := context } } := by
  have h' : firstFree { q.g with msg_context := context } = none := h
  rw [QueueRun.add, queue_add, h', h]

/-- Otherwise it gets the first free slot, and the next number. -/
theorem add_some {context : Context} {c : Nat} (h : firstFree q.g = some c) : q.add context = { q with
    g := { q.g with
      msg_context := context
      queue_struct := Function.update q.g.queue_struct c context
      queue := Function.update q.g.queue c true }
    number := Function.update q.number c q.queued
    queued := q.queued + 1 } := by
  have h' : firstFree { q.g with msg_context := context } = some c := h
  rw [QueueRun.add, queue_add, h', h]

/-- A pass ends behind the last occupied slot. -/
theorem next_none {locked : Bool} (h : nextOccupied q.g = none) : q.next locked = { q with g := { q.g with currentmsg := -1 } } := by
  rw [QueueRun.next, queue_nextmsg, h]

/-- The next message is delivered where its receiver's context is free, and stays queued otherwise. -/
theorem next_some {locked : Bool} {i : Nat} (h : nextOccupied q.g = some i) : q.next locked = { q with
    g := deliver locked { q.g with currentmsg := i, msg_context := q.g.queue_struct i }
    delivered := if locked then q.delivered ++ [(q.receiver i, q.number i)] else q.delivered } := by
  rw [QueueRun.next, queue_nextmsg, h]
  rfl

/-- A new message keeps the order where it gets a slot behind those for its receiver. -/
theorem Inv.add (hi : q.Inv) {context : Context} (hc : q.KeepsOrder (.add context)) : (q.add context).Inv := by
  cases hf : firstFree q.g with
  | none =>
    rw [add_none hf]
    exact ⟨⟨hi.inOrder.sorted, hi.inOrder.waiting⟩, hi.slots, hi.queued, hi.delivered⟩
  | some c =>
    rw [add_some hf]
    obtain ⟨hlt, hempty⟩ := firstFree_eq_some hf
    refine ⟨⟨hi.inOrder.sorted, fun d hd i hlti hq hr => ?_⟩, fun i j hij hj hqi hqj hr => ?_, fun i hlti hq => ?_, fun d hd => ?_⟩
    · rcases Entries.update_true hq with rfl | ⟨hic, hq⟩
      · simp only [Function.update_self]
        exact hi.delivered d hd
      · simp only [receiver, Function.update_of_ne hic] at hr ⊢
        exact hi.inOrder.waiting d hd i hlti hq hr
    · rcases Entries.update_true hqi with rfl | ⟨hic, hoi⟩
      · have hji : j ≠ i := Nat.ne_of_gt hij
        rcases Entries.update_true hqj with rfl | ⟨_, hoj⟩
        · exact absurd rfl hji
        · simp only [receiver, Function.update_self, Function.update_of_ne hji] at hr
          exact absurd hr.symm (hc i hf j hj hij hoj)
      · rcases Entries.update_true hqj with rfl | ⟨hjc, hoj⟩
        · simp only [Function.update_self, Function.update_of_ne hic]
          exact hi.queued i (Nat.lt_trans hij hj) hoi
        · simp only [receiver, Function.update_of_ne hic, Function.update_of_ne hjc] at hr ⊢
          exact hi.slots i j hij hj hoi hoj hr
    · rcases Entries.update_true hq with rfl | ⟨hic, hq⟩
      · simp only [Function.update_self]
        exact Nat.lt_succ_self _
      · simp only [Function.update_of_ne hic]
        exact Nat.lt_succ_of_lt (hi.queued i hlti hq)
    · exact Nat.lt_succ_of_lt (hi.delivered d hd)

/-- A delivery keeps it where no message for the same receiver was passed over. -/
theorem Inv.next (hi : q.Inv) {locked : Bool} (hc : q.KeepsOrder (.next locked)) : (q.next locked).Inv := by
  cases hn : nextOccupied q.g with
  | none =>
    rw [next_none hn]
    exact ⟨⟨hi.inOrder.sorted, hi.inOrder.waiting⟩, hi.slots, hi.queued, hi.delivered⟩
  | some i =>
    rw [next_some hn]
    obtain ⟨hqi, _, hlti, _⟩ := nextOccupied_eq_some hn
    cases locked with
    | false => exact ⟨⟨hi.inOrder.sorted, hi.inOrder.waiting⟩, hi.slots, hi.queued, hi.delivered⟩
    | true =>
      refine ⟨⟨?_, fun d hd j hltj hq hr => ?_⟩, fun j k hjk hk hqj hqk hr => ?_, fun j hltj hq => ?_, fun d hd => ?_⟩
      · refine List.pairwise_append.mpr ⟨hi.inOrder.sorted, List.pairwise_singleton _ _, fun d hd e he hde => ?_⟩
        rw [List.mem_singleton.mp he] at hde ⊢
        exact hi.inOrder.waiting d hd i hlti hqi hde.symm
      · obtain ⟨hji, hq⟩ := Entries.update_false hq
        rcases List.mem_append.mp hd with hd | hd
        · exact hi.inOrder.waiting d hd j hltj hq hr
        · rw [List.mem_singleton.mp hd] at hr ⊢
          rcases Nat.lt_or_gt_of_ne hji with hlt | hgt
          · exact absurd hr (hc rfl i hn j hlt hq)
          · exact hi.slots i j hgt hltj hqi hq hr.symm
      · exact hi.slots j k hjk hk (Entries.update_false hqj).2 (Entries.update_false hqk).2 hr
      · exact hi.queued j hltj (Entries.update_false hq).2
      · rcases List.mem_append.mp hd with hd | hd
        · exact hi.delivered d hd
        · rw [List.mem_singleton.mp hd]
          exact hi.queued i hlti hqi

end step

/-- A pass of the handler is a run of turns. -/
theorem run_pass (trylock : Nat → Bool) : ∀ (n : Nat) (q : QueueRun), ∃ (locked : List Bool) (q' : QueueRun),
    run step q (locked.map .next) = some q' ∧ q'.g = deliveryPass trylock n q.g := by
  intro n
  induction n with
  | zero =>
    intro q
    exact ⟨[], q, rfl, rfl⟩
  | succ n ih =>
    intro q
    unfold deliveryPass
    rcases hq : queue_nextmsg q.g with ⟨_ | _, g⟩
    · refine ⟨[false], _, rfl, ?_⟩
      rw [QueueRun.next, hq]
    · obtain ⟨locked, q', hrun, hg⟩ := ih (q.next (trylock g.currentmsg.toNat))
      refine ⟨trylock g.currentmsg.toNat :: locked, q', hrun, ?_⟩
      rw [hg, QueueRun.next, hq]

end QueueRun

open QueueRun in
/-- In every run of new messages and turns of the handler in which no message gets a slot in front of one for the same receiver, and none is
delivered from behind one for the same receiver, the messages for each receiver are delivered in the order they were queued in. -/
theorem inOrder_always (front : Nat → Nat × Nat) (acts : List QueueAct)
    (h : Along QueueRun.step KeepsOrder (QueueRun.start front) acts) : Always QueueRun.step InOrder (QueueRun.start front) acts := by
  refine h.always (I := QueueRun.Inv) (fun _ hi => hi.inOrder) (fun q a q' hi hc hs => ?_) (inv_start front)
  cases a with
  | add context =>
    simp only [QueueRun.step, Option.ite_none_right_eq_some, Option.some.injEq] at hs
    obtain ⟨_, rfl⟩ := hs
    exact hi.add hc
  | next locked =>
    cases hs
    exact hi.next hc

/-- Two messages for the session manager; the second is queued and delivered after the first was. -/
theorem inOrder_always_twoRequests : Always QueueRun.step QueueRun.InOrder (QueueRun.start fun _ => (0, 0))
    [.add ⟨1, ⟨IPTask_id 1, UNUSED, Out1⟩, true⟩, .next false, .next false, .add ⟨2, ⟨IPTask_id 2, UNUSED, Out1⟩, true⟩, .next true,
      .next true] :=
  inOrder_always _ _ (by decide)

/-- A message for the IP task of port 2 is left in the first slot, since the task is busy, and one for the session manager in the second.
The first is delivered, and a second message for the session manager gets its slot. -/
def freedInFront : List QueueAct :=
  [.add ⟨1, ⟨SessionManagerTask_id, UNUSED, 4⟩, true⟩, .next false, .next false, .add ⟨2, ⟨IPTask_id 1, UNUSED, Out1⟩, true⟩, .next true,
    .next false, .next false, .add ⟨3, ⟨IPTask_id 3, UNUSED, Out1⟩, true⟩, .next true]

/-- It is delivered before the first. -/
theorem not_inOrder_always : ¬∀ acts, Always QueueRun.step QueueRun.InOrder (QueueRun.start fun _ => (0, 0)) acts := by
  intro h
  have hrun : (run QueueRun.step (QueueRun.start fun _ => (0, 0)) freedInFront).map
      (fun q => (q.delivered, q.g.queue 1, q.receiver 1, q.number 1)) =
        some ([(IPTask_id 2, 0), (SessionManagerTask_id, 2)], true, SessionManagerTask_id, 1) := by
    rfl
  obtain ⟨q, hq, he⟩ := Option.map_eq_some_iff.mp hrun
  simp only [Prod.mk.injEq] at he
  obtain ⟨hd, hslot, hr, hn⟩ := he
  have hin := always_iff_beginning.mp (h freedInFront) freedInFront [] q (List.append_nil _).symm hq
  have hlt := hin.waiting (SessionManagerTask_id, 2) (by rw [hd]; simp) 1 (by decide) hslot hr
  rw [hn] at hlt
  exact absurd hlt (by decide)

end HomeBridge
