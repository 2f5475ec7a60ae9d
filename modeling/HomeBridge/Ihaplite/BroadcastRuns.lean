import Mathlib.Data.List.Nodup
import HomeBridge.Lib.Run
import HomeBridge.Ihaplite.MsgHandler

/-!
# From a broadcast to the queue

The tasks, the time manager and the message handler meet at `msg_context`. Its mutex makes three things atomic: a broadcast that
finds it free, a wake-up of the handler with its whole loop body, and, for what the handler reads of it, a tick. A wake-up needs
no signal to be possible: POSIX lets `pthread_cond_wait` return without one. A message is named by its serial number among the
accepted ones, so that what the queue was given can be counted.
-/

namespace HomeBridge

open Runs

/-- The globals, with a record of what crossed `msg_context`: how many messages were accepted, which `queue_add` stored, and
which it refused, each with the slots as they were. -/
structure Bus where
  g : Globals
  accepted : Nat
  stored : List Nat
  refused : List (Nat × List Bool)

/-- Nothing sent yet. -/
def Bus.init (front : Nat → Nat × Nat) : Bus := ⟨.init front, 0, [], []⟩

/-- The atomic steps. -/
inductive BusAct where
  | broadcast (sender outport : Nat)
  | wake (trylock : Nat → Bool)
  | tick

namespace Bus

/-- The slot flags. -/
def slots (b : Bus) : List Bool := (List.range QUEUESIZE).map b.g.queue

/-- What a wake-up adds to the record: `queue_add` runs unless the handler's alarm has gone off. -/
def record (b : Bus) : Bus :=
  if b.g.alarms.AlarmSignal handlerAlarm then b
  else if (queue_add b.g).1 = 0 then { b with stored := b.stored ++ [b.g.msg_context.holder] }
  else { b with refused := b.refused ++ [(b.g.msg_context.holder, b.slots)] }

/-- One atomic step. A broadcast into an occupied context is no step: the task yields and tries again. -/
def step (b : Bus) : BusAct → Option Bus
  | .broadcast sender outport =>
    (broadcast_msg b.g sender outport (b.accepted + 1)).map (fun g => { b with g := g, accepted := b.accepted + 1 })
  | .wake trylock => some { b.record with g := msgHandler trylock b.g }
  | .tick => some { b with g := { b.g with alarms := HomeBridge.tick b.g.alarms } }

/-- A message still waiting in `msg_context` for the wake-up its broadcast signalled. -/
def Pending (b : Bus) (n : Nat) : Prop := b.g.msg_context.occupied = true ∧ n = b.accepted

/-- Every accepted message that is not still waiting was stored exactly once, or was refused by a queue with every slot
occupied; and whatever was stored was an accepted message, stored for the first time. -/
structure ExactlyOnce (b : Bus) : Prop where
  once : ∀ n, 1 ≤ n → n ≤ b.accepted → ¬b.Pending n →
    b.stored.count n = 1 ∨ b.stored.count n = 0 ∧ (n, List.replicate QUEUESIZE true) ∈ b.refused
  fresh : ∀ n ∈ b.stored, 1 ≤ n ∧ n ≤ b.accepted ∧ b.stored.count n = 1

/-- The wake-ups that do no harm: a message is waiting and the handler's alarm is not set, or none is waiting and the alarm is,
or none is waiting and the queue is full. -/
def CleanWake (b : Bus) : BusAct → Prop
  | .wake _ =>
    (b.g.msg_context.occupied = true ↔ b.g.alarms.AlarmSignal handlerAlarm = false) ∨
      b.g.msg_context.occupied = false ∧ ∀ c < QUEUESIZE, b.g.queue c = true
  | _ => True

end Bus

/-! ## The loop body -/

section msgHandler

variable (trylock : Nat → Bool) (g : Globals)

/-- The globals the handler's pass over the queue starts from. -/
def afterAdd (g : Globals) : Globals :=
  if g.alarms.AlarmSignal handlerAlarm then { g with alarms := (alarmTestAndReset g.alarms handlerAlarm).2 }
  else (queue_add g).2

theorem msgHandler_eq : msgHandler trylock g =
    { deliveryPass trylock (QUEUESIZE + 1) (afterAdd g) with
      msg_context := { (deliveryPass trylock (QUEUESIZE + 1) (afterAdd g)).msg_context with occupied := false } } := by
  unfold msgHandler afterAdd alarmTestAndReset
  cases h : g.alarms.AlarmSignal handlerAlarm <;> rfl

@[simp] theorem msgHandler_occupied : (msgHandler trylock g).msg_context.occupied = false := by
  rw [msgHandler_eq]

@[simp] theorem afterAdd_currentmsg : (afterAdd g).currentmsg = g.currentmsg := by
  unfold afterAdd queue_add
  split
  · rfl
  · split <;> rfl

theorem msgHandler_currentmsg (h : g.currentmsg = -1) : (msgHandler trylock g).currentmsg = -1 := by
  rw [msgHandler_eq]
  exact deliveryPass_currentmsg trylock _ (by simp [h]) (by simp [h])

/-- What the loop body does to the queue and to the message in `msg_context` is what its pass over the queue does. -/
theorem msgHandler_presents : Presents (afterAdd g) (msgHandler trylock g) := by
  rw [msgHandler_eq]
  obtain ⟨h1, h2, h3⟩ := deliveryPass_presents trylock (QUEUESIZE + 1) (afterAdd g)
  exact ⟨h1, h2, h3⟩

/-- A loop body that finds a queued message leaves a queued message in `msg_context`. -/
theorem msgHandler_holder (hc : g.currentmsg = -1) (h : ∃ i < QUEUESIZE, (afterAdd g).queue i = true) :
    ∃ i < QUEUESIZE, (afterAdd g).queue i = true ∧
      (msgHandler trylock g).msg_context.holder = ((afterAdd g).queue_struct i).holder := by
  rw [msgHandler_eq]
  exact deliveryPass_holder (by rw [afterAdd_currentmsg, hc]) h

end msgHandler

namespace Bus

/-! ## The three things a wake-up can do with `msg_context` -/

/-- The alarm had gone off: nothing is stored. -/
theorem wake_skip {b : Bus} (h : b.g.alarms.AlarmSignal handlerAlarm = true) :
    b.record = b ∧ (afterAdd b.g).queue = b.g.queue ∧ (afterAdd b.g).queue_struct = b.g.queue_struct ∧
      (afterAdd b.g).msg_context = b.g.msg_context := by
  simp only [record, afterAdd, h, if_true, and_self]

/-- A slot was free: the message in `msg_context` is stored there. -/
theorem wake_store {b : Bus} (h : b.g.alarms.AlarmSignal handlerAlarm = false) {c : Nat} (hc : firstFree b.g = some c) :
    b.record = { b with stored := b.stored ++ [b.g.msg_context.holder] } ∧
      (afterAdd b.g).queue = Function.update b.g.queue c true ∧
      (afterAdd b.g).queue_struct = Function.update b.g.queue_struct c b.g.msg_context ∧
      (afterAdd b.g).msg_context = b.g.msg_context := by
  simp only [record, afterAdd, h, queue_add, hc, Bool.false_eq_true, if_false, if_true, and_self]

/-- No slot was free: the message is refused. -/
theorem wake_refuse {b : Bus} (h : b.g.alarms.AlarmSignal handlerAlarm = false) (hc : firstFree b.g = none) :
    b.record = { b with refused := b.refused ++ [(b.g.msg_context.holder, List.replicate QUEUESIZE true)] } ∧
      afterAdd b.g = b.g := by
  have hs : b.slots = List.replicate QUEUESIZE true := by
    refine List.eq_replicate_iff.mpr ⟨by simp [slots], fun x hx => ?_⟩
    obtain ⟨i, hi, rfl⟩ := List.mem_map.mp hx
    exact firstFree_eq_none.mp hc i (List.mem_range.mp hi)
  have he : ¬EOVERFLOW = 0 := by decide
  simp only [record, afterAdd, h, queue_add, hc, hs, he, Bool.false_eq_true, if_false, and_self]

/-! ## The invariant -/

/-- How many accepted messages have left `msg_context`. -/
def handled (b : Bus) : Nat := if b.g.msg_context.occupied then b.accepted - 1 else b.accepted

/-- What holds between the steps while every wake-up is clean. -/
structure Inv (b : Bus) : Prop where
  currentmsg : b.g.currentmsg = -1
  waiting : b.g.msg_context.occupied = true → 1 ≤ b.accepted ∧ b.g.msg_context.holder = b.accepted
  idle : b.g.msg_context.occupied = false → b.g.msg_context.holder = 0 ∨ b.g.msg_context.holder ∈ b.stored
  queued : ∀ c < QUEUESIZE, b.g.queue c = true → (b.g.queue_struct c).holder ∈ b.stored
  nodup : b.stored.Nodup
  stored_le : ∀ n ∈ b.stored, 1 ≤ n ∧ n ≤ b.handled
  refused_le : ∀ r ∈ b.refused, r.1 ≤ b.handled
  settled : ∀ n, 1 ≤ n → n ≤ b.handled → n ∈ b.stored ∨ (n, List.replicate QUEUESIZE true) ∈ b.refused

theorem inv_init (front : Nat → Nat × Nat) : Inv (init front) where
  currentmsg := rfl
  waiting := by intro h; cases h
  idle := fun _ => .inl rfl
  queued := by intro c _ h; cases h
  nodup := List.nodup_nil
  stored_le := by intro n h; cases h
  refused_le := by intro n h; cases h
  settled := by intro n h1 h2; exact absurd h2 (by simp [handled, init, Globals.init, Context.zero]; omega)

theorem handled_le (b : Bus) : b.handled ≤ b.accepted := by
  unfold handled
  split <;> omega

/-- The invariant gives the property. -/
theorem Inv.exactlyOnce {b : Bus} (h : Inv b) : ExactlyOnce b where
  once := by
    intro n h1 h2 hp
    have hn : n ≤ b.handled := by
      unfold handled
      split
      · rename_i ho
        have hne : n ≠ b.accepted := fun he => hp ⟨ho, he⟩
        omega
      · exact h2
    by_cases hm : n ∈ b.stored
    · exact .inl (List.count_eq_one_of_mem h.nodup hm)
    · exact .inr ⟨List.count_eq_zero_of_not_mem hm, (h.settled n h1 hn).resolve_left hm⟩
  fresh := by
    intro n hn
    obtain ⟨h1, h2⟩ := h.stored_le n hn
    exact ⟨h1, Nat.le_trans h2 b.handled_le, List.count_eq_one_of_mem h.nodup hn⟩

/-! ## The steps -/

/-- After a wake-up nothing is waiting; the rest of the invariant is about the queue it started from and the new record. -/
theorem Inv.after_wake {b : Bus} (h : Inv b) (trylock : Nat → Bool) {stored : List Nat} {refused : List (Nat × List Bool)}
    (hqueue : ∀ c < QUEUESIZE, (afterAdd b.g).queue c = true → ((afterAdd b.g).queue_struct c).holder ∈ stored)
    (hholder : (msgHandler trylock b.g).msg_context.holder = 0 ∨ (msgHandler trylock b.g).msg_context.holder ∈ stored)
    (hnodup : stored.Nodup) (hstored : ∀ n ∈ stored, 1 ≤ n ∧ n ≤ b.accepted) (hrefused : ∀ r ∈ refused, r.1 ≤ b.accepted)
    (hsettled : ∀ n, 1 ≤ n → n ≤ b.accepted → n ∈ stored ∨ (n, List.replicate QUEUESIZE true) ∈ refused) :
    Inv ⟨msgHandler trylock b.g, b.accepted, stored, refused⟩ := by
  have hh : handled ⟨msgHandler trylock b.g, b.accepted, stored, refused⟩ = b.accepted := by
    simp only [handled, msgHandler_occupied, Bool.false_eq_true, if_false]
  have hp := msgHandler_presents trylock b.g
  refine ⟨msgHandler_currentmsg trylock b.g h.currentmsg, ?_, fun _ => hholder, ?_, hnodup, ?_, ?_, ?_⟩
  · intro ho
    rw [msgHandler_occupied] at ho
    cases ho
  · intro c hc hq
    change ((msgHandler trylock b.g).queue_struct c).holder ∈ stored
    rw [hp.queue_struct]
    exact hqueue c hc (hp.queue_le c hq)
  · rwa [hh]
  · rwa [hh]
  · rwa [hh]

/-- The holder after a wake-up is the one it started with or a queued one. -/
theorem holder_after_wake {b : Bus} {trylock : Nat → Bool} {stored : List Nat}
    (hholder : b.g.msg_context.holder = 0 ∨ b.g.msg_context.holder ∈ stored)
    (hcontext : (afterAdd b.g).msg_context = b.g.msg_context)
    (hqueue : ∀ c < QUEUESIZE, (afterAdd b.g).queue c = true → ((afterAdd b.g).queue_struct c).holder ∈ stored) :
    (msgHandler trylock b.g).msg_context.holder = 0 ∨ (msgHandler trylock b.g).msg_context.holder ∈ stored := by
  rcases (msgHandler_presents trylock b.g).holder with h | ⟨c, hc, hqc, h⟩
  · rwa [h, hcontext]
  · exact .inr (h ▸ hqueue c hc hqc)

/-- The alarm had gone off and no message was waiting. -/
theorem Inv.skip {b : Bus} (h : Inv b) (trylock : Nat → Bool) (ha : b.g.alarms.AlarmSignal handlerAlarm = true)
    (ho : b.g.msg_context.occupied = false) : Inv { b.record with g := msgHandler trylock b.g } := by
  obtain ⟨hr, hq, hs, hm⟩ := wake_skip ha
  have hh : b.handled = b.accepted := by simp only [handled, ho, Bool.false_eq_true, if_false]
  have hqueue : ∀ c < QUEUESIZE, (afterAdd b.g).queue c = true → ((afterAdd b.g).queue_struct c).holder ∈ b.stored := by
    rw [hq, hs]
    exact h.queued
  rw [hr]
  exact h.after_wake trylock hqueue (holder_after_wake (h.idle ho) hm hqueue) h.nodup (hh ▸ h.stored_le)
    (hh ▸ h.refused_le) (hh ▸ h.settled)

/-- A message was waiting and is stored. -/
theorem Inv.store {b : Bus} (h : Inv b) (trylock : Nat → Bool) (ha : b.g.alarms.AlarmSignal handlerAlarm = false)
    (ho : b.g.msg_context.occupied = true) {c : Nat} (hc : firstFree b.g = some c) :
    Inv { b.record with g := msgHandler trylock b.g } := by
  obtain ⟨hr, hq, hs, hm⟩ := wake_store ha hc
  have hh : b.handled = b.accepted - 1 := by simp only [handled, ho, if_true]
  obtain ⟨h1, hn⟩ := h.waiting ho
  have hqueue : ∀ i < QUEUESIZE, (afterAdd b.g).queue i = true →
      ((afterAdd b.g).queue_struct i).holder ∈ b.stored ++ [b.g.msg_context.holder] := by
    intro i hi hqi
    rw [hs]
    rw [hq] at hqi
    by_cases hic : i = c
    · subst hic
      simp
    · rw [Function.update_of_ne hic] at hqi ⊢
      exact List.mem_append_left _ (h.queued i hi hqi)
  rw [hr]
  refine h.after_wake trylock hqueue (holder_after_wake (.inr (by simp)) hm hqueue) ?_ ?_ ?_ ?_
  · refine List.Nodup.append h.nodup (List.nodup_singleton _) ?_
    intro n hn1 hn2
    have := (h.stored_le n hn1).2
    rw [List.mem_singleton.mp hn2] at this
    omega
  · intro n hmem
    rcases List.mem_append.mp hmem with hmem | hmem
    · have := h.stored_le n hmem
      omega
    · rw [List.mem_singleton.mp hmem]
      omega
  · intro r hmem
    have := h.refused_le r hmem
    omega
  · intro n hn1 hn2
    by_cases he : n = b.accepted
    · exact .inl (by simp [he, hn])
    · exact (h.settled n hn1 (by omega)).imp_left (List.mem_append_left _)

/-- The queue was full: a waiting message is refused, and one that was not waiting has been stored before. -/
theorem Inv.refuse {b : Bus} (h : Inv b) (trylock : Nat → Bool) (ha : b.g.alarms.AlarmSignal handlerAlarm = false)
    (hc : firstFree b.g = none) : Inv { b.record with g := msgHandler trylock b.g } := by
  obtain ⟨hr, hg⟩ := wake_refuse ha hc
  have hfull := firstFree_eq_none.mp hc
  have hqueue : ∀ c < QUEUESIZE, (afterAdd b.g).queue c = true → ((afterAdd b.g).queue_struct c).holder ∈ b.stored := by
    rw [hg]
    exact h.queued
  have hle : ∀ n, n ≤ b.handled → n ≤ b.accepted := fun n hn => Nat.le_trans hn b.handled_le
  rw [hr]
  refine h.after_wake trylock hqueue ?_ h.nodup (fun n hn => (h.stored_le n hn).imp_right (hle n)) ?_ ?_
  · obtain ⟨i, hi, hq, hh⟩ := msgHandler_holder trylock b.g h.currentmsg ⟨0, by decide, by rw [hg]; exact hfull 0 (by decide)⟩
    exact .inr (hh ▸ hqueue i hi hq)
  · intro r hmem
    rcases List.mem_append.mp hmem with hmem | hmem
    · exact hle _ (h.refused_le r hmem)
    · rw [List.mem_singleton.mp hmem]
      cases ho : b.g.msg_context.occupied with
      | true => exact Nat.le_of_eq (h.waiting ho).2
      | false =>
        rcases h.idle ho with h0 | h0
        · exact h0 ▸ Nat.zero_le _
        · exact hle _ (h.stored_le _ h0).2
  · intro n hn1 hn2
    by_cases hn : n ≤ b.handled
    · exact (h.settled n hn1 hn).imp_right (List.mem_append_left _)
    · -- only the message that was waiting is accepted and not yet handled
      have ho : b.g.msg_context.occupied = true := by
        by_contra hf
        simp only [handled, hf, if_false] at hn
        exact hn hn2
      simp only [handled, ho, if_true] at hn
      have he : n = b.g.msg_context.holder := by
        rw [(h.waiting ho).2]
        omega
      exact .inr (List.mem_append_right _ (by rw [he]; exact List.mem_singleton.mpr rfl))

/-- The alarms are not part of it. -/
theorem Inv.alarms {b : Bus} (h : Inv b) (alarms : Alarms) : Inv { b with g := { b.g with alarms := alarms } } :=
  ⟨h.currentmsg, h.waiting, h.idle, h.queued, h.nodup, h.stored_le, h.refused_le, h.settled⟩

/-- A clean step keeps the invariant. -/
theorem Inv.step {b b' : Bus} {a : BusAct} (h : Inv b) (hc : CleanWake b a) (hs : step b a = some b') : Inv b' := by
  cases a with
  | tick =>
    cases hs
    exact h.alarms _
  | broadcast sender outport =>
    cases ho : b.g.msg_context.occupied with
    | true => simp [Bus.step, broadcast_msg, ho] at hs
    | false =>
      have hh : b.handled = b.accepted := by simp only [handled, ho, Bool.false_eq_true, if_false]
      simp only [Bus.step, broadcast_msg, ho, Bool.false_eq_true, if_false, Option.map_some, Option.some.injEq] at hs
      subst hs
      refine ⟨h.currentmsg, fun _ => ⟨by simp, rfl⟩, nofun, h.queued, h.nodup, ?_, ?_, ?_⟩
      · exact hh ▸ h.stored_le
      · exact hh ▸ h.refused_le
      · exact hh ▸ h.settled
  | wake trylock =>
    cases hs
    cases ha : b.g.alarms.AlarmSignal handlerAlarm with
    | true =>
      refine h.skip trylock ha ?_
      rcases hc with hc | hc
      · rw [ha] at hc
        simpa using hc
      · exact hc.1
    | false =>
      cases hf : firstFree b.g with
      | none => exact h.refuse trylock ha hf
      | some c =>
        rcases hc with hc | ⟨_, hc⟩
        · exact h.store trylock ha (hc.mpr ha) hf
        · rw [firstFree_eq_none.mpr hc] at hf
          cases hf

/-- A wake-up that is not clean breaks the property: it loses the waiting message, or stores one that is not fresh. -/
theorem Inv.clean {b b' : Bus} {a : BusAct} (h : Inv b) (hs : Bus.step b a = some b') (hp : ExactlyOnce b') : CleanWake b a := by
  cases a with
  | tick => trivial
  | broadcast sender outport => trivial
  | wake trylock =>
    cases hs
    by_contra hc
    simp only [CleanWake, not_or, not_and] at hc
    obtain ⟨hc1, hc2⟩ := hc
    cases ha : b.g.alarms.AlarmSignal handlerAlarm with
    | true =>
      have ho : b.g.msg_context.occupied = true := by
        rw [ha] at hc1
        simpa using hc1
      obtain ⟨hr, _⟩ := wake_skip ha
      have hh : b.handled = b.accepted - 1 := by simp only [handled, ho, if_true]
      have h1 := (h.waiting ho).1
      rw [hr] at hp
      rcases hp.once b.accepted h1 (Nat.le_refl _) (fun hpend => by simp [Pending] at hpend) with hn | ⟨_, hn⟩
      · have := h.stored_le _ (List.count_pos_iff.mp (hn ▸ Nat.one_pos))
        omega
      · have := h.refused_le _ hn
        simp only at this
        omega
    | false =>
      have ho : b.g.msg_context.occupied = false := by
        rw [ha] at hc1
        simpa using hc1
      cases hf : firstFree b.g with
      | none => exact hc2 ho (firstFree_eq_none.mp hf)
      | some c =>
        obtain ⟨hr, _⟩ := wake_store ha hf
        rw [hr] at hp
        obtain ⟨hf1, _, hf2⟩ := hp.fresh b.g.msg_context.holder (by simp)
        rcases h.idle ho with h0 | h0
        · omega
        · simp only [List.count_append, List.count_singleton_self] at hf2
          have := List.count_pos_iff.mpr h0
          omega

end Bus

/-! ## Every run -/

/-- Over any interleaving of broadcasts, wake-ups and ticks: every accepted message is stored in the queue exactly once, or
refused by a full one, and nothing else is ever stored, exactly when every wake-up of the handler is a clean one. -/
theorem queued_exactly_once_iff (front : Nat → Nat × Nat) (acts : List BusAct) :
    Always Bus.step Bus.ExactlyOnce (Bus.init front) acts ↔ Along Bus.step Bus.CleanWake (Bus.init front) acts :=
  always_iff_along (I := Bus.Inv) (fun _ h => h.exactlyOnce) (fun _ _ _ h hc hs => h.step hc hs)
    (fun _ _ _ h hs hp => h.clean hs hp) (Bus.inv_init front)

/-- A message is held back by a locked receiver and the handler asks for an alarm; the alarm goes off after the second message
was accepted and before the wake-up that its broadcast signalled. -/
def alarmAfterBroadcast : List BusAct :=
  [.broadcast (IPTask_id 1) Out1, .wake (fun _ => false), .tick, .tick, .broadcast (IPTask_id 2) Out1, .wake (fun _ => true)]

/-- The second message is lost: the queue had three free slots, and it was neither stored nor refused. -/
theorem not_queued_exactly_once : ¬∀ acts, Always Bus.step Bus.ExactlyOnce (Bus.init fun _ => (0, 0)) acts := by
  intro h
  have hrun : (run Bus.step (Bus.init fun _ => (0, 0)) alarmAfterBroadcast).map
      (fun b => (b.accepted, b.stored, b.refused, b.g.msg_context.occupied)) = some (2, [1], [], false) := by
    rfl
  obtain ⟨b, hb, he⟩ := Option.map_eq_some_iff.mp hrun
  simp only [Prod.mk.injEq] at he
  obtain ⟨h1, h2, h3, h4⟩ := he
  have hb' := always_iff_beginning.mp (h alarmAfterBroadcast) alarmAfterBroadcast [] b (by simp) hb
  have hp : ¬b.Pending 2 := by simp [Bus.Pending, h4]
  rcases hb'.once 2 (by decide) (Nat.le_of_eq h1.symm) hp with hc | ⟨_, hc⟩
  · rw [h2] at hc
    exact absurd hc (by decide)
  · rw [h3] at hc
    cases hc

end HomeBridge
