import HomeBridge.Hpd.EventQueue

/-!
# Taking events out of a queue

`dequeue_event` looks once whether the queue is empty, and waits if it is. Who comes back from the wait takes the first event: nobody
looks again. Any number of threads wait at one queue here, the global one or a session's, where each has a connection, old or new; each
section under the mutex is one step, and a wait may end at any time, as POSIX allows.
-/

namespace HomeBridge.Hpd

open Runs

/-- A thread in the wait of `dequeue_event`: the connection it was called for, and whether a broadcast has reached it. -/
structure Waiter where
  connection_id : Option Nat
  signalled : Bool

/-- A queue, the threads that wait for it, and how many connection IDs have been generated. -/
structure Waits where
  queue : EventQueue
  waiter : Nat → Option Waiter
  issued : Nat

/-- The sections under the mutex. -/
inductive WaitsAct where
  | queue_event (event : Event)
  | dequeue_event (thread : Nat) (connection_id : Option Nat)
  | wake (thread : Nat)
  | exit_event_queue
  | set_up_server_sent_event_connection

namespace Waits

/-- `is_global_queue`, as it is passed. -/
def flag (is_global_queue : Bool) : Int := if is_global_queue then HPD_YES else HPD_NO

variable (is_global_queue : Bool)

/-- The queue before anything is done with it. The global one takes log events from the beginning. -/
def start : Waits where
  queue := if is_global_queue then { create_event_queue with send_log_events := HPD_YES } else create_event_queue
  waiter := fun _ => none
  issued := 0

/-- Who calls `dequeue_event`: the consumer of the global queue without a connection, the callback of a connection with it. -/
def Caller (s : Waits) : Option Nat → Prop
  | none => is_global_queue = true
  | some c => is_global_queue = false ∧ c < s.issued

instance (s : Waits) : ∀ c, Decidable (s.Caller is_global_queue c)
  | none => inferInstanceAs (Decidable (_ = _))
  | some _ => inferInstanceAs (Decidable (_ ∧ _))

/-- A broadcast reaches the threads that wait. -/
def broadcast (s : Waits) (woken : Bool) : Nat → Option Waiter :=
  if woken then fun t => (s.waiter t).map fun w => { w with signalled := true } else s.waiter

/-- One section. Neither a thread that is not there nor `DL_DELETE` on an empty list has a result. -/
def step (s : Waits) : WaitsAct → Option Waits
  | .queue_event event =>
    let r := Hpd.queue_event s.queue event (flag is_global_queue)
    some { s with queue := r.1, waiter := s.broadcast r.2 }
  | .dequeue_event t c =>
    if s.Caller is_global_queue c ∧ s.waiter t = none then
      (Hpd.dequeue_event s.queue c (flag is_global_queue)).map fun r =>
        { s with queue := r.1, waiter := if r.2.isSome then s.waiter else Function.update s.waiter t (some ⟨c, false⟩) }
    else none
  | .wake t => (s.waiter t).bind fun w => (dequeue_wake s.queue w.connection_id (flag is_global_queue)).map fun r =>
      { s with queue := r.1, waiter := Function.update s.waiter t none }
  | .exit_event_queue =>
    let r := Hpd.exit_event_queue s.queue
    some { s with queue := r.1, waiter := s.broadcast r.2 }
  | .set_up_server_sent_event_connection =>
    if is_global_queue then none
    else
      let r := Hpd.set_up_server_sent_event_connection s.queue s.issued
      some { queue := r.1, waiter := s.broadcast r.2, issued := s.issued + 1 }

/-- What `dequeue_event` does behind its emptiness test has a result, and an event it returns was the head of the queue. -/
def Takes (s : Waits) (r : Option (EventQueue × Option Event)) : Prop :=
  ∃ q e, r = some (q, e) ∧ ∀ event, e = some event → s.queue.event_queue_head.head? = some event

/-- A section takes only what is there. -/
def Sound (s : Waits) : WaitsAct → Prop
  | .dequeue_event _ c => s.Caller is_global_queue c → s.queue.event_queue_head ≠ [] →
    s.Takes (dequeue_rest s.queue c (flag is_global_queue))
  | .wake t => ∀ w, s.waiter t = some w → s.Takes (dequeue_wake s.queue w.connection_id (flag is_global_queue))
  | _ => True

/-- A caller for another connection than the queue's is turned away, and so is everybody at the exit. -/
def TurnedAway (s : Waits) (connection_id : Option Nat) : Prop :=
  s.queue.exit = HPD_YES ∨ is_global_queue = false ∧ s.queue.connection_id ≠ connection_id

instance (s : Waits) (c : Option Nat) : Decidable (s.TurnedAway is_global_queue c) := inferInstanceAs (Decidable (_ ∨ _ ∧ _))

/-- Who comes back from the wait is turned away, or finds an event. -/
def FindsEvent (s : Waits) : WaitsAct → Prop
  | .wake t => ∀ w, s.waiter t = some w → s.TurnedAway is_global_queue w.connection_id ∨ s.queue.event_queue_head ≠ []
  | _ => True

/-- No wait ends without a broadcast, and no two threads are in `dequeue_event` for one connection, or for the global queue. -/
def Orderly (s : Waits) : WaitsAct → Prop
  | .wake t => ∀ w, s.waiter t = some w → w.signalled = true
  | .dequeue_event _ c => ∀ t w, s.waiter t = some w → w.connection_id ≠ c
  | _ => True

/-- The threads that wait are callers of the queue, and a session's queue has had a connection before it is asked for events. -/
structure Inv (s : Waits) : Prop where
  callers : ∀ t w, s.waiter t = some w → s.Caller is_global_queue w.connection_id
  connected : ∀ c, s.Caller is_global_queue (some c) → s.queue.connection_id ≠ none

theorem inv_start : (start is_global_queue).Inv is_global_queue where
  callers _ _ hw := absurd hw.symm (Option.some_ne_none _)
  connected c hc := absurd hc.2 (Nat.not_lt_zero c)

variable {is_global_queue} {s s' : Waits}

/-! ## Behind the wait -/

/-- A caller that is not turned away takes the first event. -/
theorem dequeue_rest_eq (h : s.Inv is_global_queue) {c : Option Nat} (hc : s.Caller is_global_queue c) {q : EventQueue}
    (hid : q.connection_id = s.queue.connection_id) (hexit : q.exit = s.queue.exit) :
    dequeue_rest q c (flag is_global_queue) = if s.TurnedAway is_global_queue c then some (q, none) else
      match q.event_queue_head with
      | [] => none
      | event :: rest => some ({ q with event_queue_head := rest }, some event) := by
  have hhead (hnot : ¬(is_global_queue = false ∧ s.queue.connection_id ≠ c)) : dequeue_head q =
      if s.TurnedAway is_global_queue c then some (q, none) else
        match q.event_queue_head with
        | [] => none
        | event :: rest => some ({ q with event_queue_head := rest }, some event) := by
    have hiff : q.exit = HPD_YES ↔ s.TurnedAway is_global_queue c := by
      rw [hexit]
      exact (or_iff_left hnot).symm
    rw [dequeue_head]
    by_cases hq : q.exit = HPD_YES
    · rw [if_pos hq, if_pos (hiff.mp hq)]
    · exact (if_neg hq).trans (if_neg (mt hiff.mpr hq)).symm
  cases c with
  | none =>
    have hg : is_global_queue = true := hc
    exact hhead fun hno => absurd (hg.symm.trans hno.1) Bool.false_ne_true.symm
  | some c =>
    obtain ⟨hg, hlt⟩ := id hc
    obtain ⟨d, hd⟩ := Option.ne_none_iff_exists'.mp (h.connected c hc)
    have hflag : flag is_global_queue = HPD_NO := by rw [hg]; rfl
    have hrest : dequeue_rest q (some c) (flag is_global_queue) = if d ≠ c then some (q, none) else dequeue_head q := by
      rw [dequeue_rest, if_pos hflag, hid, hd]
    rw [hrest]
    by_cases hdc : d = c
    · rw [if_neg (not_not.mpr hdc)]
      exact hhead fun hno => hno.2 (hdc ▸ hd)
    · have hturned : s.TurnedAway is_global_queue (some c) :=
        .inr ⟨hg, fun he => hdc (Option.some.inj (hd.symm.trans he))⟩
      rw [if_pos hdc, if_pos hturned]

/-- So it takes only what is there if there is something, or if it is turned away. -/
theorem takes_iff (h : s.Inv is_global_queue) {c : Option Nat} (hc : s.Caller is_global_queue c) {q : EventQueue}
    (hid : q.connection_id = s.queue.connection_id) (hexit : q.exit = s.queue.exit)
    (hevents : q.event_queue_head = s.queue.event_queue_head) : s.Takes (dequeue_rest q c (flag is_global_queue)) ↔
      s.TurnedAway is_global_queue c ∨ s.queue.event_queue_head ≠ [] := by
  rw [dequeue_rest_eq h hc hid hexit, hevents]
  by_cases hturned : s.TurnedAway is_global_queue c
  · rw [if_pos hturned]
    exact iff_of_true ⟨q, none, rfl, fun event he => absurd he (Option.some_ne_none event).symm⟩ (.inl hturned)
  · rw [if_neg hturned, or_iff_right hturned, Takes]
    cases s.queue.event_queue_head with
    | nil => exact iff_of_false (fun ⟨_, _, hnone, _⟩ => absurd hnone.symm (Option.some_ne_none _)) fun hne => hne rfl
    | cons event rest => exact iff_of_true ⟨_, _, rfl, fun _ he => he⟩ (List.cons_ne_nil _ _)

/-- A section takes only what is there exactly if who comes back from the wait finds an event, or is turned away. -/
theorem sound_iff (h : s.Inv is_global_queue) (a : WaitsAct) : s.Sound is_global_queue a ↔ s.FindsEvent is_global_queue a := by
  cases a with
  | dequeue_event t c => exact iff_of_true (fun hc hne => (takes_iff h hc rfl rfl rfl).mpr (.inr hne)) trivial
  | wake t => exact forall_congr' fun w => forall_congr' fun hw => takes_iff h (h.callers t w hw) rfl rfl rfl
  | queue_event | exit_event_queue | set_up_server_sent_event_connection => exact Iff.rfl

/-! ## One section -/

/-- A thread that waits after a broadcast did so before. -/
theorem broadcast_eq_some {woken : Bool} {t : Nat} {w : Waiter} (hw : s.broadcast woken t = some w) :
    ∃ w₀, s.waiter t = some w₀ ∧ w.connection_id = w₀.connection_id ∧ (w.signalled = true → woken = true ∨ w₀.signalled = true) := by
  cases woken with
  | false => exact ⟨w, hw, rfl, .inr⟩
  | true =>
    obtain ⟨w₀, hw₀, rfl⟩ := Option.map_eq_some_iff.mp hw
    exact ⟨w₀, hw₀, rfl, fun _ => .inl rfl⟩

/-- What is left of the queue behind the wait. -/
theorem dequeue_rest_left (h : s.Inv is_global_queue) {c : Option Nat} (hc : s.Caller is_global_queue c) {q q' : EventQueue}
    {e : Option Event} (hid : q.connection_id = s.queue.connection_id) (hexit : q.exit = s.queue.exit)
    (hrest : dequeue_rest q c (flag is_global_queue) = some (q', e)) :
    q'.connection_id = s.queue.connection_id ∧ q'.exit = s.queue.exit ∧
      (q'.event_queue_head = q.event_queue_head ∨ ¬s.TurnedAway is_global_queue c) := by
  rw [dequeue_rest_eq h hc hid hexit] at hrest
  split at hrest
  · cases hrest
    exact ⟨hid, hexit, .inl rfl⟩
  · rename_i hturned
    split at hrest
    · cases hrest
    · cases hrest
      exact ⟨hid, hexit, .inr hturned⟩

/-- The queue after a section that wakes those it wakes for an event, or for the exit. -/
structure Kept (s : Waits) (q : EventQueue) (woken : Bool) : Prop where
  connection : q.connection_id = s.queue.connection_id
  exit : s.queue.exit = HPD_YES → q.exit = HPD_YES
  events : s.queue.event_queue_head ≠ [] → q.event_queue_head ≠ []
  wakes : woken = true → q.exit = HPD_YES ∨ q.event_queue_head ≠ []

theorem kept_queue_event (s : Waits) (event : Event) (g : Int) :
    s.Kept (Hpd.queue_event s.queue event g).1 (Hpd.queue_event s.queue event g).2 := by
  rcases queue_event_cases s.queue event g with he | he
  · rw [he]
    exact ⟨rfl, id, id, fun hw => absurd hw Bool.false_ne_true⟩
  · rw [he]
    have hne : s.queue.event_queue_head ++ [event] ≠ [] := List.append_ne_nil_of_right_ne_nil _ (List.cons_ne_nil _ _)
    exact ⟨rfl, id, fun _ => hne, fun _ => .inr hne⟩

theorem kept_exit_event_queue (s : Waits) : s.Kept (Hpd.exit_event_queue s.queue).1 (Hpd.exit_event_queue s.queue).2 :=
  ⟨rfl, fun _ => rfl, id, fun _ => .inl rfl⟩

/-- The sections: one that leaves the connection, one that stores a new one, one that begins to wait, and one that comes to its end. -/
theorem step_cases (h : s.Inv is_global_queue) {a : WaitsAct} (hs : step is_global_queue s a = some s') :
    (∃ q woken, s' = { s with queue := q, waiter := s.broadcast woken } ∧ s.Kept q woken) ∨
    (∃ q woken, s' = { queue := q, waiter := s.broadcast woken, issued := s.issued + 1 } ∧ is_global_queue = false ∧
      q.connection_id = some s.issued) ∨
    (∃ t c, a = .dequeue_event t c ∧ s.Caller is_global_queue c ∧ s.queue.event_queue_head = [] ∧
      s' = { s with queue := { s.queue with is_waiting := HPD_YES }, waiter := Function.update s.waiter t (some ⟨c, false⟩) }) ∨
    ∃ c q waiter, s.Caller is_global_queue c ∧ s' = { s with queue := q, waiter := waiter } ∧
      q.connection_id = s.queue.connection_id ∧ q.exit = s.queue.exit ∧
      (q.event_queue_head = s.queue.event_queue_head ∨ ¬s.TurnedAway is_global_queue c) ∧
      ((∃ t, a = .dequeue_event t c ∧ waiter = s.waiter) ∨
        ∃ t w, a = .wake t ∧ s.waiter t = some w ∧ w.connection_id = c ∧ waiter = Function.update s.waiter t none) := by
  cases a with
  | queue_event event =>
    cases hs
    exact .inl ⟨_, _, rfl, kept_queue_event s event _⟩
  | exit_event_queue =>
    cases hs
    exact .inl ⟨_, _, rfl, kept_exit_event_queue s⟩
  | set_up_server_sent_event_connection =>
    rw [step] at hs
    split at hs
    · cases hs
    · rename_i hg
      cases hs
      exact .inr (.inl ⟨_, _, rfl, Bool.eq_false_iff.mpr hg, rfl⟩)
  | dequeue_event t c =>
    rw [step] at hs
    split at hs
    · rename_i hc
      obtain ⟨r, hr, rfl⟩ := Option.map_eq_some_iff.mp hs
      unfold Hpd.dequeue_event at hr
      split at hr
      · rename_i hq
        cases hr
        exact .inr (.inr (.inl ⟨t, c, rfl, hc.1, hq, rfl⟩))
      · obtain ⟨⟨q, e⟩, hrest, rfl⟩ := Option.map_eq_some_iff.mp hr
        obtain ⟨hid, hexit, hevents⟩ := dequeue_rest_left h hc.1 rfl rfl hrest
        exact .inr (.inr (.inr ⟨c, q, s.waiter, hc.1, rfl, hid, hexit, hevents, .inl ⟨t, rfl, rfl⟩⟩))
    · cases hs
  | wake t =>
    obtain ⟨w, hw, hs⟩ := Option.bind_eq_some_iff.mp hs
    obtain ⟨⟨q, e⟩, hrest, rfl⟩ := Option.map_eq_some_iff.mp hs
    obtain ⟨hid, hexit, hevents⟩ := dequeue_rest_left h (h.callers t w hw) (q := { s.queue with is_waiting := HPD_NO }) rfl rfl hrest
    exact .inr (.inr (.inr ⟨_, q, _, h.callers t w hw, rfl, hid, hexit, hevents, .inr ⟨t, w, rfl, hw, rfl, rfl⟩⟩))

/-- Where a caller of one queue is one of another. -/
theorem Caller.mono {c : Option Nat} (hc : s.Caller is_global_queue c) (hi : s.issued ≤ s'.issued) : s'.Caller is_global_queue c := by
  cases c with
  | none => exact hc
  | some c => exact ⟨hc.1, Nat.lt_of_lt_of_le hc.2 hi⟩

/-- Whoever waits after a thread has come or gone waited before, unless it is the one that has come. -/
theorem update_waiter {t t' : Nat} {v : Option Waiter} {w : Waiter} (hw : Function.update s.waiter t v t' = some w) :
    t' = t ∧ v = some w ∨ t' ≠ t ∧ s.waiter t' = some w := by
  by_cases ht : t' = t
  · subst ht
    rw [Function.update_self] at hw
    exact .inl ⟨rfl, hw⟩
  · rw [Function.update_of_ne ht] at hw
    exact .inr ⟨ht, hw⟩

/-- The step lemma: a section keeps the callers those of the queue. -/
theorem Inv.step (h : s.Inv is_global_queue) {a : WaitsAct} (hs : Waits.step is_global_queue s a = some s') :
    s'.Inv is_global_queue := by
  rcases step_cases h hs with ⟨q, woken, rfl, hkept⟩ | ⟨q, woken, rfl, hg, hid⟩ | ⟨t, c, -, hc, -, rfl⟩ |
    ⟨c, q, waiter, hc, rfl, hid, -, -, hwaiter⟩
  · refine ⟨fun t w hw => ?_, fun c hc => ?_⟩
    · obtain ⟨w₀, hw₀, he, -⟩ := broadcast_eq_some hw
      rw [he]
      exact h.callers t w₀ hw₀
    · rw [hkept.connection]
      exact h.connected c hc
  · refine ⟨fun t w hw => ?_, fun c _ => ?_⟩
    · obtain ⟨w₀, hw₀, he, -⟩ := broadcast_eq_some hw
      rw [he]
      exact (h.callers t w₀ hw₀).mono (Nat.le_succ _)
    · rw [hid]
      exact Option.some_ne_none _
  · refine ⟨fun t' w hw => ?_, h.connected⟩
    rcases update_waiter hw with ⟨-, he⟩ | ⟨-, hw⟩
    · cases he
      exact hc
    · exact h.callers t' w hw
  · refine ⟨fun t' w hw => ?_, fun c hc => ?_⟩
    · rcases hwaiter with ⟨-, -, rfl⟩ | ⟨t, -, -, -, -, rfl⟩
      · exact h.callers t' w hw
      · rcases update_waiter hw with ⟨-, he⟩ | ⟨-, hw⟩
        · exact absurd he.symm (Option.some_ne_none w)
        · exact h.callers t' w hw
    · rw [hid]
      exact h.connected c hc

/-! ## Threads that are woken only by broadcasts -/

/-- A thread that a broadcast has reached is turned away or finds an event, and no two wait for one connection. -/
structure Ordered (is_global_queue : Bool) (s : Waits) : Prop where
  inv : s.Inv is_global_queue
  signalled : ∀ t w, s.waiter t = some w → w.signalled = true →
    s.TurnedAway is_global_queue w.connection_id ∨ s.queue.event_queue_head ≠ []
  apart : ∀ t t' w w', s.waiter t = some w → s.waiter t' = some w' → w.connection_id = w'.connection_id → t = t'

theorem ordered_start : (start is_global_queue).Ordered is_global_queue :=
  ⟨inv_start is_global_queue, fun _ _ hw => absurd hw.symm (Option.some_ne_none _),
    fun _ _ _ _ hw => absurd hw.symm (Option.some_ne_none _)⟩

/-- While one caller is let in, a caller for another connection is turned away. -/
theorem turnedAway_of_ne {c d : Option Nat} (hc : s.Caller is_global_queue c) (hd : s.Caller is_global_queue d) (hne : d ≠ c)
    (hin : ¬s.TurnedAway is_global_queue c) : s.TurnedAway is_global_queue d := by
  cases hg : is_global_queue with
  | true =>
    subst hg
    cases c with
    | some c => exact absurd hc.1 (by decide)
    | none =>
      cases d with
      | some d => exact absurd hd.1 (by decide)
      | none => exact absurd rfl hne
  | false =>
    have hid : s.queue.connection_id = c := by
      by_contra hid
      exact hin (.inr ⟨hg, hid⟩)
    exact .inr ⟨rfl, fun he => hne (he.symm.trans hid)⟩

/-- A section keeps that, if no wait ends without a broadcast and no two threads wait for one connection. -/
theorem Ordered.step (h : s.Ordered is_global_queue) {a : WaitsAct} (ha : s.Orderly a)
    (hs : Waits.step is_global_queue s a = some s') : s'.Ordered is_global_queue := by
  have hinv := h.inv.step hs
  rcases step_cases h.inv hs with ⟨q, woken, rfl, hkept⟩ | ⟨q, woken, rfl, hg, hid⟩ | ⟨t, c, rfl, -, hempty, rfl⟩ |
    ⟨c, q, waiter, hc, rfl, hid, hexit, hevents, hwaiter⟩
  · refine ⟨hinv, fun t w hw hsig => ?_, fun t t' w w' hw hw' he => ?_⟩
    · obtain ⟨w₀, hw₀, he, hsig₀⟩ := broadcast_eq_some hw
      rcases hsig₀ hsig with hwoken | hsig
      · exact (hkept.wakes hwoken).imp .inl id
      · rw [he]
        exact (h.signalled t w₀ hw₀ hsig).imp (fun hturned => hturned.imp hkept.exit fun hno => ⟨hno.1, hkept.connection ▸ hno.2⟩)
          hkept.events
    · obtain ⟨w₀, hw₀, he₀, -⟩ := broadcast_eq_some hw
      obtain ⟨w₁, hw₁, he₁, -⟩ := broadcast_eq_some hw'
      exact h.apart t t' w₀ w₁ hw₀ hw₁ (he₀.symm.trans (he.trans he₁))
  · refine ⟨hinv, fun t w hw _ => .inl (.inr ⟨hg, fun he => ?_⟩), fun t t' w w' hw hw' he => ?_⟩
    · -- those that wait have older connections
      obtain ⟨w₀, hw₀, he₀, -⟩ := broadcast_eq_some hw
      have hcaller := h.inv.callers t w₀ hw₀
      rw [he₀.symm.trans (he.symm.trans hid)] at hcaller
      exact absurd hcaller.2 (Nat.lt_irrefl _)
    · obtain ⟨w₀, hw₀, he₀, -⟩ := broadcast_eq_some hw
      obtain ⟨w₁, hw₁, he₁, -⟩ := broadcast_eq_some hw'
      exact h.apart t t' w₀ w₁ hw₀ hw₁ (he₀.symm.trans (he.trans he₁))
  · refine ⟨hinv, fun t' w hw hsig => ?_, fun t₁ t₂ w₁ w₂ hw₁ hw₂ he => ?_⟩
    · rcases update_waiter hw with ⟨-, he⟩ | ⟨-, hw⟩
      · cases he
        exact absurd hsig Bool.false_ne_true
      · exact h.signalled t' w hw hsig
    · rcases update_waiter hw₁ with ⟨ht₁, he₁⟩ | ⟨-, hw₁⟩ <;> rcases update_waiter hw₂ with ⟨ht₂, he₂⟩ | ⟨-, hw₂⟩
      · rw [ht₁, ht₂]
      · cases he₁
        exact absurd he.symm (ha t₂ w₂ hw₂)
      · cases he₂
        exact absurd he (ha t₁ w₁ hw₁)
      · exact h.apart t₁ t₂ w₁ w₂ hw₁ hw₂ he
  · -- those that still wait do so for other connections
    have hothers : ∀ t' w, waiter t' = some w → s.waiter t' = some w ∧ w.connection_id ≠ c := by
      intro t' w hw
      rcases hwaiter with ⟨t, rfl, rfl⟩ | ⟨t, w₀, rfl, hw₀, rfl, rfl⟩
      · exact ⟨hw, ha t' w hw⟩
      · rcases update_waiter hw with ⟨-, he⟩ | ⟨ht, hw⟩
        · exact absurd he.symm (Option.some_ne_none w)
        · exact ⟨hw, fun he => ht (h.apart t' t w w₀ hw hw₀ he)⟩
    refine ⟨hinv, fun t' w hw hsig => ?_, fun t₁ t₂ w₁ w₂ hw₁ hw₂ he => ?_⟩
    · obtain ⟨hw, hne⟩ := hothers t' w hw
      have hsame : s.TurnedAway is_global_queue w.connection_id ↔
          TurnedAway is_global_queue { s with queue := q, waiter := waiter } w.connection_id := by
        unfold TurnedAway
        rw [hid, hexit]
      rw [← hsame]
      rcases hevents with hevents | hin
      · rw [hevents]
        exact h.signalled t' w hw hsig
      · exact .inl (turnedAway_of_ne hc (h.inv.callers t' w hw) hne hin)
    · exact h.apart t₁ t₂ w₁ w₂ (hothers t₁ w₁ hw₁).1 (hothers t₂ w₂ hw₂).1 he

/-- In a run of that kind everybody finds an event, or is turned away. -/
theorem sound_of_orderly {acts : List WaitsAct} (h : AtEach (Waits.step is_global_queue) Orderly (start is_global_queue) acts) :
    AtEach (Waits.step is_global_queue) (Sound is_global_queue) (start is_global_queue) acts := by
  have hiff : AtEach (Waits.step is_global_queue) (fun s a => Orderly s a ∧ Sound is_global_queue s a) (start is_global_queue) acts ↔
      AtEach (Waits.step is_global_queue) Orderly (start is_global_queue) acts :=
    atEach_iff (fun s a hs => and_iff_left_of_imp fun ha => ?_) (fun _ _ _ hs ha hstep => Ordered.step hs ha hstep) ordered_start
  · intro pre a post t his hr
    exact (hiff.mpr h pre a post t his hr).2
  · refine (sound_iff hs.inv a).mpr ?_
    cases a with
    | wake t => exact fun w hw => hs.signalled t w hw (ha w hw)
    | queue_event | dequeue_event | exit_event_queue | set_up_server_sent_event_connection => trivial

end Waits

open Waits in
/-- In every run of the threads at the global queue, or at a session's, `dequeue_event` takes only what is there, and that is the head of
the queue, exactly if whoever comes back from the wait finds an event or is turned away. It is so where waits end by broadcasts only and
no two threads wait for one connection: the defect is in the wait that ends by itself. -/
theorem dequeue_sound_iff (is_global_queue : Bool) (acts : List WaitsAct) :
    (AtEach (step is_global_queue) (Sound is_global_queue) (start is_global_queue) acts ↔
      AtEach (step is_global_queue) (FindsEvent is_global_queue) (start is_global_queue) acts) ∧
    (AtEach (step is_global_queue) Waits.Orderly (start is_global_queue) acts →
      AtEach (step is_global_queue) (Sound is_global_queue) (start is_global_queue) acts) :=
  ⟨atEach_iff (fun _ a h => sound_iff h a) (fun _ _ _ h _ hs => h.step hs) (inv_start is_global_queue), sound_of_orderly⟩

/-- The consumer of the global queue waits, and its wait ends by itself. -/
def spuriousWake : List WaitsAct := [.dequeue_event 0 none, .wake 0]

/-- There is nothing to take. -/
theorem not_dequeue_sound : ¬∀ (is_global_queue : Bool) (acts : List WaitsAct),
    AtEach (Waits.step is_global_queue) (Waits.Sound is_global_queue) (Waits.start is_global_queue) acts := by
  intro h
  have hsound := h true spuriousWake [.dequeue_event 0 none] (.wake 0) [] _ rfl rfl
  obtain ⟨q, e, hrest, -⟩ := hsound ⟨none, false⟩ rfl
  exact absurd hrest.symm (Option.some_ne_none _)

end HomeBridge.Hpd
