import Mathlib.Logic.Function.Basic
import HomeBridge.Lib.Run
import HomeBridge.Hpd.Services

/-!
# Events and event queues

`hpd_events.c`, and what `hpd_server_sent_events.c` does to one queue. The server has one global queue and a queue for each
session; threads meet at a queue's mutex, and each section under it is one step here. A thread that finds the queue empty waits for
a broadcast; `pthread_cond_wait` may also return without one. A session's connection comes and goes: each new one gets an ID of its
own (a uuid; they are numbered here), and the thread that served the old one finds out when it wakes.

The blocks the code allocates are taken to be there.
-/

namespace HomeBridge.Hpd

open Runs

@[simp] def HPD_WAIT_FOR_TIMEOUT : Int := 3
@[simp] def HPD_E_NOT_HPD_BOOLEAN : Int := -47

/-- An event: the URL of a service, or `Log`, and its data. -/
structure Event where
  id : String
  data : List UInt8

/-- A service whose events a queue takes, and whether it is there. -/
structure ServiceId where
  id : String
  available : Int

/-- An event queue. -/
structure EventQueue where
  connection_id : Option Nat
  event_queue_head : List Event
  service_id_head : List ServiceId
  send_log_events : Int
  exit : Int
  is_waiting : Int

/-- `create_event_queue`. -/
def create_event_queue : EventQueue := ⟨none, [], [], HPD_NO, HPD_NO, HPD_NO⟩

/-- The section of `exit_event_queue`: the queue, and whether the threads that wait for it are woken. -/
def exit_event_queue (event_queue : EventQueue) : EventQueue × Bool :=
  ({ event_queue with exit := HPD_YES }, decide (event_queue.is_waiting = HPD_YES))

/-- `queue_event`: the queue, and whether the threads that wait for it are woken. -/
def queue_event (event_queue : EventQueue) (event : Event) (is_global_queue : Int) : EventQueue × Bool :=
  if event.id = "Log" ∧ event_queue.send_log_events = HPD_NO then (event_queue, false)
  else if (HPD_NO = is_global_queue ∧ event.id ≠ "Log") ∧ ¬event_queue.service_id_head.any (fun iterator => iterator.id == event.id)
    then (event_queue, false)
  else
    ({ event_queue with event_queue_head := event_queue.event_queue_head ++ [event] },
      decide (event_queue.is_waiting = HPD_YES ∧ is_global_queue = HPD_YES) ||
        decide (event_queue.is_waiting = HPD_YES ∧ is_global_queue = HPD_NO) && event_queue.connection_id.isSome)

/-- The end of `dequeue_event`: nothing at the exit, else the first event. `DL_DELETE` has no result on an empty list. -/
def dequeue_head (event_queue : EventQueue) : Option (EventQueue × Option Event) :=
  if event_queue.exit = HPD_YES then some (event_queue, none)
  else match event_queue.event_queue_head with
    | [] => none
    | event_to_dequeue :: rest => some ({ event_queue with event_queue_head := rest }, some event_to_dequeue)

/-- The part of `dequeue_event` behind the wait: a connection that has lost the queue gets nothing. A queue without a connection has
no string to compare with. -/
def dequeue_rest (event_queue : EventQueue) (connection_id : Option Nat) (is_global_queue : Int) :
    Option (EventQueue × Option Event) :=
  match connection_id with
  | some c =>
    if is_global_queue = HPD_NO then
      match event_queue.connection_id with
      | none => none
      | some d => if d ≠ c then some (event_queue, none) else dequeue_head event_queue
    else dequeue_head event_queue
  | none => dequeue_head event_queue

/-- `dequeue_event` up to its wait: an empty queue is waited for, another one is served at once. -/
def dequeue_event (event_queue : EventQueue) (connection_id : Option Nat) (is_global_queue : Int) :
    Option (EventQueue × Option (Option Event)) :=
  match event_queue.event_queue_head with
  | [] => some ({ event_queue with is_waiting := HPD_YES }, none)
  | _ :: _ => (dequeue_rest event_queue connection_id is_global_queue).map fun (q, e) => (q, some e)

/-- `dequeue_event` from its wake-up on. -/
def dequeue_wake (event_queue : EventQueue) (connection_id : Option Nat) (is_global_queue : Int) :
    Option (EventQueue × Option Event) :=
  dequeue_rest { event_queue with is_waiting := HPD_NO } connection_id is_global_queue

/-- `wait_for_timeout` up to its wait. -/
def wait_for_timeout (event_queue : EventQueue) : EventQueue := { event_queue with is_waiting := HPD_WAIT_FOR_TIMEOUT }

/-- `wait_for_timeout` from its wake-up on. -/
def wait_for_timeout_wake (event_queue : EventQueue) : EventQueue := { event_queue with is_waiting := HPD_NO }

/-- The section of `set_up_server_sent_event_connection`: the queue, and whether the threads that wait for it are woken. -/
def set_up_server_sent_event_connection (event_queue : EventQueue) (new_connection_id : Nat) : EventQueue × Bool :=
  ({ event_queue with connection_id := some new_connection_id },
    decide (event_queue.is_waiting > HPD_NO) && event_queue.connection_id.isSome)

/-- `is_queue_subscribed_to_service`. -/
def is_queue_subscribed_to_service (event_queue : EventQueue) (URL : String) : Int :=
  if event_queue.service_id_head.any fun iterator => URL == iterator.id then HPD_YES else HPD_NO

/-- `add_service_id_to_queue`, of the element `create_service_id` makes. -/
def add_service_id_to_queue (id : String) (event_queue : EventQueue) : EventQueue :=
  { event_queue with service_id_head := event_queue.service_id_head ++ [⟨id, HPD_YES⟩] }

/-- `remove_service_id_from_queue`. -/
def remove_service_id_from_queue (URL : String) (event_queue : EventQueue) : EventQueue :=
  { event_queue with service_id_head := event_queue.service_id_head.eraseP fun iterator => iterator.id == URL }

/-- `set_availability_of_service`: the first element of the service is marked, if it has one. -/
def set_availability_of_service (URL : String) (event_queue : EventQueue) (availability : Int) : Int × EventQueue :=
  if availability ≠ HPD_YES ∧ availability ≠ HPD_NO then (HPD_E_NOT_HPD_BOOLEAN, event_queue)
  else match event_queue.service_id_head.findIdx? fun iterator => URL == iterator.id with
  | some i => (HPD_YES, { event_queue with
      service_id_head := event_queue.service_id_head.modify i fun iterator => { iterator with available := availability } })
  | none => (HPD_NO, event_queue)

/-- The section of `subscribe_to_log_events`. -/
def subscribe_to_log_events (event_queue : EventQueue) : EventQueue :=
  { event_queue with send_log_events := if event_queue.send_log_events = HPD_YES then HPD_NO else HPD_YES }

/-! ## What the sections do to the list of events -/

/-- The queue takes the event: it has subscribed to its service, or to the log. -/
def EventQueue.Wants (event_queue : EventQueue) (event : Event) : Prop :=
  if event.id = "Log" then event_queue.send_log_events = HPD_YES
  else ∃ service_id ∈ event_queue.service_id_head, service_id.id = event.id

instance (event_queue : EventQueue) (event : Event) : Decidable (event_queue.Wants event) := by
  unfold EventQueue.Wants
  infer_instance

/-- `queue_event` appends the event, or does nothing and wakes nobody. -/
theorem queue_event_cases (q : EventQueue) (e : Event) (g : Int) : queue_event q e g = (q, false) ∨
    queue_event q e g = ({ q with event_queue_head := q.event_queue_head ++ [e] },
      decide (q.is_waiting = HPD_YES ∧ g = HPD_YES) || decide (q.is_waiting = HPD_YES ∧ g = HPD_NO) && q.connection_id.isSome) := by
  unfold queue_event
  split
  · exact .inl rfl
  · split
    · exact .inl rfl
    · exact .inr rfl

/-- The flag for the events of the log says yes or no. -/
def EventQueue.LogFlag (event_queue : EventQueue) : Prop :=
  event_queue.send_log_events = HPD_YES ∨ event_queue.send_log_events = HPD_NO

/-- A session's queue appends the events it wants, and no others. -/
theorem queue_event_session {q : EventQueue} (hlog : q.LogFlag) (e : Event) :
    (queue_event q e HPD_NO).1 = if q.Wants e then { q with event_queue_head := q.event_queue_head ++ [e] } else q := by
  unfold queue_event EventQueue.Wants
  by_cases hid : e.id = "Log"
  · simp only [hid, true_and, ne_eq, not_true_eq_false, and_false, false_and, if_false, if_true]
    rcases hlog with h | h
    · simp only [h, HPD_YES, HPD_NO, Int.reduceEq, if_false, if_true]
    · simp only [h, HPD_YES, HPD_NO, Int.reduceEq, if_false, if_true]
  · have hany : (q.service_id_head.any fun iterator => iterator.id == e.id) = true ↔
        ∃ service_id ∈ q.service_id_head, service_id.id = e.id := by
      simp
    simp only [hid, false_and, if_false, true_and, ne_eq, not_false_eq_true, hany]
    by_cases hw : ∃ service_id ∈ q.service_id_head, service_id.id = e.id
    · rw [if_neg (not_not_intro hw), if_pos hw]
    · rw [if_pos hw, if_neg hw]

/-- The global queue appends every event. -/
theorem queue_event_global {q : EventQueue} (hlog : q.send_log_events = HPD_YES) (e : Event) :
    (queue_event q e HPD_YES).1 = { q with event_queue_head := q.event_queue_head ++ [e] } := by
  simp [queue_event, hlog]

/-- A notification changes the marks of the services, and nothing else. -/
theorem set_availability_of_service_frame (URL : String) (q : EventQueue) (availability : Int) :
    ∃ l, (set_availability_of_service URL q availability).2 = { q with service_id_head := l } := by
  unfold set_availability_of_service
  split
  · exact ⟨_, rfl⟩
  · split
    · exact ⟨_, rfl⟩
    · exact ⟨_, rfl⟩

/-- What `dequeue_event` does behind its wait: it takes the first event, or nothing. -/
theorem dequeue_rest_cases {q q' : EventQueue} {c : Option Nat} {g : Int} {e : Option Event}
    (h : dequeue_rest q c g = some (q', e)) : q' = q ∧ e = none ∨
      ∃ event rest, q.event_queue_head = event :: rest ∧ q' = { q with event_queue_head := rest } ∧ e = some event := by
  have hhead : ∀ {q q' : EventQueue} {e : Option Event}, dequeue_head q = some (q', e) → q' = q ∧ e = none ∨
      ∃ event rest, q.event_queue_head = event :: rest ∧ q' = { q with event_queue_head := rest } ∧ e = some event := by
    intro q q' e h
    unfold dequeue_head at h
    split at h
    · cases h
      exact .inl ⟨rfl, rfl⟩
    · split at h
      · cases h
      · rename_i event rest hq
        cases h
        exact .inr ⟨event, rest, hq, rfl, rfl⟩
  unfold dequeue_rest at h
  split at h
  · split at h
    · split at h
      · cases h
      · split at h
        · cases h
          exact .inl ⟨rfl, rfl⟩
        · exact hhead h
    · exact hhead h
  · exact hhead h

end HomeBridge.Hpd
