import HomeBridge.Lib.Locks
import HomeBridge.Hpd.EventQueue

/-!
# The mutexes of the event subsystem

Three kinds of mutexes nest: that of a service, that of the list of queues, and that of a queue. The functions of
`hpd_events.c` take the queue's themselves and release it on each of their ways out. `subscribe_to_service` is written
as if its helpers did not: before it releases the service's mutex it releases the queue's, which it has not taken.

Each function is its code with the code that follows it, which is given what it returns. What comes from outside (a
response, a text, memory for an event) is a choice. Broadcasts are left out: `pthread_cond_wait` may return at any time.
-/

namespace HomeBridge.Hpd.Locking

open Locks Runs

inductive Mutex where
  | queue_list_mutex
  | event_queue (q : Nat)
  | service (s : Nat)
  deriving DecidableEq

inductive EventFunction where
  | subscribe_to_service
  | subscribe_to_log_events
  | queue_event
  | dequeue_event
  | is_queue_subscribed_to_service
  | add_service_id_to_queue
  | remove_service_id_from_queue
  | set_availability_of_service
  | get_queue
  | notify_service_availability
  | set_up_server_sent_event_connection
  | add_session_cookie
  | send_cookied_xml
  deriving DecidableEq

/-- What the threads share: the list, the queues by their numbers, which are their session IDs too, and the connection
IDs generated. -/
structure EventSystem where
  event_queue_list : List Nat
  event_queue : Nat → EventQueue
  created : Nat
  issued : Nat

def EventSystem.set (s : EventSystem) (q : Nat) (e : EventQueue) : EventSystem :=
  { s with event_queue := Function.update s.event_queue q e }

abbrev EventCode := Code EventFunction Mutex EventSystem

@[simp] def HPD_E_EVENT_QUEUE_OR_EVENT_IS_NULL : Int := -43
@[simp] def HPD_E_EVENT_QUEUE_OR_URL_IS_NULL : Int := -44
@[simp] def HPD_E_EVENT_QUEUE_OR_SERVICE_ID_IS_NULL : Int := -45
@[simp] def HPD_E_SERVICE_ID_NOT_IN_EVENT_QUEUE : Int := -46

/-! ## `hpd_events.c` -/

def queue_event (event_queue : Option Nat) (event : Option Event) (is_global_queue : Int) (k : Int → EventCode) :
    EventCode :=
  .call .queue_event <|
  match event_queue, event with
  | some q, some event =>
    .lock (.event_queue q) <|
    .act (fun s => s.set q (Hpd.queue_event (s.event_queue q) event is_global_queue).1) fun s =>
    if event.id = "Log" ∧ (s.event_queue q).send_log_events = HPD_NO then
      .unlock (.event_queue q) (.ret (k HPD_E_SUCCESS))
    else if (HPD_NO = is_global_queue ∧ event.id ≠ "Log") ∧
        ¬(s.event_queue q).service_id_head.any (fun iterator => iterator.id == event.id) then
      .unlock (.event_queue q) (.ret (k HPD_E_SUCCESS))
    else
      -- the event was appended
      .unlock (.event_queue q) (.ret (k HPD_E_SUCCESS))
  | _, _ => .ret (k HPD_E_EVENT_QUEUE_OR_EVENT_IS_NULL)

/-- The end of `dequeue_event`. `DL_DELETE` has no result on an empty list. -/
def dequeue_head (q : Nat) (k : Option Event → EventCode) : EventCode :=
  .act id fun s =>
  if (s.event_queue q).exit = HPD_YES then .unlock (.event_queue q) (.ret (k none))
  else match (s.event_queue q).event_queue_head with
  | [] => .halt
  | event :: rest =>
    .act (fun s => s.set q { s.event_queue q with event_queue_head := rest }) fun _ =>
    .unlock (.event_queue q) (.ret (k (some event)))

/-- `dequeue_event` behind its wait. A queue without a connection has no string to compare with. -/
def dequeue_rest (q : Nat) (connection_id : Option Nat) (is_global_queue : Int) (k : Option Event → EventCode) :
    EventCode :=
  match connection_id with
  | none => dequeue_head q k
  | some c =>
    if is_global_queue = HPD_NO then
      .act id fun s =>
      match (s.event_queue q).connection_id with
      | none => .halt
      | some d => if d ≠ c then .unlock (.event_queue q) (.ret (k none)) else dequeue_head q k
    else dequeue_head q k

def dequeue_event (event_queue : Option Nat) (connection_id : Option Nat) (is_global_queue : Int)
    (k : Option Event → EventCode) : EventCode :=
  .call .dequeue_event <|
  match event_queue with
  | none => .ret (k none)
  | some q =>
    .lock (.event_queue q) <|
    .act id fun s =>
    if (s.event_queue q).event_queue_head.isEmpty then
      .act (fun s => s.set q { s.event_queue q with is_waiting := HPD_YES }) fun _ =>
      -- `pthread_cond_wait` releases the mutex and takes it again
      .unlock (.event_queue q) <|
      .lock (.event_queue q) <|
      .act (fun s => s.set q { s.event_queue q with is_waiting := HPD_NO }) fun _ =>
      dequeue_rest q connection_id is_global_queue k
    else dequeue_rest q connection_id is_global_queue k

def is_queue_subscribed_to_service (event_queue : Option Nat) (URL : Option String) (k : Int → EventCode) : EventCode :=
  .call .is_queue_subscribed_to_service <|
  match event_queue, URL with
  | some q, some URL =>
    .lock (.event_queue q) <|
    .act id fun s =>
    if (s.event_queue q).service_id_head.any (fun iterator => URL == iterator.id) then
      .unlock (.event_queue q) (.ret (k HPD_YES))
    else .unlock (.event_queue q) (.ret (k HPD_NO))
  | _, _ => .ret (k HPD_E_EVENT_QUEUE_OR_URL_IS_NULL)

def add_service_id_to_queue (service_id : Option String) (event_queue : Option Nat) (k : Int → EventCode) : EventCode :=
  .call .add_service_id_to_queue <|
  match service_id, event_queue with
  | some id, some q =>
    .lock (.event_queue q) <|
    .act (fun s => s.set q (Hpd.add_service_id_to_queue id (s.event_queue q))) fun _ =>
    .unlock (.event_queue q) (.ret (k HPD_E_SUCCESS))
  | _, _ => .ret (k HPD_E_EVENT_QUEUE_OR_SERVICE_ID_IS_NULL)

def remove_service_id_from_queue (URL : Option String) (event_queue : Option Nat) (k : Int → EventCode) : EventCode :=
  .call .remove_service_id_from_queue <|
  match URL, event_queue with
  | some URL, some q =>
    .lock (.event_queue q) <|
    .act (fun s => s.set q (Hpd.remove_service_id_from_queue URL (s.event_queue q))) fun s =>
    if (s.event_queue q).service_id_head.any (fun iterator => iterator.id == URL) then
      .unlock (.event_queue q) (.ret (k HPD_E_SUCCESS))
    else .unlock (.event_queue q) (.ret (k HPD_E_SERVICE_ID_NOT_IN_EVENT_QUEUE))
  | _, _ => .ret (k HPD_E_EVENT_QUEUE_OR_URL_IS_NULL)

def set_availability_of_service (URL : Option String) (event_queue : Option Nat) (availability : Int)
    (k : Int → EventCode) : EventCode :=
  .call .set_availability_of_service <|
  match URL, event_queue with
  | some URL, some q =>
    if availability ≠ HPD_YES ∧ availability ≠ HPD_NO then .ret (k HPD_E_NOT_HPD_BOOLEAN)
    else
      .lock (.event_queue q) <|
      .act (fun s => s.set q (Hpd.set_availability_of_service URL (s.event_queue q) availability).2) fun s =>
      if (s.event_queue q).service_id_head.any (fun iterator => URL == iterator.id) then
        .unlock (.event_queue q) (.ret (k HPD_YES))
      else .unlock (.event_queue q) (.ret (k HPD_NO))
  | _, _ => .ret (k HPD_E_EVENT_QUEUE_OR_URL_IS_NULL)

/-! ## `hpd_server_sent_events.c` -/

/-- The loop of `get_queue`. -/
def get_queue_loop (session_id : Nat) (k : Option Nat → EventCode) : List Nat → EventCode
  | [] => .unlock .queue_list_mutex (.ret (k none))
  | iterator :: rest =>
    .lock (.event_queue iterator) <|
    if session_id = iterator then
      .unlock (.event_queue iterator) (.unlock .queue_list_mutex (.ret (k (some iterator))))
    else .unlock (.event_queue iterator) (get_queue_loop session_id k rest)

/-- The list does not change while its mutex is taken. -/
def get_queue (session_id : Option Nat) (k : Option Nat → EventCode) : EventCode :=
  .call .get_queue <|
  match session_id with
  | none => .ret (k none)
  | some session_id => .lock .queue_list_mutex (.act id fun s => get_queue_loop session_id k s.event_queue_list)

/-- `create_event_queue` and the new queue in the list, for a client that has none. -/
def with_queue (session_id : Option Nat) (k : Nat → EventCode) : EventCode :=
  get_queue session_id fun
  | some q => k q
  | none =>
    .act (fun s => { s with
        event_queue := Function.update s.event_queue s.created create_event_queue
        created := s.created + 1 }) fun s =>
    .lock .queue_list_mutex <|
    .act (fun s' => { s' with event_queue_list := s'.event_queue_list ++ [s.created] }) fun _ =>
    .unlock .queue_list_mutex (k s.created)

def add_session_cookie (q : Nat) (k : EventCode) : EventCode :=
  .call .add_session_cookie (.lock (.event_queue q) (.unlock (.event_queue q) (.ret k)))

def send_cookied_xml (q : Nat) (k : EventCode) : EventCode :=
  .call .send_cookied_xml <|
  .choose fun response => if response then add_session_cookie q (.ret k) else .ret k

/-- The end of `subscribe_to_service`. -/
def subscribed (q service : Nat) (k : EventCode) : EventCode :=
  .unlock (.event_queue q) (.unlock (.service service) (send_cookied_xml q (.ret k)))

def subscribe_to_service (session_id : Option Nat) (service : Nat) (value_url : Option String) (k : EventCode) :
    EventCode :=
  .call .subscribe_to_service <|
  with_queue session_id fun q =>
  .lock (.service service) <|
  is_queue_subscribed_to_service (some q) value_url fun r =>
  if HPD_NO = r then
    add_service_id_to_queue value_url (some q) fun _ =>
    .choose fun xmlbuff => if xmlbuff then subscribed q service k else .unlock (.service service) (.ret k)
  else
    .choose fun xmlbuff =>
    if xmlbuff then remove_service_id_from_queue value_url (some q) fun _ => subscribed q service k
    else .unlock (.event_queue q) (.unlock (.service service) (.ret k))

def subscribe_to_log_events (session_id : Option Nat) (k : EventCode) : EventCode :=
  .call .subscribe_to_log_events <|
  with_queue session_id fun q =>
  .lock (.event_queue q) <|
  .act (fun s => s.set q (Hpd.subscribe_to_log_events (s.event_queue q))) fun _ =>
  -- the text says `UNSUBSCRIBE` or `SUBSCRIBE`, and is asked for in both cases
  .choose fun xmlbuff =>
  if xmlbuff then .unlock (.event_queue q) (send_cookied_xml q (.ret k)) else .unlock (.event_queue q) (.ret k)

def set_up_server_sent_event_connection (session_id : Option Nat) (k : EventCode) : EventCode :=
  .call .set_up_server_sent_event_connection <|
  get_queue session_id fun
  | none => .ret k
  | some q =>
    .lock (.event_queue q) <|
    .act (fun s => { s.set q (Hpd.set_up_server_sent_event_connection (s.event_queue q) s.issued).1 with
        issued := s.issued + 1 }) fun _ =>
    .unlock (.event_queue q) <|
    .act id fun s =>
    if (s.event_queue q).service_id_head.isEmpty ∧ (s.event_queue q).send_log_events ≠ HPD_YES then .ret k
    else .choose fun response => if response then add_session_cookie q (.ret k) else .ret k

/-- The loop of `notify_service_availability`. -/
def notify_loop (value_url : Option String) (availability : Int) (k : EventCode) : List Nat → EventCode
  | [] => .unlock .queue_list_mutex (.ret k)
  | iterator :: rest =>
    set_availability_of_service value_url (some iterator) availability fun r =>
    if HPD_YES = r then
      .choose fun memory =>
      let new_event := value_url.bind fun id =>
        if memory then some ⟨id, (if availability = HPD_YES then "available" else "unavailable").toUTF8.toList⟩ else none
      queue_event (some iterator) new_event HPD_NO fun _ => notify_loop value_url availability k rest
    else notify_loop value_url availability k rest

/-- `service_to_notify` is its `value_url`, if there is a service. -/
def notify_service_availability (service_to_notify : Option (Option String)) (availability : Int) (k : EventCode) :
    EventCode :=
  .call .notify_service_availability <|
  match service_to_notify with
  | none => .ret k
  | some value_url => .lock .queue_list_mutex (.act id fun s => notify_loop value_url availability k s.event_queue_list)

/-- What a thread may run. -/
inductive EventCall where
  | subscribe_to_service (session_id : Option Nat) (service : Nat) (value_url : Option String)
  | subscribe_to_log_events (session_id : Option Nat)
  | queue_event (event_queue : Option Nat) (event : Option Event) (is_global_queue : Int)
  | dequeue_event (event_queue : Option Nat) (connection_id : Option Nat) (is_global_queue : Int)
  | is_queue_subscribed_to_service (event_queue : Option Nat) (URL : Option String)
  | add_service_id_to_queue (service_id : Option String) (event_queue : Option Nat)
  | remove_service_id_from_queue (URL : Option String) (event_queue : Option Nat)
  | get_queue (session_id : Option Nat)
  | notify_service_availability (service_to_notify : Option (Option String)) (availability : Int)
  | set_up_server_sent_event_connection (session_id : Option Nat)

def EventCall.body : EventCall → EventCode
  | .subscribe_to_service session_id service value_url => Locking.subscribe_to_service session_id service value_url .done
  | .subscribe_to_log_events session_id => Locking.subscribe_to_log_events session_id .done
  | .queue_event q event is_global_queue => Locking.queue_event q event is_global_queue fun _ => .done
  | .dequeue_event q connection_id is_global_queue => Locking.dequeue_event q connection_id is_global_queue fun _ => .done
  | .is_queue_subscribed_to_service q URL => Locking.is_queue_subscribed_to_service q URL fun _ => .done
  | .add_service_id_to_queue service_id q => Locking.add_service_id_to_queue service_id q fun _ => .done
  | .remove_service_id_from_queue URL q => Locking.remove_service_id_from_queue URL q fun _ => .done
  | .get_queue session_id => Locking.get_queue session_id fun _ => .done
  | .notify_service_availability service availability => Locking.notify_service_availability service availability .done
  | .set_up_server_sent_event_connection session_id => Locking.set_up_server_sent_event_connection session_id .done

/-! ## The discipline of each function -/

/-- The releases that are not in order: those of a queue's mutex in `subscribe_to_service` itself. -/
def Stray (n : Option EventFunction) (m : Mutex) : Prop := n = some .subscribe_to_service ∧ ∃ q, m = .event_queue q

section functions

variable {H E : Finset Mutex} {F : List (EventFunction × Finset Mutex)} {n : EventFunction} {m : Mutex}

/-- A mutex that was taken on top of `H` is released. -/
theorem wellLocked_release {k : EventCode} (hstray : ¬Stray (some n) m) (hm : m ∉ H)
    (hk : k.WellLocked Stray H ((n, E) :: F)) :
    (Code.unlock m k).WellLocked Stray (insert m H) ((n, E) :: F) :=
  ⟨fun h => absurd h hstray, fun _ => ⟨Finset.mem_insert_self m H, by rwa [Finset.erase_insert hm]⟩⟩

/-- The same on the way out. -/
theorem wellLocked_exit {k : EventCode} (hn : n ≠ .subscribe_to_service) (hm : m ∉ H) (hk : k.WellLocked Stray H F) :
    (Code.unlock m (.ret k)).WellLocked Stray (insert m H) ((n, H) :: F) :=
  wellLocked_release (fun h => hn (Option.some.inj h.1)) hm ⟨rfl, hk⟩

/-- The mutex is taken around one look at what the threads share, and released on both ways out. -/
theorem wellLocked_section {f : EventSystem → EventSystem} {c : EventSystem → Prop} [DecidablePred c] {k₁ k₂ : EventCode}
    (hn : n ≠ .subscribe_to_service) (hm : m ∉ H) (hk₁ : k₁.WellLocked Stray H F) (hk₂ : k₂.WellLocked Stray H F) :
    (Code.lock m (.act f fun s => if c s then .unlock m (.ret k₁) else .unlock m (.ret k₂))).WellLocked Stray H
      ((n, H) :: F) := by
  refine ⟨hm, fun s => ?_⟩
  dsimp only
  split
  · exact wellLocked_exit hn hm hk₁
  · exact wellLocked_exit hn hm hk₂

/-- The queue's mutex is released on the ways out, filtered or appended. -/
theorem queue_event_wellLocked {event_queue : Option Nat} (event : Option Event) (g : Int) {k : Int → EventCode}
    (hq : ∀ q ∈ event_queue, .event_queue q ∉ H) (hk : ∀ r, (k r).WellLocked Stray H F) :
    (queue_event event_queue event g k).WellLocked Stray H F := by
  cases event_queue with
  | none => exact ⟨rfl, hk _⟩
  | some q =>
    cases event with
    | none => exact ⟨rfl, hk _⟩
    | some event =>
      refine ⟨hq q rfl, fun s => ?_⟩
      dsimp only
      split
      · exact wellLocked_exit nofun (hq q rfl) (hk _)
      · split
        · exact wellLocked_exit nofun (hq q rfl) (hk _)
        · exact wellLocked_exit nofun (hq q rfl) (hk _)

/-- It is released where the queue exits, and where an event was taken; an empty queue has no result. -/
theorem dequeue_head_wellLocked {q : Nat} {k : Option Event → EventCode} (hq : .event_queue q ∉ H)
    (hk : ∀ r, (k r).WellLocked Stray H F) :
    (dequeue_head q k).WellLocked Stray (insert (.event_queue q) H) ((.dequeue_event, H) :: F) := by
  intro s
  dsimp only
  split
  · exact wellLocked_exit nofun hq (hk _)
  · split
    · trivial
    · exact fun _ => wellLocked_exit nofun hq (hk _)

/-- It is released too where the connection is no longer the queue's. -/
theorem dequeue_rest_wellLocked {q : Nat} (c : Option Nat) (g : Int) {k : Option Event → EventCode}
    (hq : .event_queue q ∉ H) (hk : ∀ r, (k r).WellLocked Stray H F) :
    (dequeue_rest q c g k).WellLocked Stray (insert (.event_queue q) H) ((.dequeue_event, H) :: F) := by
  unfold dequeue_rest
  split
  · exact dequeue_head_wellLocked hq hk
  · split
    · intro s
      dsimp only
      split
      · trivial
      · split
        · exact wellLocked_exit nofun hq (hk _)
        · exact dequeue_head_wellLocked hq hk
    · exact dequeue_head_wellLocked hq hk

/-- The wait releases the mutex and takes it again, so that what follows holds it as if there had been none. -/
theorem dequeue_event_wellLocked {event_queue : Option Nat} (c : Option Nat) (g : Int) {k : Option Event → EventCode}
    (hq : ∀ q ∈ event_queue, .event_queue q ∉ H) (hk : ∀ r, (k r).WellLocked Stray H F) :
    (dequeue_event event_queue c g k).WellLocked Stray H F := by
  cases event_queue with
  | none => exact ⟨rfl, hk _⟩
  | some q =>
    refine ⟨hq q rfl, fun s => ?_⟩
    dsimp only
    split
    · intro _
      -- the wait
      exact wellLocked_release (fun h => nomatch h.1) (hq q rfl)
        ⟨hq q rfl, fun _ => dequeue_rest_wellLocked c g (hq q rfl) hk⟩
    · exact dequeue_rest_wellLocked c g (hq q rfl) hk

/-- The two answers release the queue's mutex. -/
theorem is_queue_subscribed_to_service_wellLocked {event_queue : Option Nat} (URL : Option String) {k : Int → EventCode}
    (hq : ∀ q ∈ event_queue, .event_queue q ∉ H) (hk : ∀ r, (k r).WellLocked Stray H F) :
    (is_queue_subscribed_to_service event_queue URL k).WellLocked Stray H F := by
  cases event_queue with
  | none => exact ⟨rfl, hk _⟩
  | some q =>
    cases URL with
    | none => exact ⟨rfl, hk _⟩
    | some URL => exact Code.wellLocked_call (wellLocked_section nofun (hq q rfl) (hk _) (hk _))

/-- The addition is one section of the queue's mutex. -/
theorem add_service_id_to_queue_wellLocked (service_id : Option String) {event_queue : Option Nat} {k : Int → EventCode}
    (hq : ∀ q ∈ event_queue, .event_queue q ∉ H) (hk : ∀ r, (k r).WellLocked Stray H F) :
    (add_service_id_to_queue service_id event_queue k).WellLocked Stray H F := by
  cases service_id with
  | none => exact ⟨rfl, hk _⟩
  | some id =>
    cases event_queue with
    | none => exact ⟨rfl, hk _⟩
    | some q => exact ⟨hq q rfl, fun _ => wellLocked_exit nofun (hq q rfl) (hk _)⟩

/-- So is the removal, whether the subscription is there or not. -/
theorem remove_service_id_from_queue_wellLocked (URL : Option String) {event_queue : Option Nat} {k : Int → EventCode}
    (hq : ∀ q ∈ event_queue, .event_queue q ∉ H) (hk : ∀ r, (k r).WellLocked Stray H F) :
    (remove_service_id_from_queue URL event_queue k).WellLocked Stray H F := by
  cases URL with
  | none => exact ⟨rfl, hk _⟩
  | some URL =>
    cases event_queue with
    | none => exact ⟨rfl, hk _⟩
    | some q => exact Code.wellLocked_call (wellLocked_section nofun (hq q rfl) (hk _) (hk _))

/-- An availability that is no boolean is refused before the mutex is taken. -/
theorem set_availability_of_service_wellLocked (URL : Option String) {event_queue : Option Nat} (availability : Int)
    {k : Int → EventCode} (hq : ∀ q ∈ event_queue, .event_queue q ∉ H) (hk : ∀ r, (k r).WellLocked Stray H F) :
    (set_availability_of_service URL event_queue availability k).WellLocked Stray H F := by
  cases URL with
  | none => exact ⟨rfl, hk _⟩
  | some URL =>
    cases event_queue with
    | none => exact ⟨rfl, hk _⟩
    | some q =>
      unfold set_availability_of_service
      dsimp only
      split
      · exact ⟨rfl, hk _⟩
      · exact Code.wellLocked_call (wellLocked_section nofun (hq q rfl) (hk _) (hk _))

/-- The mutexes of the list and of every queue are not held. -/
def NoQueues (H : Finset Mutex) : Prop := .queue_list_mutex ∉ H ∧ ∀ q, .event_queue q ∉ H

/-- Both mutexes are released where the queue is found, and the list's at the end of the list. -/
theorem get_queue_loop_wellLocked (session_id : Nat) {k : Option Nat → EventCode} (hH : NoQueues H)
    (hk : ∀ r, (k r).WellLocked Stray H F) :
    ∀ l, (get_queue_loop session_id k l).WellLocked Stray (insert .queue_list_mutex H) ((.get_queue, H) :: F) := by
  intro l
  induction l with
  | nil => exact wellLocked_exit nofun hH.1 (hk _)
  | cons iterator rest ih =>
    have hq : .event_queue iterator ∉ insert .queue_list_mutex H := by simp [hH.2 iterator]
    refine ⟨hq, ?_⟩
    split
    · exact wellLocked_release (fun h => nomatch h.1) hq (wellLocked_exit nofun hH.1 (hk _))
    · exact wellLocked_release (fun h => nomatch h.1) hq ih

/-- The search comes back with the mutexes it was entered with. -/
theorem get_queue_wellLocked (session_id : Option Nat) {k : Option Nat → EventCode} (hH : NoQueues H)
    (hk : ∀ r, (k r).WellLocked Stray H F) : (get_queue session_id k).WellLocked Stray H F := by
  cases session_id with
  | none => exact ⟨rfl, hk _⟩
  | some session_id => exact ⟨hH.1, fun s => get_queue_loop_wellLocked session_id hH hk _⟩

/-- The new queue is put into the list by a function that is not to blame for it. -/
theorem with_queue_wellLocked (session_id : Option Nat) {k : Nat → EventCode} (hH : NoQueues H)
    (hk : ∀ q, (k q).WellLocked Stray H ((n, E) :: F)) : (with_queue session_id k).WellLocked Stray H ((n, E) :: F) := by
  refine get_queue_wellLocked session_id hH fun r => ?_
  cases r with
  | some q => exact hk q
  | none => exact fun s => ⟨hH.1, fun _ => wellLocked_release (fun h => nomatch h.2.choose_spec) hH.1 (hk _)⟩

/-- The cookie is made in a section of its own. -/
theorem add_session_cookie_wellLocked {q : Nat} {k : EventCode} (hq : .event_queue q ∉ H) (hk : k.WellLocked Stray H F) :
    (add_session_cookie q k).WellLocked Stray H F :=
  ⟨hq, wellLocked_exit nofun hq hk⟩

/-- A text is sent with that section, or without a response with none. -/
theorem send_cookied_xml_wellLocked {q : Nat} {k : EventCode} (hq : .event_queue q ∉ H) (hk : k.WellLocked Stray H F) :
    (send_cookied_xml q k).WellLocked Stray H F := by
  intro response
  cases response with
  | true => exact add_session_cookie_wellLocked hq ⟨rfl, hk⟩
  | false => exact ⟨rfl, hk⟩

end functions

/-- A thread that holds nothing holds no mutex of a queue. -/
theorem noQueues_empty : NoQueues ∅ := ⟨Finset.notMem_empty _, fun _ => Finset.notMem_empty _⟩

/-- `subscribe_to_service` comes to the release of the queue's mutex without holding it. -/
theorem subscribe_to_service_wellLocked (session_id : Option Nat) (service : Nat) (value_url : Option String) :
    (subscribe_to_service session_id service value_url .done).WellLocked Stray ∅ [] := by
  refine Code.wellLocked_call (with_queue_wellLocked session_id noQueues_empty fun q => ?_)
  have hq : .event_queue q ∉ ({.service service} : Finset Mutex) := by simp
  have hstray : ∀ k : EventCode, (Code.unlock (.event_queue q) k).WellLocked Stray {.service service}
      [(.subscribe_to_service, ∅)] :=
    fun k => ⟨fun _ => hq, fun h => absurd ⟨rfl, q, rfl⟩ h⟩
  refine ⟨Finset.notMem_empty _, ?_⟩
  refine is_queue_subscribed_to_service_wellLocked value_url (by simp) fun r => ?_
  split
  · refine add_service_id_to_queue_wellLocked value_url (by simp) fun _ xmlbuff => ?_
    cases xmlbuff with
    | true => exact hstray _
    | false => exact wellLocked_release (fun h => nomatch h.2.choose_spec) (Finset.notMem_empty _) ⟨rfl, trivial⟩
  · intro xmlbuff
    cases xmlbuff with
    | true => exact remove_service_id_from_queue_wellLocked value_url (by simp) fun _ => hstray _
    | false => exact hstray _

/-- Here the release of the queue's mutex is the one of the mutex that was taken. -/
theorem subscribe_to_log_events_wellLocked (session_id : Option Nat) :
    (subscribe_to_log_events session_id .done).WellLocked Stray ∅ [] := by
  refine Code.wellLocked_call (with_queue_wellLocked session_id noQueues_empty fun q =>
    ⟨Finset.notMem_empty _, fun _ xmlbuff => ?_⟩)
  cases xmlbuff with
  | true =>
    refine wellLocked_release (fun h => nomatch h.1) (Finset.notMem_empty _) ?_
    exact send_cookied_xml_wellLocked (Finset.notMem_empty _) ⟨rfl, trivial⟩
  | false => exact wellLocked_exit nofun (Finset.notMem_empty _) trivial

/-- A new connection ID is set in a section, and the cookie is made in another one. -/
theorem set_up_server_sent_event_connection_wellLocked (session_id : Option Nat) :
    (set_up_server_sent_event_connection session_id .done).WellLocked Stray ∅ [] := by
  refine Code.wellLocked_call (get_queue_wellLocked session_id noQueues_empty fun r => ?_)
  cases r with
  | none => exact ⟨rfl, trivial⟩
  | some q =>
    refine ⟨Finset.notMem_empty _, fun _ => wellLocked_release (fun h => nomatch h.1) (Finset.notMem_empty _) fun s => ?_⟩
    dsimp only
    split
    · exact ⟨rfl, trivial⟩
    · intro response
      cases response with
      | true => exact add_session_cookie_wellLocked (Finset.notMem_empty _) ⟨rfl, trivial⟩
      | false => exact ⟨rfl, trivial⟩

/-- Each queue of the list is notified while the mutex of the list is held. -/
theorem notify_loop_wellLocked (value_url : Option String) (availability : Int) :
    ∀ l, (notify_loop value_url availability .done l).WellLocked
    Stray (insert .queue_list_mutex ∅) [(.notify_service_availability, ∅)] := by
  intro l
  induction l with
  | nil => exact wellLocked_exit nofun (Finset.notMem_empty _) trivial
  | cons iterator rest ih =>
    refine set_availability_of_service_wellLocked value_url availability (by simp) fun r => ?_
    dsimp only
    split
    · exact fun memory => queue_event_wellLocked _ HPD_NO (by simp) fun _ => ih
    · exact ih

/-- The list's mutex is held from the first queue to the last one, and released behind it. -/
theorem notify_service_availability_wellLocked (service : Option (Option String)) (availability : Int) :
    (notify_service_availability service availability .done).WellLocked Stray ∅ [] := by
  cases service with
  | none => exact ⟨rfl, trivial⟩
  | some value_url =>
    exact ⟨Finset.notMem_empty _, fun s => notify_loop_wellLocked value_url availability s.event_queue_list⟩

/-- What a thread may run keeps the discipline but for those releases. -/
theorem body_wellLocked (c : EventCall) : c.body.WellLocked Stray ∅ [] := by
  have hq : ∀ event_queue : Option Nat, ∀ q ∈ event_queue, .event_queue q ∉ (∅ : Finset Mutex) :=
    fun _ _ _ => Finset.notMem_empty _
  cases c with
  | subscribe_to_service session_id service value_url => exact subscribe_to_service_wellLocked session_id service value_url
  | subscribe_to_log_events session_id => exact subscribe_to_log_events_wellLocked session_id
  | queue_event q event g => exact queue_event_wellLocked (k := fun _ => .done) event g (hq q) fun _ => trivial
  | dequeue_event q c g => exact dequeue_event_wellLocked (k := fun _ => .done) c g (hq q) fun _ => trivial
  | is_queue_subscribed_to_service q URL =>
    exact is_queue_subscribed_to_service_wellLocked (k := fun _ => .done) URL (hq q) fun _ => trivial
  | add_service_id_to_queue service_id q =>
    exact add_service_id_to_queue_wellLocked (k := fun _ => .done) service_id (hq q) fun _ => trivial
  | remove_service_id_from_queue URL q =>
    exact remove_service_id_from_queue_wellLocked (k := fun _ => .done) URL (hq q) fun _ => trivial
  | get_queue session_id => exact get_queue_wellLocked (k := fun _ => .done) session_id noQueues_empty fun _ => trivial
  | notify_service_availability service availability => exact notify_service_availability_wellLocked service availability
  | set_up_server_sent_event_connection session_id => exact set_up_server_sent_event_connection_wellLocked session_id

/-- In every run of any number of threads, from any queues, every mutex is released by a thread that holds it, every
function returns with the mutexes it was entered with, and at most one thread is in a critical section of a mutex,
exactly as long as no thread in `subscribe_to_service` itself comes to a release of the queue's mutex. -/
theorem lock_discipline_iff (s₀ : EventSystem) (acts : List (Act EventCall)) :
    Always (step EventCall.body) Disciplined (start s₀) acts ↔
      Along (step EventCall.body) (KeepsOut Stray) (start s₀) acts :=
  disciplined_iff body_wellLocked s₀ acts

/-- One queue in the list, subscribed to nothing, and the global one. -/
def oneQueue : EventSystem := ⟨[1], fun _ => create_event_queue, 2, 0⟩

/-- Thread 0 subscribes for the client of the queue; before its last releases thread 1 queues an event and is inside,
and after them thread 2 gets inside too. -/
def intrusion : List (Act EventCall) :=
  .start (.subscribe_to_service (some 1) 0 (some "/lamp/1")) :: List.replicate 20 (.run 0 true) ++
    [.start (.queue_event (some 1) (some ⟨"/lamp/1", []⟩) HPD_NO), .run 1 true, .run 1 true, .run 0 true,
      .start (.dequeue_event (some 1) none HPD_NO), .run 2 true, .run 2 true]

/-- Whether a thread is in a critical section of the queue. -/
def inside (s : Sys EventFunction Mutex EventSystem) (thread : Nat) : Option Bool :=
  s.threads[thread]?.map fun t => decide (.event_queue 1 ∈ t.held)

/-- Two threads are inside, one of them let in by the release of the mutex that the other one holds. -/
theorem not_lock_discipline : ¬∀ s₀ acts, Always (step EventCall.body) Disciplined (start s₀) acts := by
  intro h
  have hrun : (run (step EventCall.body) (start oneQueue) intrusion).map (fun s => (inside s 1, inside s 2)) =
      some (some true, some true) := by
    decide
  obtain ⟨s, hs, hinside⟩ := Option.map_eq_some_iff.mp hrun
  obtain ⟨h1, h2⟩ := Prod.mk.inj hinside
  obtain ⟨t, ht, htm⟩ := Option.map_eq_some_iff.mp h1
  obtain ⟨u, hu, hum⟩ := Option.map_eq_some_iff.mp h2
  have hd := always_iff_beginning.mp (h oneQueue intrusion) intrusion [] s (List.append_nil _).symm hs
  exact absurd (hd.exclusive _ 1 2 t u ht hu (of_decide_eq_true htm) (of_decide_eq_true hum)) (by decide)

end HomeBridge.Hpd.Locking
