import HomeBridge.Lib.LockOrder
import HomeBridge.Hpd.LockDiscipline

/-!
# The threads of the daemon

The web server has a thread for each connection, in `answer_to_connection` or in a callback of an event stream; one thread takes
turns in `consume_global_event_queue`; those of the adaptors publish and register; one stops the server. They take the mutexes of
the services, of the list of queues, of the queues, and that of the log. A service's mutex is held while its adaptor's function
runs, which may publish, and the list's while every queue in it is gone through.

The functions that have no record of their being entered (`call`) are part of who calls them. Memory that is got or not, a file
that is opened or not, what a function of an adaptor returns and a wait that ends by its time are choices.
-/

namespace HomeBridge.Hpd.Locking

open Locks Runs

/-- The global queue is none of the list. -/
def global_event_queue : Nat := 0

/-! ## `hpd_events.c` -/

def exit_event_queue (q : Nat) (k : EventCode) : EventCode :=
  .lock (.event_queue q) <|
  .act (fun s => s.set q (Hpd.exit_event_queue (s.event_queue q)).1) fun _ =>
  .unlock (.event_queue q) k

def wait_for_timeout (q : Nat) (k : Int → EventCode) : EventCode :=
  .lock (.event_queue q) <|
  .act (fun s => s.set q (Hpd.wait_for_timeout (s.event_queue q))) fun _ =>
  -- `pthread_cond_timedwait`
  .unlock (.event_queue q) <|
  .lock (.event_queue q) <|
  .act (fun s => s.set q (Hpd.wait_for_timeout_wake (s.event_queue q))) fun _ =>
  .choose fun timedout =>
  .unlock (.event_queue q) (k (if timedout then HPD_YES else HPD_NO))

/-! ## `hpd_server_sent_events.c` -/

def send_event_of_value_change (value_url : String) (value : List UInt8) (k : EventCode) : EventCode :=
  .choose fun memory =>
  if memory then queue_event (some global_event_queue) (some ⟨value_url, value⟩) HPD_YES fun _ => k else k

def send_log_event (log_data : List UInt8) (k : EventCode) : EventCode :=
  .choose fun memory =>
  if memory then queue_event (some global_event_queue) (some ⟨"Log", log_data⟩) HPD_YES fun _ => k else k

/-- The loop over the queues in `consume_global_event_queue`. -/
def consume_loop (new_event : Event) : List Nat → EventCode
  | [] => .unlock .queue_list_mutex .done
  | iterator :: rest => queue_event (some iterator) (some new_event) HPD_NO fun r =>
    if r ≠ 0 then .unlock .queue_list_mutex .done else consume_loop new_event rest

/-- A turn of `consume_global_event_queue`. -/
def consume_global_event_queue : EventCode :=
  dequeue_event (some global_event_queue) none HPD_YES fun
  | none => .done
  | some new_event => .lock .queue_list_mutex (.act id fun s => consume_loop new_event s.event_queue_list)

/-- The loop of `get_event_queue_with_connection_id`: the queues' strings are looked at without their mutexes, and a queue without a
connection has none to compare with. -/
def get_event_queue_loop (connection_id : Nat) (k : Option Nat → EventCode) : List Nat → EventCode
  | [] => .unlock .queue_list_mutex (k none)
  | iterator :: rest => .act id fun s =>
    match (s.event_queue iterator).connection_id with
    | none => .halt
    | some d =>
      if d = connection_id then .unlock .queue_list_mutex (k (some iterator)) else get_event_queue_loop connection_id k rest

def get_event_queue_with_connection_id (connection_id : Option Nat) (k : Option Nat → EventCode) : EventCode :=
  match connection_id with
  | none => k none
  | some connection_id =>
    .lock .queue_list_mutex (.act id fun s => get_event_queue_loop connection_id k s.event_queue_list)

/-- The queue is destroyed, and the event sent, without a mutex. -/
def server_sent_events_callback (connection_id : Option Nat) : EventCode :=
  get_event_queue_with_connection_id connection_id fun
  | none => .done
  | some q => dequeue_event (some q) connection_id HPD_NO fun _ => .done

def server_sent_events_free_callback (connection_id : Option Nat) : EventCode :=
  get_event_queue_with_connection_id connection_id fun
  | none => .done
  | some q => wait_for_timeout q fun r =>
    if HPD_YES = r then
      .lock .queue_list_mutex <|
      .act (fun s => { s with event_queue_list := s.event_queue_list.erase q }) fun _ =>
      .unlock .queue_list_mutex .done
    else .done

/-- The loop of `free_server_sent_events_ressources`. -/
def free_loop : List Nat → EventCode
  | [] => .unlock .queue_list_mutex (exit_event_queue global_event_queue .done)
  | iterator :: rest =>
    .act (fun s => { s with event_queue_list := s.event_queue_list.erase iterator }) fun _ =>
    exit_event_queue iterator (free_loop rest)

/-- Up to `pthread_join`. -/
def free_server_sent_events_ressources : EventCode :=
  .lock .queue_list_mutex (.act id fun s => free_loop s.event_queue_list)

/-! ## `hpd_log.c` -/

inductive DaemonMutex where
  | event (m : Mutex)
  | hpd_log
  deriving DecidableEq

/-- A mutex of the event subsystem is the same among the daemon's. -/
theorem DaemonMutex.event_injective : Function.Injective DaemonMutex.event := fun _ _ h => DaemonMutex.event.inj h

abbrev DaemonCode := Code EventFunction DaemonMutex EventSystem

/-- A piece of the event subsystem, and what follows it. -/
def events (code : EventCode) (k : DaemonCode) : DaemonCode := (code.rename .event).andThen k

/-- The message goes out as an event after the mutex was released. -/
def Log (log_message : List UInt8) (k : DaemonCode) : DaemonCode :=
  .choose fun hpd_log => if hpd_log then
    .lock .hpd_log <|
    .choose fun no_log => if no_log then .unlock .hpd_log k else
    .choose fun log_file => if !log_file then .unlock .hpd_log k else
    .choose fun shown => if shown then .unlock .hpd_log (events (send_log_event log_message .done) k) else .unlock .hpd_log k
  else k

/-- `LogError` prints into `stderr` itself. -/
def LogError : DaemonCode := .halt

def change_hpd_log_level : DaemonCode :=
  .choose fun hpd_log => if hpd_log then .lock .hpd_log (.unlock .hpd_log LogError) else .done

@[simp] def HPD_DONT_SEND_LOG_EVENTS : Int := 0
@[simp] def HPD_SEND_LOG_EVENTS : Int := 1

/-- There is no test whether there is a log. -/
def set_event_sending (send_events : Int) : DaemonCode :=
  if send_events = HPD_SEND_LOG_EVENTS ∨ send_events = HPD_DONT_SEND_LOG_EVENTS then
    .choose fun hpd_log => if hpd_log then .lock .hpd_log (.unlock .hpd_log .done) else .halt
  else .done

/-! ## `hpd_services.c` and `hpd_http_web_server.c` -/

/-- `matching_service` on the services there are, with their URLs. -/
def matching_service (url : String) (k : Option (Nat × String) → DaemonCode) : List (Nat × String) → DaemonCode
  | [] => k none
  | iterator :: rest =>
    .lock (.event (.service iterator.1)) <|
    if iterator.2 = url then .unlock (.event (.service iterator.1)) (k (some iterator))
    else .unlock (.event (.service iterator.1)) (matching_service url k rest)

/-- A call of `answer_to_connection`: what of the request it reads, the services at the time, what their adaptor publishes from inside
its function, and the texts that are logged and published. -/
structure Request where
  method : String
  url : String
  x : Option String
  p : Option String
  session_id : Option Nat
  con_cls : Bool
  services : List (Nat × String)
  published : List (String × List UInt8)
  log_message : List UInt8
  value : List UInt8

/-- `get_function` or `put_function` of an adaptor, which sends events, and returns 0 or not. -/
def adaptor_function (k : Bool → DaemonCode) : List (String × List UInt8) → DaemonCode
  | [] => .choose k
  | (value_url, value) :: rest => events (send_event_of_value_change value_url value .done) (adaptor_function k rest)

def answer_get (r : Request) (requested_service : Nat × String) : DaemonCode :=
  let mutex := DaemonMutex.event (.service requested_service.1)
  if r.x = some "1" then .lock mutex (.unlock mutex (Log r.log_message .done))
  else if r.p = some "1" then
    events (subscribe_to_service r.session_id requested_service.1 (some requested_service.2) .done) (Log r.log_message .done)
  else .lock mutex (adaptor_function (fun _ => .unlock mutex (Log r.log_message .done)) r.published)

def answer_put (r : Request) (requested_service : Nat × String) : DaemonCode :=
  let mutex := DaemonMutex.event (.service requested_service.1)
  .lock mutex <|
  .choose fun put_function => if !put_function then .unlock mutex (Log r.log_message .done) else
  .choose fun value => if !value then .unlock mutex (Log r.log_message .done) else
  adaptor_function (fun ret =>
    if !ret then .unlock mutex (Log r.log_message .done)
    else .unlock mutex <|
      events (send_event_of_value_change requested_service.2 r.value .done) (Log r.log_message .done)) r.published

def answer_to_connection (r : Request) : DaemonCode :=
  if r.method = "GET" then
    if !r.con_cls then .done
    else if r.url = "/log" then events (subscribe_to_log_events r.session_id .done) (Log r.log_message .done)
    else if r.url = "/events" then
      events (set_up_server_sent_event_connection r.session_id .done) (Log r.log_message .done)
    else if r.url = "/devices" then Log r.log_message .done
    else matching_service r.url (fun
      | some requested_service => answer_get r requested_service
      | none => Log r.log_message .done) r.services
  else if r.method = "PUT" then
    if !r.con_cls then .done
    else matching_service r.url (fun
      | some requested_service => answer_put r requested_service
      | none => .done) r.services
  else .done

/-- What a thread of the daemon may run. -/
inductive DaemonCall where
  | event (c : EventCall)
  | consume_global_event_queue
  | server_sent_events_callback (connection_id : Option Nat)
  | server_sent_events_free_callback (connection_id : Option Nat)
  | free_server_sent_events_ressources
  | send_event_of_value_change (value_url : String) (value : List UInt8)
  | Log (log_message : List UInt8)
  | change_hpd_log_level
  | set_event_sending (send_events : Int)
  | answer_to_connection (r : Request)

def DaemonCall.body : DaemonCall → DaemonCode
  | .event c => events c.body .done
  | .consume_global_event_queue => events Locking.consume_global_event_queue .done
  | .server_sent_events_callback connection_id => events (Locking.server_sent_events_callback connection_id) .done
  | .server_sent_events_free_callback connection_id => events (Locking.server_sent_events_free_callback connection_id) .done
  | .free_server_sent_events_ressources => events Locking.free_server_sent_events_ressources .done
  | .send_event_of_value_change value_url value => events (Locking.send_event_of_value_change value_url value .done) .done
  | .Log log_message => Locking.Log log_message .done
  | .change_hpd_log_level => Locking.change_hpd_log_level
  | .set_event_sending send_events => Locking.set_event_sending send_events
  | .answer_to_connection r => Locking.answer_to_connection r

/-! ## The order of the mutexes -/

/-- A service's mutex may be held when that of the list is taken, and both when a queue's is. -/
def Mutex.rank : Mutex → Nat
  | .service _ => 0
  | .queue_list_mutex => 1
  | .event_queue _ => 2

/-- The log's is taken and released on its own. -/
def DaemonMutex.rank : DaemonMutex → Nat
  | .event m => m.rank
  | .hpd_log => 0

section functions

variable {H L : Finset Mutex} {depth : Nat} {m : Mutex}

/-- All that is held is below rank `n`. -/
def Below (n : Nat) (H : Finset Mutex) : Prop := ∀ h ∈ H, h.rank < n

/-- What is below a rank is below a higher one. -/
theorem Below.mono {n n' : Nat} (h : Below n H) (hn : n ≤ n') : Below n' H := fun m hm => (h m hm).trans_le hn

/-- A mutex of that rank is not held. -/
theorem Below.notMem (h : Below m.rank H) : m ∉ H := fun hm => Nat.lt_irrefl _ (h m hm)

/-- With a mutex of that rank all is below the next one. -/
theorem Below.insert (h : Below m.rank H) : Below (m.rank + 1) (Insert.insert m H) := by
  intro m' hm'
  rcases Finset.mem_insert.mp hm' with rfl | hm'
  · exact Nat.lt_succ_self _
  · exact (h m' hm').trans (Nat.lt_succ_self _)

/-- Nothing held is below any rank. -/
theorem below_empty (n : Nat) : Below n ∅ := nofun

/-- A mutex that was taken on top of `H` is released. -/
theorem upward_release {k : EventCode} (hm : Below m.rank H) (hk : k.Upward Mutex.rank L H depth) :
    (Code.unlock m k).Upward Mutex.rank L (Insert.insert m H) depth := by
  change k.Upward Mutex.rank L ((Insert.insert m H).erase m) depth
  rwa [Finset.erase_insert hm.notMem]

/-- It is taken around one look at what the threads share, and released on both ways out. -/
theorem upward_section {f : EventSystem → EventSystem} {c : EventSystem → Prop} [DecidablePred c] {k₁ k₂ : EventCode}
    (hm : Below m.rank H) (hk₁ : k₁.Upward Mutex.rank L H depth) (hk₂ : k₂.Upward Mutex.rank L H depth) :
    (Code.lock m (.act f fun s => if c s then .unlock m (.ret k₁) else .unlock m (.ret k₂)) : EventCode).Upward Mutex.rank L H
      (depth + 1) := by
  refine ⟨hm, fun s => ?_⟩
  dsimp only
  split
  · exact upward_release hm hk₁
  · exact upward_release hm hk₂

/-- A mutex that is not held may be released too. -/
theorem upward_stray {k : EventCode} (hm : m ∉ H) (hk : k.Upward Mutex.rank L H depth) :
    (Code.unlock m k).Upward Mutex.rank L H depth := by
  change k.Upward Mutex.rank L (H.erase m) depth
  rwa [Finset.erase_eq_of_notMem hm]

/-- The event is queued under the queue's mutex, which is released on every way out. -/
theorem queue_event_upward (event_queue : Option Nat) (event : Option Event) (g : Int) {k : Int → EventCode} (hH : Below 2 H)
    (hk : ∀ r, (k r).Upward Mutex.rank L H depth) :
    (queue_event event_queue event g k).Upward Mutex.rank L H depth := by
  cases event_queue with
  | none => exact hk _
  | some q =>
    cases event with
    | none => exact hk _
    | some event =>
      refine ⟨hH, fun s => ?_⟩
      dsimp only
      split
      · exact upward_release hH (hk _)
      · split
        · exact upward_release hH (hk _)
        · exact upward_release hH (hk _)

/-- Behind the wait the queue's mutex is held, and is released with an event or without one. -/
theorem dequeue_head_upward (q : Nat) {k : Option Event → EventCode} (hH : Below 2 H)
    (hk : ∀ r, (k r).Upward Mutex.rank L H depth) :
    (dequeue_head q k).Upward Mutex.rank L (Insert.insert (.event_queue q) H) (depth + 1) := by
  intro s
  dsimp only
  split
  · exact upward_release hH (hk _)
  · split
    · trivial
    · exact fun _ => upward_release hH (hk _)

/-- So it is where the connection is no longer the queue's. -/
theorem dequeue_rest_upward (q : Nat) (c : Option Nat) (g : Int) {k : Option Event → EventCode} (hH : Below 2 H)
    (hk : ∀ r, (k r).Upward Mutex.rank L H depth) :
    (dequeue_rest q c g k).Upward Mutex.rank L (Insert.insert (.event_queue q) H) (depth + 1) := by
  unfold dequeue_rest
  split
  · exact dequeue_head_upward q hH hk
  · split
    · intro s
      dsimp only
      split
      · trivial
      · split
        · exact upward_release hH (hk _)
        · exact dequeue_head_upward q hH hk
    · exact dequeue_head_upward q hH hk

/-- The wait gives the queue's mutex back and takes it again, with nothing above it held. -/
theorem dequeue_event_upward (event_queue c : Option Nat) (g : Int) {k : Option Event → EventCode} (hH : Below 2 H)
    (hk : ∀ r, (k r).Upward Mutex.rank L H depth) :
    (dequeue_event event_queue c g k).Upward Mutex.rank L H depth := by
  cases event_queue with
  | none => exact hk _
  | some q =>
    refine ⟨hH, fun s => ?_⟩
    dsimp only
    split
    · intro _
      exact upward_release hH ⟨hH, fun _ => dequeue_rest_upward q c g hH hk⟩
    · exact dequeue_rest_upward q c g hH hk

/-- The subscriptions are looked at under the queue's mutex. -/
theorem is_queue_subscribed_to_service_upward (event_queue : Option Nat) (URL : Option String) {k : Int → EventCode}
    (hH : Below 2 H) (hk : ∀ r, (k r).Upward Mutex.rank L H depth) :
    (is_queue_subscribed_to_service event_queue URL k).Upward Mutex.rank L H depth := by
  cases event_queue with
  | none => exact hk _
  | some q =>
    cases URL with
    | none => exact hk _
    | some URL => exact upward_section hH (hk _) (hk _)

/-- A subscription is added under the queue's mutex. -/
theorem add_service_id_to_queue_upward (service_id : Option String) (event_queue : Option Nat) {k : Int → EventCode}
    (hH : Below 2 H) (hk : ∀ r, (k r).Upward Mutex.rank L H depth) :
    (add_service_id_to_queue service_id event_queue k).Upward Mutex.rank L H depth := by
  cases service_id with
  | none => exact hk _
  | some id =>
    cases event_queue with
    | none => exact hk _
    | some q => exact ⟨hH, fun _ => upward_release hH (hk _)⟩

/-- It is removed under the queue's mutex, found or not. -/
theorem remove_service_id_from_queue_upward (URL : Option String) (event_queue : Option Nat) {k : Int → EventCode}
    (hH : Below 2 H) (hk : ∀ r, (k r).Upward Mutex.rank L H depth) :
    (remove_service_id_from_queue URL event_queue k).Upward Mutex.rank L H depth := by
  cases URL with
  | none => exact hk _
  | some URL =>
    cases event_queue with
    | none => exact hk _
    | some q => exact upward_section hH (hk _) (hk _)

/-- The availability is set under the queue's mutex, once the arguments are accepted. -/
theorem set_availability_of_service_upward (URL : Option String) (event_queue : Option Nat) (availability : Int)
    {k : Int → EventCode} (hH : Below 2 H) (hk : ∀ r, (k r).Upward Mutex.rank L H depth) :
    (set_availability_of_service URL event_queue availability k).Upward Mutex.rank L H depth := by
  cases URL with
  | none => exact hk _
  | some URL =>
    cases event_queue with
    | none => exact hk _
    | some q =>
      unfold set_availability_of_service
      dsimp only
      split
      · exact hk _
      · exact upward_section hH (hk _) (hk _)

/-- Each queue's mutex is taken under the list's. -/
theorem get_queue_loop_upward (session_id : Nat) {k : Option Nat → EventCode} (hH : Below 1 H)
    (hk : ∀ r, (k r).Upward Mutex.rank L H depth) :
    ∀ l, (get_queue_loop session_id k l).Upward Mutex.rank L (Insert.insert .queue_list_mutex H) (depth + 1) := by
  have hlist : Below 2 (Insert.insert Mutex.queue_list_mutex H) := Below.insert hH
  intro l
  induction l with
  | nil => exact upward_release hH (hk _)
  | cons iterator rest ih =>
    refine ⟨hlist, ?_⟩
    split
    · exact upward_release hlist (upward_release hH (hk _))
    · exact upward_release hlist ih

/-- The search takes the mutex of the list, and those of the queues on top of it. -/
theorem get_queue_upward (session_id : Option Nat) {k : Option Nat → EventCode} (hH : Below 1 H)
    (hk : ∀ r, (k r).Upward Mutex.rank L H depth) : (get_queue session_id k).Upward Mutex.rank L H depth := by
  cases session_id with
  | none => exact hk _
  | some session_id => exact ⟨hH, fun s => get_queue_loop_upward session_id hH hk _⟩

/-- A queue that is made for a client is put into the list under the list's mutex. -/
theorem with_queue_upward (session_id : Option Nat) {k : Nat → EventCode} (hH : Below 1 H)
    (hk : ∀ q, (k q).Upward Mutex.rank L H depth) : (with_queue session_id k).Upward Mutex.rank L H depth := by
  refine get_queue_upward session_id hH fun r => ?_
  cases r with
  | some q => exact hk q
  | none => exact fun s => ⟨hH, fun _ => upward_release hH (hk _)⟩

/-- The cookie is made under the queue's mutex. -/
theorem add_session_cookie_upward (q : Nat) {k : EventCode} (hH : Below 2 H) (hk : k.Upward Mutex.rank L H depth) :
    (add_session_cookie q k).Upward Mutex.rank L H depth :=
  ⟨hH, upward_release hH hk⟩

/-- Where there is a response, that is the only mutex. -/
theorem send_cookied_xml_upward (q : Nat) {k : EventCode} (hH : Below 2 H) (hk : k.Upward Mutex.rank L H depth) :
    (send_cookied_xml q k).Upward Mutex.rank L H depth := by
  intro response
  cases response with
  | true => exact add_session_cookie_upward q hH hk
  | false => exact hk

/-- A queue is told to exit under its mutex. -/
theorem exit_event_queue_upward (q : Nat) {k : EventCode} (hH : Below 2 H) (hk : k.Upward Mutex.rank L H depth) :
    (exit_event_queue q k).Upward Mutex.rank L H depth :=
  ⟨hH, fun _ => upward_release hH hk⟩

/-- A new value goes to the global queue, with the mutex of its service held or without. -/
theorem send_event_of_value_change_upward (value_url : String) (value : List UInt8) {k : EventCode} (hH : Below 2 H)
    (hk : k.Upward Mutex.rank L H depth) : (send_event_of_value_change value_url value k).Upward Mutex.rank L H depth := by
  intro memory
  dsimp only
  split
  · exact queue_event_upward _ _ _ hH fun _ => hk
  · exact hk

/-- So does a line of the log. -/
theorem send_log_event_upward (log_data : List UInt8) {k : EventCode} (hH : Below 2 H)
    (hk : k.Upward Mutex.rank L H depth) : (send_log_event log_data k).Upward Mutex.rank L H depth := by
  intro memory
  dsimp only
  split
  · exact queue_event_upward _ _ _ hH fun _ => hk
  · exact hk

end functions

/-! ## The pieces of the event subsystem -/

/-- The release of the queue's mutex, which is not held, does no harm. -/
theorem subscribe_to_service_upward (session_id : Option Nat) (service : Nat) (value_url : Option String) :
    (subscribe_to_service session_id service value_url .done).Upward Mutex.rank ∅ ∅ 0 := by
  refine Code.upward_call (with_queue_upward session_id (below_empty 1) fun q => ⟨below_empty 0, ?_⟩)
  have hservice : Below 1 (Insert.insert (Mutex.service service) ∅) := Below.insert (below_empty 0)
  have hsubscribed : Code.Upward Mutex.rank ∅ (subscribed q service .done) (Insert.insert (Mutex.service service) ∅) 1 :=
    upward_stray (by simp) (upward_release (below_empty 0) (send_cookied_xml_upward q (below_empty 2) ⟨rfl, rfl⟩))
  refine is_queue_subscribed_to_service_upward _ _ (hservice.mono (by decide)) fun r => ?_
  split
  · refine add_service_id_to_queue_upward _ _ (hservice.mono (by decide)) fun _ xmlbuff => ?_
    cases xmlbuff with
    | true => exact hsubscribed
    | false => exact upward_release (below_empty 0) ⟨rfl, rfl⟩
  · intro xmlbuff
    cases xmlbuff with
    | true => exact remove_service_id_from_queue_upward _ _ (hservice.mono (by decide)) fun _ => hsubscribed
    | false => exact upward_stray (by simp) (upward_release (below_empty 0) ⟨rfl, rfl⟩)

/-- The queue's mutex is held until the text is made, and no other one. -/
theorem subscribe_to_log_events_upward (session_id : Option Nat) :
    (subscribe_to_log_events session_id .done).Upward Mutex.rank ∅ ∅ 0 := by
  refine Code.upward_call (with_queue_upward session_id (below_empty 1) fun q => ⟨below_empty 2, fun _ xmlbuff => ?_⟩)
  cases xmlbuff with
  | true => exact upward_release (below_empty 2) (send_cookied_xml_upward q (below_empty 2) ⟨rfl, rfl⟩)
  | false => exact upward_release (below_empty 2) ⟨rfl, rfl⟩

/-- The search is over when the queue's mutex is taken, for the new connection ID and again for the cookie. -/
theorem set_up_server_sent_event_connection_upward (session_id : Option Nat) :
    (set_up_server_sent_event_connection session_id .done).Upward Mutex.rank ∅ ∅ 0 := by
  refine Code.upward_call (get_queue_upward session_id (below_empty 1) fun r => ?_)
  cases r with
  | none => exact ⟨rfl, rfl⟩
  | some q =>
    refine ⟨below_empty 2, fun _ => upward_release (below_empty 2) fun s => ?_⟩
    dsimp only
    split
    · exact ⟨rfl, rfl⟩
    · intro response
      cases response with
      | true => exact add_session_cookie_upward q (below_empty 2) ⟨rfl, rfl⟩
      | false => exact ⟨rfl, rfl⟩

/-- Each queue of the list is notified under the list's mutex. -/
theorem notify_loop_upward (value_url : Option String) (availability : Int) :
    ∀ l, (notify_loop value_url availability .done l).Upward Mutex.rank ∅ (Insert.insert .queue_list_mutex ∅) 1 := by
  have hlist : Below 2 (Insert.insert Mutex.queue_list_mutex ∅) := Below.insert (below_empty 1)
  intro l
  induction l with
  | nil => exact upward_release (below_empty 1) ⟨rfl, rfl⟩
  | cons iterator rest ih =>
    refine set_availability_of_service_upward _ _ _ hlist fun r => ?_
    dsimp only
    split
    · exact fun memory => queue_event_upward _ _ _ hlist fun _ => ih
    · exact ih

/-- The loop holds the list's mutex, and the function no other one. -/
theorem notify_service_availability_upward (service : Option (Option String)) (availability : Int) :
    (notify_service_availability service availability .done).Upward Mutex.rank ∅ ∅ 0 := by
  cases service with
  | none => exact ⟨rfl, rfl⟩
  | some value_url => exact ⟨below_empty 1, fun s => notify_loop_upward value_url availability s.event_queue_list⟩

/-- What a client of the event subsystem runs takes mutexes upwards, and ends with none. -/
theorem eventCall_upward (c : EventCall) : c.body.Upward Mutex.rank ∅ ∅ 0 := by
  cases c with
  | subscribe_to_service session_id service value_url => exact subscribe_to_service_upward session_id service value_url
  | subscribe_to_log_events session_id => exact subscribe_to_log_events_upward session_id
  | queue_event q event g => exact queue_event_upward (k := fun _ => .done) q event g (below_empty 2) fun _ => Code.upward_done
  | dequeue_event q c g => exact dequeue_event_upward (k := fun _ => .done) q c g (below_empty 2) fun _ => Code.upward_done
  | is_queue_subscribed_to_service q URL =>
    exact is_queue_subscribed_to_service_upward (k := fun _ => .done) q URL (below_empty 2) fun _ => Code.upward_done
  | add_service_id_to_queue service_id q =>
    exact add_service_id_to_queue_upward (k := fun _ => .done) service_id q (below_empty 2) fun _ => Code.upward_done
  | remove_service_id_from_queue URL q =>
    exact remove_service_id_from_queue_upward (k := fun _ => .done) URL q (below_empty 2) fun _ => Code.upward_done
  | get_queue session_id => exact get_queue_upward (k := fun _ => .done) session_id (below_empty 1) fun _ => Code.upward_done
  | notify_service_availability service availability => exact notify_service_availability_upward service availability
  | set_up_server_sent_event_connection session_id => exact set_up_server_sent_event_connection_upward session_id

/-- The event is offered to each queue under the list's mutex. -/
theorem consume_loop_upward (new_event : Event) :
    ∀ l, (consume_loop new_event l).Upward Mutex.rank ∅ (Insert.insert .queue_list_mutex ∅) 0 := by
  intro l
  induction l with
  | nil => exact upward_release (below_empty 1) Code.upward_done
  | cons iterator rest ih =>
    refine queue_event_upward _ _ _ (Below.insert (below_empty 1)) fun r => ?_
    split
    · exact upward_release (below_empty 1) Code.upward_done
    · exact ih

/-- The global queue's mutex is released before the list's is taken. -/
theorem consume_global_event_queue_upward : consume_global_event_queue.Upward Mutex.rank ∅ ∅ 0 := by
  refine dequeue_event_upward _ _ _ (below_empty 2) fun r => ?_
  cases r with
  | none => exact Code.upward_done
  | some new_event => exact ⟨below_empty 1, fun s => consume_loop_upward new_event s.event_queue_list⟩

/-- The strings are compared under the mutex of the list, which is released with the result. -/
theorem get_event_queue_loop_upward (connection_id : Nat) {k : Option Nat → EventCode}
    (hk : ∀ r, (k r).Upward Mutex.rank ∅ ∅ 0) :
    ∀ l, (get_event_queue_loop connection_id k l).Upward Mutex.rank ∅ (Insert.insert .queue_list_mutex ∅) 0 := by
  intro l
  induction l with
  | nil => exact upward_release (below_empty 1) (hk _)
  | cons iterator rest ih =>
    intro s
    dsimp only
    split
    · trivial
    · split
      · exact upward_release (below_empty 1) (hk _)
      · exact ih

/-- What follows the search runs without a mutex. -/
theorem get_event_queue_with_connection_id_upward (connection_id : Option Nat) {k : Option Nat → EventCode}
    (hk : ∀ r, (k r).Upward Mutex.rank ∅ ∅ 0) :
    (get_event_queue_with_connection_id connection_id k).Upward Mutex.rank ∅ ∅ 0 := by
  cases connection_id with
  | none => exact hk _
  | some c => exact ⟨below_empty 1, fun s => get_event_queue_loop_upward c hk s.event_queue_list⟩

/-- The list's mutex is released before the queue's is taken. -/
theorem server_sent_events_callback_upward (connection_id : Option Nat) :
    (server_sent_events_callback connection_id).Upward Mutex.rank ∅ ∅ 0 := by
  refine get_event_queue_with_connection_id_upward connection_id fun r => ?_
  cases r with
  | none => exact Code.upward_done
  | some q => exact dequeue_event_upward _ _ _ (below_empty 2) fun _ => Code.upward_done

/-- The mutexes of the list, of the queue, and of the list again are taken one after the other. -/
theorem server_sent_events_free_callback_upward (connection_id : Option Nat) :
    (server_sent_events_free_callback connection_id).Upward Mutex.rank ∅ ∅ 0 := by
  refine get_event_queue_with_connection_id_upward connection_id fun r => ?_
  cases r with
  | none => exact Code.upward_done
  | some q =>
    refine ⟨below_empty 2, fun _ => upward_release (below_empty 2) ⟨below_empty 2, fun _ timedout => ?_⟩⟩
    refine upward_release (below_empty 2) ?_
    split
    · exact ⟨below_empty 1, fun _ => upward_release (below_empty 1) Code.upward_done⟩
    · exact Code.upward_done

/-- Each queue is told to exit under the list's mutex, and the global one without it. -/
theorem free_loop_upward : ∀ l, (free_loop l).Upward Mutex.rank ∅ (Insert.insert .queue_list_mutex ∅) 0 := by
  intro l
  induction l with
  | nil => exact upward_release (below_empty 1) (exit_event_queue_upward _ (below_empty 2) Code.upward_done)
  | cons iterator rest ih => exact fun _ => exit_event_queue_upward _ (Below.insert (below_empty 1)) ih

/-- The whole loop runs under the mutex of the list. -/
theorem free_server_sent_events_ressources_upward : free_server_sent_events_ressources.Upward Mutex.rank ∅ ∅ 0 :=
  ⟨below_empty 1, fun s => free_loop_upward s.event_queue_list⟩

/-! ## The web server and the log -/

section daemon

variable {L : Finset DaemonMutex} {depth : Nat}

/-- A piece of the event subsystem that is entered and left with the mutexes `H`. -/
theorem events_upward {code : EventCode} {H : Finset Mutex} {k : DaemonCode} (hcode : code.Upward Mutex.rank H H 0)
    (hk : k.Upward DaemonMutex.rank L (H.image .event) depth) :
    (events code k).Upward DaemonMutex.rank L (H.image .event) depth := by
  have h : (code.rename DaemonMutex.event).Upward DaemonMutex.rank (H.image .event) (H.image .event) 0 :=
    hcode.rename DaemonMutex.event_injective fun _ _ hlt => hlt
  have h' := Code.Upward.andThen hk h
  rwa [Nat.zero_add] at h'

/-- One that is entered with none. -/
theorem events_upward_free {code : EventCode} {k : DaemonCode} (hcode : code.Upward Mutex.rank ∅ ∅ 0)
    (hk : k.Upward DaemonMutex.rank L ∅ depth) : (events code k).Upward DaemonMutex.rank L ∅ depth :=
  events_upward (H := ∅) hcode hk

/-- A mutex taken on its own is released. -/
theorem upward_only {m : DaemonMutex} {k : DaemonCode} (hk : k.Upward DaemonMutex.rank L ∅ depth) :
    (Code.unlock m k).Upward DaemonMutex.rank L (Insert.insert m ∅) depth := by
  change k.Upward DaemonMutex.rank L ((Insert.insert m ∅ : Finset DaemonMutex).erase m) depth
  rwa [Finset.erase_insert (Finset.notMem_empty m)]

/-- The log's mutex is released before the line goes out as an event. -/
theorem Log_upward (log_message : List UInt8) {k : DaemonCode} (hk : k.Upward DaemonMutex.rank L ∅ depth) :
    (Log log_message k).Upward DaemonMutex.rank L ∅ depth := by
  intro hpd_log
  dsimp only
  split
  · refine ⟨fun _ h => absurd h (Finset.notMem_empty _), fun no_log => ?_⟩
    dsimp only
    split
    · exact upward_only hk
    · intro log_file
      dsimp only
      split
      · exact upward_only hk
      · intro shown
        dsimp only
        split
        · exact upward_only (events_upward_free (send_log_event_upward log_message (below_empty 2) Code.upward_done) hk)
        · exact upward_only hk
  · exact hk

/-- Each service's mutex is taken and released in turn. -/
theorem matching_service_upward (url : String) {k : Option (Nat × String) → DaemonCode}
    (hk : ∀ r, (k r).Upward DaemonMutex.rank L ∅ depth) :
    ∀ l, (matching_service url k l).Upward DaemonMutex.rank L ∅ depth := by
  intro l
  induction l with
  | nil => exact hk none
  | cons iterator rest ih =>
    refine ⟨fun _ h => absurd h (Finset.notMem_empty _), ?_⟩
    split
    · exact upward_only (hk (some iterator))
    · exact upward_only ih

/-- The adaptor's function runs under its service's mutex. -/
theorem adaptor_function_upward (service : Nat) {k : Bool → DaemonCode}
    (hk : ∀ r, (k r).Upward DaemonMutex.rank L {.event (.service service)} depth) :
    ∀ l, (adaptor_function k l).Upward DaemonMutex.rank L {.event (.service service)} depth := by
  intro l
  induction l with
  | nil => exact hk
  | cons event rest ih =>
    have hservice : Below 1 (Insert.insert (Mutex.service service) ∅) := Below.insert (below_empty 0)
    have himage : (Insert.insert (Mutex.service service) ∅ : Finset Mutex).image DaemonMutex.event = {.event (.service service)} :=
      Finset.image_singleton _ _
    rw [← himage] at ih ⊢
    exact events_upward (send_event_of_value_change_upward event.1 event.2 (hservice.mono (by decide)) Code.upward_done) ih

end daemon

/-- The service's mutex is released before the request is logged; a subscription takes it by itself. -/
theorem answer_get_upward (r : Request) (requested_service : Nat × String) :
    (answer_get r requested_service).Upward DaemonMutex.rank ∅ ∅ 0 := by
  have hlog : (Log r.log_message .done).Upward DaemonMutex.rank ∅ ∅ 0 := Log_upward r.log_message Code.upward_done
  unfold answer_get
  dsimp only
  split
  · exact ⟨fun _ h => absurd h (Finset.notMem_empty _), upward_only hlog⟩
  · split
    · exact events_upward_free (subscribe_to_service_upward _ _ _) hlog
    · exact ⟨fun _ h => absurd h (Finset.notMem_empty _), adaptor_function_upward _ (fun _ => upward_only hlog) _⟩

/-- The event of the new value is sent after the service's mutex was released. -/
theorem answer_put_upward (r : Request) (requested_service : Nat × String) :
    (answer_put r requested_service).Upward DaemonMutex.rank ∅ ∅ 0 := by
  have hlog : (Log r.log_message .done).Upward DaemonMutex.rank ∅ ∅ 0 := Log_upward r.log_message Code.upward_done
  refine ⟨fun _ h => absurd h (Finset.notMem_empty _), fun put_function => ?_⟩
  dsimp only
  split
  · exact upward_only hlog
  · intro value
    dsimp only
    split
    · exact upward_only hlog
    · refine adaptor_function_upward _ (fun ret => ?_) _
      split
      · exact upward_only hlog
      · exact upward_only (events_upward_free (send_event_of_value_change_upward requested_service.2 r.value (below_empty 2)
          Code.upward_done) hlog)

/-- Every branch of a request takes mutexes upwards, and ends with none. -/
theorem answer_to_connection_upward (r : Request) : (answer_to_connection r).Upward DaemonMutex.rank ∅ ∅ 0 := by
  have hlog : (Log r.log_message .done).Upward DaemonMutex.rank ∅ ∅ 0 := Log_upward r.log_message Code.upward_done
  unfold answer_to_connection
  split
  · split
    · exact Code.upward_done
    · split
      · exact events_upward_free (subscribe_to_log_events_upward _) hlog
      · split
        · exact events_upward_free (set_up_server_sent_event_connection_upward _) hlog
        · split
          · exact hlog
          · refine matching_service_upward _ (fun s => ?_) _
            cases s with
            | some requested_service => exact answer_get_upward r requested_service
            | none => exact hlog
  · split
    · split
      · exact Code.upward_done
      · refine matching_service_upward _ (fun s => ?_) _
        cases s with
        | some requested_service => exact answer_put_upward r requested_service
        | none => exact Code.upward_done
    · exact Code.upward_done

/-- Whatever a thread of the daemon runs takes mutexes upwards. -/
theorem body_upward (c : DaemonCall) : c.body.Upward DaemonMutex.rank ∅ ∅ 0 := by
  cases c with
  | event c => exact events_upward_free (eventCall_upward c) Code.upward_done
  | consume_global_event_queue => exact events_upward_free consume_global_event_queue_upward Code.upward_done
  | server_sent_events_callback c => exact events_upward_free (server_sent_events_callback_upward c) Code.upward_done
  | server_sent_events_free_callback c => exact events_upward_free (server_sent_events_free_callback_upward c) Code.upward_done
  | free_server_sent_events_ressources => exact events_upward_free free_server_sent_events_ressources_upward Code.upward_done
  | send_event_of_value_change value_url value =>
    exact events_upward_free (send_event_of_value_change_upward value_url value (below_empty 2) Code.upward_done) Code.upward_done
  | Log log_message => exact Log_upward log_message Code.upward_done
  | change_hpd_log_level =>
    intro hpd_log
    dsimp only
    split
    · exact ⟨fun _ h => absurd h (Finset.notMem_empty _), trivial⟩
    · exact Code.upward_done
  | set_event_sending send_events =>
    change (Locking.set_event_sending send_events).Upward DaemonMutex.rank ∅ ∅ 0
    unfold Locking.set_event_sending
    split
    · intro hpd_log
      dsimp only
      split
      · exact ⟨fun _ h => absurd h (Finset.notMem_empty _), upward_only Code.upward_done⟩
      · trivial
    · exact Code.upward_done
  | answer_to_connection r => exact answer_to_connection_upward r

/-- In every run of any number of threads of the daemon, whatever they do: a thread that waits for a mutex does so, through others
that wait, for one that can run or has crashed, and the threads there are can always be run until one crashes or all are at their
ends with every mutex free. A thread that waits for an event can run: its wait may end at any time. -/
theorem deadlock_free (s₀ : EventSystem) (acts : List (Act DaemonCall)) :
    Always (step DaemonCall.body) (DeadlockFree DaemonCall.body) (start s₀) acts :=
  deadlockFree_always body_upward s₀ acts

end HomeBridge.Hpd.Locking
