import Mathlib.Data.List.Induction
import Mathlib.Data.List.Nodup
import HomeBridge.Hpd.PutChunks
import HomeBridge.Hpd.Subscriptions

/-!
# The HTTP server

Requests of any number of clients, answered call by call (`answer_to_connection`, `hpd_http_web_server.c`), while services are registered
and unregistered and the threads of the sessions go on. libmicrohttpd calls the function once when a request's headers are there, once
for each chunk of its body, and then without data until there is a response or the client has gone; it does not call it any more once
there is one, or once it has returned `MHD_NO`. Memory is taken to be there, and the texts the XML functions make may be any.

A call is one step here. What comes between its sections is the matter of `PutEvents`, `Subscriptions` and `DaemonThreads`.
-/

namespace HomeBridge.Hpd

open CMem Runs

namespace Http

/-- A request: its line, the session its cookie names, and its arguments `x` and `p`. -/
structure Request where
  method : String
  url : String
  session : Option Nat
  x : Option String
  p : Option String

/-- What `*con_cls` points to: nothing, the mark of a GET that has been seen before, or the bytes of a chunk. -/
inductive ConCls where
  | null
  | aptr
  | data (put_data_temp : List UInt8)
  deriving DecidableEq

/-- What `MHD_queue_response` is called with: an error, a text, the answer of a subscription with the session's cookie, or the events of a
session. -/
inductive Reply where
  | notFound
  | badRequest
  | internalServerError
  | xml (xmlbuff : List UInt8)
  | subscription (value url : String) (session_id : Nat)
  | events (session_id connection_id : Nat)

/-- The services with a `put_function`, and the XML functions. -/
structure Functions where
  put_function : Service → Bool
  get_value_from_xml_value : List UInt8 → Option (List UInt8)
  get_xml_value : List UInt8 → List UInt8

/-- What other functions come to in a call: the descriptions, and what the function of the service leaves in the buffer and returns. -/
structure Callees where
  get_xml_device_list : List UInt8
  extract_service_xml : List UInt8
  content : Mem
  ret : { ret : Nat // ret < MHD_MAX_BUFFER_SIZE }

end Http

open Http

/-- The server: its services, its sessions by their IDs and how many IDs there have been, the requests so far, what `*con_cls` is for those
that libmicrohttpd will call for again, those with their body behind them, those whose block is in memory, and the responses. -/
structure Http where
  service_head : List Service
  event_queue_list_head : List Nat
  session : Nat → Session
  session_ids : Nat
  request : Nat → Option Request
  con_cls : Nat → Option Http.ConCls
  uploaded : Nat → Bool
  put_data_temp : Nat → Bool
  responses : List (Nat × Reply)

/-- What happens next: the application registers or unregisters a service; libmicrohttpd calls for a connection, with the headers, with a
chunk, or with nothing more to come; a client goes; a section of a session's thread; a session ends. -/
inductive HttpInput where
  | register (service_to_register : Service) (element : Bool)
  | unregister (service_to_unregister : Service)
  | headers (c : Nat) (r : Request) (o : Callees)
  | upload (c : Nat) (upload_data : Chunk) (o : Callees)
  | complete (c : Nat) (o : Callees)
  | hangUp (c : Nat)
  | act (k : Nat) (a : SessionAct)
  | destroy (k : Nat)

/-- The sections that only a request runs. -/
def SessionAct.IsRequest : SessionAct → Bool
  | .subscribe _ | .unsubscribe _ | .toggleLog | .setUp => true
  | _ => false

namespace Http

def start : Http := ⟨[], [], fun _ => .start, 0, fun _ => none, fun _ => none, fun _ => false, fun _ => false, []⟩

/-- `MHD_queue_response`. -/
def respond (s : Http) (c : Nat) (reply : Reply) : Http :=
  { s with con_cls := Function.update s.con_cls c none, responses := s.responses ++ [(c, reply)] }

/-- libmicrohttpd is done with a connection. -/
def close (s : Http) (c : Nat) : Http := { s with con_cls := Function.update s.con_cls c none }

/-- `get_queue`. -/
def get_queue (s : Http) (session_id : Option Nat) : Option Nat :=
  session_id.bind fun session_id => s.event_queue_list_head.find? fun iterator => session_id == iterator

/-- The queue of a request's session, which is made if there is none. -/
def queueFor (s : Http) (session_id : Option Nat) : Nat × Http :=
  match s.get_queue session_id with
  | some event_queue => (event_queue, s)
  | none => (s.session_ids,
    { s with event_queue_list_head := s.event_queue_list_head ++ [s.session_ids]
             session := Function.update s.session s.session_ids .start
             session_ids := s.session_ids + 1 })

/-- The queue of a session is changed. -/
def setQueue (s : Http) (k : Nat) (queue : EventQueue) : Http :=
  { s with session := Function.update s.session k { s.session k with queue } }

/-- `subscribe_to_service`. -/
def subscribe_to_service (s : Http) (c : Nat) (session_id : Option Nat) (requested_service : Service) : Http :=
  let (k, s) := s.queueFor session_id
  let event_queue := (s.session k).queue
  let found := is_queue_subscribed_to_service event_queue requested_service.value_url
  let (value, event_queue) := subscribe_or_unsubscribe found requested_service.value_url event_queue
  (s.setQueue k event_queue).respond c (.subscription value requested_service.value_url k)

/-- `subscribe_to_log_events`. -/
def subscribe_to_log_events (s : Http) (c : Nat) (session_id : Option Nat) : Http :=
  let (k, s) := s.queueFor session_id
  let event_queue := (s.session k).queue
  let value := if event_queue.send_log_events = HPD_YES then UNSUBSCRIBE else SUBSCRIBE
  (s.setQueue k (Hpd.subscribe_to_log_events event_queue)).respond c (.subscription value "log" k)

/-- `set_up_server_sent_event_connection`, with the answer to what it returns. -/
def set_up_server_sent_event_connection (s : Http) (c : Nat) (session_id : Option Nat) : Http :=
  match s.get_queue session_id with
  | none => s.respond c .notFound
  | some k =>
    let t := s.session k
    let (event_queue, woken) := Hpd.set_up_server_sent_event_connection t.queue t.issued
    let s := { s with session := Function.update s.session k { queue := event_queue, place := t.places woken, issued := t.issued + 1 } }
    if ¬event_queue.service_id_head.isEmpty ∨ event_queue.send_log_events = HPD_YES then s.respond c (.events k t.issued)
    else s.respond c .notFound

/-- The GET branch, from the second call on. -/
def get (f : Functions) (s : Http) (c : Nat) (r : Request) (o : Callees) : Option Http :=
  if r.url = "/log" then some (s.subscribe_to_log_events c r.session)
  else if r.url = "/events" then some (s.set_up_server_sent_event_connection c r.session)
  else if r.url = "/devices" then some (s.respond c (.xml o.get_xml_device_list))
  else match matching_service s.service_head r.url with
  | none => some (s.respond c .notFound)
  | some requested_service =>
    if r.x = some "1" then some (s.respond c (.xml o.extract_service_xml))
    else if r.p = some "1" then some (s.subscribe_to_service c r.session requested_service)
    else (afterCall o.content o.ret).map fun m =>
      s.respond c (if o.ret.1 = 0 then .internalServerError else .xml (f.get_xml_value (bufferString m)))

/-- The PUT branch, once something has been stored. The mark of a GET is no text. -/
def put (f : Functions) (s : Http) (c : Nat) (r : Request) (con_cls : ConCls) (o : Callees) : Option Http :=
  match matching_service s.service_head r.url with
  | none => some (s.respond c .notFound)
  | some requested_service =>
    if f.put_function requested_service then
      match con_cls with
      | .data put_data_temp =>
        match f.get_value_from_xml_value put_data_temp with
        | none => some (s.respond c .badRequest)
        | some _ => (afterCall o.content o.ret).map fun m =>
          respond { s with put_data_temp := Function.update s.put_data_temp c false } c
            (if o.ret.1 = 0 then .internalServerError else .xml (f.get_xml_value (bufferString m)))
      | _ => none
    else some (s.respond c .badRequest)

/-- `answer_to_connection`. -/
def answer_to_connection (f : Functions) (s : Http) (c : Nat) (upload_data : List UInt8) (o : Callees) : Option Http := do
  let r ← s.request c
  let con_cls ← s.con_cls c
  if r.method = "GET" then
    if con_cls = .aptr then s.get f c r o
    else some { s with con_cls := Function.update s.con_cls c (some .aptr) }
  else if r.method = "PUT" then
    if con_cls = .null then
      if upload_data.length = 0 then some s
      else some { s with con_cls := Function.update s.con_cls c (some (.data upload_data))
                         put_data_temp := Function.update s.put_data_temp c true }
    else s.put f c r con_cls o
  else some (s.close c)

/-- One step. Connections are numbered; what libmicrohttpd does not call for any more is not called for. -/
def step (f : Functions) (s : Http) : HttpInput → Option Http
  | .register service_to_register element =>
    if service_to_register.device.secure_device = HPD_NON_SECURE_DEVICE ∧
        is_unsecure_service_registered s.service_head service_to_register = 0 then
      some { s with service_head := (register_service_in_unsecure_server element s.service_head service_to_register).2 }
    else some s
  | .unregister service_to_unregister =>
    if service_to_unregister.device.secure_device = HPD_NON_SECURE_DEVICE ∧
        is_unsecure_service_registered s.service_head service_to_unregister ≠ 0 then
      some { s with service_head := (unregister_service_in_unsecure_server s.service_head service_to_unregister).2 }
    else some s
  | .headers c r o =>
    if (s.request c).isNone then
      answer_to_connection f { s with request := Function.update s.request c (some r)
                                      con_cls := Function.update s.con_cls c (some .null) } c [] o
    else none
  | .upload c upload_data o => if s.uploaded c then none else s.answer_to_connection f c upload_data.1 o
  | .complete c o => answer_to_connection f { s with uploaded := Function.update s.uploaded c true } c [] o
  | .hangUp c => if (s.con_cls c).isSome then some (s.close c) else none
  | .act k a =>
    if a.IsRequest ∨ k ∉ s.event_queue_list_head then none
    else ((s.session k).step a).map fun t => { s with session := Function.update s.session k t }
  | .destroy k => some { s with event_queue_list_head := s.event_queue_list_head.erase k }

/-! ## What a call does -/

/-- The responses of a connection. -/
def repliesOf (s : Http) (c : Nat) : List Reply := (s.responses.filter fun e => e.1 == c).map Prod.snd

/-- One response of a connection more, and no more calls for it. -/
structure Responds (s s' : Http) (c : Nat) (reply : Reply) : Prop where
  request : s'.request = s.request
  con_cls : s'.con_cls = Function.update s.con_cls c none
  uploaded : s'.uploaded = s.uploaded
  responses : s'.responses = s.responses ++ [(c, reply)]

section

variable {f : Functions} {s s' : Http} {c : Nat} {r : Request} {o : Callees}

theorem responds_respond (s : Http) (c : Nat) (reply : Reply) : Responds s (s.respond c reply) c reply := ⟨rfl, rfl, rfl, rfl⟩

/-- The search for a request's queue changes the sessions at most. -/
theorem responds_queueFor (s : Http) (c : Nat) (session_id : Option Nat) (k : Nat) (queue : EventQueue) (reply : Reply) :
    Responds s (((s.queueFor session_id).2.setQueue k queue).respond c reply) c reply ∧
      (((s.queueFor session_id).2.setQueue k queue).respond c reply).put_data_temp = s.put_data_temp := by
  unfold queueFor
  split
  · exact ⟨⟨rfl, rfl, rfl, rfl⟩, rfl⟩
  · exact ⟨⟨rfl, rfl, rfl, rfl⟩, rfl⟩

/-- A request for the events has one response, and no block is touched. -/
theorem responds_set_up (s : Http) (c : Nat) (session_id : Option Nat) : ∃ reply,
    Responds s (s.set_up_server_sent_event_connection c session_id) c reply ∧
      (s.set_up_server_sent_event_connection c session_id).put_data_temp = s.put_data_temp := by
  unfold set_up_server_sent_event_connection
  split
  · exact ⟨_, ⟨rfl, rfl, rfl, rfl⟩, rfl⟩
  · simp only
    split
    · exact ⟨_, ⟨rfl, rfl, rfl, rfl⟩, rfl⟩
    · exact ⟨_, ⟨rfl, rfl, rfl, rfl⟩, rfl⟩

/-- A request for the URL of a service or of the devices, not for the log or the events. -/
def Request.IsPlain (r : Request) : Prop := r.url ≠ "/log" ∧ r.url ≠ "/events"

/-- One that asks for a description or a value. -/
def Request.AsksText (r : Request) : Prop := r.IsPlain ∧ (r.url = "/devices" ∨ r.x = some "1" ∨ r.p ≠ some "1")

/-- What a GET is answered with: what its URL and its arguments ask for. -/
theorem get_cases (f : Functions) (s : Http) (c : Nat) (r : Request) (o : Callees) :
    r.url = "/log" ∧ s.get f c r o = some (s.subscribe_to_log_events c r.session) ∨
      r.url = "/events" ∧ s.get f c r o = some (s.set_up_server_sent_event_connection c r.session) ∨
      (r.IsPlain ∧ ∃ service, matching_service s.service_head r.url = some service ∧ r.p = some "1" ∧
        s.get f c r o = some (s.subscribe_to_service c r.session service)) ∨
      ∃ reply, (r.IsPlain ∧ reply = .notFound ∨ r.AsksText ∧ (reply = .internalServerError ∨ ∃ xmlbuff, reply = .xml xmlbuff)) ∧
        s.get f c r o = some (s.respond c reply) := by
  unfold get
  by_cases hlog : r.url = "/log"
  · exact .inl ⟨hlog, if_pos hlog⟩
  · rw [if_neg hlog]
    by_cases hevents : r.url = "/events"
    · exact .inr (.inl ⟨hevents, if_pos hevents⟩)
    · have hplain : r.IsPlain := ⟨hlog, hevents⟩
      rw [if_neg hevents]
      by_cases hdevices : r.url = "/devices"
      · exact .inr (.inr (.inr ⟨_, .inr ⟨⟨hplain, .inl hdevices⟩, .inr ⟨_, rfl⟩⟩, if_pos hdevices⟩))
      · rw [if_neg hdevices]
        cases hmatch : matching_service s.service_head r.url with
        | none => exact .inr (.inr (.inr ⟨_, .inl ⟨hplain, rfl⟩, rfl⟩))
        | some service =>
          simp only
          by_cases hx : r.x = some "1"
          · exact .inr (.inr (.inr ⟨_, .inr ⟨⟨hplain, .inr (.inl hx)⟩, .inr ⟨_, rfl⟩⟩, if_pos hx⟩))
          · rw [if_neg hx]
            by_cases hp : r.p = some "1"
            · exact .inr (.inr (.inl ⟨hplain, service, rfl, hp, if_pos hp⟩))
            · rw [if_neg hp]
              obtain ⟨m, hm⟩ := afterCall_of_lt o.content o.ret.2
              rw [hm, Option.map_some]
              refine .inr (.inr (.inr ⟨_, .inr ⟨⟨hplain, .inr (.inr hp)⟩, ?_⟩, rfl⟩))
              split
              · exact .inl rfl
              · exact .inr ⟨_, rfl⟩

/-- A GET has a response. -/
theorem get_responds (f : Functions) (s : Http) (c : Nat) (r : Request) (o : Callees) :
    ∃ s' reply, s.get f c r o = some s' ∧ Responds s s' c reply ∧ s'.put_data_temp = s.put_data_temp := by
  rcases get_cases f s c r o with ⟨-, h⟩ | ⟨-, h⟩ | ⟨-, service, -, -, h⟩ | ⟨reply, -, h⟩
  · obtain ⟨hresp, hdata⟩ := s.responds_queueFor c r.session _ _ _
    exact ⟨_, _, h, hresp, hdata⟩
  · obtain ⟨_, hresp, hdata⟩ := s.responds_set_up c r.session
    exact ⟨_, _, h, hresp, hdata⟩
  · obtain ⟨hresp, hdata⟩ := s.responds_queueFor c r.session _ _ _
    exact ⟨_, _, h, hresp, hdata⟩
  · exact ⟨_, _, h, s.responds_respond c reply, rfl⟩

/-- The responses that leave the block of a PUT in memory. -/
def Leaves (reply : Reply) : Prop := reply = .notFound ∨ reply = .badRequest

/-- A PUT has a response. The block is freed where `put_function` is called. -/
theorem put_responds (f : Functions) (s : Http) (c : Nat) (r : Request) (body : List UInt8) (o : Callees) :
    ∃ s' reply, s.put f c r (.data body) o = some s' ∧ Responds s s' c reply ∧
      (Leaves reply ∧ s'.put_data_temp = s.put_data_temp ∨
        ¬Leaves reply ∧ s'.put_data_temp = Function.update s.put_data_temp c false) := by
  unfold put
  cases matching_service s.service_head r.url with
  | none => exact ⟨_, _, rfl, s.responds_respond c _, .inl ⟨.inl rfl, rfl⟩⟩
  | some service =>
    simp only
    by_cases hput : f.put_function service = true
    · rw [if_pos hput]
      cases f.get_value_from_xml_value body with
      | none => exact ⟨_, _, rfl, s.responds_respond c _, .inl ⟨.inr rfl, rfl⟩⟩
      | some _value =>
        obtain ⟨m, hm⟩ := afterCall_of_lt o.content o.ret.2
        simp only [hm, Option.map_some]
        refine ⟨_, _, rfl, ⟨rfl, rfl, rfl, rfl⟩, .inr ⟨?_, rfl⟩⟩
        rintro (hr | hr)
        · split at hr <;> cases hr
        · split at hr <;> cases hr
    · rw [if_neg hput]
      exact ⟨_, _, rfl, s.responds_respond c _, .inl ⟨.inr rfl, rfl⟩⟩

end

/-! ## One request, one response -/

/-- The chunks of a connection's body. -/
def uploads (c : Nat) (is : List HttpInput) : Nat :=
  is.countP fun
    | .upload c' _ _ => c' == c
    | _ => false

/-- The calls with nothing more to come. -/
def completes (c : Nat) (is : List HttpInput) : Nat :=
  is.countP fun
    | .complete c' _ => c' == c
    | _ => false

/-- The calls that lead to a response: a GET's second, and a PUT's next after its first chunk. -/
def Answered (method : String) (uploads completes : Nat) : Prop :=
  method = "GET" ∧ 1 ≤ uploads + completes ∨ method = "PUT" ∧ 1 ≤ uploads ∧ 2 ≤ uploads + completes

instance (method : String) (uploads completes : Nat) : Decidable (Answered method uploads completes) :=
  inferInstanceAs (Decidable (_ ∨ _))

/-- How far a request is, after so many chunks and calls without. -/
inductive Progress (s : Http) (c u n : Nat) : Prop
  /-- Not seen yet. -/
  | unseen (hr : s.request c = none) (hc : s.con_cls c = none) (hu : u = 0) (hn : n = 0) (hreplies : s.repliesOf c = [])
    (hdata : s.put_data_temp c = false)
  /-- A GET after its first call. -/
  | marked (r : Request) (hr : s.request c = some r) (hm : r.method = "GET") (hc : s.con_cls c = some .aptr) (hu : u = 0) (hn : n = 0)
    (hreplies : s.repliesOf c = []) (hdata : s.put_data_temp c = false)
  /-- A PUT without a body so far. -/
  | empty (r : Request) (hr : s.request c = some r) (hm : r.method = "PUT") (hc : s.con_cls c = some .null) (hu : u = 0)
    (hn : n = 0 ∨ s.uploaded c = true) (hreplies : s.repliesOf c = []) (hdata : s.put_data_temp c = false)
  /-- A PUT after its first chunk. -/
  | stored (r : Request) (hr : s.request c = some r) (hm : r.method = "PUT") (body : List UInt8) (hc : s.con_cls c = some (.data body))
    (hu : u = 1) (hn : n = 0) (hreplies : s.repliesOf c = []) (hdata : s.put_data_temp c = true)
  /-- Answered. -/
  | answered (r : Request) (hr : s.request c = some r) (hc : s.con_cls c = none) (reply : Reply) (hreplies : s.repliesOf c = [reply])
    (h : Answered r.method u n) (hdata : s.put_data_temp c = true ↔ r.method = "PUT" ∧ Leaves reply)
  /-- Given up, by libmicrohttpd or the client. -/
  | closed (r : Request) (hr : s.request c = some r) (hc : s.con_cls c = none) (hreplies : s.repliesOf c = [])
    (h : ¬Answered r.method u n) (hdata : s.put_data_temp c = true ↔ r.method = "PUT" ∧ 1 ≤ u)

/-- Nothing has happened to a connection. -/
structure SameAt (s s' : Http) (c : Nat) : Prop where
  request : s'.request c = s.request c
  con_cls : s'.con_cls c = s.con_cls c
  uploaded : s'.uploaded c = s.uploaded c
  repliesOf : s'.repliesOf c = s.repliesOf c
  put_data_temp : s'.put_data_temp c = s.put_data_temp c

section

variable {f : Functions} {s s' : Http} {c : Nat} {r : Request} {o : Callees} {u n : Nat}

/-- A request is as far as it was where nothing has happened to its connection. -/
theorem Progress.congr (h : Progress s c u n) (hs : SameAt s s' c) : Progress s' c u n := by
  cases h with
  | unseen hr hc hu hn hreplies hdata =>
    exact .unseen (hs.request.trans hr) (hs.con_cls.trans hc) hu hn (hs.repliesOf.trans hreplies) (hs.put_data_temp.trans hdata)
  | marked r hr hm hc hu hn hreplies hdata =>
    exact .marked r (hs.request.trans hr) hm (hs.con_cls.trans hc) hu hn (hs.repliesOf.trans hreplies) (hs.put_data_temp.trans hdata)
  | empty r hr hm hc hu hn hreplies hdata =>
    exact .empty r (hs.request.trans hr) hm (hs.con_cls.trans hc) hu (hs.uploaded ▸ hn) (hs.repliesOf.trans hreplies)
      (hs.put_data_temp.trans hdata)
  | stored r hr hm body hc hu hn hreplies hdata =>
    exact .stored r (hs.request.trans hr) hm body (hs.con_cls.trans hc) hu hn (hs.repliesOf.trans hreplies)
      (hs.put_data_temp.trans hdata)
  | answered r hr hc reply hreplies h hdata =>
    exact .answered r (hs.request.trans hr) (hs.con_cls.trans hc) reply (hs.repliesOf.trans hreplies) h (hs.put_data_temp ▸ hdata)
  | closed r hr hc hreplies h hdata =>
    exact .closed r (hs.request.trans hr) (hs.con_cls.trans hc) (hs.repliesOf.trans hreplies) h (hs.put_data_temp ▸ hdata)

/-- The response is the last one of its connection. -/
theorem Responds.repliesOf_self {reply : Reply} (h : Responds s s' c reply) : s'.repliesOf c = s.repliesOf c ++ [reply] := by
  rw [repliesOf, h.responses, List.filter_append, List.map_append]
  simp only [List.filter_cons, beq_self_eq_true, if_true, List.filter_nil, List.map_cons, List.map_nil]
  rfl

/-- A response of another connection. -/
theorem Responds.sameAt {reply : Reply} (h : Responds s s' c reply) {c' : Nat} (hne : c' ≠ c)
    (hdata : s'.put_data_temp c' = s.put_data_temp c') : SameAt s s' c' := by
  refine ⟨congrFun h.request c', ?_, congrFun h.uploaded c', ?_, hdata⟩
  · rw [h.con_cls, Function.update_of_ne hne]
  · have hc : (c == c') = false := beq_eq_false_iff_ne.mpr fun he => hne he.symm
    rw [repliesOf, h.responses, List.filter_append, List.map_append]
    simp only [List.filter_cons, hc, Bool.false_eq_true, if_false, List.filter_nil, List.map_nil, List.append_nil]
    rfl

/-- A response to a request that had none. -/
theorem Progress.of_responds {reply : Reply} (h : Responds s s' c reply) (hr : s.request c = some r) (hreplies : s.repliesOf c = [])
    (hanswered : Answered r.method u n) (hdata : s'.put_data_temp c = true ↔ r.method = "PUT" ∧ Leaves reply) : Progress s' c u n := by
  refine .answered r ((congrFun h.request c).trans hr) ?_ reply ?_ hanswered hdata
  · rw [h.con_cls, Function.update_self]
  · rw [h.repliesOf_self, hreplies, List.nil_append]

/-- The next call for a GET. -/
theorem answer_marked (hr : s.request c = some r) (hm : r.method = "GET") (hc : s.con_cls c = some .aptr) (upload_data : List UInt8)
    (o : Callees) : s.answer_to_connection f c upload_data o = s.get f c r o := by
  simp only [Http.answer_to_connection, hr, hc, Option.bind_eq_bind, Option.bind_some, if_pos hm, if_true]

theorem not_get_of_put (hm : r.method = "PUT") : ¬r.method = "GET" := by
  rw [hm]
  decide

/-- The next call for a PUT that has no body yet. -/
theorem answer_empty (hr : s.request c = some r) (hm : r.method = "PUT") (hc : s.con_cls c = some .null) (upload_data : List UInt8)
    (o : Callees) : s.answer_to_connection f c upload_data o = if upload_data.length = 0 then some s
      else some { s with con_cls := Function.update s.con_cls c (some (.data upload_data))
                         put_data_temp := Function.update s.put_data_temp c true } := by
  simp only [Http.answer_to_connection, hr, hc, Option.bind_eq_bind, Option.bind_some, if_neg (not_get_of_put hm), if_pos hm, if_true]

/-- And for one that has. -/
theorem answer_stored (hr : s.request c = some r) (hm : r.method = "PUT") {body : List UInt8} (hc : s.con_cls c = some (.data body))
    (upload_data : List UInt8) (o : Callees) : s.answer_to_connection f c upload_data o = s.put f c r (.data body) o := by
  have hnull : ¬(ConCls.data body = .null) := nofun
  simp only [Http.answer_to_connection, hr, hc, Option.bind_eq_bind, Option.bind_some, if_neg (not_get_of_put hm), if_pos hm,
    if_neg hnull]

/-- A call for a GET that was seen before, or for a PUT with its first chunk stored, is answered. -/
theorem answer_ready (h : Progress s c u n) (hlive : s.con_cls c ≠ none) (hready : s.con_cls c ≠ some .null) (u' n' : Nat)
    (hu : u ≤ u') (hcalls : u + n < u' + n') (upload_data : List UInt8) (o : Callees) :
    ∃ s', s.answer_to_connection f c upload_data o = some s' ∧ Progress s' c u' n' ∧ ∀ c' ≠ c, SameAt s s' c' := by
  cases h with
  | unseen hr hc => exact absurd hc hlive
  | marked r hr hm hc hu₀ hn₀ hreplies hdata =>
    obtain ⟨s', reply, hget, hresp, hsame⟩ := get_responds f s c r o
    refine ⟨s', (answer_marked hr hm hc upload_data o).trans hget, .of_responds hresp hr hreplies (.inl ⟨hm, by omega⟩) ?_,
      fun c' hne => hresp.sameAt hne (congrFun hsame c')⟩
    rw [hsame, hdata, hm]
    exact iff_of_false Bool.false_ne_true fun hput => absurd hput.1 (by decide)
  | empty r hr hm hc => exact absurd hc hready
  | stored r hr hm body hc hu₀ hn₀ hreplies hdata =>
    obtain ⟨s', reply, hput, hresp, hblock⟩ := put_responds f s c r body o
    refine ⟨s', (answer_stored hr hm hc upload_data o).trans hput, .of_responds hresp hr hreplies (.inr ⟨hm, by omega, by omega⟩) ?_,
      fun c' hne => hresp.sameAt hne ?_⟩
    · rcases hblock with ⟨hleaves, hsame⟩ | ⟨hleaves, hsame⟩
      · rw [hsame]
        exact iff_of_true hdata ⟨hm, hleaves⟩
      · rw [hsame, Function.update_self]
        exact iff_of_false Bool.false_ne_true fun hput => hleaves hput.2
    · rcases hblock with ⟨-, hsame⟩ | ⟨-, hsame⟩
      · rw [hsame]
      · rw [hsame, Function.update_of_ne hne]
  | answered r hr hc => exact absurd hc hlive
  | closed r hr hc => exact absurd hc hlive

/-- A call with a chunk. -/
theorem answer_upload (h : Progress s c u n) (hlive : s.con_cls c ≠ none) (hopen : ¬s.uploaded c = true) (upload_data : Chunk)
    (o : Callees) : ∃ s', s.answer_to_connection f c upload_data.1 o = some s' ∧ Progress s' c (u + 1) n ∧
      ∀ c' ≠ c, SameAt s s' c' := by
  by_cases hready : s.con_cls c = some .null
  · cases h with
    | empty r hr hm hc hu hn hreplies hdata =>
      have hlen : ¬upload_data.1.length = 0 := fun hnil => upload_data.2 (List.length_eq_zero_iff.mp hnil)
      refine ⟨_, (answer_empty hr hm hc upload_data.1 o).trans (if_neg hlen), ?_, fun c' hne => ?_⟩
      · exact .stored r hr hm upload_data.1 (Function.update_self ..) (by rw [hu]) (hn.resolve_right hopen) hreplies
          (Function.update_self ..)
      · exact ⟨rfl, Function.update_of_ne hne .., rfl, rfl, Function.update_of_ne hne ..⟩
    | unseen hr hc | marked r hr hm hc | stored r hr hm body hc | answered r hr hc | closed r hr hc =>
      rw [hready] at hc
      cases hc
  · exact answer_ready h hlive hready (u + 1) n (Nat.le_succ u) (by omega) _ o

/-- A call with nothing more to come. -/
theorem answer_complete (h : Progress s c u n) (hlive : s.con_cls c ≠ none) (o : Callees) :
    ∃ s', answer_to_connection f { s with uploaded := Function.update s.uploaded c true } c [] o = some s' ∧
      Progress s' c u (n + 1) ∧ ∀ c' ≠ c, SameAt s s' c' := by
  have hother : ∀ c' ≠ c, SameAt s { s with uploaded := Function.update s.uploaded c true } c' :=
    fun c' hne => ⟨rfl, rfl, Function.update_of_ne hne .., rfl, rfl⟩
  by_cases hready : s.con_cls c = some .null
  · cases h with
    | empty r hr hm hc hu hn hreplies hdata =>
      refine ⟨_, (answer_empty (s := { s with uploaded := Function.update s.uploaded c true }) hr hm hc [] o).trans (if_pos rfl),
        ?_, hother⟩
      exact .empty r hr hm hc hu (.inr (Function.update_self ..)) hreplies hdata
    | unseen hr hc | marked r hr hm hc | stored r hr hm body hc | answered r hr hc | closed r hr hc =>
      rw [hready] at hc
      cases hc
  · have h' : Progress { s with uploaded := Function.update s.uploaded c true } c u n := by
      cases h with
      | empty r hr hm hc => exact absurd hc hready
      | unseen hr hc hu hn hreplies hdata => exact .unseen hr hc hu hn hreplies hdata
      | marked r hr hm hc hu hn hreplies hdata => exact .marked r hr hm hc hu hn hreplies hdata
      | stored r hr hm body hc hu hn hreplies hdata => exact .stored r hr hm body hc hu hn hreplies hdata
      | answered r hr hc reply hreplies h hdata => exact .answered r hr hc reply hreplies h hdata
      | closed r hr hc hreplies h hdata => exact .closed r hr hc hreplies h hdata
    obtain ⟨s', hs', hprogress, hsame⟩ := answer_ready (f := f) h' hlive hready u (n + 1) (Nat.le_refl u) (by omega) [] o
    refine ⟨s', hs', hprogress, fun c' hne => ?_⟩
    have h₁ := hother c' hne
    have h₂ := hsame c' hne
    exact ⟨h₂.request.trans h₁.request, h₂.con_cls.trans h₁.con_cls, h₂.uploaded.trans h₁.uploaded, h₂.repliesOf.trans h₁.repliesOf,
      h₂.put_data_temp.trans h₁.put_data_temp⟩

/-- The first call. -/
theorem answer_headers (h : Progress s c u n) (hnew : s.request c = none) (r : Request) (o : Callees) :
    ∃ s', answer_to_connection f { s with request := Function.update s.request c (some r)
                                          con_cls := Function.update s.con_cls c (some .null) } c [] o = some s' ∧
      Progress s' c u n ∧ ∀ c' ≠ c, SameAt s s' c' := by
  obtain ⟨t, ht⟩ : ∃ t : Http, { s with request := Function.update s.request c (some r)
                                        con_cls := Function.update s.con_cls c (some .null) } = t := ⟨_, rfl⟩
  have hr : t.request c = some r := ht ▸ Function.update_self ..
  have hc : t.con_cls c = some .null := ht ▸ Function.update_self ..
  have hsame : ∀ c' ≠ c, SameAt s t c' := fun c' hne => by
    rw [← ht]
    exact ⟨Function.update_of_ne hne .., Function.update_of_ne hne .., rfl, rfl, rfl⟩
  rw [ht]
  cases h with
  | unseen _ _ hu hn hreplies hdata =>
    have hreplies' : t.repliesOf c = [] := ht ▸ hreplies
    have hdata' : t.put_data_temp c = false := ht ▸ hdata
    have hnull : ¬(ConCls.null = .aptr) := nofun
    by_cases hget : r.method = "GET"
    · refine ⟨{ t with con_cls := Function.update t.con_cls c (some .aptr) }, ?_, .marked r hr hget (Function.update_self ..) hu hn
        hreplies' hdata', fun c' hne => ?_⟩
      · simp only [Http.answer_to_connection, hr, hc, Option.bind_eq_bind, Option.bind_some, if_pos hget, if_neg hnull]
      · have h := hsame c' hne
        exact ⟨h.request, (Function.update_of_ne hne ..).trans h.con_cls, h.uploaded, h.repliesOf, h.put_data_temp⟩
    · by_cases hput : r.method = "PUT"
      · exact ⟨t, (answer_empty hr hput hc [] o).trans (if_pos rfl), .empty r hr hput hc hu (.inl hn) hreplies' hdata', hsame⟩
      · refine ⟨t.close c, ?_, .closed r hr (Function.update_self ..) hreplies' ?_ ?_, fun c' hne => ?_⟩
        · simp only [Http.answer_to_connection, hr, hc, Option.bind_eq_bind, Option.bind_some, if_neg hget, if_neg hput]
        · rintro (h | h)
          · exact hget h.1
          · exact hput h.1
        · exact iff_of_false (hdata' ▸ Bool.false_ne_true) fun h => hput h.1
        · have h := hsame c' hne
          exact ⟨h.request, (Function.update_of_ne hne ..).trans h.con_cls, h.uploaded, h.repliesOf, h.put_data_temp⟩
  | marked r hr | empty r hr | stored r hr | answered r hr | closed r hr =>
    rw [hnew] at hr
    cases hr

/-- A client that has gone is not answered. -/
theorem Progress.hangUp (h : Progress s c u n) (hlive : s.con_cls c ≠ none) : Progress (s.close c) c u n := by
  have hc : (s.close c).con_cls c = none := Function.update_self ..
  cases h with
  | unseen _ hc₀ | answered _ _ hc₀ | closed _ _ hc₀ => exact absurd hc₀ hlive
  | marked r hr hm _ hu hn hreplies hdata =>
    refine .closed r hr hc hreplies ?_ (iff_of_false (fun h => Bool.false_ne_true (hdata.symm.trans h)) fun h => ?_)
    · rw [Answered, hm, hu, hn]
      decide
    · rw [hm] at h
      exact absurd h.1 (by decide)
  | empty r hr hm _ hu _ hreplies hdata =>
    refine .closed r hr hc hreplies ?_ (iff_of_false (fun h => Bool.false_ne_true (hdata.symm.trans h)) fun h => ?_)
    · rintro (h | h)
      · exact not_get_of_put hm h.1
      · omega
    · omega
  | stored r hr hm body _ hu hn hreplies hdata =>
    refine .closed r hr hc hreplies ?_ (iff_of_true hdata ⟨hm, by omega⟩)
    rintro (h | h)
    · exact not_get_of_put hm h.1
    · omega

/-- What a step does to each connection. -/
theorem progress_step (h : ∀ c, ∃ u n, Progress s c u n) {i : HttpInput} (hs : s.step f i = some s') :
    ∀ c u n, Progress s c u n → Progress s' c (u + uploads c [i]) (n + completes c [i]) := by
  -- a call for one connection
  have hcall {c : Nat} {du dn : Nat} (hu : ∀ c', uploads c' [i] = if c' = c then du else 0)
      (hn : ∀ c', completes c' [i] = if c' = c then dn else 0)
      (hthere : ∀ u n, Progress s c u n → Progress s' c (u + du) (n + dn)) (hother : ∀ c' ≠ c, SameAt s s' c') :
      ∀ c' u n, Progress s c' u n → Progress s' c' (u + uploads c' [i]) (n + completes c' [i]) := by
    intro c' u n hp
    rw [hu, hn]
    by_cases hc : c' = c
    · subst hc
      rw [if_pos rfl, if_pos rfl]
      exact hthere u n hp
    · rw [if_neg hc, if_neg hc]
      exact hp.congr (hother c' hc)
  have hone (c c' : Nat) : (if c == c' then 1 else 0) = if c' = c then 1 else 0 := if_congr (beq_iff_eq.trans eq_comm) rfl rfl
  have hnone : ∀ c' c : Nat, 0 = if c' = c then 0 else 0 := fun _ _ => (ite_self 0).symm
  -- a step that is for none
  have hquiet (hu : ∀ c, uploads c [i] = 0) (hn : ∀ c, completes c [i] = 0) (hsame : ∀ c, SameAt s s' c) :
      ∀ c u n, Progress s c u n → Progress s' c (u + uploads c [i]) (n + completes c [i]) := by
    intro c u n hp
    rw [hu, hn]
    exact hp.congr (hsame c)
  cases i with
  | register service element =>
    refine hquiet (fun _ => rfl) (fun _ => rfl) fun c => ?_
    rw [step] at hs
    split at hs <;> cases hs <;> exact ⟨rfl, rfl, rfl, rfl, rfl⟩
  | unregister service =>
    refine hquiet (fun _ => rfl) (fun _ => rfl) fun c => ?_
    rw [step] at hs
    split at hs <;> cases hs <;> exact ⟨rfl, rfl, rfl, rfl, rfl⟩
  | headers c r o =>
    rw [step, Option.ite_none_right_eq_some] at hs
    obtain ⟨hnew, hs⟩ := hs
    obtain ⟨u₀, n₀, h₀⟩ := h c
    refine hcall (c := c) (fun _ => hnone _ _) (fun _ => hnone _ _) (fun u n hp => ?_) ?_
    · obtain ⟨s'', hs'', hp', -⟩ := answer_headers (f := f) hp (Option.isNone_iff_eq_none.mp hnew) r o
      exact Option.some.inj (hs''.symm.trans hs) ▸ hp'
    · obtain ⟨s'', hs'', -, hother⟩ := answer_headers (f := f) h₀ (Option.isNone_iff_eq_none.mp hnew) r o
      exact Option.some.inj (hs''.symm.trans hs) ▸ hother
  | upload c upload_data o =>
    rw [step, Option.ite_none_left_eq_some] at hs
    obtain ⟨hopen, hs⟩ := hs
    have hlive : s.con_cls c ≠ none := fun hnone => by
      cases hr : s.request c <;> simp [Http.answer_to_connection, hr, hnone] at hs
    obtain ⟨u₀, n₀, h₀⟩ := h c
    refine @hcall c 1 0 (fun c' => ?_) (fun _ => hnone _ _) (fun u n hp => ?_) ?_
    · exact (List.countP_singleton ..).trans (hone c c')
    · obtain ⟨s'', hs'', hp', -⟩ := answer_upload (f := f) hp hlive hopen upload_data o
      exact Option.some.inj (hs''.symm.trans hs) ▸ hp'
    · obtain ⟨s'', hs'', -, hother⟩ := answer_upload (f := f) h₀ hlive hopen upload_data o
      exact Option.some.inj (hs''.symm.trans hs) ▸ hother
  | complete c o =>
    rw [step] at hs
    have hlive : s.con_cls c ≠ none := fun hnone => by
      cases hr : s.request c <;> simp [Http.answer_to_connection, hr, hnone] at hs
    obtain ⟨u₀, n₀, h₀⟩ := h c
    refine @hcall c 0 1 (fun _ => hnone _ _) (fun c' => ?_) (fun u n hp => ?_) ?_
    · exact (List.countP_singleton ..).trans (hone c c')
    · obtain ⟨s'', hs'', hp', -⟩ := answer_complete (f := f) hp hlive o
      exact Option.some.inj (hs''.symm.trans hs) ▸ hp'
    · obtain ⟨s'', hs'', -, hother⟩ := answer_complete (f := f) h₀ hlive o
      exact Option.some.inj (hs''.symm.trans hs) ▸ hother
  | hangUp c =>
    rw [step, Option.ite_none_right_eq_some] at hs
    obtain ⟨hlive, hs⟩ := hs
    cases hs
    refine hcall (c := c) (fun _ => hnone _ _) (fun _ => hnone _ _) (fun u n hp => hp.hangUp (Option.isSome_iff_ne_none.mp hlive)) ?_
    exact fun c' hne => ⟨rfl, Function.update_of_ne hne .., rfl, rfl, rfl⟩
  | act k a =>
    refine hquiet (fun _ => rfl) (fun _ => rfl) fun c => ?_
    rw [step, Option.ite_none_left_eq_some] at hs
    obtain ⟨t, -, rfl⟩ := Option.map_eq_some_iff.mp hs.2
    exact ⟨rfl, rfl, rfl, rfl, rfl⟩
  | destroy k =>
    refine hquiet (fun _ => rfl) (fun _ => rfl) fun c => ?_
    cases hs
    exact ⟨rfl, rfl, rfl, rfl, rfl⟩

theorem uploads_append (c : Nat) (is js : List HttpInput) : uploads c (is ++ js) = uploads c is + uploads c js := List.countP_append

theorem completes_append (c : Nat) (is js : List HttpInput) : completes c (is ++ js) = completes c is + completes c js :=
  List.countP_append

/-- In every run each request is where its chunks and calls have brought it. -/
theorem progress_run {is : List HttpInput} (h : run (step f) start is = some s) (c : Nat) :
    Progress s c (uploads c is) (completes c is) := by
  induction is using List.reverseRecOn generalizing s c with
  | nil =>
    cases h
    exact .unseen rfl rfl rfl rfl rfl rfl
  | append_singleton is i ih =>
    rw [run_append, Option.bind_eq_some_iff] at h
    obtain ⟨s₀, h₀, h⟩ := h
    obtain ⟨s₁, hs, h₁⟩ := run_cons_eq_some.mp h
    cases h₁
    rw [uploads_append, completes_append]
    exact progress_step (fun c => ⟨_, _, ih h₀ c⟩) hs c _ _ (ih h₀ c)

/-- A request that is called for has no response yet, and one that has is not called for any more. -/
theorem Progress.length_repliesOf (h : Progress s c u n) (hr : s.request c = some r) :
    (s.repliesOf c).length = if Answered r.method u n then 1 else 0 := by
  cases h with
  | unseen hr₀ =>
    rw [hr] at hr₀
    cases hr₀
  | marked r₀ hr₀ hm _ hu hn hreplies =>
    rw [hreplies, if_neg]
    · rfl
    · rintro (⟨-, h⟩ | ⟨-, h, -⟩)
      · omega
      · omega
  | empty r₀ hr₀ hm _ hu hn hreplies | stored r₀ hr₀ hm _ _ hu hn hreplies =>
    obtain rfl := Option.some.inj (hr.symm.trans hr₀)
    rw [hreplies, if_neg]
    · rfl
    · rintro (⟨hget, -⟩ | ⟨-, h⟩)
      · exact not_get_of_put hm hget
      · omega
  | answered r₀ hr₀ _ reply hreplies hanswered =>
    obtain rfl := Option.some.inj (hr.symm.trans hr₀)
    rw [hreplies, if_pos hanswered]
    rfl
  | closed r₀ hr₀ _ hreplies hanswered =>
    obtain rfl := Option.some.inj (hr.symm.trans hr₀)
    rw [hreplies, if_neg hanswered]
    rfl

/-- The block is there behind the first chunk of a PUT, until an answer frees it. -/
theorem Progress.block_iff (h : Progress s c u n) (hr : s.request c = some r) :
    s.put_data_temp c = true ↔ r.method = "PUT" ∧ 1 ≤ u ∧ ∀ reply ∈ s.repliesOf c, Leaves reply := by
  cases h with
  | unseen hr₀ =>
    rw [hr] at hr₀
    cases hr₀
  | marked r₀ hr₀ hm _ hu hn hreplies hdata | empty r₀ hr₀ hm _ hu hn hreplies hdata =>
    rw [hdata]
    exact iff_of_false Bool.false_ne_true fun h => by omega
  | stored r₀ hr₀ hm body _ hu hn hreplies hdata =>
    obtain rfl := Option.some.inj (hr.symm.trans hr₀)
    rw [hreplies]
    exact iff_of_true hdata ⟨hm, by omega, fun _ hmem => absurd hmem List.not_mem_nil⟩
  | answered r₀ hr₀ _ reply hreplies hanswered hdata =>
    obtain rfl := Option.some.inj (hr.symm.trans hr₀)
    rw [hdata, hreplies, List.forall_mem_singleton]
    refine ⟨fun h => ⟨h.1, ?_, h.2⟩, fun h => ⟨h.1, h.2.2⟩⟩
    rcases hanswered with ⟨hget, -⟩ | ⟨-, h1, -⟩
    · exact absurd hget (not_get_of_put h.1)
    · exact h1
  | closed r₀ hr₀ _ hreplies _ hdata =>
    obtain rfl := Option.some.inj (hr.symm.trans hr₀)
    rw [hdata, hreplies]
    exact ⟨fun h => ⟨h.1, h.2, fun _ hmem => absurd hmem List.not_mem_nil⟩, fun h => ⟨h.1, h.2.1⟩⟩

/-- Whatever else happens, a request has one response from the call on that leads to one and none before, and whatever the server is
called with comes to a result. The block of a PUT stays in memory, unless `put_function` was called for it. -/
theorem one_response {is : List HttpInput} (h : run (step f) start is = some s) (hr : s.request c = some r) :
    (s.repliesOf c).length = (if Answered r.method (uploads c is) (completes c is) then 1 else 0) ∧
      (s.put_data_temp c = true ↔ r.method = "PUT" ∧ 1 ≤ uploads c is ∧ ∀ reply ∈ s.repliesOf c, Leaves reply) ∧
      (s.con_cls c ≠ none → (∀ o, ∃ s', s.step f (.complete c o) = some s') ∧
        (s.uploaded c = false → ∀ upload_data o, ∃ s', s.step f (.upload c upload_data o) = some s')) ∧
      ∀ c', s.request c' = none → ∀ r' o, ∃ s', s.step f (.headers c' r' o) = some s' := by
  have hp := progress_run h c
  refine ⟨hp.length_repliesOf hr, hp.block_iff hr, fun hlive => ⟨fun o => ?_, fun hopen upload_data o => ?_⟩, fun c' hnew r' o => ?_⟩
  · obtain ⟨s', hs', -⟩ := answer_complete (f := f) hp hlive o
    exact ⟨s', hs'⟩
  · have hopen' : ¬s.uploaded c = true := Bool.eq_false_iff.mp hopen
    obtain ⟨s', hs', -⟩ := answer_upload (f := f) hp hlive hopen' upload_data o
    exact ⟨s', (if_neg hopen').trans hs'⟩
  · obtain ⟨s', hs', -⟩ := answer_headers (f := f) (progress_run h c') hnew r' o
    exact ⟨s', (if_pos (Option.isNone_iff_eq_none.mpr hnew)).trans hs'⟩

end

/-- The service functions of a house, and what one of them comes to. -/
def houseFunctions : Functions := ⟨fun _ => true, some, id⟩

def houseCallees : Callees := ⟨[], [], write zeroed 0 (ascii "on"), ⟨2, by decide⟩⟩

/-- A client asks for the lamp's events, then for the events, and then to switch the lamp on. -/
def houseInputs : List HttpInput :=
  [.register lamp true,
    .headers 0 ⟨"GET", "/room/1/lamp/0", none, none, some "1"⟩ houseCallees, .complete 0 houseCallees,
    .headers 1 ⟨"GET", "/events", some 0, none, none⟩ houseCallees, .complete 1 houseCallees,
    .headers 2 ⟨"PUT", "/room/1/lamp/0", none, none, none⟩ houseCallees, .upload 2 ⟨ascii "on", by decide⟩ houseCallees,
    .complete 2 houseCallees]

/-- The request to switch the lamp on has one. -/
theorem one_response_house : ∃ s, run (step houseFunctions) start houseInputs = some s ∧ (s.repliesOf 2).length = 1 := by
  obtain ⟨s, hs, hr⟩ : ∃ s, run (step houseFunctions) start houseInputs = some s ∧ s.request 2 =
      some ⟨"PUT", "/room/1/lamp/0", none, none, none⟩ := ⟨_, rfl, rfl⟩
  exact ⟨s, hs, (one_response hs hr).1⟩

/-! ## The sessions, as clients see them -/

section

open Subscriptions (urlsOf urlsOf_add urlsOf_remove urlsOf_other subscribed_iff)

/-- A response that answers a request for the events of `url` (or of the log) in a session. -/
def Reply.asks (k : Nat) (url : String) : Reply → Bool
  | .subscription _ url' k' => url' == url && k' == k
  | _ => false

/-- How many such requests have been answered. -/
def asked (k : Nat) (url : String) (responses : List (Nat × Reply)) : Nat := responses.countP fun e => e.2.asks k url

/-- What a response says is so, as far as the responses before tell. The first request for something in a session is told it has
subscribed, the next that it has not, and so on; the events come exactly for a session that is subscribed to something. No other
response is for the log or the events. -/
def Fits (is : List HttpInput) (before : List (Nat × Reply)) (r : Request) : Reply → Prop
  | .subscription value url k => r.method = "GET" ∧ (url = "log" ∧ r.url = "/log" ∨ url = r.url ∧ r.IsPlain ∧ r.p = some "1") ∧
    (value = SUBSCRIBE ∧ Even (asked k url before) ∨ value = UNSUBSCRIBE ∧ Odd (asked k url before)) ∧
    (r.session = some k ∨ ∀ url, asked k url before = 0)
  | .events k _ => r.method = "GET" ∧ r.url = "/events" ∧ r.session = some k ∧ ∃ url, Odd (asked k url before)
  | .notFound => r.method = "GET" → r.url ≠ "/log" ∧ (r.url = "/events" → ∀ k, r.session = some k →
    (∀ url, Even (asked k url before)) ∨ .destroy k ∈ is)
  | .badRequest => r.method ≠ "GET"
  | .internalServerError | .xml _ => r.method = "GET" → r.AsksText

/-- The queue of a session is subscribed to what has been asked for an odd number of times. -/
structure Subscribed (q : EventQueue) (k : Nat) (responses : List (Nat × Reply)) : Prop where
  once : (urlsOf q).Nodup
  urls : ∀ url, url ∈ urlsOf q ↔ url ≠ "log" ∧ Odd (asked k url responses)
  log : q.send_log_events = HPD_YES ∧ Odd (asked k "log" responses) ∨ q.send_log_events = HPD_NO ∧ Even (asked k "log" responses)

variable {is : List HttpInput} {l : List (Nat × Reply)} {q q' : EventQueue} {k c : Nat} {url value : String} {reply : Reply}

/-- A response counts where it answers a request for the URL in the session. -/
theorem asked_append (k : Nat) (url : String) (l : List (Nat × Reply)) (c : Nat) (reply : Reply) :
    asked k url (l ++ [(c, reply)]) = asked k url l + if reply.asks k url then 1 else 0 := by
  rw [asked, asked, List.countP_append, List.countP_singleton]

theorem asks_subscription : (Reply.subscription value url k).asks k' url' = true ↔ url = url' ∧ k = k' := by
  rw [Reply.asks, Bool.and_eq_true, beq_iff_eq, beq_iff_eq]

theorem asked_subscription_self (l : List (Nat × Reply)) (c : Nat) :
    asked k url (l ++ [(c, .subscription value url k)]) = asked k url l + 1 := by
  rw [asked_append, if_pos (asks_subscription.mpr ⟨rfl, rfl⟩)]

theorem asked_subscription_other (l : List (Nat × Reply)) (c : Nat) {k' : Nat} {url' : String} (h : url = url' → k ≠ k') :
    asked k' url' (l ++ [(c, .subscription value url k)]) = asked k' url' l := by
  rw [asked_append, if_neg fun hasks => h (asks_subscription.mp hasks).1 (asks_subscription.mp hasks).2, Nat.add_zero]

/-- What comes later does not matter to a response. -/
theorem Fits.mono (h : Fits is l r reply) (js : List HttpInput) : Fits (is ++ js) l r reply := by
  cases reply with
  | notFound =>
    exact fun hget => ⟨(h hget).1, fun hurl k hk => ((h hget).2 hurl k hk).imp_right (List.mem_append_left js)⟩
  | badRequest | internalServerError | xml | subscription | events => exact h

/-- A queue is subscribed to what it was where nothing was asked for. -/
theorem Subscribed.congr (h : Subscribed q k l) {l' : List (Nat × Reply)} (hurls : urlsOf q' = urlsOf q)
    (hlog : q'.send_log_events = q.send_log_events) (hasked : ∀ url, asked k url l' = asked k url l) : Subscribed q' k l' :=
  ⟨hurls ▸ h.once, fun url => by rw [hurls, hasked]; exact h.urls url, by rw [hlog, hasked]; exact h.log⟩

/-- A queue that is subscribed to something is served, and only such a one. -/
theorem Subscribed.serves (h : Subscribed q k l) :
    (¬q.service_id_head.isEmpty = true ∨ q.send_log_events = HPD_YES) ↔ ∃ url, Odd (asked k url l) := by
  have hempty : q.service_id_head.isEmpty = true ↔ ∀ url, url ∉ urlsOf q := by
    rw [List.isEmpty_iff, ← List.eq_nil_iff_forall_not_mem]
    exact List.map_eq_nil_iff.symm
  rw [hempty]
  constructor
  · rintro (hsome | hyes)
    · obtain ⟨url, hmem⟩ := not_forall_not.mp hsome
      exact ⟨url, ((h.urls url).mp hmem).2⟩
    · refine ⟨"log", (h.log.resolve_right fun hno => ?_).2⟩
      rw [hyes] at hno
      exact absurd hno.1 (by decide)
  · rintro ⟨url, hodd⟩
    by_cases hlog : url = "log"
    · refine .inr (h.log.resolve_right fun hno => ?_).1
      exact Nat.not_even_iff_odd.mpr (hlog ▸ hodd) hno.2
    · exact .inl fun hnone => hnone url ((h.urls url).mpr ⟨hlog, hodd⟩)

/-- A request for a service's events turns the subscription over. -/
theorem Subscribed.toggle (h : Subscribed q k l) (c : Nat) (hurl : url ≠ "log") {value : String} {q' : EventQueue}
    (he : subscribe_or_unsubscribe (is_queue_subscribed_to_service q url) url q = (value, q')) :
    Subscribed q' k (l ++ [(c, .subscription value url k)]) ∧
      (value = SUBSCRIBE ∧ Even (asked k url l) ∨ value = UNSUBSCRIBE ∧ Odd (asked k url l)) := by
  have hodd : url ∈ urlsOf q ↔ Odd (asked k url l) := by rw [h.urls, and_iff_right hurl]
  have hother {url' : String} (hne : url ≠ url') : asked k url' (l ++ [(c, .subscription value url k)]) = asked k url' l :=
    asked_subscription_other l c fun he => absurd he hne
  have hlog : q'.send_log_events = q.send_log_events → (q'.send_log_events = HPD_YES ∧
      Odd (asked k "log" (l ++ [(c, .subscription value url k)])) ∨ q'.send_log_events = HPD_NO ∧
      Even (asked k "log" (l ++ [(c, .subscription value url k)]))) := fun hsame => by
    rw [hother hurl, hsame]
    exact h.log
  by_cases hmem : url ∈ urlsOf q
  · have hno : ¬is_queue_subscribed_to_service q url = HPD_NO := fun hno => subscribed_iff.mp hno hmem
    rw [subscribe_or_unsubscribe, if_neg hno] at he
    cases he
    refine ⟨⟨?_, fun url' => ?_, hlog rfl⟩, .inr ⟨rfl, hodd.mp hmem⟩⟩
    · rw [urlsOf_remove]
      exact h.once.erase url
    · rw [urlsOf_remove, h.once.mem_erase_iff]
      by_cases hne : url' = url
      · subst hne
        rw [asked_subscription_self]
        exact iff_of_false (fun hin => hin.1 rfl) fun hin => Nat.not_odd_iff_even.mpr (hodd.mp hmem).add_one hin.2
      · rw [hother (Ne.symm hne), h.urls, and_iff_right hne]
  · have hno := subscribed_iff.mpr hmem
    rw [subscribe_or_unsubscribe, if_pos hno] at he
    cases he
    refine ⟨⟨?_, fun url' => ?_, hlog rfl⟩, .inl ⟨rfl, Nat.not_odd_iff_even.mp fun ho => hmem (hodd.mpr ho)⟩⟩
    · rw [urlsOf_add, List.nodup_append]
      exact ⟨h.once, List.nodup_singleton _, fun a ha b hb hab => hmem (List.mem_singleton.mp hb ▸ hab ▸ ha)⟩
    · rw [urlsOf_add, List.mem_append, List.mem_singleton]
      by_cases hne : url' = url
      · subst hne
        rw [asked_subscription_self]
        exact iff_of_true (.inr rfl) ⟨hurl, (Nat.not_odd_iff_even.mp fun ho => hmem (hodd.mpr ho)).add_one⟩
      · rw [hother (Ne.symm hne), h.urls, or_iff_left hne]

/-- And a request for the log's. -/
theorem Subscribed.toggleLog (h : Subscribed q k l) (c : Nat) {value : String}
    (he : (if q.send_log_events = HPD_YES then UNSUBSCRIBE else SUBSCRIBE) = value) :
    Subscribed (Hpd.subscribe_to_log_events q) k (l ++ [(c, .subscription value "log" k)]) ∧
      (value = SUBSCRIBE ∧ Even (asked k "log" l) ∨ value = UNSUBSCRIBE ∧ Odd (asked k "log" l)) := by
  have hurls (url' : String) : url' ∈ urlsOf (Hpd.subscribe_to_log_events q) ↔ url' ≠ "log" ∧
      Odd (asked k url' (l ++ [(c, .subscription value "log" k)])) := by
    by_cases hne : url' = "log"
    · subst hne
      exact iff_of_false (fun hin => ((h.urls "log").mp hin).1 rfl) fun hin => hin.1 rfl
    · rw [asked_subscription_other l c fun he => absurd he.symm hne]
      exact h.urls url'
  rcases h.log with ⟨hyes, hodd⟩ | ⟨hno, heven⟩
  · rw [if_pos hyes] at he
    subst he
    refine ⟨⟨h.once, hurls, .inr ⟨if_pos hyes, ?_⟩⟩, .inr ⟨rfl, hodd⟩⟩
    rw [asked_subscription_self]
    exact hodd.add_one
  · have hnot : ¬q.send_log_events = HPD_YES := by
      rw [hno]
      decide
    rw [if_neg hnot] at he
    subst he
    refine ⟨⟨h.once, hurls, .inl ⟨if_neg hnot, ?_⟩⟩, .inl ⟨rfl, heven⟩⟩
    rw [asked_subscription_self]
    exact heven.add_one

/-! ### The invariant -/

/-- The sessions are subscribed to what they were told, each is there until it is destroyed, none was answered for before it was there,
and what was answered fits. -/
structure Inv (is : List HttpInput) (s : Http) : Prop where
  sessions : ∀ k ∈ s.event_queue_list_head, k < s.session_ids ∧ Subscribed (s.session k).queue k s.responses
  alive : ∀ k < s.session_ids, k ∈ s.event_queue_list_head ∨ .destroy k ∈ is
  fresh : ∀ k, s.session_ids ≤ k → ∀ url, asked k url s.responses = 0
  history : ∀ before c reply after, s.responses = before ++ (c, reply) :: after → ∃ r, s.request c = some r ∧ Fits is before r reply

variable {f : Functions} {s s' : Http} {i : HttpInput} {r : Request}

/-- Before any request there is no session. -/
theorem inv_start : Inv [] start where
  sessions _ hk := absurd hk List.not_mem_nil
  alive _ hk := absurd hk (Nat.not_lt_zero _)
  fresh _ _ _ := rfl
  history _ _ _ _ h := absurd h.symm (List.append_ne_nil_of_right_ne_nil _ (List.cons_ne_nil _ _))

/-- A step without a response. -/
theorem Inv.quiet (h : Inv is s) (hresponses : s'.responses = s.responses) (hids : s'.session_ids = s.session_ids)
    (hsessions : ∀ k ∈ s'.event_queue_list_head, k ∈ s.event_queue_list_head ∧
      urlsOf (s'.session k).queue = urlsOf (s.session k).queue ∧
      (s'.session k).queue.send_log_events = (s.session k).queue.send_log_events)
    (halive : ∀ k ∈ s.event_queue_list_head, k ∈ s'.event_queue_list_head ∨ i = .destroy k)
    (hrequest : ∀ c r, s.request c = some r → s'.request c = some r) : Inv (is ++ [i]) s' := by
  refine ⟨fun k hk => ?_, fun k hk => ?_, fun k hk url => ?_, fun before c reply after he => ?_⟩
  · obtain ⟨hmem, hurls, hlog⟩ := hsessions k hk
    obtain ⟨hlt, hsub⟩ := h.sessions k hmem
    rw [hids, hresponses]
    exact ⟨hlt, hsub.congr hurls hlog fun _ => rfl⟩
  · rcases h.alive k (hids ▸ hk) with hmem | hmem
    · exact (halive k hmem).imp_right fun hi => List.mem_append_right _ (List.mem_singleton.mpr hi.symm)
    · exact .inr (List.mem_append_left _ hmem)
  · rw [hresponses]
    exact h.fresh k (hids ▸ hk) url
  · obtain ⟨r, hr, hfits⟩ := h.history before c reply after (hresponses ▸ he)
    exact ⟨r, hrequest c r hr, hfits.mono [i]⟩

/-- A step that does nothing to the sessions. -/
theorem Inv.keep (h : Inv is s) (hresponses : s'.responses = s.responses) (hids : s'.session_ids = s.session_ids)
    (hlist : s'.event_queue_list_head = s.event_queue_list_head) (hsession : s'.session = s.session) (hrequest : s'.request = s.request) :
    Inv (is ++ [i]) s' :=
  h.quiet hresponses hids (fun k hk => ⟨hlist ▸ hk, by rw [hsession], by rw [hsession]⟩) (fun k hk => .inl (hlist.symm ▸ hk))
    fun _ _ hr => hrequest ▸ hr

/-- A step with a response. -/
theorem Inv.push (h : Inv is s) (hr : s.request c = some r) (hresp : Responds s s' c reply) (hids : s'.session_ids = s.session_ids)
    (hlist : s'.event_queue_list_head = s.event_queue_list_head)
    (hsub : ∀ k ∈ s.event_queue_list_head, Subscribed (s'.session k).queue k s'.responses)
    (hasks : ∀ k, s.session_ids ≤ k → ∀ url, reply.asks k url = false)
    (hfits : Fits is s.responses r reply) : Inv (is ++ [i]) s' := by
  refine ⟨fun k hk => ?_, fun k hk => ?_, fun k hk url => ?_, fun before c' reply' after he => ?_⟩
  · rw [hlist] at hk
    exact ⟨hids ▸ (h.sessions k hk).1, hsub k hk⟩
  · rw [hlist]
    exact (h.alive k (hids ▸ hk)).imp_right (List.mem_append_left _)
  · rw [hresp.responses, asked_append, h.fresh k (hids ▸ hk) url, hasks k (hids ▸ hk) url]
    rfl
  · rw [hresp.responses] at he
    rw [hresp.request]
    rcases List.eq_nil_or_concat after with rfl | ⟨after, x, rfl⟩
    · obtain ⟨hbefore, hlast⟩ := List.append_inj' he rfl
      obtain ⟨rfl, rfl⟩ := Prod.mk.inj (List.singleton_inj.mp hlast)
      exact ⟨r, hr, hbefore ▸ hfits.mono [i]⟩
    · rw [List.concat_eq_append, ← List.cons_append, ← List.append_assoc] at he
      obtain ⟨hbefore, -⟩ := List.append_inj' he rfl
      obtain ⟨r', hr', hfits'⟩ := h.history before c' reply' after hbefore
      exact ⟨r', hr', hfits'.mono [i]⟩

/-- A response that has nothing to do with the sessions. -/
theorem Inv.plain (h : Inv is s) (hr : s.request c = some r) (hresp : Responds s s' c reply) (hids : s'.session_ids = s.session_ids)
    (hlist : s'.event_queue_list_head = s.event_queue_list_head)
    (hsession : ∀ k, urlsOf (s'.session k).queue = urlsOf (s.session k).queue ∧
      (s'.session k).queue.send_log_events = (s.session k).queue.send_log_events)
    (hasks : ∀ k url, reply.asks k url = false) (hfits : Fits is s.responses r reply) : Inv (is ++ [i]) s' := by
  refine h.push hr hresp hids hlist (fun k hk => ?_) (fun k _ => hasks k) hfits
  refine (h.sessions k hk).2.congr (hsession k).1 (hsession k).2 fun url => ?_
  rw [hresp.responses, asked_append, hasks]
  rfl

/-- A session is found exactly if its cookie names it and it is there. -/
theorem get_queue_eq_some (s : Http) (session_id : Option Nat) (k : Nat) :
    s.get_queue session_id = some k ↔ session_id = some k ∧ k ∈ s.event_queue_list_head := by
  rcases session_id with _ | i
  · exact iff_of_false nofun fun h => nomatch h.1
  · change s.event_queue_list_head.find? (fun iterator => i == iterator) = some k ↔ _
    constructor
    · intro hfind
      exact ⟨congrArg some (eq_of_beq (List.find?_some hfind)), List.mem_of_find?_eq_some hfind⟩
    · rintro ⟨he, hmem⟩
      cases he
      cases hfind : s.event_queue_list_head.find? (fun iterator => k == iterator) with
      | none => exact absurd (beq_self_eq_true k) (List.find?_eq_none.mp hfind k hmem)
      | some j => rw [eq_of_beq (List.find?_some hfind)]

/-- A new queue is subscribed to nothing, as nobody has asked for anything in its session. -/
theorem subscribed_start (h : ∀ url, asked k url l = 0) : Subscribed create_event_queue k l where
  once := List.nodup_nil
  urls url := iff_of_false List.not_mem_nil fun hodd => Nat.not_odd_zero (h url ▸ hodd.2)
  log := .inr ⟨rfl, by rw [h]; exact Even.zero⟩

/-- A request's session, a new one if it has none. -/
theorem Inv.queueFor (h : Inv is s) (session_id : Option Nat) : Inv is (s.queueFor session_id).2 ∧
    (s.queueFor session_id).1 ∈ (s.queueFor session_id).2.event_queue_list_head ∧
    (s.queueFor session_id).2.responses = s.responses ∧ (s.queueFor session_id).2.request = s.request ∧
    (session_id = some (s.queueFor session_id).1 ∨ ∀ url, asked (s.queueFor session_id).1 url s.responses = 0) := by
  unfold Http.queueFor
  cases hqueue : s.get_queue session_id with
  | some k =>
    obtain ⟨he, hmem⟩ := (s.get_queue_eq_some session_id k).mp hqueue
    exact ⟨h, hmem, rfl, rfl, .inl he⟩
  | none =>
    refine ⟨⟨fun k hk => ?_, fun k hk => ?_, fun k hk url => h.fresh k (Nat.le_of_succ_le hk) url, h.history⟩,
      List.mem_append_right _ (List.mem_singleton_self _), rfl, rfl, .inr (h.fresh _ (Nat.le_refl _))⟩
    · rcases List.mem_append.mp hk with hmem | hmem
      · obtain ⟨hlt, hsub⟩ := h.sessions k hmem
        refine ⟨Nat.lt_succ_of_lt hlt, ?_⟩
        change Subscribed (Function.update s.session s.session_ids .start k).queue k s.responses
        rw [Function.update_of_ne (Nat.ne_of_lt hlt)]
        exact hsub
      · obtain rfl := List.mem_singleton.mp hmem
        refine ⟨Nat.lt_succ_self _, ?_⟩
        change Subscribed (Function.update s.session s.session_ids .start s.session_ids).queue s.session_ids s.responses
        rw [Function.update_self]
        exact subscribed_start (h.fresh _ (Nat.le_refl _))
    · rcases Nat.lt_succ_iff_lt_or_eq.mp hk with hlt | rfl
      · exact (h.alive k hlt).imp_left (List.mem_append_left _)
      · exact .inl (List.mem_append_right _ (List.mem_singleton_self _))

/-- A request for the events of something, in its session. -/
theorem Inv.subscription (h : Inv is s) (hr : s.request c = some r) {session_id : Option Nat}
    (hsub : Subscribed q (s.queueFor session_id).1 (s.responses ++ [(c, .subscription value url (s.queueFor session_id).1)]))
    (hfits : Fits is s.responses r (.subscription value url (s.queueFor session_id).1)) :
    Inv (is ++ [i]) (((s.queueFor session_id).2.setQueue (s.queueFor session_id).1 q).respond c
      (.subscription value url (s.queueFor session_id).1)) := by
  obtain ⟨hinv, hk, hresponses, hrequest, -⟩ := h.queueFor session_id
  generalize (s.queueFor session_id).1 = k at *
  generalize (s.queueFor session_id).2 = t at *
  refine hinv.push (hrequest ▸ hr) ⟨rfl, rfl, rfl, rfl⟩ rfl rfl (fun k' hk' => ?_) (fun k' hk' url' => ?_) (hresponses ▸ hfits)
  · change Subscribed (Function.update t.session k { t.session k with queue := q } k').queue k' (t.responses ++ [_])
    by_cases hne : k' = k
    · subst hne
      rw [Function.update_self, hresponses]
      exact hsub
    · rw [Function.update_of_ne hne]
      exact (hinv.sessions k' hk').2.congr rfl rfl fun url' => asked_subscription_other _ c fun _ he => hne he.symm
  · refine Bool.eq_false_iff.mpr fun hasks => ?_
    have hlt := (hinv.sessions k hk).1
    rw [(asks_subscription.mp hasks).2] at hlt
    omega

/-- A URL that is a service's is not the name the log goes by. -/
theorem value_url_ne_log (service : Service) : service.value_url ≠ "log" := by
  rw [service.value_url_eq, serviceUrl]
  intro h
  have hchars := congrArg String.toList h
  simp at hchars

/-- An answered GET keeps the invariant, whatever it asks for. -/
theorem Inv.get (h : Inv is s) (hr : s.request c = some r) (hm : r.method = "GET") (hs : s.get f c r o = some s') :
    Inv (is ++ [i]) s' := by
  rcases get_cases f s c r o with ⟨hurl, hget⟩ | ⟨hurl, hget⟩ | ⟨hplain, service, hmatch, hp, hget⟩ | ⟨reply, hreply, hget⟩
  · obtain rfl := Option.some.inj (hget.symm.trans hs)
    obtain ⟨hinv, hk, hresponses, -, hsession⟩ := h.queueFor r.session
    have hsub := (hinv.sessions _ hk).2
    rw [hresponses] at hsub
    obtain ⟨hsub', hvalue⟩ := hsub.toggleLog c rfl
    exact h.subscription hr hsub' ⟨hm, .inl ⟨rfl, hurl⟩, hvalue, hsession⟩
  · obtain rfl := Option.some.inj (hget.symm.trans hs)
    unfold Http.set_up_server_sent_event_connection
    cases hqueue : s.get_queue r.session with
    | none =>
      refine h.plain hr ⟨rfl, rfl, rfl, rfl⟩ rfl rfl (fun _ => ⟨rfl, rfl⟩) (fun _ _ => rfl)
        fun _ => ⟨by rw [hurl]; decide, fun _ k hk => ?_⟩
      have hmem : k ∉ s.event_queue_list_head := fun hmem =>
        Option.some_ne_none k (((s.get_queue_eq_some r.session k).mpr ⟨hk, hmem⟩).symm.trans hqueue)
      by_cases hlt : k < s.session_ids
      · exact .inr ((h.alive k hlt).resolve_left hmem)
      · exact .inl fun url => by rw [h.fresh k (Nat.le_of_not_lt hlt) url]; exact Even.zero
    | some k =>
      obtain ⟨hsession, hmem⟩ := (s.get_queue_eq_some r.session k).mp hqueue
      have hserves := (h.sessions k hmem).2.serves
      have hsame (k' : Nat) (t : Session) (ht : urlsOf t.queue = urlsOf (s.session k).queue ∧
          t.queue.send_log_events = (s.session k).queue.send_log_events) :
          urlsOf (Function.update s.session k t k').queue = urlsOf (s.session k').queue ∧
            (Function.update s.session k t k').queue.send_log_events = (s.session k').queue.send_log_events := by
        by_cases hne : k' = k
        · subst hne
          rw [Function.update_self]
          exact ht
        · rw [Function.update_of_ne hne]
          exact ⟨rfl, rfl⟩
      simp only
      split
      · rename_i hsome
        exact h.plain hr ⟨rfl, rfl, rfl, rfl⟩ rfl rfl (fun k' => hsame k' _ ⟨rfl, rfl⟩) (fun _ _ => rfl)
          ⟨hm, hurl, hsession, hserves.mp hsome⟩
      · rename_i hnone
        refine h.plain hr ⟨rfl, rfl, rfl, rfl⟩ rfl rfl (fun k' => hsame k' _ ⟨rfl, rfl⟩) (fun _ _ => rfl)
          fun _ => ⟨by rw [hurl]; decide, fun _ k' hk' => .inl ?_⟩
        obtain rfl := Option.some.inj (hsession.symm.trans hk')
        exact fun url => Nat.not_odd_iff_even.mp fun hodd => hnone (hserves.mpr ⟨url, hodd⟩)
  · obtain rfl := Option.some.inj (hget.symm.trans hs)
    obtain ⟨hinv, hk, hresponses, -, hsession⟩ := h.queueFor r.session
    have hsub := (hinv.sessions _ hk).2
    rw [hresponses] at hsub
    obtain ⟨hsub', hvalue⟩ := hsub.toggle c (value_url_ne_log service) rfl
    have hurl : (service.value_url == r.url) = true := List.find?_some (p := fun s : Service => s.value_url == r.url) hmatch
    exact h.subscription hr hsub' ⟨hm, .inr ⟨eq_of_beq hurl, hplain, hp⟩, hvalue, hsession⟩
  · obtain rfl := Option.some.inj (hget.symm.trans hs)
    refine h.plain hr (s.responds_respond c reply) rfl rfl (fun _ => ⟨rfl, rfl⟩) (fun _ _ => ?_) ?_
    · rcases hreply with ⟨-, rfl⟩ | ⟨-, rfl | ⟨_, rfl⟩⟩ <;> rfl
    · rcases hreply with ⟨hplain, rfl⟩ | ⟨htext, rfl | ⟨_, rfl⟩⟩
      · exact fun _ => ⟨hplain.1, fun hevents => absurd hevents hplain.2⟩
      · exact fun _ => htext
      · exact fun _ => htext

/-- So does a PUT. -/
theorem Inv.put (h : Inv is s) (hr : s.request c = some r) (hm : r.method = "PUT") {con_cls : Http.ConCls}
    (hs : s.put f c r con_cls o = some s') : Inv (is ++ [i]) s' := by
  have hget : ¬r.method = "GET" := not_get_of_put hm
  unfold Http.put at hs
  split at hs
  · cases hs
    exact h.plain hr (s.responds_respond c _) rfl rfl (fun _ => ⟨rfl, rfl⟩) (fun _ _ => rfl) fun hg => absurd hg hget
  · split at hs
    · split at hs
      · split at hs
        · cases hs
          exact h.plain hr (s.responds_respond c _) rfl rfl (fun _ => ⟨rfl, rfl⟩) (fun _ _ => rfl) hget
        · obtain ⟨m, -, rfl⟩ := Option.map_eq_some_iff.mp hs
          refine h.plain hr ⟨rfl, rfl, rfl, rfl⟩ rfl rfl (fun _ => ⟨rfl, rfl⟩) (fun _ _ => ?_) ?_
          · split <;> rfl
          · split <;> exact fun hg => absurd hg hget
      · cases hs
    · cases hs
      exact h.plain hr (s.responds_respond c _) rfl rfl (fun _ => ⟨rfl, rfl⟩) (fun _ _ => rfl) hget

/-- A call of `answer_to_connection`. -/
theorem Inv.answer (h : Inv is s) {upload_data : List UInt8} (hs : s.answer_to_connection f c upload_data o = some s') :
    Inv (is ++ [i]) s' := by
  obtain ⟨r, hr, hs⟩ := Option.bind_eq_some_iff.mp hs
  obtain ⟨con_cls, -, hs⟩ := Option.bind_eq_some_iff.mp hs
  split at hs
  · rename_i hm
    split at hs
    · exact h.get hr hm hs
    · cases hs
      exact h.keep rfl rfl rfl rfl rfl
  · split at hs
    · rename_i hm
      split at hs
      · split at hs <;> cases hs <;> exact h.keep rfl rfl rfl rfl rfl
      · exact h.put hr hm hs
    · cases hs
      exact h.keep rfl rfl rfl rfl rfl

/-- What a session's threads do besides leaves what it is subscribed to. -/
theorem send_log_events_other {t t' : Session} {a : SessionAct} (ha : ¬a.IsRequest = true) (h : t.step a = some t') :
    t'.queue.send_log_events = t.queue.send_log_events := by
  have hrest {q q' : EventQueue} {c : Option Nat} {e : Option Event} (hr : dequeue_rest q c HPD_NO = some (q', e)) :
      q'.send_log_events = q.send_log_events := by
    rcases dequeue_rest_cases hr with ⟨rfl, -⟩ | ⟨_, _, -, rfl, -⟩ <;> rfl
  cases a with
  | subscribe | unsubscribe | toggleLog | setUp => exact absurd rfl ha
  | queue event =>
    cases h
    change (queue_event t.queue event HPD_NO).1.send_log_events = _
    rcases queue_event_cases t.queue event HPD_NO with he | he <;> rw [he]
  | setAvailability URL availability =>
    cases h
    obtain ⟨l, hl⟩ := set_availability_of_service_frame URL t.queue availability
    change (set_availability_of_service URL t.queue availability).2.send_log_events = _
    rw [hl]
  | exit =>
    cases h
    rfl
  | dequeue c =>
    simp only [Session.step, Session.act] at h
    split at h
    · obtain ⟨⟨t₁, _⟩, ht, rfl⟩ := Option.map_eq_some_iff.mp h
      obtain ⟨⟨q, r⟩, hr, he⟩ := Option.map_eq_some_iff.mp ht
      cases he
      unfold dequeue_event at hr
      split at hr
      · cases hr
        rfl
      · obtain ⟨⟨q', e⟩, hdequeue, he⟩ := Option.map_eq_some_iff.mp hr
        cases he
        exact hrest hdequeue
    · cases h
  | timeout c =>
    simp only [Session.step, Session.act] at h
    split at h
    · cases h
      rfl
    · cases h
  | wake c =>
    simp only [Session.step, Session.act] at h
    split at h
    · cases h
    · obtain ⟨⟨t₁, _⟩, ht, rfl⟩ := Option.map_eq_some_iff.mp h
      obtain ⟨⟨q, r⟩, hr, he⟩ := Option.map_eq_some_iff.mp ht
      cases he
      exact hrest (q := { t.queue with is_waiting := HPD_NO }) hr
    · cases h
      rfl

/-- The step lemma. -/
theorem Inv.step (h : Inv is s) (hs : s.step f i = some s') : Inv (is ++ [i]) s' := by
  cases i with
  | register service element =>
    rw [Http.step] at hs
    split at hs <;> cases hs <;> exact h.keep rfl rfl rfl rfl rfl
  | unregister service =>
    rw [Http.step] at hs
    split at hs <;> cases hs <;> exact h.keep rfl rfl rfl rfl rfl
  | headers c r o =>
    rw [Http.step, Option.ite_none_right_eq_some] at hs
    obtain ⟨hnew, hs⟩ := hs
    have hinv : Inv is { s with request := Function.update s.request c (some r)
                                con_cls := Function.update s.con_cls c (some .null) } := by
      refine ⟨h.sessions, h.alive, h.fresh, fun before c' reply after he => ?_⟩
      obtain ⟨r', hr', hfits⟩ := h.history before c' reply after he
      have hne : c' ≠ c := by
        rintro rfl
        rw [hr'] at hnew
        cases hnew
      exact ⟨r', (Function.update_of_ne hne ..).trans hr', hfits⟩
    exact hinv.answer hs
  | upload c upload_data o =>
    rw [Http.step, Option.ite_none_left_eq_some] at hs
    exact h.answer hs.2
  | complete c o =>
    have hinv : Inv is { s with uploaded := Function.update s.uploaded c true } := ⟨h.sessions, h.alive, h.fresh, h.history⟩
    exact hinv.answer hs
  | hangUp c =>
    rw [Http.step, Option.ite_none_right_eq_some] at hs
    cases hs.2
    exact h.keep rfl rfl rfl rfl rfl
  | act k a =>
    rw [Http.step, Option.ite_none_left_eq_some] at hs
    obtain ⟨hno, hs⟩ := hs
    rw [not_or] at hno
    obtain ⟨t, ht, rfl⟩ := Option.map_eq_some_iff.mp hs
    have hchange : ¬a.IsChange = true := fun hc => hno.1 <| by
      cases a with
      | subscribe | unsubscribe => rfl
      | _ => cases hc
    refine h.quiet rfl rfl (fun k' hk' => ⟨hk', ?_⟩) (fun _ hk' => .inl hk') fun _ _ hr => hr
    change urlsOf (Function.update s.session k t k').queue = _ ∧ (Function.update s.session k t k').queue.send_log_events = _
    by_cases hne : k' = k
    · subst hne
      rw [Function.update_self]
      exact ⟨urlsOf_other hchange ht, send_log_events_other hno.1 ht⟩
    · rw [Function.update_of_ne hne]
      exact ⟨rfl, rfl⟩
  | destroy k =>
    cases hs
    refine h.quiet rfl rfl (fun k' hk' => ⟨List.mem_of_mem_erase hk', rfl, rfl⟩) (fun k' hk' => ?_) fun _ _ hr => hr
    by_cases hne : k' = k
    · exact .inr (hne ▸ rfl)
    · exact .inl ((List.mem_erase_of_ne hne).mpr hk')

/-- The run lemma. -/
theorem inv_run {is : List HttpInput} (h : run (Http.step f) start is = some s) : Inv is s := by
  induction is using List.reverseRecOn generalizing s with
  | nil =>
    cases h
    exact inv_start
  | append_singleton is i ih =>
    rw [run_append, Option.bind_eq_some_iff] at h
    obtain ⟨s₀, h₀, h⟩ := h
    obtain ⟨s₁, hs, h₁⟩ := run_cons_eq_some.mp h
    cases h₁
    exact (ih h₀).step hs

/-- Whatever any number of clients ask for and in whatever order, in each session the answers to the requests for one service's events, or
the log's, say yes and no in turn; and the events are what is sent to those whose session has more of the one than of the other for
something, as long as it is there, and a 404 what is sent to all others. A client without a session gets one that was never used. -/
theorem sessions_observed {is : List HttpInput} (h : run (Http.step f) start is = some s) {before after : List (Nat × Reply)}
    (hresponses : s.responses = before ++ (c, reply) :: after) : ∃ r, s.request c = some r ∧ Fits is before r reply :=
  (inv_run h).history before c reply after hresponses

end

/-- The events of the session in which the lamp was asked for. -/
theorem sessions_observed_house : ∃ s before after, run (step houseFunctions) start houseInputs = some s ∧
    s.responses = before ++ (1, .events 0 0) :: after ∧ ∃ r, s.request 1 = some r ∧ Fits houseInputs before r (.events 0 0) := by
  obtain ⟨s, before, after, hs, hresponses⟩ : ∃ s before after, run (step houseFunctions) start houseInputs = some s ∧
      s.responses = before ++ (1, .events 0 0) :: after := ⟨_, [(0, .subscription "yes" "/room/1/lamp/0" 0)], _, rfl, rfl⟩
  exact ⟨s, before, after, hs, hresponses, sessions_observed hs hresponses⟩

end Http

end HomeBridge.Hpd
