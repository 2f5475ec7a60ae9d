import HomeBridge.Hpd.PutEvents
import HomeBridge.Hpd.Services

/-!
# A PUT, call by call

libmicrohttpd calls `answer_to_connection` (`hpd_http_web_server.c`) several times for one PUT: first without data, then with each chunk
of the body, and last without data again, whatever it returns. All the function keeps from one call to the next is `*con_cls`, which
libmicrohttpd sets to NULL before the first. Memory is taken to be there, and the XML functions may be any.
-/

namespace HomeBridge.Hpd

open CMem Runs

/-- A `put_function`: from what the service's buffer holds and the value, what it leaves there and returns. It is given the size of the
buffer, and leaves room for the NUL. -/
abbrev PutFunction : Type := { f : Mem → List UInt8 → Mem × Nat // ∀ m value, (f m value).2 < MHD_MAX_BUFFER_SIZE }

/-- What a request is answered from. -/
structure Server where
  service_head : List Service
  put_function : Service → Option PutFunction
  get_value_from_xml_value : List UInt8 → Option (List UInt8)
  get_xml_value : List UInt8 → List UInt8

/-- What `*con_cls` points to: nothing, the bytes of a chunk, or a block that has been freed. -/
inductive ConCls where
  | null
  | data (put_data_temp : List UInt8)
  | freed

/-- What `MHD_queue_response` is called with. -/
inductive Response where
  | notFound
  | badRequest
  | internalServerError
  | xml (xmlbuff : List UInt8)

/-- A request between two calls: its `*con_cls`, the buffer of its service, and what has been done for it so far. -/
structure PutRequest where
  con_cls : ConCls
  get_function_buffer : Mem
  puts : List (List UInt8)
  events : List Event
  responses : List Response

def PutRequest.store (r : PutRequest) (put_data_temp : List UInt8) : PutRequest := { r with con_cls := .data put_data_temp }

def PutRequest.respond (r : PutRequest) (response : Response) : PutRequest := { r with responses := r.responses ++ [response] }

/-- The block is freed, and `put_function` is called with the value. -/
def PutRequest.called (r : PutRequest) (m : Mem) (_value : List UInt8) : PutRequest :=
  { r with con_cls := .freed, get_function_buffer := m, puts := r.puts ++ [_value] }

/-- The value in the buffer is made known to the subscribers and to the client. -/
def PutRequest.changed (server : Server) (service : Service) (r : PutRequest) : PutRequest :=
  let value := bufferString r.get_function_buffer
  PutRequest.respond { r with events := r.events ++ [⟨service.value_url, value⟩] } (.xml (server.get_xml_value value))

/-- The call of `put_function`, and the answer. -/
def PutRequest.put (server : Server) (service : Service) (put_function : PutFunction) (r : PutRequest) (_value : List UInt8) :
    Option PutRequest :=
  let ret := put_function.1 r.get_function_buffer _value
  (afterCall ret.1 ret.2).map fun m =>
    if ret.2 = 0 then (r.called m _value).respond .internalServerError else (r.called m _value).changed server service

/-- What is done with what a request has stored. A freed block cannot be read. -/
def PutRequest.finish (server : Server) (url : String) (r : PutRequest) : Option PutRequest :=
  match matching_service server.service_head url with
  | none => some (r.respond .notFound)
  | some requested_service =>
    match server.put_function requested_service, r.con_cls with
    | some put_function, .data put_data_temp =>
      match server.get_value_from_xml_value put_data_temp with
      | none => some (r.respond .badRequest)
      | some _value => r.put server requested_service put_function _value
    | some _, .freed => none
    | _, _ => some (r.respond .badRequest)

/-- `answer_to_connection`, for a PUT. -/
def answer_to_connection (server : Server) (url : String) (r : PutRequest) (upload_data : List UInt8) : Option PutRequest :=
  match r.con_cls with
  | .null => some (if upload_data.length = 0 then r else r.store upload_data)
  | _ => r.finish server url

/-- Before the first call; the buffer holds anything. -/
def PutRequest.start (get_function_buffer : Mem) : PutRequest := ⟨.null, get_function_buffer, [], [], []⟩

/-- A part of a body. -/
abbrev Chunk : Type := { bs : List UInt8 // bs ≠ [] }

/-- The calls before the last one. -/
def uploadCalls (chunks : List Chunk) : List (List UInt8) := [] :: chunks.map (·.1)

/-- One response, at most one call of `put_function`, after the last chunk and with the value of the whole body. -/
structure AnsweredOnce (server : Server) (chunks : List Chunk) (uploaded answered : PutRequest) : Prop where
  later : uploaded.puts = []
  responses : answered.responses.length = 1
  puts : answered.puts.length ≤ 1
  values : ∀ value ∈ answered.puts, server.get_value_from_xml_value (chunks.map (·.1)).flatten = some value

/-- The calls for a body in these chunks end with that. -/
def PutAnswered (server : Server) (url : String) (get_function_buffer : Mem) (chunks : List Chunk) : Prop :=
  ∃ uploaded answered, run (answer_to_connection server url) (.start get_function_buffer) (uploadCalls chunks) = some uploaded ∧
    answer_to_connection server url uploaded [] = some answered ∧ AnsweredOnce server chunks uploaded answered

section

variable {server : Server} {url : String} {r r' : PutRequest}

theorem PutRequest.con_cls_store_ne_null (r : PutRequest) (put_data_temp : List UInt8) : (r.store put_data_temp).con_cls ≠ .null := nofun

theorem PutRequest.length_responses_respond (r : PutRequest) (response : Response) :
    (r.respond response).responses.length = r.responses.length + 1 := List.length_append

/-! ## What one call does -/

/-- A string that fits is ended inside the buffer. -/
theorem afterCall_of_lt (content : Mem) {ret : Nat} (h : ret < MHD_MAX_BUFFER_SIZE) : ∃ m, afterCall content ret = some m := by
  unfold afterCall
  by_cases h0 : ret = 0
  · exact ⟨_, if_pos h0⟩
  · exact ⟨_, (if_neg h0).trans (if_pos h)⟩

/-- The call of `put_function` goes through, is answered, and takes the block away. -/
theorem put_spec (server : Server) (service : Service) (put_function : PutFunction) (r : PutRequest) (_value : List UInt8) :
    ∃ r', r.put server service put_function _value = some r' ∧ r'.con_cls = .freed ∧
      r'.responses.length = r.responses.length + 1 ∧ r'.puts = r.puts ++ [_value] := by
  obtain ⟨m, hm⟩ := afterCall_of_lt (put_function.1 r.get_function_buffer _value).1 (put_function.2 r.get_function_buffer _value)
  have hput : r.put server service put_function _value = some (if (put_function.1 r.get_function_buffer _value).2 = 0 then
      (r.called m _value).respond .internalServerError else (r.called m _value).changed server service) := by
    simp only [PutRequest.put, hm, Option.map_some]
  refine ⟨_, hput, ?_⟩
  split
  · exact ⟨rfl, List.length_append, rfl⟩
  · exact ⟨rfl, List.length_append, rfl⟩

/-- What is stored is answered with one response, and given to `put_function` at most, as its value. -/
theorem finish_data {body : List UInt8} (h : r.con_cls = .data body) : ∃ r', r.finish server url = some r' ∧ r'.con_cls ≠ .null ∧
    r'.responses.length = r.responses.length + 1 ∧
    (r'.puts = r.puts ∨ ∃ _value, server.get_value_from_xml_value body = some _value ∧ r'.puts = r.puts ++ [_value]) := by
  have hstays : ∀ response, (r.respond response).con_cls ≠ .null := fun response hn => nomatch h.symm.trans hn
  unfold PutRequest.finish
  rcases matching_service server.service_head url with _ | service
  · exact ⟨_, rfl, hstays _, r.length_responses_respond _, .inl rfl⟩
  · rcases hput : server.put_function service with _ | put_function
    · simp only [hput]
      exact ⟨_, rfl, hstays _, r.length_responses_respond _, .inl rfl⟩
    · simp only [hput, h]
      rcases hvalue : server.get_value_from_xml_value body with _ | _value
      · exact ⟨_, rfl, hstays _, r.length_responses_respond _, .inl rfl⟩
      · obtain ⟨r', hr', hfreed, hlen, hputs⟩ := put_spec server service put_function r _value
        exact ⟨r', hr', hfreed ▸ nofun, hlen, .inr ⟨_value, rfl, hputs⟩⟩

/-- Once something is stored every call is answered, whatever it comes with. -/
theorem answer_step {upload_data : List UInt8} (h : r.con_cls ≠ .null)
    (hr : answer_to_connection server url r upload_data = some r') :
    r'.con_cls ≠ .null ∧ r'.responses.length = r.responses.length + 1 := by
  have hfinish : answer_to_connection server url r upload_data = r.finish server url := by
    unfold answer_to_connection
    split
    · contradiction
    · rfl
  rw [hfinish] at hr
  rcases hc : r.con_cls with _ | body | _
  · exact absurd hc h
  · obtain ⟨r'', hr'', hne, hlen, _⟩ := @finish_data server url r body hc
    rw [hr'', Option.some.injEq] at hr
    exact hr ▸ ⟨hne, hlen⟩
  · unfold PutRequest.finish at hr
    rcases hm : matching_service server.service_head url with _ | service
    · simp only [hm, Option.some.injEq] at hr
      subst hr
      exact ⟨hc ▸ nofun, r.length_responses_respond _⟩
    · rcases hput : server.put_function service with _ | put_function
      · simp only [hm, hput, Option.some.injEq] at hr
        subst hr
        exact ⟨hc ▸ nofun, r.length_responses_respond _⟩
      · simp only [hm, hput, hc, reduceCtorEq] at hr

/-! ## What a run of calls does -/

/-- Every call from there on is answered. -/
theorem length_responses_run {calls : List (List UInt8)} : ∀ {r r' : PutRequest}, r.con_cls ≠ .null →
    run (answer_to_connection server url) r calls = some r' →
    r'.con_cls ≠ .null ∧ r'.responses.length = r.responses.length + calls.length := by
  induction calls with
  | nil =>
    intro r r' h hr
    cases hr
    exact ⟨h, rfl⟩
  | cons upload_data calls ih =>
    intro r r' h hr
    obtain ⟨r₁, h1, h2⟩ := run_cons_eq_some.mp hr
    obtain ⟨hne₁, hlen₁⟩ := answer_step h h1
    obtain ⟨hne, hlen⟩ := ih hne₁ h2
    refine ⟨hne, ?_⟩
    rw [hlen, hlen₁, List.length_cons]
    omega

variable {m : Mem} {chunk : Chunk} {chunks : List Chunk}

/-- The first chunk is stored. -/
theorem run_first_chunk : run (answer_to_connection server url) (.start m) (uploadCalls (chunk :: chunks)) =
    run (answer_to_connection server url) ((PutRequest.start m).store chunk.1) (chunks.map (·.1)) := by
  have hlen : ¬chunk.1.length = 0 := fun h => chunk.2 (List.length_eq_zero_iff.mp h)
  have hfirst : answer_to_connection server url (.start m) [] = some (.start m) := rfl
  have hchunk : answer_to_connection server url (.start m) chunk.1 = some ((PutRequest.start m).store chunk.1) :=
    congrArg some (if_neg hlen)
  rw [uploadCalls, List.map_cons, run_cons, hfirst, Option.bind_some, run_cons, hchunk, Option.bind_some]

/-- An empty body is never answered. -/
theorem not_putAnswered_nil : ¬PutAnswered server url m [] := by
  rintro ⟨uploaded, answered, hup, hans, h⟩
  cases hup
  cases hans
  exact absurd h.responses Nat.zero_ne_one

/-- A body in one chunk is answered once. -/
theorem putAnswered_singleton : PutAnswered server url m [chunk] := by
  obtain ⟨r', hr', _, hlen, hputs⟩ : ∃ r', ((PutRequest.start m).store chunk.1).finish server url = some r' ∧ _ := finish_data rfl
  have hbody : ([chunk].map (·.1)).flatten = chunk.1 := List.append_nil _
  refine ⟨_, r', run_first_chunk, hr', rfl, hlen, ?_, ?_⟩
  · rcases hputs with hputs | ⟨_, _, hputs⟩
    · exact hputs ▸ Nat.zero_le 1
    · exact hputs ▸ Nat.le_refl 1
  · intro value hmem
    rcases hputs with hputs | ⟨_value, hvalue, hputs⟩
    · rw [hputs] at hmem
      exact absurd hmem List.not_mem_nil
    · rw [hputs] at hmem
      rw [hbody, hvalue, List.mem_singleton.mp hmem]

/-- The second chunk is answered as if the body had ended, and so is what comes behind it. -/
theorem not_putAnswered_cons_cons {chunk' : Chunk} : ¬PutAnswered server url m (chunk :: chunk' :: chunks) := by
  rintro ⟨uploaded, answered, hup, hans, h⟩
  rw [run_first_chunk] at hup
  obtain ⟨hne, hlen⟩ := length_responses_run (PutRequest.con_cls_store_ne_null _ _) hup
  obtain ⟨_, hlen'⟩ := answer_step hne hans
  have hone := h.responses
  rw [hlen', hlen, List.map_cons, List.length_cons] at hone
  omega

end

/-- A PUT is answered once, from its whole body, exactly if the body comes in one chunk. -/
theorem putAnswered_iff (server : Server) (url : String) (get_function_buffer : Mem) (chunks : List Chunk) :
    PutAnswered server url get_function_buffer chunks ↔ chunks.length = 1 := by
  rcases chunks with _ | ⟨chunk, _ | ⟨chunk', chunks⟩⟩
  · exact iff_of_false not_putAnswered_nil (by decide)
  · exact iff_of_true putAnswered_singleton rfl
  · exact iff_of_false not_putAnswered_cons_cons (by simp)

/-- A service, and the server that has it. -/
def lamp : Service where
  description := none
  ID := "0"
  type := "lamp"
  unit := none
  device := ⟨none, "1", none, none, none, none, none, none, "room", HPD_NON_SECURE_DEVICE⟩
  parameter_head := []
  value_url := "/room/1/lamp/0"
  value_url_eq := by decide

def lampServer : Server where
  service_head := [lamp]
  put_function := fun _ => some ⟨fun m value => (write m 0 (value.take 2), min 2 value.length),
    fun _ _ => Nat.lt_of_le_of_lt (Nat.min_le_left ..) (by decide)⟩
  get_value_from_xml_value := fun body => if body = ascii "<value>on</value>" then some (ascii "on") else none
  get_xml_value := fun value => ascii "<value>" ++ value ++ ascii "</value>"

/-- The lamp is switched on, in two chunks. -/
theorem not_putAnswered : ¬∀ (server : Server) (url : String) (get_function_buffer : Mem) (chunks : List Chunk),
    PutAnswered server url get_function_buffer chunks := by
  intro h
  exact not_putAnswered_cons_cons
    (h lampServer lamp.value_url zeroed [⟨ascii "<value>o", by decide⟩, ⟨ascii "n</value>", by decide⟩])

end HomeBridge.Hpd
