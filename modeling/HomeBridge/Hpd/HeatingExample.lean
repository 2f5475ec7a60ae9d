import HomeBridge.Hpd.HttpServer
import HomeBridge.Ihaplite.TcpClient
import HomeBridge.ZigBee.Exchanges

/-!
# The heating example

The application of `heating_example.c`. Its services for the bridge pass on what a client of the HTTP server puts to them to the port of
a device, and what comes back to that client; and before it starts the server, `main` asks the bridge for its devices. Both put the
server, the client's exchange and the bridge together.
-/

namespace HomeBridge.HeatingExample

open CMem Runs TcpClient Hpd
open Hpd.Http (Functions Request)
open Bridge (dataText)

/-- The size of `inbuffer` in `put_bridge`. -/
@[simp] def INBUFFERSIZE : Nat := 512

/-- The port that `put_bridge` connects to for a service. -/
def bridgePort (ID : String) : Option Nat :=
  if ID = "0" then some 10001
  else if ID = "1" then some 10002
  else if ID = "2" then some 10003
  else if ID = "3" then some 10004
  else if ID = "4" then some 10005
  else if ID = "5" then some 10006
  else none

/-- `strcpy(buffer, inbuffer)`, and `strlen(buffer)`. A string without an end, or one that does not fit in the buffer of the service, has
no result. -/
def copied (inbuffer buffer : Mem) : Option (Mem × Nat) :=
  let n := strlen inbuffer 0 INBUFFERSIZE
  if n < INBUFFERSIZE ∧ n < MHD_MAX_BUFFER_SIZE then some (write buffer 0 (bytes inbuffer 0 n ++ [0]), n) else none

/-- `put_bridge`: its exchange with the bridge, if the ID has a port, and what it leaves in `buffer` and returns, if nothing is stored
outside the two buffers. What is in `inbuffer` before is what the stack had there. -/
def put_bridge (service : Service) (put_value : List UInt8) (server : Nat → Option Stream) (inbuffer buffer : Mem) (x : Option Exchange)
    (result : Option (Mem × Nat)) : Prop :=
  match bridgePort service.ID, x with
  | some port, some x => IP_send_String put_value (UInt8.ofNat put_value.length) (server port) x ∧
      result = if x.Inside INBUFFERSIZE then copied (x.reply inbuffer) buffer else none
  | none, none => result = copied inbuffer buffer
  | _, _ => False

/-- The size of `buffer` in `main`. -/
@[simp] def BUFFERSIZE : Nat := 200

/-- What `main` compares the start of the reply with. -/
def netlistDone : List UInt8 := ascii "6E65746C6973745F646F6E653"

/-- `main` up to the start of the server: its exchange with the bridge, and whether it goes on, if nothing is stored outside `buffer`. -/
def mainStart (server : Option Stream) (x : Exchange) (ok : Option Bool) : Prop :=
  IP_send_String (ascii "NETLIST_REQ") 11 server x ∧
    ok = if x.Inside BUFFERSIZE then some (decide (strncmp (bytes (x.reply zeroed) 0 25) netlistDone = 0)) else none

/-- What follows a reply in a buffer: the byte that was there, unless it is a NUL. -/
def behind (inbuffer : Mem) (n : Nat) : List UInt8 := if inbuffer n = 0 then [] else [inbuffer n]

theorem length_behind (inbuffer : Mem) (n : Nat) : (behind inbuffer n).length ≤ 1 := by
  rw [behind]
  split <;> simp

/-! ## What a client gets -/

theorem hexDigits_no_nul (b : List UInt8) : 0 ∉ hexDigits b := by
  intro h
  exact ((spelling_hexDigits b).isHexChar 0 h).2.1 rfl

/-- The bytes of a text without a NUL. -/
theorem ne_zero_of_bytes {m : Mem} {text : List UInt8} (htext : bytes m 0 text.length = text) (hno : 0 ∉ text) :
    ∀ i < text.length, m (0 + i) ≠ 0 := by
  intro i hi h0
  have hmem := List.getElem_mem (l := bytes m 0 text.length) (by rwa [length_bytes])
  rw [getElem_bytes, h0, htext] at hmem
  exact hno hmem

section answer

variable {binary_data : List UInt8} {length : UInt8} {t : Stream}

/-- What was received is in the buffer, and behind it what was there before. -/
theorem reply_received (inbuffer : Mem) : bytes ((answered binary_data length t).reply inbuffer) 0 t.received.length = t.received := by
  rw [answered_reply, bytes_write_disjoint _ _ (.inl (by omega)), bytes_write_self]

theorem reply_behind (inbuffer : Mem) : (answered binary_data length t).reply inbuffer t.received.length = inbuffer t.received.length := by
  rw [answered_reply, write_of_lt _ _ (Nat.lt_succ_self _), write_of_ge _ _ (Nat.le_of_eq (Nat.zero_add _))]

/-- The string in a buffer that a reply was received in. -/
theorem answered_string (hno : 0 ∉ t.received) {size : Nat} (hsize : t.received.length + 2 ≤ size) (inbuffer : Mem) :
    strlen ((answered binary_data length t).reply inbuffer) 0 size = (t.received ++ behind inbuffer t.received.length).length ∧
    bytes ((answered binary_data length t).reply inbuffer) 0 (t.received ++ behind inbuffer t.received.length).length =
      t.received ++ behind inbuffer t.received.length := by
  have hreceived := @reply_received binary_data length t inbuffer
  have hnext := @reply_behind binary_data length t inbuffer
  have hend : (answered binary_data length t).reply inbuffer (t.received.length + 1) = 0 := by rw [answered_reply, write_singleton]
  have hchars := ne_zero_of_bytes hreceived hno
  by_cases h0 : inbuffer t.received.length = 0
  · rw [behind, if_pos h0, List.append_nil]
    exact ⟨strlen_eq (by omega) hchars fun _ => by rw [Nat.zero_add, hnext, h0], hreceived⟩
  · rw [behind, if_neg h0, List.length_append, List.length_singleton]
    refine ⟨strlen_eq (by omega) (fun i hi => ?_) fun _ => by rw [Nat.zero_add, hend], ?_⟩
    · rcases Nat.lt_succ_iff_lt_or_eq.mp hi with hlt | rfl
      · exact hchars i hlt
      · rwa [Nat.zero_add, hnext]
    · rw [bytes_add, hreceived, Nat.zero_add, bytes_succ, hnext]
      rfl

/-- The text that `put_bridge` gives back of a reply has no NUL in it. -/
theorem reply_no_nul (hno : 0 ∉ t.received) (inbuffer : Mem) : 0 ∉ t.received ++ behind inbuffer t.received.length := by
  intro h
  rcases List.mem_append.mp h with h | h
  · exact hno h
  · rw [behind] at h
    split at h
    · cases h
    · rename_i h0
      exact h0 (List.mem_singleton.mp h).symm

/-- `put_bridge` gives back the reply of a server that closes the connection, and a byte behind it. -/
theorem put_bridge_answered {service : Service} {put_value : List UInt8} {server : Nat → Option Stream} {port : Nat}
    (hport : bridgePort service.ID = some port) (hserver : server port = some t) (heof : t.ending = .eof) (hno : 0 ∉ t.received)
    (hlen : t.received.length + 2 ≤ MHD_MAX_BUFFER_SIZE) (inbuffer buffer : Mem) :
    put_bridge service put_value server inbuffer buffer (some (answered put_value (UInt8.ofNat put_value.length) t))
      (some (write buffer 0 (t.received ++ behind inbuffer t.received.length ++ [0]),
        (t.received ++ behind inbuffer t.received.length).length)) := by
  simp only [MHD_MAX_BUFFER_SIZE] at hlen
  have hsize : t.received.length + 2 ≤ INBUFFERSIZE := by
    simp only [INBUFFERSIZE]
    omega
  obtain ⟨hstrlen, hbytes⟩ := @answered_string put_value (UInt8.ofNat put_value.length) t hno INBUFFERSIZE hsize inbuffer
  have hbehind := length_behind inbuffer t.received.length
  have hfits : (t.received ++ behind inbuffer t.received.length).length < MHD_MAX_BUFFER_SIZE := by
    rw [List.length_append]
    simp only [MHD_MAX_BUFFER_SIZE]
    omega
  have hinside : (answered put_value (UInt8.ofNat put_value.length) t).Inside INBUFFERSIZE :=
    answered_inside.mpr hsize
  have hx : IP_send_String put_value (UInt8.ofNat put_value.length) (server port)
      (answered put_value (UInt8.ofNat put_value.length) t) := by
    rw [hserver]
    exact returns_iff.mpr ⟨heof, rfl⟩
  simp only [put_bridge, hport]
  refine ⟨hx, ?_⟩
  rw [if_pos hinside, copied, hstrlen, if_pos ⟨Nat.lt_trans hfits (by decide), hfits⟩, hbytes]

end answer

/-! ## The start of `main` -/

/-- The text of a session that has timed out. -/
def timeoutText : List UInt8 := hexDigits (ascii "TIMEOUT_SEND")

/-- With a reply of `text`, `main` goes on or not. -/
def Checks (text : List UInt8) (ok : Bool) : Prop :=
  ∀ t : Stream, t.ending = .eof → t.received = text →
    ∃ x, mainStart (some t) x (some ok) ∧ x.written.flatten = ascii "NETLIST_REQ" ++ ascii "\r\n"

/-- It goes on with a reply that starts with the text it compares with. -/
theorem checks_reply {text : List UInt8} (hlen : text.length + 2 ≤ BUFFERSIZE) : Checks text (decide (netlistDone <+: text)) := by
  rintro t heof rfl
  refine ⟨answered (ascii "NETLIST_REQ") 11 t, ⟨returns_iff.mpr ⟨heof, rfl⟩, ?_⟩, rfl⟩
  rw [if_pos (answered_inside.mpr hlen)]
  refine congrArg some (decide_eq_decide.mpr ?_)
  rw [strncmp_eq_zero (by rw [length_bytes]; rfl) (by decide)]
  have hreceived := @reply_received (ascii "NETLIST_REQ") 11 t zeroed
  constructor
  · rintro ⟨rest, hrest⟩
    have hsum : t.received.length = 25 + rest.length := by rw [← hrest, List.length_append]; rfl
    rw [hsum, bytes_add, ← hrest] at hreceived
    exact List.append_inj_left hreceived (by rw [length_bytes]; rfl)
  · intro hbytes
    by_cases h25 : 25 ≤ t.received.length
    · obtain ⟨n, hn⟩ := Nat.exists_eq_add_of_le h25
      rw [hn, bytes_add, hbytes] at hreceived
      exact ⟨_, hreceived⟩
    · -- behind a shorter reply stands the NUL that was there before
      have hmem := List.getElem_mem (l := bytes ((answered (ascii "NETLIST_REQ") 11 t).reply zeroed) 0 25) (n := t.received.length)
        (by rw [length_bytes]; omega)
      rw [getElem_bytes, Nat.zero_add, reply_behind, hbytes] at hmem
      have hno : (0 : UInt8) ∉ netlistDone := by decide
      exact absurd hmem hno

/-- A request of the HTTP server that comes to `put_function` with `put_value`, once it is called for with no more data. -/
structure Puts (f : Functions) (s : Http) (c : Nat) (service : Service) (put_value : List UInt8) (r : Request) (body : List UInt8) :
    Prop where
  request : s.request c = some r
  method : r.method = "PUT"
  stored : s.con_cls c = some (.data body)
  found : matching_service s.service_head r.url = some service
  function : f.put_function service = true
  value : f.get_value_from_xml_value body = some put_value

/-- Its response has the string that the function leaves, if that is not empty. -/
theorem Puts.response {f : Functions} {s : Http} {c : Nat} {service : Service} {put_value : List UInt8} {r : Request} {body : List UInt8}
    (h : Puts f s c service put_value r body) (content : Mem) {ret : Nat} (hret : ret < MHD_MAX_BUFFER_SIZE) (h0 : ret ≠ 0)
    (device_list service_xml : List UInt8) : ∃ s', s.step f (.complete c ⟨device_list, service_xml, content, ⟨ret, hret⟩⟩) = some s' ∧
      s'.responses = s.responses ++ [(c, .xml (f.get_xml_value (bufferString (write content ret [0]))))] := by
  have hcall : afterCall content ret = some (write content ret [0]) := by rw [afterCall, if_neg h0, if_pos hret]
  have hstep := Http.answer_stored (f := f) (s := { s with uploaded := Function.update s.uploaded c true }) h.request h.method h.stored []
    ⟨device_list, service_xml, content, ⟨ret, hret⟩⟩
  simp only [Http.put, h.found, h.function, h.value, if_true, hcall, Option.map_some, if_neg h0] at hstep
  exact ⟨_, hstep, rfl⟩

/-- A string that was copied to a buffer and ended once more. -/
theorem bufferString_copied {text : List UInt8} (hno : 0 ∉ text) (hlen : text.length < MHD_MAX_BUFFER_SIZE) (buffer : Mem) :
    bufferString (write (write buffer 0 (text ++ [0])) text.length [0]) = text := by
  obtain ⟨m, hm⟩ : ∃ m, write (write buffer 0 (text ++ [0])) text.length [0] = m := ⟨_, rfl⟩
  have htext : bytes m 0 text.length = text := by
    rw [← hm, bytes_write_disjoint _ _ (.inl (by omega)), bytes_write_take _ _ (by simp), List.take_left]
  have hend : m text.length = 0 := by rw [← hm, write_singleton]
  rw [hm, bufferString, strlen_eq (Nat.le_of_lt hlen) (ne_zero_of_bytes htext hno) fun _ => by rw [Nat.zero_add, hend], htext]

/-- The ports that `put_bridge` connects to are those of devices, and one more. -/
theorem bridgePort_ipPort {ID : String} {v : Nat} (h : bridgePort ID = some (ipPort v)) : 1 ≤ v ∧ v ≤ 6 := by
  simp only [ipPort, SERVER_PORT] at h
  unfold bridgePort at h
  split_ifs at h <;> simp only [Option.some.injEq] at h <;> omega

/-- `put_bridge` writes the value out as a line, and the response to the PUT has `text`. -/
def Gives (f : Functions) (s : Http) (c : Nat) (service : Service) (put_value : List UInt8) (server : Nat → Option Stream)
    (inbuffer buffer : Mem) (text : List UInt8) : Prop :=
  ∃ x content ret, put_bridge service put_value server inbuffer buffer (some x) (some (content, ret)) ∧
    x.written.flatten = put_value ++ ascii "\r\n" ∧ ∃ hret : ret < MHD_MAX_BUFFER_SIZE, ∀ device_list service_xml, ∃ s',
      s.step f (.complete c ⟨device_list, service_xml, content, ⟨ret, hret⟩⟩) = some s' ∧
        s'.responses = s.responses ++ [(c, .xml (f.get_xml_value text))]

/-- A reply from the bridge. -/
theorem Puts.gives {f : Functions} {s : Http} {c : Nat} {service : Service} {put_value : List UInt8} {r : Request} {body : List UInt8}
    (h : Puts f s c service put_value r body) (hlen : put_value.length ≤ 255) {server : Nat → Option Stream} {port : Nat} {t : Stream}
    (hport : bridgePort service.ID = some port) (hserver : server port = some t) (heof : t.ending = .eof) (hno : 0 ∉ t.received)
    (hreply : 1 ≤ t.received.length ∧ t.received.length + 2 ≤ MHD_MAX_BUFFER_SIZE) (inbuffer buffer : Mem) :
    Gives f s c service put_value server inbuffer buffer (t.received ++ behind inbuffer t.received.length) := by
  have hbehind := length_behind inbuffer t.received.length
  have hret : (t.received ++ behind inbuffer t.received.length).length < MHD_MAX_BUFFER_SIZE := by
    simp only [MHD_MAX_BUFFER_SIZE] at hreply ⊢
    rw [List.length_append]
    omega
  have h0 : (t.received ++ behind inbuffer t.received.length).length ≠ 0 := by
    rw [List.length_append]
    omega
  refine ⟨_, _, _, put_bridge_answered hport hserver heof hno hreply.2 inbuffer buffer, request_flatten_iff.mpr hlen, hret,
    fun device_list service_xml => ?_⟩
  obtain ⟨s', hs', hresponses⟩ := h.response (write buffer 0 (t.received ++ behind inbuffer t.received.length ++ [0])) hret h0 device_list
    service_xml
  rw [bufferString_copied (reply_no_nul hno inbuffer) hret] at hresponses
  exact ⟨s', hs', hresponses⟩

/-- A reply with `text` on the port of `v` is in the response to the PUT, with the byte behind it in `inbuffer` if that is no NUL. -/
def Relays (f : Functions) (s : Http) (c : Nat) (service : Service) (put_value : List UInt8) (v : Nat) (text : List UInt8) : Prop :=
  ∀ server t, server (ipPort v) = some t → t.ending = .eof → t.received = text → ∀ inbuffer buffer,
    Gives f s c service put_value server inbuffer buffer (text ++ behind inbuffer text.length)

/-- The first service of the bridge, and a server that has a PUT to it. -/
def service_br0 : Service where
  description := some "1"
  ID := "0"
  type := "1"
  unit := none
  device := ⟨some "Bridge", "outside", some "0x03", some "0x03", some "V1", none, none, some "outside", "Bridge", HPD_NON_SECURE_DEVICE⟩
  parameter_head := []
  value_url := "/Bridge/outside/1/0"
  value_url_eq := by decide

def putServer : Http :=
  { Http.start with
    service_head := [service_br0]
    request := fun _ => some ⟨"PUT", "/Bridge/outside/1/0", none, none, none⟩
    con_cls := fun _ => some (.data (ascii "00aB")) }

end HomeBridge.HeatingExample
