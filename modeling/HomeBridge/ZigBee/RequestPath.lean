import HomeBridge.Ihaplite.IPTask
import HomeBridge.Ihaplite.SessionManager
import HomeBridge.ZigBee.Data

/-!
# The path of a request

What a client sends to an IP task goes through three tasks before it reaches the gateway: the IP task makes a message of the line,
the session manager opens a session and passes it on, the ZigBee task builds the frame. Each hands its message to the next one's
input port by the routing table, and each rewrites the same block.
-/

namespace HomeBridge

open CMem Runs

/-- What a turn of the session manager sends on an output port. -/
def sentOn (port : Nat) (events : List SessionEvent) : List Msg :=
  events.filterMap fun
    | .broadcast outport m => if outport = port then some m else none
    | _ => none

/-- The turns of the ZigBee task on messages that come on one port, and what it gives away. -/
def zigBeeTurns (port : Nat) : ZigBee → List Msg → Option (List ZigBeeOut)
  | _, [] => some []
  | z, m :: ms => (ZigBeeTask z (port, m)).bind fun (z, outs) => (zigBeeTurns port z ms).map (outs ++ ·)

/-- The path of a request: what the ZigBee task gives away for what a client of `VPS` sends. -/
def requestPath (VPS : UInt8) (t : SessionTable) (alarm : Bool) (z : ZigBee) (stream : List UInt8) (closed : Bool) :
    Option (List ZigBeeOut) :=
  let received := (IPTask VPS stream closed).map fun m => ((route (IPTask_id VPS.toNat) Out1).2, m)
  let events := (SessionManagerTask t ⟨received, alarm⟩).2
  zigBeeTurns (route SessionManagerTask_id Out1).2 z (sentOn Out1 events)

/-- The payloads that no task on the way takes for a command. -/
def PlainPayload (p : List UInt8) : Prop :=
  ∀ kw ∈ [ascii "0TIME", ascii "XCLUDE_REQ", ascii "GETDESC_REQ", ascii "GETUID_REQ", ascii "XONFIG_REQ"], ¬kw <+: p

instance (p : List UInt8) : Decidable (PlainPayload p) := by unfold PlainPayload; infer_instance

/-- The body of the frame that carries `p` to the device with address `addr`. -/
def requestFrame (addr : Addr ADDRLEN) (p : List UInt8) : List UInt8 :=
  let count := UInt8.ofNat (p.length + 10)
  [0x00, 0x03, 0x00, 0xC0, count, 0x00 ^^^ 0x03 ^^^ 0x00 ^^^ 0xC0 ^^^ count, 0x00, 0x03] ++ addr.1 ++ p

/-! ## The session manager passes the message on -/

section

variable {m : Msg} {VPS : UInt8} {p : List UInt8}

/-- A keyword is not found in a message that carries another payload. -/
theorem Carries.isAt_eq_false (h : Carries m VPS p) {kw : List UInt8} (h0 : 0x00 ∉ kw) (hkw : ¬kw <+: p) :
    m.isAt kw 2 = false := by
  rw [Bool.eq_false_iff, ne_eq, Msg.isAt_iff]
  exact fun he => hkw (h.prefix_of_bytes h0 he)

/-- What an alarm sends goes to the output ports from 2 on. -/
theorem sentOn_alarm (t : SessionTable) (alarm : Bool) : sentOn Out1 (sessionAlarm t alarm).2 = [] := by
  refine List.filterMap_eq_nil_iff.mpr fun e he => ?_
  rcases mem_sessionAlarm he with rfl | rfl | ⟨i, _, rfl⟩
  · rfl
  · rfl
  · exact if_neg (by simp only [Out1]; omega)

/-- A request without the keyword `0TIME` is passed on as it is. -/
theorem sentOn_request (t : SessionTable) (alarm : Bool) (h : Carries m VPS p) (hv : m.vps < MAX_VPS)
    (hkw : ¬ascii "0TIME" <+: p) : sentOn Out1 (SessionManagerTask t ⟨some (In1, m), alarm⟩).2 = [m] := by
  have hcmp : strncmp (m.bytes 2 5) (ascii "0TIME") ≠ 0 := by
    rw [ne_eq, strncmp_eq_zero (by rw [Msg.length_bytes]; rfl) (by decide)]
    exact fun he => hkw (h.prefix_of_bytes (by decide) he)
  have hgt : ¬m.vps > MAX_VPS := by omega
  have he : (sessionIn1 t m).2 = [.alarmSet 10, .broadcast Out1 m] := by
    simp only [sessionIn1, hgt, if_false, ne_eq, hcmp, not_false_eq_true, if_true]
  have hturn : (SessionManagerTask t ⟨some (In1, m), alarm⟩).2 =
      (.received In1 m :: (sessionIn1 t m).2) ++ (sessionAlarm (sessionIn1 t m).1 alarm).2 := rfl
  rw [hturn, he, sentOn, List.filterMap_append]
  change [m] ++ sentOn Out1 _ = [m]
  rw [sentOn_alarm, List.append_nil]

/-! ## The ZigBee task builds the frame -/

/-- A plain payload for a device whose slot is in use becomes a data frame. -/
theorem ZigBeeTask_request {z : ZigBee} (h : Carries m VPS p) (hv : m.vps ≠ 0) (hmax : m.vps < MAXVPS)
    (hused : check_valid_vps z.table m.vps = true) (hp : p.length ≤ 126) (hplain : PlainPayload p) :
    ZigBeeTask z (In2, m) = some (z, [.broadcast Out2 ((dataFrame z.table m).set 0 0xff)]) := by
  have hno : ∀ kw ∈ [ascii "XCLUDE_REQ", ascii "GETDESC_REQ", ascii "GETUID_REQ", ascii "XONFIG_REQ"], ¬m.isAt kw 2 = true := by
    intro kw hkw
    have h0 : 0x00 ∉ kw := by
      revert kw
      decide
    rw [h.isAt_eq_false h0 (hplain kw (List.mem_cons_of_mem _ hkw))]
    decide
  have hfit : m.len + 16 ≤ SCRATCH := by
    rw [Msg.len, h.len, UInt8.toNat_ofNat']
    simp only [SCRATCH]
    omega
  have hdev : ∀ t : Turn, t.dataPtr = m →
      deviceCommand t = some { t with dataPtr := dataFrame t.z.table m, do_broadcast_to_serial := true } := by
    rintro t rfl
    exact (if_neg (hno _ (by simp))).trans ((if_neg (hno _ (by simp))).trans ((if_neg (hno _ (by simp))).trans
      ((if_neg (hno _ (by simp))).trans (if_pos hfit))))
  have hserve := serviceUpperLayers_device (t := ⟨z, m, false, false, false⟩) hv hmax hused
  rw [zigBeeTask_in2, hserve, hdev _ rfl]
  rfl

/-- The data frame of a message that carries `p`. -/
theorem dataFrame_request (t : VpsTable) (h : Carries m VPS p) (hp : p.length ≤ 126) :
    ((dataFrame t m).set 0 0xff).rd 0 = 0xff ∧ ((dataFrame t m).set 0 0xff).len = p.length + 16 ∧
      ((dataFrame t m).set 0 0xff).payload = requestFrame (vps_vtoa t m.vps) p := by
  have hlen1 : ((dataFrame t m).set 0 0xff).rd 1 = UInt8.ofNat p.length + 16 := by
    rw [Msg.rd_set, if_neg (by decide), dataFrame, Msg.rd_set, if_pos rfl, h.len]
  have hlen : ((dataFrame t m).set 0 0xff).len = p.length + 16 := by
    rw [Msg.len, hlen1, UInt8.toNat_add, UInt8.toNat_ofNat', show (16 : UInt8).toNat = 16 from rfl]
    omega
  refine ⟨by rw [Msg.rd_set, if_pos rfl], hlen, ?_⟩
  have hcount : m.rd 1 + 10 = UInt8.ofNat (p.length + 10) := by
    rw [h.len, UInt8.ofNat_add]
    rfl
  have hbody : bufferHead (m.rd 1 + 10) 0x00 0x03 ++ (vps_vtoa t (m.rd 0).toNat).1 ++ m.payload = requestFrame (vps_vtoa t m.vps) p := by
    rw [h.payload (by omega), hcount]
    rfl
  have hbodylen : (requestFrame (vps_vtoa t m.vps) p).length = p.length + 16 := by
    have ha : (vps_vtoa t m.vps).1.length = 8 := (vps_vtoa t m.vps).2
    simp only [requestFrame, List.length_append, List.length_cons, List.length_nil, ha]
    omega
  rw [Msg.payload, hlen, Msg.bytes_set_disjoint _ _ (.inr (by decide)), dataFrame, hbody, Msg.bytes_set_disjoint _ _ (.inr (by decide)),
    ← hbodylen, Msg.bytes_wr_self]

end

/-! ## The whole path -/

/-- A request for a device whose slot is in use reaches the gateway as one frame that carries its payload, whatever the session
table, the alarm and the modes of the ZigBee task, however its hex digits are spelled, and whatever the client does behind the line. -/
theorem request_reaches_gateway (VPS : UInt8) (t : SessionTable) (alarm : Bool) (z : ZigBee) (p text rest : List UInt8) (e : UInt8)
    (closed : Bool) (hv : 1 ≤ VPS.toNat ∧ VPS.toNat ≤ 5) (hused : check_valid_vps z.table VPS.toNat = true)
    (hp : 1 ≤ p.length ∧ p.length ≤ 126) (hplain : PlainPayload p) (htext : Spelling text p) (he : EndsLine e) :
    ∃ m, requestPath VPS t alarm z (text ++ e :: rest) closed = some [.broadcast Out2 m] ∧ m.rd 0 = 0xff ∧ m.len = p.length + 16 ∧
      m.payload = requestFrame (vps_vtoa z.table VPS.toNat) p := by
  obtain ⟨m, hm, _, hc⟩ := IPTask_spelling VPS rest closed he htext hp.1 hp.2
  have hvps : m.vps = VPS.toNat := by rw [Msg.vps, hc.vps]
  have hin1 : (route (IPTask_id VPS.toNat) Out1).2 = In1 := by
    rw [route_ip_task (by simp only [MAX_VPS, TOTAL_VPS]; omega)]
  have hin2 : (route SessionManagerTask_id Out1).2 = In2 := rfl
  have hsess : sentOn Out1 (SessionManagerTask t ⟨some (In1, m), alarm⟩).2 = [m] :=
    sentOn_request t alarm hc (by simp only [MAX_VPS, TOTAL_VPS]; omega) (hplain _ (by simp))
  have hzig := ZigBeeTask_request (z := z) hc (by omega) (by simp only [MAXVPS]; omega) (by rwa [hvps]) hp.2 hplain
  obtain ⟨h0, hlen, hbody⟩ := dataFrame_request z.table hc hp.2
  refine ⟨_, ?_, h0, hlen, by rw [hbody, hvps]⟩
  simp only [requestPath, hm, Option.map_some, hin1, hin2, hsess]
  rw [zigBeeTurns, hzig]
  rfl

/-- Two bytes, a NUL first, in mixed case, to the device in slot 1. -/
theorem request_reaches_gateway_mixedCase :
    ∃ m, requestPath 1 noSession true joined (ascii "00aB" ++ 0x0d :: []) false = some [.broadcast Out2 m] ∧ m.rd 0 = 0xff ∧ m.len = 18 ∧
      m.payload = requestFrame (vps_vtoa joined.table 1) [0x00, 0xab] :=
  request_reaches_gateway 1 noSession true joined [0x00, 0xab] (ascii "00aB") [] 0x0d false (by decide) (by decide) (by decide) (by decide)
    (by unfold Spelling; decide) (.inl rfl)

end HomeBridge
