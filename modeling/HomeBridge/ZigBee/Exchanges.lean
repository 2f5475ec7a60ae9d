import HomeBridge.ZigBee.Bridge
import HomeBridge.ZigBee.NetworkList

/-!
# Questions to the network

Two commands are answered by a frame that comes back later: `NETLIST_REQ`, on port 0, by the list of the devices, and `GETDESC_REQ`, on
the port of a device, by its descriptor. Their lines are not hex text, so they come to the ZigBee task as they were sent; and each answer
goes to the client that waits on the port it is for.
-/

namespace HomeBridge

open CMem Runs

/-! ## Lines that are not hex text -/

/-- A line that is passed on as it is. -/
structure RawLine (text : List UInt8) : Prop where
  short : text.length < LINESIZE
  no_end : ∀ b ∈ text, ¬EndsLine b
  no_nul : 0 ∉ text
  raw : ¬IsHexChar (text.headD 0)

instance (text : List UInt8) : Decidable (RawLine text) :=
  decidable_of_iff (text.length < LINESIZE ∧ text.all (fun b => decide (¬EndsLine b ∧ b ≠ 0)) = true ∧ ¬IsHexChar (text.headD 0)) <| by
    simp only [List.all_eq_true, decide_eq_true_eq]
    exact ⟨fun ⟨hshort, hall, hraw⟩ => ⟨hshort, fun b hb => (hall b hb).1, fun h0 => (hall 0 h0).2 rfl, hraw⟩,
      fun h => ⟨h.short, fun b hb => ⟨h.no_end b hb, fun h0 => h.no_nul (h0 ▸ hb)⟩, h.raw⟩⟩

/-- Its message carries it. -/
theorem IPTask_raw (VPS : UInt8) {e : UInt8} {text : List UInt8} (rest : List UInt8) (closed : Bool) (he : EndsLine e)
    (h : RawLine text) : ∃ m, IPTask VPS (text ++ e :: rest) closed = some m ∧ m.off = 0 ∧ Carries m VPS text := by
  have hline := receivedText_line rest closed he h.short h.no_end
  obtain ⟨cmd, hcmd⟩ : ∃ cmd, receive_cmd (text ++ e :: rest) closed VPS = some cmd := by
    rw [← Option.isSome_iff_exists, receive_cmd_isSome, hline]
    rfl
  have hm : IPTask VPS (text ++ e :: rest) closed = some (decodeCommand cmd) := congrArg (Option.map decodeCommand) hcmd
  obtain ⟨text', ended, ht, hreq⟩ := IPTask_text hm
  cases hline.symm.trans ht
  have hlen : payloadLen text = text.length := payloadLen_raw (fun b hb h0 => h.no_nul (h0 ▸ hb)) h.raw
  refine ⟨_, hm, hreq.off, hreq.vps, ?_, ?_, ?_⟩
  · have hl := hreq.len
    rw [hlen] at hl
    rw [← hl, Msg.len, UInt8.ofNat_toNat]
  · refine List.ext_getElem (Msg.length_bytes ..) fun i _ hi => ?_
    rw [Msg.getElem_bytes, hreq.raw h.raw, List.getD_eq_getElem]
  · rw [← hlen]
    exact hreq.nul

/-- A keyword at the start of what a message carries is found there. -/
theorem Carries.isAt {m : Msg} {VPS : UInt8} {kw p : List UInt8} (h : Carries m VPS p) (hkw : kw <+: p) : m.isAt kw 2 = true := by
  obtain ⟨rest, rfl⟩ := hkw
  have hb := h.bytes
  rw [List.length_append, Msg.bytes_add] at hb
  rw [Msg.isAt_iff]
  exact List.append_inj_left hb (Msg.length_bytes ..)

/-! ## The network list -/

/-- The body of the frame that asks the gateway for its devices. -/
def netlistFrame : List UInt8 := [0x00, 0x03, 0x00, 0xC0, 0x04, 0xC7, 0x03, 0x05, 0x00, 0x00]

/-- The turn on a `NETLIST_REQ`. -/
theorem ZigBeeTask_netlistReq (z : ZigBee) {m : Msg} (hc : Carries m 0 (ascii "NETLIST_REQ")) :
    ∃ f, ZigBeeTask z (In2, m) = some ({ z with netupdatemode := true }, [.broadcast Out2 f]) ∧ f.rd 0 = 0xff ∧
      f.payload = netlistFrame := by
  have hat : m.isAt (ascii "NETLIST_REQ") 2 = true := hc.isAt List.prefix_rfl
  have h0 : m.vps = 0 := by
    rw [Msg.vps, hc.vps]
    rfl
  obtain ⟨m₁, hm₁⟩ : ∃ m₁, (m.wr 2 [0x00, 0x03, 0x00, 0xc0, 0x04, 0xcd, 0x03, 0x05, 0x00, 0x00]).set 1 10 = m₁ := ⟨_, rfl⟩
  have hreq : netlistReq ⟨z, m, true, false, false⟩ =
      ⟨{ z with netupdatemode := true }, m₁.set 7 (CHECKSUM (m₁.adv 2).rd), true, false, false⟩ := by
    rw [netlistReq, if_pos hat, hm₁]
  have hgone := (netlistReq_taken (t := ⟨z, m, true, false, false⟩) hat).1
  have hcommand : gatewayCommand ⟨z, m, false, false, false⟩ = netlistReq ⟨z, m, true, false, false⟩ := by
    unfold gatewayCommand
    rw [includeReq_skip (keyword_gone hgone (by decide)), skip_after_include hgone]
  have hserve := serviceUpperLayers_gateway (t := ⟨z, m, false, false, false⟩) h0
  rw [hcommand, hreq] at hserve
  refine ⟨(m₁.set 7 (CHECKSUM (m₁.adv 2).rd)).set 0 0xff, by rw [zigBeeTask_in2, hserve]; rfl, by rw [Msg.rd_set, if_pos rfl], ?_⟩
  have hlen : ((m₁.set 7 (CHECKSUM (m₁.adv 2).rd)).set 0 0xff).len = 10 := by
    simp [← hm₁, Msg.len]
  rw [Msg.payload, hlen]
  refine List.ext_getElem (by simp [netlistFrame]) fun i hi _ => ?_
  rw [Msg.length_bytes] at hi
  rw [Msg.getElem_bytes, ← hm₁]
  have hsum : (0x03 : UInt8) ^^^ 0xC0 ^^^ 0x04 = 0xC7 := by decide
  have hcases : i = 0 ∨ i = 1 ∨ i = 2 ∨ i = 3 ∨ i = 4 ∨ i = 5 ∨ i = 6 ∨ i = 7 ∨ i = 8 ∨ i = 9 := by omega
  rcases hcases with rfl | rfl | rfl | rfl | rfl | rfl | rfl | rfl | rfl | rfl <;> simp [Msg.rd_wr, CHECKSUM, netlistFrame, hsum]

/-- The text of the reply: fourteen characters, what stands in the frame behind them up to its next NUL, and the labels. -/
def listText (m : Msg) : List UInt8 := ascii "netlist_done: " ++ m.bytes 16 (m.strlen 16) ++ labels m netlistEntries

section list

variable {z : ZigBee} {m : Msg}

/-- The block with the fourteen characters written over a frame, and the string that is in it then. -/
theorem list_block (hoff : m.off = 0) (hstr : m.strlen 16 ≤ 78) :
    ((radioTurn z m).dataPtr.wr 2 (ascii "netlist_done: ")).strlen 2 = 14 + m.strlen 16 ∧
    ((radioTurn z m).dataPtr.wr 2 (ascii "netlist_done: ")).bytes 2 (14 + m.strlen 16) =
      ascii "netlist_done: " ++ m.bytes 16 (m.strlen 16) := by
  obtain ⟨frame, off⟩ := m
  obtain rfl : off = 0 := hoff
  have hrd : ∀ k, ((radioTurn z ⟨frame, 0⟩).dataPtr.wr 2 (ascii "netlist_done: ")).rd (2 + (14 + k)) = Msg.rd ⟨frame, 0⟩ (16 + k) := by
    intro k
    rw [reply_rd, if_neg (by omega), Msg.rd, Nat.zero_add, show 2 + (14 + k) = 16 + k by omega]
  constructor
  · refine Msg.strlen_eq (by change _ ≤ 255 - (0 + 2); omega) (fun k hk => ?_) ?_
    · by_cases h14 : k < 14
      · have hchars : ∀ k < 14, (ascii "netlist_done: ").getD k 0 ≠ 0 := by decide
        rw [reply_rd, if_pos h14]
        exact hchars k h14
      · obtain ⟨j, rfl⟩ := Nat.exists_eq_add_of_le (Nat.le_of_not_lt h14)
        rw [hrd]
        exact Msg.rd_ne_zero_of_lt_strlen (by omega)
    · rw [hrd]
      exact Msg.rd_strlen (by change _ < 255 - (0 + 16); omega)
  · have hself := Msg.bytes_wr_self (radioTurn z ⟨frame, 0⟩).dataPtr 2 (ascii "netlist_done: ")
    have hlen : (ascii "netlist_done: ").length = 14 := by decide
    rw [hlen] at hself
    rw [Msg.bytes_add, hself]
    refine congrArg _ (Msg.bytes_congr fun k _ => ?_)
    rw [Nat.add_assoc, hrd, show 16 + k = 2 + (14 + k) by omega]

/-- The turn on the list: the table has its devices, and the reply goes up on port 0. -/
theorem ZigBeeTask_list (hl : Lists z m) (hoff : m.off = 0) (hstr : m.strlen 16 ≤ 78) :
    ∃ z' m', ZigBeeTask z (In1, m) = some (z', [.broadcast Out1 m']) ∧ Rebuilt z'.table (listedDevices m netlistEntries) ∧
      m'.vps = 0 ∧ m'.len ≤ 127 ∧ m'.payload = listText m := by
  obtain ⟨table, hadd, hfill⟩ := addEntries_netlist m z.table
  obtain ⟨hno, h35⟩ := labels_bounds m
  obtain ⟨hblock, htext⟩ := list_block (z := z) hoff hstr
  have htask := zigBeeTask_netlist hl hadd
  obtain ⟨w, hw⟩ : ∃ w, (radioTurn z m).dataPtr.wr 2 (ascii "netlist_done: ") = w := ⟨_, rfl⟩
  rw [hw] at hblock htext htask
  have hfit : w.off + 2 + w.strlen 2 + (labels m netlistEntries).length + 1 ≤ DATASIZE := by
    have hwoff : w.off = 0 := hw ▸ hoff
    simp only [hwoff, hblock, DATASIZE]
    omega
  obtain ⟨r, hcat⟩ : ∃ r, w.strcat 2 (labels m netlistEntries) = some r := ⟨_, if_pos hfit⟩
  obtain ⟨hs, hb, -⟩ := Msg.strcat_spec hcat hno
  rw [hcat, Option.map_some] at htask
  have hlen : ((r.set 0 0).set 1 (UInt8.ofNat ((r.set 0 0).strlen 2))).len = 14 + m.strlen 16 + (labels m netlistEntries).length := by
    rw [Msg.strlen_set_of_lt _ (by decide), hs, hblock, Msg.len, Msg.rd_set, if_pos rfl, UInt8.toNat_ofNat']
    omega
  refine ⟨_, _, htask, hfill.rebuilt (listedDevices_lt m), by simp [Msg.vps], by omega, ?_⟩
  rw [Msg.payload, hlen, Msg.bytes_set_disjoint _ _ (.inr (by decide)), Msg.bytes_set_disjoint _ _ (.inr (by decide)), ← hblock, hb,
    hblock, htext]
  rfl

end list

/-! ## The descriptor -/

/-- `htoi` stops at a NUL. -/
theorem htoi_append_nul (rest : List UInt8) : ∀ (digits : List UInt8) (value : UInt32),
    htoi (digits ++ 0 :: rest) value = htoi digits value
  | [], _ => rfl
  | ch :: digits, value => by
    rw [List.cons_append, htoi, htoi, htoi_append_nul rest digits, htoi_append_nul rest digits, htoi_append_nul rest digits]

/-- Blanks are skipped in front of it at most. -/
theorem dropWhile_append_nul {p : UInt8 → Bool} (h0 : p 0 = false) (digits rest : List UInt8) :
    (digits ++ 0 :: rest).dropWhile p = digits.dropWhile p ++ 0 :: rest := by
  rw [List.dropWhile_append]
  split
  · rename_i hnil
    rw [List.isEmpty_iff.mp hnil, List.dropWhile_cons_of_neg (by rw [h0]; decide)]
    rfl
  · rfl

/-- The endpoint of a `GETDESC_REQ` is what stands behind the keyword. -/
def endpoint (digits : List UInt8) : UInt8 := (htoi (digits.dropWhile fun ch => ch == 0x20 || ch == 0x09) 0).toUInt8

theorem endpointOf_carries {m : Msg} {VPS : UInt8} {digits : List UInt8} (hc : Carries m VPS (ascii "GETDESC_REQ" ++ digits))
    (hoff : m.off = 0) (hlen : digits.length ≤ 200) : endpointOf m = endpoint digits := by
  have hkw : (ascii "GETDESC_REQ").length = 11 := by decide
  have hb := hc.bytes
  have hnul := hc.nul
  rw [List.length_append, hkw] at hb hnul
  rw [Msg.bytes_add] at hb
  have hdigits : m.bytes 13 digits.length = digits := List.append_inj_right hb (by rw [Msg.length_bytes, hkw])
  obtain ⟨n, hn⟩ : ∃ n, DATASIZE - (m.off + 13) = digits.length + (n + 1) := ⟨241 - digits.length, by simp only [hoff, DATASIZE]; omega⟩
  have hrest : m.bytes (13 + digits.length) (n + 1) = 0 :: m.bytes (13 + digits.length + 1) n := by
    rw [← hnul, Nat.add_comm n 1, Msg.bytes_add, ← Nat.add_assoc]
    rfl
  rw [endpointOf, hn, Msg.bytes_add, hdigits, hrest]
  rw [dropWhile_append_nul rfl, htoi_append_nul]
  rfl

/-- The body of the frame that asks a device for the descriptor of an endpoint. -/
def descriptorRequest (nwk : Addr ADDRLEN2) (endpoint : UInt8) : List UInt8 :=
  [0x00, 0x03, 0x00, 0xC0, 0x07, 0xC4, 0x01, 0x04] ++ nwk.1 ++ nwk.1 ++ [endpoint]

/-- The turn on a `GETDESC_REQ` for a device whose slot is in use. -/
theorem ZigBeeTask_getdescReq {z : ZigBee} {m : Msg} {VPS : UInt8} {digits : List UInt8} (hoff : m.off = 0)
    (hc : Carries m VPS (ascii "GETDESC_REQ" ++ digits)) (hv : VPS.toNat ≠ 0) (hmax : VPS.toNat < MAXVPS)
    (hused : check_valid_vps z.table VPS.toNat = true) (hlen : digits.length ≤ 200) :
    ∃ f, ZigBeeTask z (In2, m) = some ({ z with getdescmode := true }, [.broadcast Out2 f]) ∧ f.rd 0 = 0xff ∧
      f.payload = descriptorRequest (vps_vtoa_nwk z.table VPS.toNat) (endpoint digits) := by
  have hvps : m.vps = VPS.toNat := by rw [Msg.vps, hc.vps]
  have hat : m.isAt (ascii "GETDESC_REQ") 2 = true := hc.isAt (List.prefix_append ..)
  have hno : m.isAt (ascii "XCLUDE_REQ") 2 = false := Msg.isAt_eq_false_of_isAt hat 0 (by decide) (by decide) (by decide)
  have hcommand : deviceCommand ⟨z, m, false, false, false⟩ =
      some ⟨{ z with getdescmode := true }, descriptorFrame z.table m, true, false, false⟩ :=
    (if_neg (Bool.eq_false_iff.mp hno)).trans (if_pos hat)
  have hserve := serviceUpperLayers_device (t := ⟨z, m, false, false, false⟩) (by rwa [hvps]) (by rwa [hvps]) (by rwa [hvps])
  rw [hcommand] at hserve
  refine ⟨(descriptorFrame z.table m).set 0 0xff, by rw [zigBeeTask_in2, hserve]; rfl, by rw [Msg.rd_set, if_pos rfl], ?_⟩
  have hn := (vps_vtoa_nwk z.table VPS.toNat).2
  have hbody : bufferHead 0x07 0x01 0x04 ++ (vps_vtoa_nwk z.table (m.rd 0).toNat).1 ++ (vps_vtoa_nwk z.table (m.rd 0).toNat).1 ++
      [endpointOf m] = descriptorRequest (vps_vtoa_nwk z.table VPS.toNat) (endpoint digits) := by
    rw [hc.vps, endpointOf_carries hc hoff hlen]
    rfl
  have hlen13 : (descriptorRequest (vps_vtoa_nwk z.table VPS.toNat) (endpoint digits)).length = 13 := by
    simp [descriptorRequest, hn]
  have hlenf : ((descriptorFrame z.table m).set 0 0xff).len = 13 := by simp [descriptorFrame, Msg.len]
  rw [Msg.payload, hlenf, Msg.bytes_set_disjoint _ _ (.inr (by decide)), descriptorFrame, hbody,
    Msg.bytes_set_disjoint _ _ (.inr (by decide)), ← hlen13, Msg.bytes_wr_self]

/-- A descriptor of the device in slot `v`, and of no other, long enough for the part that is stripped. -/
structure IsDescriptor (z : ZigBee) (v : Nat) (m : Msg) : Prop where
  length : 11 ≤ m.len
  command : m.rd 8 = 0x81
  not_gateway : ¬GatewayBytes m
  used : Used z.table v
  nwk : vps_vtoa_nwk z.table v = m.addr 11 ADDRLEN2
  unique : ∀ w, Used z.table w → vps_vtoa_nwk z.table w = m.addr 11 ADDRLEN2 → w = v

/-- What is handed up of a descriptor: two letters in place of the network address, and what stands behind it. -/
def descriptorText (m : Msg) : List UInt8 := 0x7A :: 0x62 :: m.bytes 13 (m.len - 11)

/-- The turn on a descriptor. -/
theorem IsDescriptor.outcome {z : ZigBee} {v : Nat} {m : Msg} (h : IsDescriptor z v m) :
    ∃ m', ZigBeeTask z (In1, m) = some ({ z with getdescmode := false }, [.broadcast Out1 m']) ∧ m'.vps = v ∧ m'.len = m.len - 9 ∧
      m'.payload = descriptorText m := by
  have hrd : ∀ i, (radioTurn z m).dataPtr.rd (i + 1) = m.rd (i + 1) := radioTurn_rd z m
  have h8 : (radioTurn z m).dataPtr.rd 8 = 0x81 := (hrd 7).trans h.command
  have ha : (radioTurn z m).dataPtr.addr 11 ADDRLEN2 = m.addr 11 ADDRLEN2 := by
    refine Subtype.ext (Msg.bytes_congr fun k _ => ?_)
    rw [show 11 + k = 10 + k + 1 by omega]
    exact hrd (10 + k)
  have hv : vps_atov_nwk z.table (m.addr 11 ADDRLEN2) = v := vps_atov_nwk_of_unique h.used h.nwk h.unique
  have hout := upward_outcome (z := z) (m := m) (by rw [h.command]; decide) fun hx => by
    rw [h.command] at hx
    exact absurd hx.2.1 (by decide)
  obtain ⟨m', hm'⟩ : ∃ m', ((((radioTurn z m).dataPtr.adv 9).set 2 0x7A).set 3 0x62).set 0 (UInt8.ofNat v) = m' := ⟨_, rfl⟩
  have hdesc : descriptor (radioTurn z m) = { radioTurn z m with
      dataPtr := m'.set 1 (m.rd 1 - 11 + 2), z := { z with getdescmode := false } } := by
    have hd : descriptor (radioTurn z m) = _ := if_pos h8
    rw [hd, ha, hrd 0, ← hm', ← hv]
    rfl
  rw [gatewayAddress_other h.not_gateway, deviceData_skip (by rw [h8]; decide), hdesc] at hout
  have hlen : (m'.set 1 (m.rd 1 - 11 + 2)).len = m.len - 9 := by
    have hL := h.length
    have hlt := (m.rd 1).toNat_lt
    simp only [Msg.len, Msg.rd_set, if_true] at hL ⊢
    simp only [UInt8.toNat_add, UInt8.toNat_sub, UInt8.reduceToNat]
    omega
  refine ⟨m'.set 1 (m.rd 1 - 11 + 2), hout, ?_, hlen, ?_⟩
  · have hmax := h.used.1.2
    simp only [MAXVPS] at hmax
    rw [Msg.vps, Msg.rd_set, if_neg (by decide), ← hm', Msg.rd_set, if_pos rfl, UInt8.toNat_ofNat']
    omega
  · obtain ⟨n, hn⟩ : ∃ n, m.len - 9 = n + 2 := ⟨m.len - 11, by have := h.length; omega⟩
    have hbody : ∀ k, (m'.set 1 (m.rd 1 - 11 + 2)).rd (4 + k) = m.rd (13 + k) := fun k => by
      rw [Msg.rd_set, if_neg (by omega), ← hm', Msg.rd_set, if_neg (by omega), Msg.rd_set, if_neg (by omega), Msg.rd_set,
        if_neg (by omega), Msg.rd_adv, show 9 + (4 + k) = 12 + k + 1 by omega, hrd, show 12 + k + 1 = 13 + k by omega]
    have hrest : (m'.set 1 (m.rd 1 - 11 + 2)).bytes 4 n = m.bytes 13 n := Msg.bytes_congr fun k _ => hbody k
    have hhead : (m'.set 1 (m.rd 1 - 11 + 2)).bytes 2 2 = [0x7A, 0x62] := by
      rw [← hm']
      refine List.ext_getElem (by rw [Msg.length_bytes]; rfl) fun i hi _ => ?_
      rw [Msg.length_bytes] at hi
      rw [Msg.getElem_bytes]
      have hcases : i = 0 ∨ i = 1 := by omega
      rcases hcases with rfl | rfl <;> simp
    rw [Msg.payload, hlen, hn, Nat.add_comm n 2, Msg.bytes_add, hhead, hrest, descriptorText, show m.len - 11 = n by omega]
    rfl

/-! ## The timeout -/

/-- An alarm sends nothing on UDP. -/
theorem sessionDatagrams_alarm (t : SessionTable) : sessionDatagrams (sessionAlarm t true).2 = [] := by
  refine List.filterMap_eq_nil_iff.mpr fun e he => ?_
  rcases mem_sessionAlarm he with rfl | rfl | ⟨i, -, rfl⟩ <;> rfl

theorem payload_timeoutMessage (v : Nat) : (timeoutMessage v).len = 12 ∧ (timeoutMessage v).payload = ascii "TIMEOUT_SEND" := by
  have hlen : (Msg.wr ⟨zeroed, 0⟩ 2 (ascii "TIMEOUT_SEND")).strlen 2 = 12 := by decide +kernel
  have h12 : (timeoutMessage v).len = 12 := by simp [timeoutMessage, Msg.len, hlen]
  refine ⟨h12, ?_⟩
  have hself := Msg.bytes_wr_self ⟨zeroed, 0⟩ 2 (ascii "TIMEOUT_SEND")
  rw [Msg.payload, h12, timeoutMessage, Msg.bytes_set_disjoint _ _ (.inr (by decide)), Msg.bytes_set_disjoint _ _ (.inr (by decide))]
  exact hself

/-! ## The bridge -/

namespace Bridge

variable {b b' : Bridge} {v : Nat}

/-- The question for the devices, on its way to the gateway. -/
theorem runs_netlistReq {e : UInt8} (rest : List UInt8) (closed : Bool) (he : EndsLine e) (hidle : b.waiting 0 = false) : ∃ req f,
    b.runs [.client 0 (ascii "NETLIST_REQ" ++ e :: rest) closed, .deliver b.posted.length, .deliver b.posted.length,
        .deliver b.posted.length] =
      some ({ b with z := { b.z with netupdatemode := true }
                     session_table := Function.update b.session_table 0 SESSION_TIMEOUT
                     waiting := Function.update b.waiting 0 true }, [.request 0 req, .gateway f]) ∧
      f.rd 0 = 0xff ∧ f.payload = netlistFrame := by
  have hraw : RawLine (ascii "NETLIST_REQ") := by decide
  obtain ⟨m, hm, -, hc⟩ := IPTask_raw 0 rest closed he hraw
  obtain ⟨f, hz, h0, hbody⟩ := ZigBeeTask_netlistReq b.z hc
  have hv : (0 : UInt8).toNat < MAX_VPS := by decide
  exact ⟨m, f, runs_command hv hidle hm hc (by decide) hz, h0, hbody⟩

/-- The list, on its way to the client that asked for it. -/
theorem runs_list (hb : b.Inv) {m : Msg} (hl : Lists b.z m) (hoff : m.off = 0) (hstr : m.strlen 16 ≤ 78) (hopen : b.session_table 0 ≠ 0) :
    ∃ z, b.runs [.frame m, .deliver b.posted.length, .deliver b.posted.length, .deliver b.posted.length] =
      some ({ b with z := z, session_table := Function.update b.session_table 0 0
                     waiting := Function.update b.waiting 0 false }, [.reply 0 (hexDigits (listText m))]) ∧
      Rebuilt z.table (listedDevices m netlistEntries) := by
  obtain ⟨z, m', hz, htable, hvps, hlen, hbody⟩ := ZigBeeTask_list hl hoff hstr
  have hv : m'.vps < MAX_VPS := by rw [hvps]; decide
  have h := runs_answer hb hv (by rwa [hvps]) hz hlen
  rw [hvps, hbody] at h
  exact ⟨z, h, htable⟩

/-- The question for a descriptor, on its way to the gateway. -/
theorem runs_getdescReq {VPS : UInt8} {digits : List UInt8} {e : UInt8} (rest : List UInt8) (closed : Bool) (he : EndsLine e)
    (hv : 1 ≤ VPS.toNat ∧ VPS.toNat ≤ 5) (hidle : b.waiting VPS.toNat = false) (hused : check_valid_vps b.z.table VPS.toNat = true)
    (hraw : RawLine (ascii "GETDESC_REQ" ++ digits)) (hlen : digits.length ≤ 200) : ∃ req f,
    b.runs [.client VPS ((ascii "GETDESC_REQ" ++ digits) ++ e :: rest) closed, .deliver b.posted.length, .deliver b.posted.length,
        .deliver b.posted.length] =
      some ({ b with z := { b.z with getdescmode := true }
                     session_table := Function.update b.session_table VPS.toNat SESSION_TIMEOUT
                     waiting := Function.update b.waiting VPS.toNat true }, [.request VPS.toNat req, .gateway f]) ∧
      f.rd 0 = 0xff ∧ f.payload = descriptorRequest (vps_vtoa_nwk b.z.table VPS.toNat) (endpoint digits) := by
  obtain ⟨m, hm, hoff, hc⟩ := IPTask_raw VPS rest closed he hraw
  obtain ⟨f, hz, h0, hbody⟩ := ZigBeeTask_getdescReq (z := b.z) hoff hc (by omega) (by simp only [MAXVPS]; omega) hused hlen
  have hkw : ¬ascii "0TIME" <+: ascii "GETDESC_REQ" ++ digits := fun ⟨_, heq⟩ => by
    have hhead := congrArg List.head? heq
    exact absurd (Option.some.inj hhead) (by decide)
  exact ⟨m, f, runs_command (by simp only [MAX_VPS, TOTAL_VPS]; omega) hidle hm hc hkw hz, h0, hbody⟩

/-- The descriptor, on its way to the client that waits. -/
theorem runs_descriptor (hb : b.Inv) {m : Msg} (hd : IsDescriptor b.z v m) (hv : v < MAX_VPS) (hopen : b.session_table v ≠ 0)
    (hlen : m.len ≤ 136) : b.runs [.frame m, .deliver b.posted.length, .deliver b.posted.length, .deliver b.posted.length] =
      some ({ b with z := { b.z with getdescmode := false }
                     session_table := Function.update b.session_table v 0
                     waiting := Function.update b.waiting v false }, [.reply v (hexDigits (descriptorText m))]) := by
  obtain ⟨m', hz, rfl, hl, hbody⟩ := hd.outcome
  rw [← hbody]
  exact runs_answer hb hv hopen hz (by omega)

/-- An alarm that closes the session of a client, and the timeout on its way to it. -/
theorem runs_timeout (hb : b.Inv) (hv : v < MAX_VPS) (hlast : b.session_table v = 1) : ∃ k b',
    b.runs [.alarm, .deliver k] = some (b', [.reply v (hexDigits (ascii "TIMEOUT_SEND"))]) ∧ b'.z = b.z ∧
      b'.waiting v = false ∧ b'.session_table v = 0 := by
  have hwait : b.waiting v = true := hb.waits hv (by omega)
  obtain ⟨b₁, hb₁⟩ : ∃ b₁ : Bridge, { b with session_table := (sessionAlarm b.session_table true).1
                                             posted := b.posted ++ sessionPosts (sessionAlarm b.session_table true).2 } = b₁ := ⟨_, rfl⟩
  have halarm : b.step .alarm = some (b₁, []) := by
    rw [← sessionDatagrams_alarm b.session_table, ← hb₁]
    rfl
  have hmem : SessionEvent.broadcast (v + 2) (timeoutMessage v) ∈ (sessionAlarm b.session_table true).2 := by
    refine mem_sessionAlarm_of_mem hv ?_
    rw [sessionExpire, if_neg (by omega), if_pos (by omega), output_port_eq hv]
    exact List.mem_singleton_self _
  have hpost : ((IPTask_id v, In1), timeoutMessage v) ∈ b₁.posted := by
    rw [← hb₁, ← route_session_port hv]
    exact List.mem_append_right _ (List.mem_filterMap.mpr ⟨_, hmem, rfl⟩)
  obtain ⟨k, hk⟩ := List.mem_iff_getElem?.mp hpost
  obtain ⟨hlen, hbody⟩ := payload_timeoutMessage v
  obtain ⟨b₂, hb₂⟩ : ∃ b₂ : Bridge, { b₁ with posted := b₁.posted.eraseIdx k } = b₂ := ⟨_, rfl⟩
  have hwait₂ : b₂.waiting v = true := by rw [← hb₂, ← hb₁, hwait]
  have hdeliver : b₁.step (.deliver k) = some ({ b₂ with waiting := Function.update b₂.waiting v false },
      [.reply v (hexDigits (ascii "TIMEOUT_SEND"))]) := by
    rw [step, hk, Option.bind_some, hb₂, deliver_client hv hwait₂, IPTaskReply_short (by omega), hbody]
  refine ⟨k, { b₂ with waiting := Function.update b₂.waiting v false }, ?_, ?_, Function.update_self .., ?_⟩
  · rw [runs_step halarm (runs_step hdeliver rfl)]
    rfl
  · rw [← hb₂, ← hb₁]
  · rw [← hb₂, ← hb₁]
    exact (sessionAlarm_entry hv).trans (by rw [hlast])

end Bridge

end HomeBridge
