import HomeBridge.Lib.Run
import HomeBridge.ZigBee.Radio

/-!
# Data from a device

A data frame should reach the upper layers as the payload of its device's port. Three things keep it from that: a descriptor
request that is still open, which makes the data branch pass the frame by; the bytes of the gateway's own announcement, which are
looked for in every frame; and the last branch, which looks for its command byte where the data branch has moved the pointer to.
-/

namespace HomeBridge

open CMem Runs

/-- A data frame of the device in slot `v`, and of no other: not the one that confirms an exclusion, and long enough for the part
that is stripped. -/
structure IsDataFrame (z : ZigBee) (v : Nat) (m : Msg) : Prop where
  length : 20 ≤ m.len
  command : m.rd 8 = 0x40
  not_exclude : ¬(m.rd 9 = 0x02 ∧ m.rd 10 = 0x00)
  used : Used z.table v
  addr : vps_vtoa z.table v = m.addr 14 ADDRLEN
  unique : ∀ w, Used z.table w → vps_vtoa z.table w = m.addr 14 ADDRLEN → w = v

/-- Exactly one message goes up: on the device's port, with the frame's bytes from 22 on as its payload. -/
def Delivered (z : ZigBee) (v : Nat) (m : Msg) : Prop :=
  ∃ z' m', ZigBeeTask z (In1, m) = some (z', [.broadcast Out1 m']) ∧ m'.vps = v ∧ m'.payload = m.bytes 22 (m.len - 20)

/-- The frame has the gateway's own announcement in bytes 3 to 6. -/
def GatewayBytes (m : Msg) : Prop := m.rd 3 = 0x53 ∧ m.rd 4 = 0xc4 ∧ m.rd 5 = 0xc4 ∧ m.rd 6 = 0x08

theorem gatewayBytes_radioTurn (z : ZigBee) (m : Msg) : GatewayBytes (radioTurn z m).dataPtr ↔ GatewayBytes m := by
  simp [GatewayBytes, radioTurn]

section data

variable {z : ZigBee} {v : Nat} {m : Msg}

/-- A slot as the VPS byte. -/
theorem vps_set_ofNat (hv : v < MAXVPS) (len : UInt8) : ((m.set 0 (UInt8.ofNat v)).set 1 len).vps = v := by
  simp only [MAXVPS] at hv
  simp only [Msg.vps, Msg.rd_set, Nat.zero_ne_one, if_false, if_true, UInt8.toNat_ofNat']
  omega

/-- A frame that is no join, announcement or network list, reports nothing and confirms nothing comes to the last two branches as it was. -/
theorem upward_outcome (h8 : m.rd 8 ∉ [0xc1, 0x42, 0x83, 0x80])
    (hx : ¬(z.excludemode = true ∧ m.rd 8 = 0x40 ∧ m.rd 9 = 0x02 ∧ m.rd 10 = 0x00)) : ZigBeeTask z (In1, m) =
      some ((descriptor (deviceData (gatewayAddress (radioTurn z m)))).z,
        handOff (descriptor (deviceData (gatewayAddress (radioTurn z m))))) := by
  have hr8 : (radioTurn z m).dataPtr.rd 8 = m.rd 8 := radioTurn_rd z m 7
  have hr9 : (radioTurn z m).dataPtr.rd 9 = m.rd 9 := radioTurn_rd z m 8
  have hr10 : (radioTurn z m).dataPtr.rd 10 = m.rd 10 := radioTurn_rd z m 9
  simp only [List.mem_cons, List.not_mem_nil, or_false, not_or, ← hr8] at h8
  obtain ⟨hc1, h42, h83, h80⟩ := h8
  have hr : radioBranches (radioTurn z m) = some (descriptor (deviceData (dataFailed (gatewayAddress (radioTurn z m))))) :=
    radio_upward (fun hc => hc1 hc.2.1) h42 (by rwa [hr8, hr9, hr10]) fun hc => h83 hc.2
  rw [zigBeeTask_in1, hr, Option.map_some, dataFailed_skip (by rwa [gatewayAddress_dataPtr])]

/-- A data frame comes to the last branches as it was. -/
theorem IsDataFrame.outcome (h : IsDataFrame z v m) : ZigBeeTask z (In1, m) =
    some ((descriptor (deviceData (gatewayAddress (radioTurn z m)))).z,
      handOff (descriptor (deviceData (gatewayAddress (radioTurn z m))))) :=
  upward_outcome (by rw [h.command]; decide) fun hx => h.not_exclude hx.2.2

/-- The last two branches change no flag. -/
theorem flags_after_data (t : Turn) : handOff (descriptor (deviceData t)) =
    handOff { t with dataPtr := (descriptor (deviceData t)).dataPtr } := by
  obtain ⟨m, b, h⟩ := data_frame t
  rw [h]
  rfl

/-- A frame with the gateway's announcement in it goes nowhere. -/
theorem IsDataFrame.not_delivered_of_gatewayBytes (h : IsDataFrame z v m) (hg : GatewayBytes m) : ¬Delivered z v m := by
  rintro ⟨z', m', he, _⟩
  have hgate : gatewayAddress (radioTurn z m) = _ := if_pos ((gatewayBytes_radioTurn z m).mpr hg)
  rw [h.outcome, flags_after_data, hgate] at he
  cases congrArg Prod.snd (Option.some.inj he)

section plain

variable (hg : ¬GatewayBytes m)

include hg

theorem gatewayAddress_other : gatewayAddress (radioTurn z m) = radioTurn z m :=
  if_neg fun hc => hg ((gatewayBytes_radioTurn z m).mp hc)

/-- Exactly one message goes up, whatever it is. -/
theorem IsDataFrame.handed_up (h : IsDataFrame z v m) : ZigBeeTask z (In1, m) =
    some ((descriptor (deviceData (gatewayAddress (radioTurn z m)))).z,
      [.broadcast Out1 (descriptor (deviceData (gatewayAddress (radioTurn z m)))).dataPtr]) := by
  rw [h.outcome, flags_after_data, gatewayAddress_other hg]
  rfl

/-- With a descriptor request open the frame goes up as it came, on port 0. -/
theorem IsDataFrame.not_delivered_of_getdescmode (h : IsDataFrame z v m) (hd : z.getdescmode = true) : ¬Delivered z v m := by
  rintro ⟨z', m', he, hv, _⟩
  have h8 : (radioTurn z m).dataPtr.rd 8 = 0x40 := (radioTurn_rd z m 7).trans h.command
  have hdata : deviceData (radioTurn z m) = radioTurn z m := if_neg fun hc => absurd (hd.symm.trans hc.2) (by decide)
  rw [h.handed_up hg, gatewayAddress_other hg, hdata, descriptor_skip (by rw [h8]; decide)] at he
  cases he
  have h0 : (radioTurn z m).dataPtr.vps = 0 := by simp [radioTurn, Msg.vps]
  have := h.used.1.1
  omega

/-- The message the data branch makes of the frame. -/
theorem IsDataFrame.deviceData_eq (h : IsDataFrame z v m) (hd : z.getdescmode = false) :
    deviceData (gatewayAddress (radioTurn z m)) = { radioTurn z m with
      dataPtr := (((radioTurn z m).dataPtr.adv 20).set 0 (UInt8.ofNat v)).set 1 (m.rd 1 - 6 - 6 - 8) } := by
  have h8 : (radioTurn z m).dataPtr.rd 8 = 0x40 := (radioTurn_rd z m 7).trans h.command
  have ha : (radioTurn z m).dataPtr.addr 14 ADDRLEN = m.addr 14 ADDRLEN := by
    refine Subtype.ext (Msg.bytes_congr fun k _ => ?_)
    rw [show 14 + k = 13 + k + 1 by omega]
    exact radioTurn_rd z m (13 + k)
  have hv : vps_atov z.table (m.addr 14 ADDRLEN) = v := vps_atov_of_unique h.used h.addr h.unique
  have hdata : deviceData (radioTurn z m) = _ := if_pos ⟨h8, hd⟩
  rw [gatewayAddress_other hg, hdata, ha, radioTurn_rd]
  change { radioTurn z m with dataPtr := (((radioTurn z m).dataPtr.adv 20).set 0
    (UInt8.ofNat (vps_atov z.table (m.addr 14 ADDRLEN)))).set 1 (m.rd 1 - 6 - 6 - 8) } = _
  rw [hv]

/-- Where the byte that lies under the command byte of the stripped message is `0x81`, nine more bytes are stripped. -/
theorem IsDataFrame.not_delivered_of_0x81 (h : IsDataFrame z v m) (hd : z.getdescmode = false) (h28 : m.rd 28 = 0x81) :
    ¬Delivered z v m := by
  rintro ⟨z', m', he, _, hp⟩
  have hdata := h.deviceData_eq hg hd
  have h8 : (deviceData (gatewayAddress (radioTurn z m))).dataPtr.rd 8 = 0x81 := by
    rw [hdata]
    simp [radioTurn_rd z m 27, h28]
  have hdesc : descriptor (deviceData (gatewayAddress (radioTurn z m))) = _ := if_pos h8
  rw [h.handed_up hg] at he
  simp only [Option.some.injEq, Prod.mk.injEq, List.cons.injEq, ZigBeeOut.broadcast.injEq, and_true, true_and] at he
  obtain ⟨_, rfl⟩ := he
  have hlen : (descriptor (deviceData (gatewayAddress (radioTurn z m)))).dataPtr.rd 1 = m.rd 1 - 6 - 6 - 8 - 11 + 2 := by
    rw [hdesc, hdata]
    simp
  have hlen' : (descriptor (deviceData (gatewayAddress (radioTurn z m)))).dataPtr.len = m.len - 20 := by
    have := congrArg List.length hp
    rwa [Msg.payload, Msg.length_bytes, Msg.length_bytes] at this
  have hL := h.length
  have hlt := (m.rd 1).toNat_lt
  simp only [Msg.len, hlen] at hlen' hL
  simp only [UInt8.toNat_add, UInt8.toNat_sub, UInt8.reduceToNat] at hlen'
  omega

/-- Otherwise the payload goes up on the device's port. -/
theorem IsDataFrame.delivered (h : IsDataFrame z v m) (hd : z.getdescmode = false) (h28 : m.rd 28 ≠ 0x81) : Delivered z v m := by
  have hdata := h.deviceData_eq hg hd
  have h8 : (deviceData (gatewayAddress (radioTurn z m))).dataPtr.rd 8 ≠ 0x81 := by
    rw [hdata]
    simpa [radioTurn_rd z m 27] using h28
  have hout := h.handed_up hg
  rw [descriptor_skip h8, hdata] at hout
  have hlen : (m.rd 1 - 6 - 6 - 8).toNat = m.len - 20 := by
    have hL := h.length
    have hlt := (m.rd 1).toNat_lt
    simp only [Msg.len] at hL ⊢
    simp only [UInt8.toNat_sub, UInt8.reduceToNat]
    omega
  refine ⟨_, _, hout, ?_, ?_⟩
  · exact vps_set_ofNat h.used.1.2 _
  · simp only [Msg.payload, Msg.len, Msg.rd_set, if_true, hlen]
    refine Msg.bytes_congr fun k _ => ?_
    rw [Msg.rd_set, if_neg (by omega), Msg.rd_set, if_neg (by omega), Msg.rd_adv, show 20 + (2 + k) = 21 + k + 1 by omega,
      radioTurn_rd]
    congr 1
    omega

end plain

end data

/-- Whatever the state: a data frame is delivered as the payload of its device's port exactly when no descriptor request is open, the
frame does not have the gateway's announcement in bytes 3 to 6, and its byte 28 is not `0x81`. -/
theorem delivered_iff {z : ZigBee} {v : Nat} {m : Msg} (h : IsDataFrame z v m) :
    Delivered z v m ↔ z.getdescmode = false ∧ ¬GatewayBytes m ∧ m.rd 28 ≠ 0x81 := by
  constructor
  · intro hdel
    have hg : ¬GatewayBytes m := fun hg => h.not_delivered_of_gatewayBytes hg hdel
    have hd : z.getdescmode = false := Bool.eq_false_iff.mpr fun hd => h.not_delivered_of_getdescmode hg hd hdel
    exact ⟨hd, hg, fun h28 => h.not_delivered_of_0x81 hg hd h28 hdel⟩
  · rintro ⟨hd, hg, h28⟩
    exact h.delivered hg hd h28

/-- A frame of 28 bytes with eight bytes of data, the seventh of them `b`. -/
def dataMsg (b : UInt8) : Msg :=
  message 0xFF ([0x00, 0x03, 0x00, 0xC0, 0x16, 0x00, 0x40, 0x01, 0x00, 0x00, 0x00, 0x00] ++ List.replicate 8 0x07 ++
    [1, 2, 3, 4, 5, 6, b, 8])

/-- It is a data frame where the device `07 07 07 07 07 07 07 07` has slot 1 and no other slot is used. -/
theorem isDataFrame_dataMsg {z : ZigBee} {b : UInt8} (hb : b = 0x00 ∨ b = 0x81)
    (hused : (List.range MAXVPS).map (fun v => (z.table v).used) = [0, 1, 0, 0, 0, 0, 0, 0, 0, 0, 0])
    (haddr : (vps_vtoa z.table 1).1 = List.replicate 8 0x07) : IsDataFrame z 1 (dataMsg b) := by
  have hu : ∀ w < MAXVPS, (z.table w).used = [0, 1, 0, 0, 0, 0, 0, 0, 0, 0, 0].getD w 0 := by
    intro w hw
    rw [← hused]
    simp only [List.getD_eq_getElem?_getD, List.getElem?_map, List.getElem?_range hw, Option.map_some, Option.getD_some]
  have huniq : ∀ w, Used z.table w → w = 1 := by
    rintro w ⟨⟨h1, h2⟩, h3⟩
    by_contra hne
    rw [hu w h2] at h3
    have hall : ∀ w < MAXVPS, w ≠ 1 → [0, 1, 0, 0, 0, 0, 0, 0, 0, 0, 0].getD w (0 : UInt8) = 0 := by decide
    exact h3 (hall w h2 hne)
  have hone : Used z.table 1 := ⟨by decide, by rw [hu 1 (by decide)]; decide⟩
  rcases hb with rfl | rfl
  · exact ⟨by decide, by decide, by decide, hone, Subtype.ext (haddr.trans (by decide)), fun w hw _ => huniq w hw⟩
  · exact ⟨by decide, by decide, by decide, hone, Subtype.ext (haddr.trans (by decide)), fun w hw _ => huniq w hw⟩

/-- The task with the device in slot 1. -/
def joined : ZigBee :=
  { ZigBee.start ⟨List.replicate 8 0, rfl⟩ with
    table := Function.update (clearvpstable genvpstable) 1 { VpsEntry.zero with used := 1, addr := ⟨List.replicate 8 7, rfl⟩ } }

/-- A frame whose seventh byte of data is 0, with no request open. -/
theorem delivered_iff_joined : IsDataFrame joined 1 (dataMsg 0x00) ∧ (Delivered joined 1 (dataMsg 0x00) ↔
    joined.getdescmode = false ∧ ¬GatewayBytes (dataMsg 0x00) ∧ (dataMsg 0x00).rd 28 ≠ 0x81) :=
  have h : IsDataFrame joined 1 (dataMsg 0x00) := isDataFrame_dataMsg (.inl rfl) (by decide) (by decide)
  ⟨h, delivered_iff h⟩

/-- A frame whose seventh byte of data is `0x81`, after the device has joined and with no request open. -/
theorem not_delivered : ¬∀ gw z v m, Reachable ZigBee.step (ZigBee.start gw) z → IsDataFrame z v m → Delivered z v m := by
  intro h
  have hrun : (run ZigBee.step (ZigBee.start ⟨List.replicate 8 0, rfl⟩)
      [(In2, message 0 (ascii "INCLUDE_REQ")),
        (In1, message 0xFF ([0x00, 0x03, 0x00, 0xC0, 0x13, 0x00, 0x42] ++ List.replicate 18 0x07))]).map
      (fun z => ((List.range MAXVPS).map (fun v => (z.table v).used), (vps_vtoa z.table 1).1, z.getdescmode)) =
        some ([0, 1, 0, 0, 0, 0, 0, 0, 0, 0, 0], List.replicate 8 0x07, false) := by
    decide +kernel
  obtain ⟨z, hz, he⟩ := Option.map_eq_some_iff.mp hrun
  simp only [Prod.mk.injEq] at he
  obtain ⟨hused, haddr, hmode⟩ := he
  have hg : ¬GatewayBytes (dataMsg 0x81) := fun hc => absurd hc.1 (by decide)
  have hf := isDataFrame_dataMsg (.inr rfl) hused haddr
  exact hf.not_delivered_of_0x81 hg hmode (by decide) (h _ z 1 _ ⟨_, hz⟩ hf)

end HomeBridge
