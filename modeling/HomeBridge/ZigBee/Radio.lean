import HomeBridge.ZigBee.Task

/-!
# One frame from the radio, one outcome

The conditions on a frame are tried one after the other, on a buffer that the ones before may have rewritten. These lemmas say
what comes of it: a frame that is confirmed, listed or reported as failed has `0x02`, a letter of the reply or `A` where the
command byte was, so that the conditions behind it no longer apply, and each frame has one outcome.
-/

namespace HomeBridge

open CMem

/-! ## Branches not taken -/

section skip

variable {t : Turn}

/-- The first form of a join has command byte `0xc1`. -/
theorem joinShort_skip (h : t.dataPtr.rd 8 ≠ 0xc1) : joinShort t = some t := if_neg fun hc => h hc.2.1

/-- The gateway's address comes in a frame with `0x53` as its byte 3. -/
theorem gatewayAddress_skip (h : t.dataPtr.rd 3 ≠ 0x53) : gatewayAddress t = t := if_neg fun hc => h hc.1

/-- An announcement has command byte `0x42`. -/
theorem announce_skip (h : t.dataPtr.rd 8 ≠ 0x42) : announce t = t := if_neg fun hc => h hc.2

/-- So has the second form of a join. -/
theorem joinAnnounced_skip (h : t.dataPtr.rd 8 ≠ 0x42) : joinAnnounced t = some t := if_neg fun hc => h hc.2

/-- An exclusion is confirmed by a data frame. -/
theorem excludeConfirm_skip (h : t.dataPtr.rd 8 ≠ 0x40) : excludeConfirm t = t := if_neg fun hc => h hc.2.1

/-- The network list has command byte `0x83`. -/
theorem netlist_skip (h : t.dataPtr.rd 8 ≠ 0x83) : netlist t = some t := if_neg fun hc => h hc.2

/-- A failure is reported with command byte `0x80`. -/
theorem dataFailed_skip (h : t.dataPtr.rd 8 ≠ 0x80) : dataFailed t = t := if_neg fun hc => h hc.1

/-- Data have command byte `0x40`. -/
theorem deviceData_skip (h : t.dataPtr.rd 8 ≠ 0x40) : deviceData t = t := if_neg fun hc => h hc.1

/-- A descriptor has command byte `0x81`. -/
theorem descriptor_skip (h : t.dataPtr.rd 8 ≠ 0x81) : descriptor t = t := if_neg h

/-- The last three branches have a command byte each. -/
theorem upward_skip {b : UInt8} (h : t.dataPtr.rd 8 = b) (hb : b ∉ [0x80, 0x40, 0x81]) :
    descriptor (deviceData (dataFailed t)) = t := by
  simp only [List.mem_cons, List.not_mem_nil, or_false, not_or, ← h] at hb
  rw [dataFailed_skip hb.1, deviceData_skip hb.2.1, descriptor_skip hb.2.2]

/-- The last five branches leave a frame with another command byte as it is. -/
theorem last_skip {b : UInt8} (h : t.dataPtr.rd 8 = b) (hb : b ∉ [0x80, 0x40, 0x81, 0x83]) :
    (netlist (excludeConfirm t)).map (fun t => descriptor (deviceData (dataFailed t))) = some t := by
  have hup : b ∉ [0x80, 0x40, 0x81] := fun hm => hb (List.mem_append_left [0x83] hm)
  simp only [List.mem_cons, List.not_mem_nil, or_false, not_or, ← h] at hb
  rw [excludeConfirm_skip hb.2.1, netlist_skip hb.2.2.2, Option.map_some, upward_skip h hup]

end skip

/-! ## What the branches leave alone -/

section gatewayAddress

variable (t : Turn)

/-- The branch stores an address and clears both flags, or does nothing. -/
theorem gatewayAddress_cases : gatewayAddress t = t ∨ gatewayAddress t =
    { t with
      z := { t.z with gwieeeaddr := t.dataPtr.addr (2 + 6) ADDRLEN }
      do_broadcast_to_serial := false
      do_broadcast_to_upperlayers := false } := by
  by_cases h : t.dataPtr.rd 3 = 0x53 ∧ t.dataPtr.rd 4 = 0xc4 ∧ t.dataPtr.rd 5 = 0xc4 ∧ t.dataPtr.rd 6 = 0x08
  · exact .inr (if_pos h)
  · exact .inl (if_neg h)

/-- The message is as it was. -/
@[simp] theorem gatewayAddress_dataPtr : (gatewayAddress t).dataPtr = t.dataPtr := by
  rcases gatewayAddress_cases t with h | h <;> rw [h]

/-- So is the table. -/
@[simp] theorem gatewayAddress_table : (gatewayAddress t).z.table = t.z.table := by
  rcases gatewayAddress_cases t with h | h <;> rw [h]

/-- And the three modes that are looked at behind it. -/
@[simp] theorem gatewayAddress_includemode : (gatewayAddress t).z.includemode = t.z.includemode := by
  rcases gatewayAddress_cases t with h | h <;> rw [h]

@[simp] theorem gatewayAddress_excludemode : (gatewayAddress t).z.excludemode = t.z.excludemode := by
  rcases gatewayAddress_cases t with h | h <;> rw [h]

@[simp] theorem gatewayAddress_netupdatemode : (gatewayAddress t).z.netupdatemode = t.z.netupdatemode := by
  rcases gatewayAddress_cases t with h | h <;> rw [h]

@[simp] theorem gatewayAddress_freed : (gatewayAddress t).freed = t.freed := by
  rcases gatewayAddress_cases t with h | h <;> rw [h]

/-- A turn that had the first flag clear still has. -/
theorem gatewayAddress_serial {t : Turn} (hs : t.do_broadcast_to_serial = false) :
    (gatewayAddress t).do_broadcast_to_serial = false := by
  rcases gatewayAddress_cases t with h | h
  · rw [h, hs]
  · rw [h]

end gatewayAddress

section upward

variable (t : Turn)

/-- Each of the last three branches makes a message for the upper layers out of the frame, or does nothing. -/
theorem dataFailed_cases : dataFailed t = t ∨ dataFailed t =
    { t with
      dataPtr := ((t.dataPtr.set 0 (UInt8.ofNat (vps_atov t.z.table (t.dataPtr.addr 10 ADDRLEN)))).set 1 11).wr 2
        (ascii "DATA_FAILED" ++ [0]) } := by
  by_cases h : t.dataPtr.rd 8 = 0x80 ∧ t.dataPtr.rd 20 ≠ 0x00
  · exact .inr (if_pos h)
  · exact .inl (if_neg h)

/-- A device's data become a message that starts twenty bytes on, under the port of their sender. -/
theorem deviceData_cases : deviceData t = t ∨ deviceData t =
    { t with
      dataPtr := ((t.dataPtr.adv (6 + 6 + 8)).set 0 (UInt8.ofNat (vps_atov t.z.table (t.dataPtr.addr 14 ADDRLEN)))).set 1
        (t.dataPtr.rd 1 - 6 - 6 - 8) } := by
  by_cases h : t.dataPtr.rd 8 = 0x40 ∧ t.z.getdescmode = false
  · exact .inr (if_pos h)
  · exact .inl (if_neg h)

/-- A descriptor becomes one that starts nine bytes on with the letters `zb`, under the port found by the network address. -/
theorem descriptor_cases : descriptor t = t ∨ descriptor t =
    { t with
      dataPtr := ((((t.dataPtr.adv (2 + 13 - 2 - 4)).set 2 0x7A).set 3 0x62).set 0
        (UInt8.ofNat (vps_atov_nwk t.z.table (t.dataPtr.addr 11 ADDRLEN2)))).set 1 (t.dataPtr.rd 1 - 11 + 2)
      z := { t.z with getdescmode := false } } := by
  by_cases h : t.dataPtr.rd 8 = 0x81
  · exact .inr (if_pos h)
  · exact .inl (if_neg h)

/-- They change the message and one mode. -/
theorem data_frame : ∃ m b, descriptor (deviceData t) = { t with dataPtr := m, z := { t.z with getdescmode := b } } := by
  rcases deviceData_cases t with h1 | h1
  · rw [h1]
    rcases descriptor_cases t with h2 | h2
    · exact ⟨_, _, h2⟩
    · exact ⟨_, _, h2⟩
  · rw [h1]
    rcases descriptor_cases { t with dataPtr := _ } with h2 | h2
    · exact ⟨_, _, h2⟩
    · exact ⟨_, _, h2⟩

/-- So do all three. -/
theorem upward_frame :
    ∃ m b, descriptor (deviceData (dataFailed t)) = { t with dataPtr := m, z := { t.z with getdescmode := b } } := by
  obtain ⟨m, b, h⟩ := data_frame (dataFailed t)
  rcases dataFailed_cases t with h1 | h1
  · exact ⟨m, b, by rw [h, h1]⟩
  · exact ⟨m, b, by rw [h, h1]⟩

end upward

/-! ## The frames built in the message -/

/-- The first bytes of a confirmation. -/
theorem joinFrame_rd (m : Msg) (a : Addr ADDRLEN) {i : Nat} (hi : i < 12) : (joinFrame m a).rd i =
    if 2 ≤ i then [0x00, 0x03, 0x00, 0xC0, 0x0E, 0xCD, 0x02, 0xFC, 0xFF, 0xFE].getD (i - 2) 0 else m.rd i := by
  have ha : a.1.length = 8 := a.2
  have h1 : ¬(2 + 18 ≤ i ∧ i < 2 + 18 + 2) := by omega
  have h2 : ¬(2 + 10 ≤ i ∧ i < 2 + 10 + 8) := by omega
  have h3 : (2 ≤ i ∧ i < 2 + 10) ↔ 2 ≤ i := by omega
  simp only [joinFrame, Msg.rd_wr, ha, List.length_cons, List.length_nil, Nat.zero_add, Nat.reduceAdd] at h1 h2 h3 ⊢
  simp only [h1, h2, h3, if_false]

/-- The bytes `EXCLUDEIEEE` stands for. -/
theorem hexbinary_excludeieee : hexbinary EXCLUDEIEEE =
    [0x00, 0x03, 0x00, 0xC0, 0x0D, 0xCE, 0x02, 0xFC, 0xFF, 0x00, 0x95, 0x02, 0x00, 0x0D, 0x00, 0xBC, 0x15, 0x00, 0x00, 0x00] := by
  decide

/-- The first bytes of an exclusion. -/
theorem excludeFrame_rd (m : Msg) (a : Addr ADDRLEN) {i : Nat} (h2 : 2 ≤ i) (hi : i < 12) : (excludeFrame m a).rd i =
    [0x00, 0x03, 0x00, 0xC0, 0x0D, 0xCE, 0x02, 0xFC, 0xFF, 0x00].getD (i - 2) 0 := by
  have ha : a.1.length = 8 := a.2
  have h1 : i ≠ 1 := by omega
  have h20 : i ≠ 20 := by omega
  have h12 : ¬(12 ≤ i ∧ i < 20) := by omega
  have h22 : 2 ≤ i ∧ i < 22 := by omega
  simp only [excludeFrame, Msg.rd_set, Msg.rd_wr, hexbinary_excludeieee, ha, List.length_cons, List.length_nil, Nat.zero_add,
    Nat.reduceAdd, h1, h20, h12, h22, if_false, and_self, if_true]
  obtain ⟨k, rfl⟩ := Nat.exists_eq_add_of_le h2
  rw [Nat.add_sub_cancel_left]
  have hk : k < 10 := by omega
  match k, hk with
  | 0, _ | 1, _ | 2, _ | 3, _ | 4, _ | 5, _ | 6, _ | 7, _ | 8, _ | 9, _ => rfl

/-- What a network list does: the table and the labels come from its entries, and the reply goes up. -/
theorem netlist_eq_some {t t' : Turn} (hc : t.z.netupdatemode = true ∧ t.dataPtr.rd 8 = 0x83) (h : netlist t = some t') :
    ∃ table buffer m, addEntries t.dataPtr netlistEntries (clearvpstable t.z.table, []) = some (table, buffer) ∧
      (t.dataPtr.wr 2 (ascii "netlist_done: ")).strcat 2 buffer = some m ∧
      t' = { t with
        dataPtr := (m.set 0 0).set 1 (UInt8.ofNat ((m.set 0 0).strlen 2))
        z := { t.z with table := table, netupdatemode := false }
        do_broadcast_to_serial := false
        do_broadcast_to_upperlayers := true } := by
  have h' := (if_pos hc).symm.trans h
  obtain ⟨⟨table, buffer⟩, hadd, h'⟩ := Option.bind_eq_some_iff.mp h'
  obtain ⟨m, hm, rfl⟩ := Option.map_eq_some_iff.mp h'
  exact ⟨table, buffer, m, hadd, hm, rfl⟩

/-- Where a reply to a network list starts, the frame's bytes are gone. -/
theorem netlist_rd8 {t t' : Turn} (h : netlist t = some t') (hc : t.z.netupdatemode = true ∧ t.dataPtr.rd 8 = 0x83) :
    t'.dataPtr.rd 8 = 0x74 := by
  obtain ⟨table, buffer, m, _, hm, rfl⟩ := netlist_eq_some hc h
  simp only [Msg.strcat, Option.ite_none_right_eq_some, Option.some.injEq] at hm
  obtain ⟨hfit, rfl⟩ := hm
  have hlen : (ascii "netlist_done: ").length = 14 := by decide
  -- the string that is lengthened has at least the fourteen characters just stored
  have hs : 14 ≤ (t.dataPtr.wr 2 (ascii "netlist_done: ")).strlen 2 := by
    have hmin : min 14 (DATASIZE - (t.dataPtr.off + 2)) ≤ (t.dataPtr.wr 2 (ascii "netlist_done: ")).strlen 2 := by
      refine le_strlen (Nat.min_le_right _ _) fun i hi => ?_
      have hne : ∀ j < 14, (ascii "netlist_done: ").getD j 0 ≠ 0 := by decide
      rw [Nat.add_assoc]
      change (t.dataPtr.wr 2 (ascii "netlist_done: ")).rd (2 + i) ≠ 0
      rw [Msg.rd_wr, if_pos (by omega), Nat.add_sub_cancel_left]
      exact hne i (by omega)
    simp only [Msg.off_wr, DATASIZE] at hfit hmin
    omega
  simp only [Msg.rd_set, Nat.reduceEqDiff, if_false]
  rw [Msg.rd_wr, if_neg (by omega), Msg.rd_wr, if_pos (by rw [hlen]; omega)]
  rfl

/-! ## The outcomes -/

section outcome

variable {t : Turn}

/-- After an admission no other branch applies. -/
theorem branches_after_join (a : Addr ADDRLEN) :
    ((joinDevice t a).bind fun t => (netlist (excludeConfirm t)).map fun t => descriptor (deviceData (dataFailed t))) = joinDevice t a ∧
    ((joinDevice t a).bind fun t => (joinAnnounced (announce (gatewayAddress t))).bind fun t =>
      (netlist (excludeConfirm t)).map fun t => descriptor (deviceData (dataFailed t))) = joinDevice t a := by
  unfold joinDevice
  cases vps_add t.z.table a with
  | none => exact ⟨rfl, rfl⟩
  | some p =>
    obtain ⟨newvps, table⟩ := p
    simp only [Option.map_some, Option.bind_some]
    have h3 : (joinFrame t.dataPtr (vps_vtoa table newvps)).rd 3 = 0x03 := joinFrame_rd _ _ (by decide)
    have h8 : (joinFrame t.dataPtr (vps_vtoa table newvps)).rd 8 = 0x02 := joinFrame_rd _ _ (by decide)
    refine ⟨last_skip h8 (by decide), ?_⟩
    rw [gatewayAddress_skip (by rw [h3]; decide), announce_skip (by rw [h8]; decide), joinAnnounced_skip (by rw [h8]; decide),
      Option.bind_some]
    exact last_skip h8 (by decide)

/-- A join in its first form is admitted, and nothing else. -/
theorem radio_joinShort (h : t.z.includemode = true ∧ t.dataPtr.rd 8 = 0xc1 ∧ t.dataPtr.rd 9 = 0x20 ∧ t.dataPtr.rd 10 = 0xf1) :
    radioBranches t = joinDevice t (t.dataPtr.addr (10 + 2) ADDRLEN) := by
  have hj : joinShort t = joinDevice t (t.dataPtr.addr (10 + 2) ADDRLEN) := if_pos h
  rw [radioBranches, hj]
  exact (branches_after_join _).2

/-- In include mode an announcement is a join. -/
theorem radio_joinAnnounced (hi : t.z.includemode = true) (h8 : t.dataPtr.rd 8 = 0x42) :
    radioBranches t = joinDevice (gatewayAddress t) (t.dataPtr.addr (2 + 15) ADDRLEN) := by
  have ha : announce (gatewayAddress t) = gatewayAddress t := by
    refine if_neg fun hc => ?_
    rw [gatewayAddress_includemode, hi] at hc
    exact absurd hc.1 (by decide)
  have hj : joinAnnounced (gatewayAddress t) = joinDevice (gatewayAddress t) (t.dataPtr.addr (2 + 15) ADDRLEN) := by
    rw [← gatewayAddress_dataPtr t]
    exact if_pos ⟨by rw [gatewayAddress_includemode, hi], by rw [gatewayAddress_dataPtr, h8]⟩
  rw [radioBranches, joinShort_skip (by rw [h8]; decide), Option.bind_some, ha, hj]
  exact (branches_after_join _).1

/-- Otherwise its network address is stored. -/
theorem radio_announce (hi : t.z.includemode = false) (h8 : t.dataPtr.rd 8 = 0x42) :
    radioBranches t = some (announce (gatewayAddress t)) := by
  have ha : announce (gatewayAddress t) = _ := if_pos (by simp [hi, h8])
  have hd : (announce (gatewayAddress t)).dataPtr = t.dataPtr := by rw [ha, gatewayAddress_dataPtr]
  have hz : (announce (gatewayAddress t)).z.includemode = false := by rw [ha, gatewayAddress_includemode, hi]
  have hj : joinAnnounced (announce (gatewayAddress t)) = some (announce (gatewayAddress t)) := by
    refine if_neg fun hc => ?_
    rw [hz] at hc
    exact absurd hc.1 (by decide)
  have hd8 : (announce (gatewayAddress t)).dataPtr.rd 8 = 0x42 := by rw [hd, h8]
  rw [radioBranches, joinShort_skip (by rw [h8]; decide), Option.bind_some, hj, Option.bind_some, last_skip hd8 (by decide)]

/-- A frame that is no join and has another command byte than `0x42` comes to the last five branches as it was. -/
theorem radio_last (hj : ¬(t.z.includemode = true ∧ t.dataPtr.rd 8 = 0xc1 ∧ t.dataPtr.rd 9 = 0x20 ∧ t.dataPtr.rd 10 = 0xf1))
    (h8 : t.dataPtr.rd 8 ≠ 0x42) : radioBranches t =
      (netlist (excludeConfirm (gatewayAddress t))).map fun t => descriptor (deviceData (dataFailed t)) := by
  have hs : joinShort t = some t := if_neg hj
  rw [radioBranches, hs, Option.bind_some, announce_skip (by rwa [gatewayAddress_dataPtr]),
    joinAnnounced_skip (by rwa [gatewayAddress_dataPtr]), Option.bind_some]

/-- In exclude mode a confirmation is answered, and nothing else. -/
theorem radio_excludeConfirm (h : t.z.excludemode = true ∧ t.dataPtr.rd 8 = 0x40 ∧ t.dataPtr.rd 9 = 0x02 ∧ t.dataPtr.rd 10 = 0x00) :
    radioBranches t = some (excludeConfirm (gatewayAddress t)) := by
  have hd : (excludeConfirm (gatewayAddress t)).dataPtr.rd 8 = 0x02 := by
    have hc : excludeConfirm (gatewayAddress t) = _ := if_pos (by simpa using h)
    rw [hc]
    exact excludeFrame_rd _ _ (by decide) (by decide)
  rw [radio_last (fun hc => by rw [h.2.1] at hc; exact absurd hc.2.1 (by decide)) (by rw [h.2.1]; decide),
    netlist_skip (by rw [hd]; decide), Option.map_some, upward_skip hd (by decide)]

/-- A network list that was asked for is read, and nothing else. -/
theorem radio_netlist (h : t.z.netupdatemode = true ∧ t.dataPtr.rd 8 = 0x83) :
    radioBranches t = netlist (gatewayAddress t) := by
  rw [radio_last (fun hc => by rw [h.2] at hc; exact absurd hc.2.1 (by decide)) (by rw [h.2]; decide),
    excludeConfirm_skip (by rw [gatewayAddress_dataPtr, h.2]; decide)]
  cases hn : netlist (gatewayAddress t) with
  | none => rfl
  | some t' =>
    have h8 := netlist_rd8 hn (by simpa using h)
    rw [Option.map_some, upward_skip h8 (by decide)]

/-- Any other frame is passed upwards, as the last three branches leave it. -/
theorem radio_upward (hj : ¬(t.z.includemode = true ∧ t.dataPtr.rd 8 = 0xc1 ∧ t.dataPtr.rd 9 = 0x20 ∧ t.dataPtr.rd 10 = 0xf1))
    (h8 : t.dataPtr.rd 8 ≠ 0x42)
    (hx : ¬(t.z.excludemode = true ∧ t.dataPtr.rd 8 = 0x40 ∧ t.dataPtr.rd 9 = 0x02 ∧ t.dataPtr.rd 10 = 0x00))
    (hn : ¬(t.z.netupdatemode = true ∧ t.dataPtr.rd 8 = 0x83)) :
    radioBranches t = some (descriptor (deviceData (dataFailed (gatewayAddress t)))) := by
  have h1 : excludeConfirm (gatewayAddress t) = gatewayAddress t := if_neg (by simpa using hx)
  have h2 : netlist (gatewayAddress t) = some (gatewayAddress t) := if_neg (by simpa using hn)
  rw [radio_last hj h8, h1, h2, Option.map_some]

end outcome

/-! ## The turn -/

/-- The locals with which the frame comes to the branches. -/
def radioTurn (z : ZigBee) (m : Msg) : Turn := ⟨z, (m.set 0 0x00).set 0 0x00, false, true, false⟩

/-- The branches see the frame as it came, but for its first byte. -/
theorem radioTurn_rd (z : ZigBee) (m : Msg) (i : Nat) : (radioTurn z m).dataPtr.rd (i + 1) = m.rd (i + 1) := by
  simp [radioTurn]

/-- A turn on a frame from the radio. -/
theorem zigBeeTask_in1 (z : ZigBee) (m : Msg) :
    ZigBeeTask z (In1, m) = (radioBranches (radioTurn z m)).map fun t => (t.z, handOff t) := rfl

/-- The state it leaves is that of the branches. -/
theorem step_in1_eq_some {z z' : ZigBee} {m : Msg} :
    z.step (In1, m) = some z' ↔ ∃ t, radioBranches (radioTurn z m) = some t ∧ t.z = z' := by
  rw [ZigBee.step, zigBeeTask_in1, Option.map_map, Option.map_eq_some_iff]
  rfl

end HomeBridge
