import HomeBridge.ZigBee.Data
import HomeBridge.ZigBee.Table

/-!
# The branches a frame enters

The radio section is a row of conditions on the same byte, the eighth, and what stands there changes as the branches before rewrite the
frame or move the pointer. Most of them leave a byte that no later condition asks for. The data branch does not: it moves the pointer
into the frame, and the last condition then reads a byte of the device's own data.
-/

namespace HomeBridge

open CMem Runs

/-- The branches of the radio section, in the order of the source. The two on a status are apart: one rewrites the frame, the other only
looks the device up. -/
inductive Branch where
  | joinShort
  | gatewayAddress
  | announce
  | joinAnnounced
  | excludeConfirm
  | netlist
  | dataFailed
  | dataDelivered
  | deviceData
  | descriptor
  deriving DecidableEq

namespace Branch

/-- The section. -/
def all : List Branch :=
  [joinShort, gatewayAddress, announce, joinAnnounced, excludeConfirm, netlist, dataFailed, dataDelivered, deviceData, descriptor]

/-- The command byte a branch stands for; the gateway's own announcement is told by other bytes. -/
def command : Branch → Option UInt8
  | joinShort => some 0xc1
  | gatewayAddress => none
  | announce => some 0x42
  | joinAnnounced => some 0x42
  | excludeConfirm => some 0x40
  | netlist => some 0x83
  | dataFailed => some 0x80
  | dataDelivered => some 0x80
  | deviceData => some 0x40
  | descriptor => some 0x81

/-- Its condition. -/
def Taken (t : Turn) : Branch → Prop
  | joinShort => t.z.includemode = true ∧ t.dataPtr.rd 8 = 0xc1 ∧ t.dataPtr.rd 9 = 0x20 ∧ t.dataPtr.rd 10 = 0xf1
  | gatewayAddress => t.dataPtr.rd 3 = 0x53 ∧ t.dataPtr.rd 4 = 0xc4 ∧ t.dataPtr.rd 5 = 0xc4 ∧ t.dataPtr.rd 6 = 0x08
  | announce => t.z.includemode = false ∧ t.dataPtr.rd 8 = 0x42
  | joinAnnounced => t.z.includemode = true ∧ t.dataPtr.rd 8 = 0x42
  | excludeConfirm => t.z.excludemode = true ∧ t.dataPtr.rd 8 = 0x40 ∧ t.dataPtr.rd 9 = 0x02 ∧ t.dataPtr.rd 10 = 0x00
  | netlist => t.z.netupdatemode = true ∧ t.dataPtr.rd 8 = 0x83
  | dataFailed => t.dataPtr.rd 8 = 0x80 ∧ t.dataPtr.rd 20 ≠ 0x00
  | dataDelivered => t.dataPtr.rd 8 = 0x80 ∧ t.dataPtr.rd 20 = 0x00
  | deviceData => t.dataPtr.rd 8 = 0x40 ∧ t.z.getdescmode = false
  | descriptor => t.dataPtr.rd 8 = 0x81

instance (t : Turn) (b : Branch) : Decidable (b.Taken t) := by
  cases b <;> unfold Taken <;> infer_instance

/-- What it does. -/
def run (t : Turn) : Branch → Option Turn
  | joinShort => HomeBridge.joinShort t
  | gatewayAddress => some (HomeBridge.gatewayAddress t)
  | announce => some (HomeBridge.announce t)
  | joinAnnounced => HomeBridge.joinAnnounced t
  | excludeConfirm => some (HomeBridge.excludeConfirm t)
  | netlist => HomeBridge.netlist t
  | dataFailed => some (HomeBridge.dataFailed t)
  | dataDelivered => some t
  | deviceData => some (HomeBridge.deviceData t)
  | descriptor => some (HomeBridge.descriptor t)

/-- Some branches one after the other: those that are entered, and what they leave, nothing where one has no result. -/
def follow : List Branch → Turn → List Branch × Option Turn
  | [], t => ([], some t)
  | b :: bs, t =>
    if b.Taken t then
      match b.run t with
      | some t' => (b :: (follow bs t').1, (follow bs t').2)
      | none => ([b], none)
    else follow bs t

section follow

variable {t : Turn} {b : Branch} {bs : List Branch}

/-- A branch that is not taken does nothing. -/
theorem run_of_not_taken (h : ¬b.Taken t) : b.run t = some t := by
  cases b with
  | joinShort => exact if_neg h
  | gatewayAddress => exact congrArg some (if_neg h)
  | announce => exact congrArg some (if_neg h)
  | joinAnnounced => exact if_neg h
  | excludeConfirm => exact congrArg some (if_neg h)
  | netlist => exact if_neg h
  | dataFailed => exact congrArg some (if_neg h)
  | dataDelivered => rfl
  | deviceData => exact congrArg some (if_neg h)
  | descriptor => exact congrArg some (if_neg h)

/-- What the branches leave is what they do one after the other. -/
theorem follow_snd : ∀ {t : Turn}, (follow bs t).2 = bs.foldlM (fun t b => b.run t) t := by
  induction bs with
  | nil =>
    intro t
    rfl
  | cons b bs ih =>
    intro t
    rw [follow, List.foldlM_cons]
    by_cases h : b.Taken t
    · rw [if_pos h]
      cases hr : b.run t with
      | none => rfl
      | some t' => exact ih
    · rw [if_neg h, run_of_not_taken h]
      exact ih

/-- The section leaves what the task's model of it leaves. -/
theorem follow_all : (follow all t).2 = radioBranches t := by
  rw [follow_snd]
  simp only [all, List.foldlM_cons, List.foldlM_nil, run, bind_pure]
  unfold radioBranches
  simp only [Option.bind_eq_bind, Option.bind_some, Option.map_eq_bind]
  rfl

theorem follow_of_not_taken (h : ¬b.Taken t) : follow (b :: bs) t = follow bs t := if_neg h

theorem follow_of_taken {t' : Turn} (h : b.Taken t) (hr : b.run t = some t') :
    follow (b :: bs) t = (b :: (follow bs t').1, (follow bs t').2) := by
  rw [follow, if_pos h, hr]

/-- Where none of the conditions holds nothing is done. -/
theorem follow_eq_nil : (∀ b ∈ bs, ¬b.Taken t) → follow bs t = ([], some t) := by
  induction bs with
  | nil =>
    intro _
    rfl
  | cons b bs ih =>
    intro h
    rw [follow_of_not_taken (h b (List.mem_cons_self ..))]
    exact ih fun b' hb' => h b' (List.mem_cons_of_mem _ hb')

/-- A branch is taken on its command byte only. -/
theorem Taken.rd8 {c : UInt8} (h : b.Taken t) (hc : b.command = some c) : t.dataPtr.rd 8 = c := by
  cases b <;> cases hc <;> simp only [Taken] at h <;> simp only [h]

/-- Branches for other command bytes are passed by. -/
theorem follow_quiet (h : ∀ b ∈ bs, b.command ≠ none ∧ b.command ≠ some (t.dataPtr.rd 8)) : follow bs t = ([], some t) := by
  refine follow_eq_nil fun b hb ht => ?_
  obtain ⟨c, hc⟩ := Option.ne_none_iff_exists'.mp (h b hb).1
  exact (h b hb).2 (by rw [hc, ht.rd8 hc])

end follow

/-! ## Which are entered -/

/-- Those of the branches that stand for a command byte. -/
def commands (bs : List Branch) : List Branch := bs.filter (fun b => b.command.isSome)

/-- The branches behind the gateway's own announcement. -/
def rest : List Branch := [announce, joinAnnounced, excludeConfirm, netlist, dataFailed, dataDelivered, deviceData, descriptor]

section commands

variable {t : Turn}

/-- The conditions of the others do not depend on what the gateway's announcement does. -/
theorem taken_gatewayAddress {b : Branch} (hb : b ∈ rest) : b.Taken (HomeBridge.gatewayAddress t) ↔ b.Taken t := by
  have hd : (HomeBridge.gatewayAddress t).z.getdescmode = t.z.getdescmode := by
    rcases gatewayAddress_cases t with h | h <;> rw [h]
  cases b <;> simp only [Taken, gatewayAddress_dataPtr, gatewayAddress_includemode, gatewayAddress_excludemode,
    gatewayAddress_netupdatemode, hd]

theorem commands_follow_gatewayAddress :
    commands (follow (gatewayAddress :: rest) t).1 = commands (follow rest (HomeBridge.gatewayAddress t)).1 := by
  by_cases h : gatewayAddress.Taken t
  · rw [follow_of_taken h rfl]
    rfl
  · have hg : HomeBridge.gatewayAddress t = t := if_neg h
    rw [follow_of_not_taken h, hg]

/-- After a join no condition holds. -/
theorem follow_after_join {a : Addr ADDRLEN} {t' : Turn} (h : joinDevice t a = some t') {bs : List Branch}
    (hbs : ∀ b ∈ bs, b = gatewayAddress ∨ b ∈ rest) : follow bs t' = ([], some t') := by
  obtain ⟨⟨newvps, table⟩, _, rfl⟩ := Option.map_eq_some_iff.mp h
  have h3 : (joinFrame t.dataPtr (vps_vtoa table newvps)).rd 3 = 0x03 := joinFrame_rd _ _ (by decide)
  have h8 : (joinFrame t.dataPtr (vps_vtoa table newvps)).rd 8 = 0x02 := joinFrame_rd _ _ (by decide)
  refine follow_eq_nil fun b hb ht => ?_
  rcases hbs b hb with rfl | hb
  · exact absurd (h3.symm.trans ht.1) (by decide)
  · have hc : ∀ b ∈ rest, b.command ≠ none ∧ b.command ≠ some 0x02 := by decide
    obtain ⟨c, hcmd⟩ := Option.ne_none_iff_exists'.mp (hc b hb).1
    exact (hc b hb).2 (by rw [hcmd, ← ht.rd8 hcmd]; exact congrArg some h8)

/-- A branch behind which nothing is entered. -/
theorem commands_cons {b : Branch} {bs : List Branch} (hc : b.command.isSome = true)
    (hq : ∀ t', b.Taken t → b.run t = some t' → follow bs t' = ([], some t')) :
    commands (follow (b :: bs) t).1 = if b.Taken t then [b] else commands (follow bs t).1 := by
  by_cases h : b.Taken t
  · rw [if_pos h]
    cases hr : b.run t with
    | none =>
      rw [follow, if_pos h, hr]
      simp [commands, hc]
    | some t' =>
      rw [follow_of_taken h hr, hq t' h hr]
      simp [commands, hc]
  · rw [if_neg h, follow_of_not_taken h]

/-- The branches that rewrite the frame leave a byte no later one asks for. -/
theorem joinShort_quiet (h : joinShort.Taken t) {t' : Turn} (hr : HomeBridge.joinShort t = some t') :
    follow (gatewayAddress :: rest) t' = ([], some t') := by
  have hj : HomeBridge.joinShort t = joinDevice t (t.dataPtr.addr (10 + 2) ADDRLEN) := if_pos h
  exact follow_after_join (hj.symm.trans hr) fun b hb => List.mem_cons.mp hb

theorem joinAnnounced_quiet (h : joinAnnounced.Taken t) {t' : Turn} (hr : HomeBridge.joinAnnounced t = some t') :
    follow [excludeConfirm, netlist, dataFailed, dataDelivered, deviceData, descriptor] t' = ([], some t') := by
  have hj : HomeBridge.joinAnnounced t = joinDevice t (t.dataPtr.addr (2 + 15) ADDRLEN) := if_pos h
  exact follow_after_join (hj.symm.trans hr) (by decide)

theorem announce_quiet (h : announce.Taken t) : follow [joinAnnounced, excludeConfirm, netlist, dataFailed, dataDelivered, deviceData,
    descriptor] (HomeBridge.announce t) = ([], some (HomeBridge.announce t)) := by
  have ha : HomeBridge.announce t = _ := if_pos h
  have hi : ¬joinAnnounced.Taken (HomeBridge.announce t) := by
    rw [ha]
    exact fun hj => absurd (h.1.symm.trans hj.1) (by decide)
  have h8 : (HomeBridge.announce t).dataPtr.rd 8 = 0x42 := by
    rw [ha]
    exact h.2
  rw [follow_of_not_taken hi]
  exact follow_quiet (by rw [h8]; decide)

theorem excludeConfirm_quiet (h : excludeConfirm.Taken t) : follow [netlist, dataFailed, dataDelivered, deviceData, descriptor]
    (HomeBridge.excludeConfirm t) = ([], some (HomeBridge.excludeConfirm t)) := by
  have h8 : (HomeBridge.excludeConfirm t).dataPtr.rd 8 = 0x02 := by
    have he : HomeBridge.excludeConfirm t = _ := if_pos h
    rw [he]
    exact excludeFrame_rd _ _ (by decide) (by decide)
  exact follow_quiet (by rw [h8]; decide)

theorem netlist_quiet (h : netlist.Taken t) {t' : Turn} (hr : HomeBridge.netlist t = some t') :
    follow [dataFailed, dataDelivered, deviceData, descriptor] t' = ([], some t') :=
  follow_quiet (by rw [netlist_rd8 hr h]; decide)

theorem dataFailed_quiet (h : dataFailed.Taken t) : follow [dataDelivered, deviceData, descriptor] (HomeBridge.dataFailed t) =
    ([], some (HomeBridge.dataFailed t)) := by
  have h8 : (HomeBridge.dataFailed t).dataPtr.rd 8 = 0x41 := by
    have hd : HomeBridge.dataFailed t = _ := if_pos h
    rw [hd, Msg.rd_wr, if_pos (by decide)]
    decide
  exact follow_quiet (by rw [h8]; decide)

theorem dataDelivered_quiet (h : dataDelivered.Taken t) : follow [deviceData, descriptor] t = ([], some t) :=
  follow_quiet (by rw [h.1]; decide)

/-- The data branch moves the pointer by twenty bytes, and the last branch is entered on the byte that stands there then. -/
theorem commands_deviceData (h : deviceData.Taken t) :
    commands (follow [deviceData, descriptor] t).1 = if t.dataPtr.rd 28 = 0x81 then [deviceData, descriptor] else [deviceData] := by
  have h8 : (HomeBridge.deviceData t).dataPtr.rd 8 = t.dataPtr.rd 28 := by
    have hd : HomeBridge.deviceData t = _ := if_pos h
    rw [hd, Msg.rd_set, if_neg (by decide), Msg.rd_set, if_neg (by decide), Msg.rd_adv]
  have hiff : descriptor.Taken (HomeBridge.deviceData t) ↔ t.dataPtr.rd 28 = 0x81 := by
    rw [← h8]
    rfl
  rw [follow_of_taken h rfl]
  by_cases h28 : t.dataPtr.rd 28 = 0x81
  · rw [if_pos h28, follow_of_taken (hiff.mpr h28) rfl]
    rfl
  · rw [if_neg h28, follow_of_not_taken fun hd => h28 (hiff.mp hd)]
    rfl

/-- The command branches a frame enters, by the frame and the state as they come to the section: the first whose condition holds, and
the last one as well behind the data branch when byte 28 is its command byte. -/
theorem commands_all : commands (follow all t).1 =
    if joinShort.Taken t then [joinShort]
    else if announce.Taken t then [announce]
    else if joinAnnounced.Taken t then [joinAnnounced]
    else if excludeConfirm.Taken t then [excludeConfirm]
    else if netlist.Taken t then [netlist]
    else if dataFailed.Taken t then [dataFailed]
    else if dataDelivered.Taken t then [dataDelivered]
    else if deviceData.Taken t then if t.dataPtr.rd 28 = 0x81 then [deviceData, descriptor] else [deviceData]
    else if descriptor.Taken t then [descriptor]
    else [] := by
  -- the conditions behind the gateway's announcement are those of the frame
  have hg : ∀ b ∈ rest, (b.Taken (HomeBridge.gatewayAddress t)) = b.Taken t := fun b hb => propext (taken_gatewayAddress hb)
  have hlast : commands (follow [deviceData, descriptor] (HomeBridge.gatewayAddress t)).1 =
      if deviceData.Taken t then if t.dataPtr.rd 28 = 0x81 then [deviceData, descriptor] else [deviceData]
      else if descriptor.Taken t then [descriptor] else [] := by
    by_cases h : deviceData.Taken t
    · rw [if_pos h, commands_deviceData ((taken_gatewayAddress (by decide)).mpr h), gatewayAddress_dataPtr]
    · rw [if_neg h, follow_of_not_taken fun hd => h ((taken_gatewayAddress (by decide)).mp hd),
        commands_cons rfl fun _ _ _ => rfl]
      simp only [hg descriptor (by decide)]
      rfl
  change commands (follow (joinShort :: gatewayAddress :: rest) t).1 = _
  rw [commands_cons rfl fun t' h hr => joinShort_quiet h hr]
  refine if_congr Iff.rfl rfl ?_
  rw [commands_follow_gatewayAddress, rest, commands_cons rfl fun t' h hr => Option.some.inj hr ▸ announce_quiet h,
    commands_cons rfl fun t' h hr => joinAnnounced_quiet h hr,
    commands_cons rfl fun t' h hr => Option.some.inj hr ▸ excludeConfirm_quiet h,
    commands_cons rfl fun t' h hr => netlist_quiet h hr,
    commands_cons rfl fun t' h hr => Option.some.inj hr ▸ dataFailed_quiet h,
    commands_cons rfl fun t' h hr => Option.some.inj hr ▸ dataDelivered_quiet h, hlast]
  simp only [hg announce (by decide), hg joinAnnounced (by decide), hg excludeConfirm (by decide), hg netlist (by decide),
    hg dataFailed (by decide), hg dataDelivered (by decide)]

end commands

end Branch

/-! ## One meaning for each frame -/

/-- The branches a frame from the radio enters. -/
def entered (z : ZigBee) (m : Msg) : List Branch := (Branch.follow Branch.all (radioTurn z m)).1

/-- A frame enters branches for its own command byte only, and one of them at most. -/
structure OneMeaning (z : ZigBee) (m : Msg) : Prop where
  command : ∀ b ∈ entered z m, ∀ c, b.command = some c → m.rd 8 = c
  single : (Branch.commands (entered z m)).length ≤ 1

/-- The data branch takes the frame. -/
def IsData (z : ZigBee) (m : Msg) : Prop :=
  m.rd 8 = 0x40 ∧ z.getdescmode = false ∧ ¬(z.excludemode = true ∧ m.rd 9 = 0x02 ∧ m.rd 10 = 0x00)

/-- It does, and the ninth byte of the data is the command byte of a descriptor. -/
def HidesDescriptor (z : ZigBee) (m : Msg) : Prop := IsData z m ∧ m.rd 28 = 0x81

section entered

variable {z : ZigBee} {m : Msg}

/-- The frame as it comes to the section, for the conditions. -/
theorem taken_radioTurn (b : Branch) : b.Taken (radioTurn z m) ↔ b.Taken ⟨z, m, false, true, false⟩ := by
  have hz : (radioTurn z m).z = z := rfl
  cases b <;> simp only [Branch.Taken, hz, radioTurn_rd z m 7, radioTurn_rd z m 8, radioTurn_rd z m 9, radioTurn_rd z m 19,
    radioTurn_rd z m 2, radioTurn_rd z m 3, radioTurn_rd z m 4, radioTurn_rd z m 5]

/-- The frame enters the data branch and the last one, the data branch alone, or one at most of the others. -/
theorem commands_entered : HidesDescriptor z m ∧ Branch.commands (entered z m) = [.deviceData, .descriptor] ∨
    (IsData z m ∧ ¬HidesDescriptor z m) ∧ Branch.commands (entered z m) = [.deviceData] ∨
    ¬IsData z m ∧ (m.rd 8 ≠ 0x81 ∧ Branch.commands (entered z m) = [] ∨
      ∃ b, b ≠ .deviceData ∧ b.Taken ⟨z, m, false, true, false⟩ ∧ Branch.commands (entered z m) = [b]) := by
  have h28 : (radioTurn z m).dataPtr.rd 28 = m.rd 28 := radioTurn_rd z m 27
  have hother : ∀ {b : Branch} {c : UInt8}, b.Taken ⟨z, m, false, true, false⟩ → b.command = some c → c ≠ 0x40 → ¬IsData z m :=
    fun ht hc hne hd => hne ((ht.rd8 hc).symm.trans hd.1)
  rw [entered, Branch.commands_all]
  simp only [taken_radioTurn, h28]
  by_cases h1 : Branch.joinShort.Taken ⟨z, m, false, true, false⟩
  · rw [if_pos h1]
    exact .inr (.inr ⟨hother h1 rfl (by decide), .inr ⟨_, by decide, h1, rfl⟩⟩)
  by_cases h2 : Branch.announce.Taken ⟨z, m, false, true, false⟩
  · rw [if_neg h1, if_pos h2]
    exact .inr (.inr ⟨hother h2 rfl (by decide), .inr ⟨_, by decide, h2, rfl⟩⟩)
  by_cases h3 : Branch.joinAnnounced.Taken ⟨z, m, false, true, false⟩
  · rw [if_neg h1, if_neg h2, if_pos h3]
    exact .inr (.inr ⟨hother h3 rfl (by decide), .inr ⟨_, by decide, h3, rfl⟩⟩)
  by_cases h4 : Branch.excludeConfirm.Taken ⟨z, m, false, true, false⟩
  · rw [if_neg h1, if_neg h2, if_neg h3, if_pos h4]
    exact .inr (.inr ⟨fun hd => hd.2.2 ⟨h4.1, h4.2.2⟩, .inr ⟨_, by decide, h4, rfl⟩⟩)
  by_cases h5 : Branch.netlist.Taken ⟨z, m, false, true, false⟩
  · rw [if_neg h1, if_neg h2, if_neg h3, if_neg h4, if_pos h5]
    exact .inr (.inr ⟨hother h5 rfl (by decide), .inr ⟨_, by decide, h5, rfl⟩⟩)
  by_cases h6 : Branch.dataFailed.Taken ⟨z, m, false, true, false⟩
  · rw [if_neg h1, if_neg h2, if_neg h3, if_neg h4, if_neg h5, if_pos h6]
    exact .inr (.inr ⟨hother h6 rfl (by decide), .inr ⟨_, by decide, h6, rfl⟩⟩)
  by_cases h7 : Branch.dataDelivered.Taken ⟨z, m, false, true, false⟩
  · rw [if_neg h1, if_neg h2, if_neg h3, if_neg h4, if_neg h5, if_neg h6, if_pos h7]
    exact .inr (.inr ⟨hother h7 rfl (by decide), .inr ⟨_, by decide, h7, rfl⟩⟩)
  rw [if_neg h1, if_neg h2, if_neg h3, if_neg h4, if_neg h5, if_neg h6, if_neg h7]
  by_cases h8 : Branch.deviceData.Taken ⟨z, m, false, true, false⟩
  · have hd : IsData z m := ⟨h8.1, h8.2, fun hx => h4 ⟨hx.1, h8.1, hx.2⟩⟩
    rw [if_pos h8]
    by_cases hb : m.rd 28 = 0x81
    · exact .inl ⟨⟨hd, hb⟩, if_pos hb⟩
    · exact .inr (.inl ⟨⟨hd, fun hh => hb hh.2⟩, if_neg hb⟩)
  have hd : ¬IsData z m := fun hd => h8 ⟨hd.1, hd.2.1⟩
  rw [if_neg h8]
  by_cases h9 : Branch.descriptor.Taken ⟨z, m, false, true, false⟩
  · rw [if_pos h9]
    exact .inr (.inr ⟨hd, .inr ⟨_, by decide, h9, rfl⟩⟩)
  · rw [if_neg h9]
    exact .inr (.inr ⟨hd, .inl ⟨h9, rfl⟩⟩)

/-- The branches that strip an envelope are entered by a data frame and by a descriptor. -/
theorem entered_stripping : (.deviceData ∈ entered z m ∨ .descriptor ∈ entered z m) ↔ IsData z m ∨ m.rd 8 = 0x81 := by
  have hmem : ∀ {b : Branch}, b.command.isSome = true → (b ∈ entered z m ↔ b ∈ Branch.commands (entered z m)) := fun hc =>
    ⟨fun hb => List.mem_filter.mpr ⟨hb, hc⟩, fun hb => (List.mem_filter.mp hb).1⟩
  rw [hmem rfl, hmem rfl]
  rcases commands_entered (z := z) (m := m) with ⟨hh, he⟩ | ⟨⟨hd, _⟩, he⟩ | ⟨hd, ⟨h81, he⟩ | ⟨b, hne, ht, he⟩⟩
  · rw [he]
    exact iff_of_true (by decide) (.inl hh.1)
  · rw [he]
    exact iff_of_true (by decide) (.inl hd)
  · rw [he]
    exact iff_of_false (by decide) fun h => h.elim hd h81
  · rw [he, List.mem_singleton, List.mem_singleton]
    constructor
    · rintro (h | rfl)
      · exact absurd h.symm hne
      · exact .inr ht
    · rintro (h | h81)
      · exact absurd h hd
      -- a branch that is taken on `0x81` is the last one
      · have hall : ∀ b : Branch, b.command ≠ none → b.command = some 0x81 → b = .descriptor := by
          intro b
          cases b <;> decide
        cases hc : b.command with
        | none =>
          cases b <;> cases hc
          rw [Branch.commands] at he
          have := List.mem_filter.mp (he ▸ List.mem_singleton_self Branch.gatewayAddress)
          exact absurd this.2 (by decide)
        | some c =>
          have hc81 : c = 0x81 := (ht.rd8 hc).symm.trans h81
          exact .inr (hall b (by rw [hc]; exact Option.some_ne_none c) (by rw [hc, hc81])).symm

/-- For every state and frame: it enters the branches of its own command byte, and one of them at most, exactly when it is not a data
frame with the command byte of a descriptor in its data. -/
theorem oneMeaning_iff_not_hidesDescriptor : OneMeaning z m ↔ ¬HidesDescriptor z m := by
  have hmem : ∀ {b : Branch} {c : UInt8}, b ∈ entered z m → b.command = some c → b ∈ Branch.commands (entered z m) :=
    fun hb hc => List.mem_filter.mpr ⟨hb, by rw [hc]; rfl⟩
  rcases commands_entered (z := z) (m := m) with ⟨hh, he⟩ | ⟨⟨hd, hh⟩, he⟩ | ⟨hd, ⟨_, he⟩ | ⟨b, _, ht, he⟩⟩
  · refine iff_of_false (fun h => ?_) (not_not_intro hh)
    have hs := h.single
    rw [he] at hs
    exact absurd hs (by decide)
  · refine iff_of_true ⟨fun b hb c hc => ?_, by rw [he]; decide⟩ hh
    have hb' := hmem hb hc
    rw [he, List.mem_singleton] at hb'
    subst hb'
    cases hc
    exact hd.1
  · refine iff_of_true ⟨fun b hb c hc => ?_, by rw [he]; decide⟩ fun hh => hd hh.1
    have hb' := hmem hb hc
    rw [he] at hb'
    exact absurd hb' List.not_mem_nil
  · refine iff_of_true ⟨fun b' hb c hc => ?_, by rw [he]; exact Nat.le_refl 1⟩ fun hh => hd hh.1
    have hb' := hmem hb hc
    rw [he, List.mem_singleton] at hb'
    subst hb'
    exact ht.rd8 hc

end entered

/-- For every run from the start: each frame from the radio enters the branches of its own command byte, and one of them at most,
exactly when none is a data frame with the command byte of a descriptor in its data. -/
theorem oneMeaning_iff (gwieeeaddr : Addr ADDRLEN) (is : List (Nat × Msg)) :
    AtEach ZigBee.step (fun z i => i.1 = In1 → OneMeaning z i.2) (ZigBee.start gwieeeaddr) is ↔
      AtEach ZigBee.step (fun z i => i.1 = In1 → ¬HidesDescriptor z i.2) (ZigBee.start gwieeeaddr) is :=
  atEach_congr (fun _ _ => imp_congr_right fun _ => oneMeaning_iff_not_hidesDescriptor) _ _

/-- Data whose ninth byte is `0x81`. -/
def hidingFrame : Msg :=
  message 0xFF ([0x00, 0x03, 0x00, 0xC0, 0x18, 0x00, 0x40] ++ List.replicate 19 0x07 ++ [0x81, 0x01, 0x02, 0x03])

/-- Nothing else has happened before. -/
theorem not_oneMeaning : ¬∀ gw is, AtEach ZigBee.step (fun z i => i.1 = In1 → OneMeaning z i.2) (ZigBee.start gw) is := by
  intro h
  let gw : Addr ADDRLEN := ⟨List.replicate 8 0, rfl⟩
  have hm := h gw [(In1, hidingFrame)] [] (In1, hidingFrame) [] (ZigBee.start gw) rfl rfl rfl
  have hx : ¬((ZigBee.start gw).excludemode = true ∧ hidingFrame.rd 9 = 0x02 ∧ hidingFrame.rd 10 = 0x00) := fun hx =>
    absurd hx.1 Bool.false_ne_true
  exact oneMeaning_iff_not_hidesDescriptor.mp hm ⟨⟨by decide, rfl, hx⟩, by decide⟩

end HomeBridge
