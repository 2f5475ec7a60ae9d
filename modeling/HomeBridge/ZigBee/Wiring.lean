import HomeBridge.Ihaplite.SessionManager
import HomeBridge.ZigBee.Data
import HomeBridge.ZigBee.Table

/-!
# The limits between the session manager and the ZigBee task

A port number is made in one place, checked in a second and routed in a third: the address table has slots up to `MAXVPS - 1`, the
session manager lets through what is not above `MAX_VPS`, its table has `MAX_VPS` entries, and `main` wires as many of its output
ports. The limits agree for every device but the one whose slot is `MAX_VPS`.
-/

namespace HomeBridge

open CMem Runs

/-! ## What a turn of the session manager reads and writes -/

/-- The entries of `session_table` the message part of a turn looks at. -/
def messageIndices : Option (Nat × Msg) → List Nat
  | some (InputID, m) => if (InputID = In1 ∨ InputID = In2) ∧ ¬m.vps > MAX_VPS then [m.vps] else []
  | none => []

/-- The entries a turn looks at; an alarm goes through all of them. -/
def sessionIndices (i : SessionInput) : List Nat := messageIndices i.msg ++ if i.alarm then List.range MAX_VPS else []

/-- Two tables that are the same on some entries. -/
def Agree (S : List Nat) (t t' : SessionTable) : Prop := ∀ v ∈ S, t v = t' v

section indices

variable {S : List Nat} {t t' : SessionTable}

/-- Tables that agree still do when one entry is set in both. -/
theorem Agree.update (h : Agree S t t') (v n : Nat) : Agree S (Function.update t v n) (Function.update t' v n) := by
  intro w hw
  by_cases hwv : w = v
  · subst hwv
    rw [Function.update_self, Function.update_self]
  · rw [Function.update_of_ne hwv, Function.update_of_ne hwv, h w hw]

/-- Where they agree on a port, its session expires in both or in neither. -/
theorem Agree.expire (h : Agree S t t') {v : Nat} (hv : v ∈ S) :
    (sessionExpire t v).2 = (sessionExpire t' v).2 ∧ Agree S (sessionExpire t v).1 (sessionExpire t' v).1 := by
  unfold sessionExpire
  rw [h v hv]
  split
  · exact ⟨rfl, h⟩
  · split
    · exact ⟨rfl, h.update _ _⟩
    · exact ⟨rfl, h.update _ _⟩

/-- The loop over entries that agree. -/
theorem Agree.expireAll : ∀ {vs : List Nat} {t t' : SessionTable}, Agree S t t' → (∀ v ∈ vs, v ∈ S) →
    trace sessionExpire t vs = trace sessionExpire t' vs ∧ Agree S (final sessionExpire t vs) (final sessionExpire t' vs) := by
  intro vs
  induction vs with
  | nil =>
    intro t t' h _
    exact ⟨rfl, h⟩
  | cons v vs ih =>
    intro t t' h hvs
    obtain ⟨he, ha⟩ := h.expire (hvs v (List.mem_cons_self ..))
    obtain ⟨hes, has⟩ := ih ha fun w hw => hvs w (List.mem_cons_of_mem _ hw)
    exact ⟨by rw [trace, trace, he, hes], has⟩

/-- A message does the same to both, if they agree on the entries it looks at. -/
theorem Agree.message (msg : Option (Nat × Msg)) (h : Agree S t t') (hS : ∀ v ∈ messageIndices msg, v ∈ S) :
    (sessionMessage t msg).2 = (sessionMessage t' msg).2 ∧ Agree S (sessionMessage t msg).1 (sessionMessage t' msg).1 := by
  cases msg with
  | none => exact ⟨rfl, h⟩
  | some p =>
    obtain ⟨InputID, m⟩ := p
    unfold sessionMessage
    by_cases h1 : InputID = In1
    · simp only [h1, if_true, sessionIn1]
      split
      · exact ⟨rfl, h⟩
      · split
        · exact ⟨rfl, h.update _ _⟩
        · exact ⟨rfl, h.update _ _⟩
    by_cases h2 : InputID = In2
    · subst h2
      simp only [h1, if_false, if_true, sessionIn2]
      split
      · exact ⟨rfl, h⟩
      · rename_i hgt
        have hm : m.vps ∈ messageIndices (some (In2, m)) := by
          rw [messageIndices, if_pos ⟨.inr rfl, hgt⟩]
          exact List.mem_singleton_self _
        rw [h m.vps (hS _ hm)]
        split
        · exact ⟨rfl, h.update _ _⟩
        · exact ⟨rfl, h⟩
    · simp only [h1, h2, if_false]
      exact ⟨trivial, h⟩

/-- So does an alarm, if they agree on all sessions. -/
theorem Agree.alarm (alarm : Bool) (h : Agree S t t') (hS : alarm = true → ∀ v ∈ List.range MAX_VPS, v ∈ S) :
    (sessionAlarm t alarm).2 = (sessionAlarm t' alarm).2 ∧ Agree S (sessionAlarm t alarm).1 (sessionAlarm t' alarm).1 := by
  cases alarm with
  | false =>
    rw [sessionAlarm_false, sessionAlarm_false]
    exact ⟨rfl, h⟩
  | true =>
    obtain ⟨he, ha⟩ := h.expireAll (hS rfl)
    simp only [sessionAlarm_true, he, true_and]
    exact ha

end indices

/-- The other entries do not matter: what a turn sends and stores is the same on tables that agree on the entries it looks at. -/
theorem turn_stable {i : SessionInput} {t t' : SessionTable} (h : Agree (sessionIndices i) t t') :
    (SessionManagerTask t i).2 = (SessionManagerTask t' i).2 ∧
      Agree (sessionIndices i) (SessionManagerTask t i).1 (SessionManagerTask t' i).1 := by
  obtain ⟨he, ha⟩ := h.message i.msg fun v hv => List.mem_append_left _ hv
  obtain ⟨hes, has⟩ := ha.alarm i.alarm fun hal v hv => List.mem_append_right _ (by rwa [hal])
  exact ⟨congrArg₂ (· ++ ·) he hes, has⟩

/-- Nor are they changed. -/
theorem turn_frame {i : SessionInput} {t : SessionTable} {v : Nat} (hv : v ∉ sessionIndices i) : (SessionManagerTask t i).1 v = t v := by
  have halarm : (SessionManagerTask t i).1 v = (sessionMessage t i.msg).1 v := by
    change (sessionAlarm (sessionMessage t i.msg).1 i.alarm).1 v = _
    cases hal : i.alarm with
    | false => rw [sessionAlarm_false]
    | true =>
      rw [sessionAlarm_true]
      exact final_sessionExpire_of_not_mem fun hm => hv (List.mem_append_right _ (by rwa [hal]))
  rw [halarm]
  have hmsg : v ∉ messageIndices i.msg := fun hm => hv (List.mem_append_left _ hm)
  have hout := sessionMessage_outcome t i.msg
  generalize i.msg = msg at hmsg hout ⊢
  have hne : ∀ {InputID m}, msg = some (InputID, m) → (InputID = In1 ∨ InputID = In2) → m.vps ≤ MAX_VPS → v ≠ m.vps := by
    rintro InputID m rfl hin hle he
    rw [messageIndices, if_pos ⟨hin, Nat.not_lt.mpr hle⟩] at hmsg
    exact hmsg (he ▸ List.mem_singleton_self _)
  cases hout with
  | opened hle _ he =>
    rw [he]
    exact Function.update_of_ne (hne rfl (.inl rfl) hle) ..
  | answered hle _ he =>
    rw [he]
    exact Function.update_of_ne (hne rfl (.inr rfl) hle) ..
  | idle he | refused _ _ he | closed _ _ he | other _ _ he => rw [he]

/-! ## Wired ports -/

/-- The cell of the routing table for an output port of a task was inserted by `main`. -/
def Wired (taskid outport : Nat) : Prop := (taskid, outport, route taskid outport) ∈ wiring

instance (taskid outport : Nat) : Decidable (Wired taskid outport) := by
  unfold Wired
  infer_instance

/-- The output port of the session manager for a virtual port is wired. -/
theorem wired_session_port {v : Nat} (h : v < MAX_VPS) : Wired SessionManagerTask_id (v + 2) := by
  have hall : (List.range MAX_VPS).all (fun v => decide (Wired SessionManagerTask_id (v + 2))) = true := by decide
  exact of_decide_eq_true (List.all_eq_true.mp hall v (List.mem_range.mpr h))

/-- Every entry the turn looks at is one of `session_table`, and every port it sends on is wired. -/
structure SafeTurn (t : SessionTable) (i : SessionInput) : Prop where
  indices : ∀ v ∈ sessionIndices i, v < MAX_VPS
  ports : ∀ outport m, .broadcast outport m ∈ (SessionManagerTask t i).2 → Wired SessionManagerTask_id outport

/-- A message as the senders that are wired to the session manager send them: an IP task its own virtual port, the ZigBee task a slot
of its table or 0. -/
def FromSenders (i : SessionInput) : Prop :=
  ∀ InputID m, i.msg = some (InputID, m) → InputID = In1 ∧ m.vps < MAX_VPS ∨ InputID = In2 ∧ m.vps < MAXVPS

/-- The port of the last device that has a slot up to `MAX_VPS`, which has no entry. -/
def FromLimit (i : SessionInput) : Prop := ∃ m, i.msg = some (In2, m) ∧ m.vps = MAX_VPS

/-- An alarm is answered at the ports of sessions. -/
theorem wired_sessionAlarm {t : SessionTable} {alarm : Bool} {outport : Nat} {m : Msg}
    (hmem : .broadcast outport m ∈ (sessionAlarm t alarm).2) : Wired SessionManagerTask_id outport := by
  rcases mem_sessionAlarm hmem with hmem | hmem | ⟨j, hj, hmem⟩
  · cases hmem
  · cases hmem
  · cases hmem
    exact wired_session_port hj

/-- And so is a message, if it names a session. -/
theorem wired_sessionMessage {t : SessionTable} {msg : Option (Nat × Msg)} {outport : Nat} {m : Msg}
    (hlt : ∀ InputID m, msg = some (InputID, m) → m.vps ≤ MAX_VPS → m.vps < MAX_VPS)
    (hmem : .broadcast outport m ∈ (sessionMessage t msg).2) : Wired SessionManagerTask_id outport := by
  cases sessionMessage_outcome t msg with
  | opened _ _ he =>
    rw [he] at hmem
    obtain ⟨rfl, _⟩ : outport = Out1 ∧ _ := by simpa using hmem
    decide
  | answered hle _ he =>
    rw [he] at hmem
    obtain ⟨rfl, _⟩ : outport = _ ∧ _ := by simpa using hmem
    exact wired_session_port (hlt _ _ rfl hle)
  | idle he | refused _ _ he | closed _ _ he | other _ _ he =>
    rw [he] at hmem
    simp at hmem

/-- A message that passes the test looks at an entry of the table, if its port is not `MAX_VPS` itself. -/
theorem messageIndices_lt {msg : Option (Nat × Msg)} (hlt : ∀ InputID m, msg = some (InputID, m) → m.vps ≤ MAX_VPS → m.vps < MAX_VPS) :
    ∀ v ∈ messageIndices msg, v < MAX_VPS := by
  intro v hv
  cases msg with
  | none => cases hv
  | some p =>
    rw [messageIndices] at hv
    split at hv
    · rename_i hc
      rw [List.mem_singleton.mp hv]
      exact hlt _ _ rfl (Nat.not_lt.mp hc.2)
    · cases hv

/-- The turn on what the senders send is safe unless it is from that port. -/
theorem safeTurn_iff_of_fromSenders {t : SessionTable} {i : SessionInput} (h : FromSenders i) : SafeTurn t i ↔ ¬FromLimit i := by
  constructor
  · rintro hs ⟨m, hm, hv⟩
    have hi : m.vps ∈ sessionIndices i := by
      rw [sessionIndices, hm, messageIndices, if_pos ⟨.inr rfl, by rw [hv]; exact Nat.lt_irrefl _⟩]
      exact List.mem_cons_self ..
    exact absurd (hs.indices _ hi) (by rw [hv]; exact Nat.lt_irrefl _)
  · intro hlimit
    have hlt : ∀ InputID m, i.msg = some (InputID, m) → m.vps ≤ MAX_VPS → m.vps < MAX_VPS := by
      intro InputID m hi hle
      refine Nat.lt_of_le_of_ne hle fun he => ?_
      rcases h InputID m hi with ⟨_, hm⟩ | ⟨rfl, _⟩
      · exact Nat.ne_of_lt hm he
      · exact hlimit ⟨m, hi, he⟩
    refine ⟨fun v hv => ?_, fun outport m hmem => ?_⟩
    · rcases List.mem_append.mp hv with hv | hv
      · exact messageIndices_lt hlt v hv
      · split at hv
        · exact List.mem_range.mp hv
        · cases hv
    · rcases List.mem_append.mp hmem with hmem | hmem
      · exact wired_sessionMessage hlt hmem
      · exact wired_sessionAlarm hmem

/-! ## What the ZigBee task sends -/

/-- What goes up does not go out on the serial stream as well, and carries a slot of the table or 0. -/
def Turn.Upward (t : Turn) : Prop :=
  t.do_broadcast_to_upperlayers = true → t.do_broadcast_to_serial = false ∧ t.dataPtr.vps < MAXVPS

/-- The port of a device is a slot of the table, or 0. -/
theorem vps_atov_lt (t : VpsTable) (addr : Addr ADDRLEN) : vps_atov t addr < MAXVPS := by
  rcases vps_atov_spec t addr with ⟨hu, _⟩ | ⟨h0, _⟩
  · exact hu.1.2
  · rw [h0]
    decide

/-- So is one found by its network address. -/
theorem vps_atov_nwk_lt (t : VpsTable) (addr : Addr ADDRLEN2) : vps_atov_nwk t addr < MAXVPS := by
  rcases vps_atov_nwk_spec t addr with ⟨hu, _⟩ | ⟨h0, _⟩
  · exact hu.1.2
  · rw [h0]
    decide

/-- A header with a slot of the table. -/
theorem vps_header {m : Msg} {v : Nat} (hv : v < MAXVPS) (len : UInt8) : ((m.set 0 (UInt8.ofNat v)).set 1 len).vps < MAXVPS := by
  simp only [MAXVPS] at hv ⊢
  simp only [Msg.vps, Msg.rd_set, Nat.zero_ne_one, if_false, if_true, UInt8.toNat_ofNat']
  omega

section upward

variable {t t' : Turn}

/-- A turn that sends nothing up is among them. -/
theorem upward_of_not_upper (h : t.do_broadcast_to_upperlayers = false) : t.Upward := fun hu => absurd (h.symm.trans hu) (by decide)

/-- A failure is reported under a slot of the table. -/
theorem Turn.Upward.dataFailed (h : t.Upward) : (dataFailed t).Upward := by
  rcases dataFailed_cases t with he | he
  · rwa [he]
  · rw [he]
    intro hu
    refine ⟨(h hu).1, ?_⟩
    have hlt := vps_header (m := t.dataPtr) (vps_atov_lt t.z.table (t.dataPtr.addr 10 ADDRLEN)) 11
    have hfar : ¬(2 ≤ 0 ∧ 0 < 2 + (ascii "DATA_FAILED" ++ [0]).length) := fun hc => absurd hc.1 (by decide)
    simpa only [Msg.vps, Msg.rd_wr, if_neg hfar] using hlt

/-- Data go up under one. -/
theorem Turn.Upward.deviceData (h : t.Upward) : (deviceData t).Upward := by
  rcases deviceData_cases t with he | he
  · rwa [he]
  · rw [he]
    exact fun hu => ⟨(h hu).1, vps_header (vps_atov_lt ..) _⟩

/-- So does a descriptor. -/
theorem Turn.Upward.descriptor (h : t.Upward) : (descriptor t).Upward := by
  rcases descriptor_cases t with he | he
  · rwa [he]
  · rw [he]
    exact fun hu => ⟨(h hu).1, vps_header (vps_atov_nwk_lt ..) _⟩

/-- A join is confirmed to the gateway only. -/
theorem joinDevice_upward {a : Addr ADDRLEN} (h : joinDevice t a = some t') : t'.Upward := by
  obtain ⟨⟨newvps, table⟩, _, rfl⟩ := Option.map_eq_some_iff.mp h
  exact upward_of_not_upper rfl

/-- A network list is answered on port 0. -/
theorem netlist_upward (hn : t.z.netupdatemode = true ∧ t.dataPtr.rd 8 = 0x83) (h : netlist t = some t') : t'.Upward := by
  obtain ⟨table, buffer, m, _, _, rfl⟩ := netlist_eq_some hn h
  exact fun _ => ⟨rfl, vps_header (by decide : 0 < MAXVPS) _⟩

/-- A frame from the radio has one outcome: a confirmation for the serial stream, nothing, or a message upwards. -/
theorem radioBranches_upward (ht : t.Upward) (h : radioBranches t = some t') : t'.Upward := by
  have hgate : (gatewayAddress t).Upward := by
    rcases gatewayAddress_cases t with hg | hg
    · rwa [hg]
    · rw [hg]
      exact upward_of_not_upper rfl
  cases radioBranches_outcome h with
  | join _ _ h => exact joinDevice_upward h
  | announce _ hi h8 =>
    rw [announce_taken hi h8]
    exact upward_of_not_upper rfl
  | excludeConfirm _ hx =>
    rw [excludeConfirm_taken hx]
    exact upward_of_not_upper rfl
  | netlist _ hn h => exact netlist_upward (by simpa using hn) h
  | upward => exact hgate.dataFailed.deviceData.descriptor

/-- What a message for a device is answered with goes up under its slot. -/
theorem deviceCommand_upward (ht : t.do_broadcast_to_upperlayers = false) (hv : t.dataPtr.vps < MAXVPS)
    (h : deviceCommand t = some t') : t'.Upward := by
  simp only [deviceCommand] at h
  repeat' split at h
  all_goals cases h
  -- only the answer to `GETUID_REQ` goes up
  case isFalse.isFalse.isTrue => exact fun _ => ⟨rfl, by simpa [Msg.vps, Msg.rd_wr] using hv⟩
  all_goals exact upward_of_not_upper ht

/-- A message from the upper layers is answered on the port it came on. -/
theorem serviceUpperLayers_upward (ht : t.do_broadcast_to_upperlayers = false) (h : serviceUpperLayers t = some t') : t'.Upward := by
  rcases serviceUpperLayers_cases h with ⟨_, rfl⟩ | ⟨⟨_, hlt⟩, ⟨_, h⟩ | ⟨_, rfl⟩⟩
  · exact upward_of_not_upper ((gatewayCommand_kept t).upper.trans ht)
  · exact deviceCommand_upward ht hlt h
  · exact fun _ => ⟨rfl, by simpa [invalidVps, Msg.vps] using hlt⟩

end upward

/-- The locals at the end of the loop, where the message is handed on. -/
def endOfTurn (z : ZigBee) (i : Nat × Msg) : Option Turn :=
  let t : Turn := { z := z, dataPtr := i.2, do_broadcast_to_serial := false, do_broadcast_to_upperlayers := false }
  if i.1 = In1 then messageFromRadio { t with dataPtr := t.dataPtr.set 0 0x00 }
  else if i.1 = In2 then serviceUpperLayers t
  else some t

theorem ZigBeeTask_eq (z : ZigBee) (i : Nat × Msg) : ZigBeeTask z i = (endOfTurn z i).map fun t => (t.z, handOff t) := rfl

/-- What a turn gives away is what its flags say at its end. -/
theorem ZigBeeTask_eq_some {z z' : ZigBee} {i : Nat × Msg} {outs : List ZigBeeOut} (h : ZigBeeTask z i = some (z', outs)) :
    ∃ t, endOfTurn z i = some t ∧ z' = t.z ∧ outs = handOff t := by
  obtain ⟨t, ht, he⟩ := Option.map_eq_some_iff.mp h
  cases he
  exact ⟨t, ht, rfl, rfl⟩

/-- What a turn is about, by the port of its message. -/
theorem endOfTurn_cases {z : ZigBee} {i : Nat × Msg} {t : Turn} (h : endOfTurn z i = some t) :
    i.1 = In1 ∧ radioBranches (radioTurn z i.2) = some t ∨
      i.1 = In2 ∧ serviceUpperLayers ⟨z, i.2, false, false, false⟩ = some t ∨
      (i.1 ≠ In1 ∧ i.1 ≠ In2) ∧ t = ⟨z, i.2, false, false, false⟩ := by
  by_cases h1 : i.1 = In1
  · exact .inl ⟨h1, (if_pos h1).symm.trans h⟩
  have h' := (if_neg h1).symm.trans h
  by_cases h2 : i.1 = In2
  · exact .inr (.inl ⟨h2, (if_pos h2).symm.trans h'⟩)
  · exact .inr (.inr ⟨⟨h1, h2⟩, (Option.some.inj ((if_neg h2).symm.trans h')).symm⟩)

/-- In every turn. -/
theorem endOfTurn_upward {z : ZigBee} {i : Nat × Msg} {t : Turn} (h : endOfTurn z i = some t) : t.Upward := by
  rcases endOfTurn_cases h with ⟨_, h⟩ | ⟨_, h⟩ | ⟨_, rfl⟩
  · exact radioBranches_upward (fun _ => ⟨rfl, by simp [radioTurn, Msg.vps]⟩) h
  · exact serviceUpperLayers_upward rfl h
  · exact upward_of_not_upper rfl

/-- The ports the task sends on are wired, and what it sends to the session manager carries a slot of its table or 0. -/
theorem zigBeeTask_outputs {z z' : ZigBee} {i : Nat × Msg} {outs : List ZigBeeOut} (h : ZigBeeTask z i = some (z', outs)) {outport : Nat}
    {m : Msg} (hm : .broadcast outport m ∈ outs) : Wired ZigBeeTask_id outport ∧ (outport = Out1 → m.vps < MAXVPS) := by
  obtain ⟨t, ht, _, rfl⟩ := ZigBeeTask_eq_some h
  rcases mem_handOff.mp hm with ⟨_, hm⟩ | ⟨_, hm⟩ | ⟨hu, hm⟩
  · cases hm
  · cases hm
    exact ⟨by decide, fun hc => absurd hc (by decide)⟩
  · cases hm
    obtain ⟨hs, hlt⟩ := endOfTurn_upward ht hu
    exact ⟨by decide, fun _ => by simpa [hs] using hlt⟩

/-! ## The limits -/

/-- For every message from the senders wired to it and every table, the session manager looks at its own entries only and sends on wired
ports only, exactly when the message is not one from the network for the slot `MAX_VPS`. The ZigBee task sends on wired ports only, and
what it sends to the session manager is a message from such a sender. -/
theorem safeTurn_iff {t : SessionTable} {i : SessionInput} (hi : FromSenders i) : (SafeTurn t i ↔ ¬FromLimit i) ∧
    ∀ z z' j outs outport m, ZigBeeTask z j = some (z', outs) → .broadcast outport m ∈ outs →
      Wired ZigBeeTask_id outport ∧ (outport = Out1 → FromSenders ⟨some (In2, m), i.alarm⟩) := by
  refine ⟨safeTurn_iff_of_fromSenders hi, fun z z' j outs outport m h hm => ?_⟩
  obtain ⟨hw, hv⟩ := zigBeeTask_outputs h hm
  refine ⟨hw, fun hout InputID m' hm' => ?_⟩
  cases hm'
  exact .inr ⟨rfl, hv hout⟩

/-- A request from the IP task of port 5. -/
theorem safeTurn_iff_port5 : FromSenders ⟨some (In1, message 5 (ascii "on")), true⟩ ∧
    SafeTurn noSession ⟨some (In1, message 5 (ascii "on")), true⟩ := by
  have h : FromSenders ⟨some (In1, message 5 (ascii "on")), true⟩ := by
    intro InputID m hm
    cases hm
    exact .inl ⟨rfl, by decide⟩
  refine ⟨h, (safeTurn_iff h).1.mpr ?_⟩
  rintro ⟨m, hm, _⟩
  cases hm

/-- Six devices join, one after the other. -/
def sixDevices : List (Nat × Msg) :=
  [1, 2, 3, 4, 5, 6].flatMap fun k => [(In2, message 0 (ascii "INCLUDE_REQ")),
    (In1, message 0xFF ([0x00, 0x03, 0x00, 0xC0, 0x13, 0x00, 0x42] ++ List.replicate 18 k))]

/-- Eight bytes of data from the sixth. -/
def sixthData : Msg :=
  message 0xFF ([0x00, 0x03, 0x00, 0xC0, 0x16, 0x00, 0x40, 0x01, 0x00, 0x00, 0x00, 0x00] ++ List.replicate 8 6 ++ [1, 2, 3, 4, 5, 6, 7, 8])

/-- The port a message is sent on and the virtual port it carries. -/
def ZigBeeOut.header : ZigBeeOut → Option (Nat × Nat)
  | .broadcast outport m => some (outport, m.vps)
  | .free _ => none

/-- They go to the session manager on port 6, and make it look behind its table. -/
theorem not_safeTurn : ¬∀ gw z z' outs m t alarm, Reachable ZigBee.step (ZigBee.start gw) z →
    ZigBeeTask z (In1, sixthData) = some (z', outs) → .broadcast Out1 m ∈ outs → SafeTurn t ⟨some (In2, m), alarm⟩ := by
  intro h
  have hrun : ((run ZigBee.step (ZigBee.start ⟨List.replicate 8 0, rfl⟩) sixDevices).bind fun z => ZigBeeTask z (In1, sixthData)).map
      (fun r => r.2.map ZigBeeOut.header) = some [some (Out1, MAX_VPS)] := by
    decide +kernel
  obtain ⟨⟨z', outs⟩, hz', hout⟩ := Option.map_eq_some_iff.mp hrun
  obtain ⟨z, hz, hz'⟩ := Option.bind_eq_some_iff.mp hz'
  obtain ⟨o, ho⟩ := List.length_eq_one_iff.mp (by simpa using congrArg List.length hout)
  simp only at ho hout
  rw [ho, List.map_singleton, List.singleton_inj] at hout
  cases o with
  | free m => cases hout
  | broadcast outport m =>
    obtain ⟨rfl, hv⟩ := Prod.mk.inj (Option.some.inj hout)
    have hs := h _ z z' outs m noSession false ⟨_, hz⟩ hz' (ho ▸ List.mem_singleton_self _)
    have hmem : m.vps ∈ sessionIndices ⟨some (In2, m), false⟩ := by
      rw [sessionIndices, messageIndices, if_pos ⟨.inr rfl, by rw [hv]; exact Nat.lt_irrefl _⟩]
      exact List.mem_cons_self ..
    exact absurd (hs.indices _ hmem) (by rw [hv]; exact Nat.lt_irrefl _)

end HomeBridge
