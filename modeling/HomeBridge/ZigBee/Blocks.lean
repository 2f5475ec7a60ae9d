import Mathlib.Data.List.Perm.Basic
import HomeBridge.ZigBee.Frames
import HomeBridge.ZigBee.HandOff
import HomeBridge.ZigBee.StreamReceiver
import HomeBridge.Ihaplite.IPTask

/-!
# Where a message is freed

A message is a block that one task allocates, others pass on, and the last one frees. Three of them strip a header by
moving the pointer: the keyword `0TIME`, the envelope of device data, that of a descriptor. The task that frees is
handed the moved pointer. Nobody frees a block twice, as long as no task takes the message it has handled for a new one.
-/

namespace HomeBridge

open CMem Runs

/-- A pointer to a message: the allocation it points into, and where. -/
structure Ptr where
  block : Nat
  msg : Msg

/-- The tasks, `sslegacymode` and what the receiver's call at the serial stream was made with, how many blocks were allocated, the
pointers under way with their receivers and input ports, what each task has read last, and what was freed: the block, and where the
pointer stood. -/
structure Blocks where
  z : ZigBee
  session_table : SessionTable
  sslegacymode : Bool
  calling : Option Bool
  allocated : Nat
  transit : List (Nat × Nat × Ptr)
  holder : Nat → Option (Nat × Ptr)
  freed : List (Nat × Nat)

/-- The steps: a client's request at an IP task, the receiver's call at the serial stream and the frame from the radio it returns with,
the delivery of a message under way, the alarm of the session manager, and a return from `receive` without a message, which finds the
last one, whatever its block holds by now. -/
inductive BlockAct where
  | request (VPS : UInt8) (stream : List UInt8) (closed : Bool)
  | call
  | frame (bytes : List UInt8)
  | deliver (k : Nat)
  | alarm
  | wake (T : Nat) (mem : Mem)

/-- A frame as the receiver hands it on: without `sslegacymode` it has no length byte. -/
def receivedFrame (sslegacymode : Bool) (bytes : List UInt8) : Msg := receiverBuffer sslegacymode ⟨bytes.length, [(0, bytes)], []⟩

theorem receivedFrame_off (sslegacymode : Bool) (bytes : List UInt8) : (receivedFrame sslegacymode bytes).off = 0 := by
  cases sslegacymode with
  | true => rfl
  | false => rfl

/-- What the session manager gives away. -/
def SessionEvent.out : SessionEvent → Option ZigBeeOut
  | .broadcast outport m => some (.broadcast outport m)
  | .free m => some (.free m)
  | _ => none

namespace Blocks

def start (gwieeeaddr : Addr ADDRLEN) : Blocks := ⟨.start gwieeeaddr, noSession, true, none, 0, [], fun _ => none, []⟩

/-- A task gives a pointer into a block away: to the task its output port is wired to, or to the allocator. -/
def give (T block : Nat) (s : Blocks) : ZigBeeOut → Blocks
  | .broadcast outport m => { s with transit := s.transit ++ [((route T outport).1, (route T outport).2, ⟨block, m⟩)] }
  | .free m => { s with freed := s.freed ++ [(block, m.off)] }

/-- It gives away a block of its own. -/
def giveNew (T : Nat) (s : Blocks) (o : ZigBeeOut) : Blocks := { s.give T s.allocated o with allocated := s.allocated + 1 }

/-- A task's turn with a message. The sender at the serial stream sets the mode by the first byte, and an IP task writes the reply to its
client, and keeps the block. -/
def turn (s : Blocks) (T InputID : Nat) (p : Ptr) : Option Blocks :=
  if T = SessionManagerTask_id then
    let r := sessionMessage s.session_table (some (InputID, p.msg))
    some ((r.2.filterMap SessionEvent.out).foldl (give T p.block) { s with session_table := r.1 })
  else if T = ZigBeeTask_id then
    (ZigBeeTask s.z (InputID, p.msg)).map fun r => r.2.foldl (give T p.block) { s with z := r.1 }
  else if T = IpStreamSenderTask_id then
    some (give T p.block { s with sslegacymode := decide (p.msg.rd 0 = 0xff) } (.free p.msg))
  else some s

/-- One step. The two tasks at the serial stream do not ask whether `receive` has returned with a message. -/
def step (s : Blocks) : BlockAct → Option Blocks
  | .request VPS stream closed =>
    if VPS.toNat < MAX_VPS then
      some ((IPTask VPS stream closed).elim s fun m => s.giveNew (IPTask_id VPS.toNat) (.broadcast Out1 m))
    else none
  | .call => if s.calling = none then some { s with calling := some s.sslegacymode } else none
  | .frame bytes => s.calling.bind fun sslegacymode =>
    if bytes.length + 2 ≤ DATASIZE then
      some (giveNew IpStreamReceiverTask_id { s with calling := none } (.broadcast Out1 (receivedFrame sslegacymode bytes)))
    else none
  | .deliver k =>
    s.transit[k]?.bind fun (T, InputID, p) =>
      turn { s with transit := s.transit.eraseIdx k, holder := Function.update s.holder T (some (InputID, p)) } T InputID p
  | .alarm =>
    let r := sessionAlarm s.session_table true
    some ((r.2.filterMap SessionEvent.out).foldl (giveNew SessionManagerTask_id) { s with session_table := r.1 })
  | .wake T mem =>
    if T = ZigBeeTask_id ∨ T = IpStreamSenderTask_id then
      (s.holder T).bind fun (InputID, p) => s.turn T InputID { p with msg := { p.msg with mem := mem } }
    else some s

/-- What comes of a line on a port: an IP task makes a message of it, or none. -/
theorem request_cases {s s' : Blocks} {VPS : UInt8} {stream : List UInt8} {closed : Bool}
    (h : s.step (.request VPS stream closed) = some s') : VPS.toNat < MAX_VPS ∧ (s' = s ∨
      ∃ m, IPTask VPS stream closed = some m ∧ s' = s.giveNew (IPTask_id VPS.toNat) (.broadcast Out1 m)) := by
  simp only [Blocks.step, Option.ite_none_right_eq_some, Option.some.injEq] at h
  obtain ⟨hv, rfl⟩ := h
  refine ⟨hv, ?_⟩
  cases IPTask VPS stream closed with
  | none => exact .inl rfl
  | some m => exact .inr ⟨m, rfl, rfl⟩

/-- What comes of a turn: the receiver is the session manager, the ZigBee task, the task at the serial stream, or an IP task. -/
theorem turn_cases {s s' : Blocks} {T InputID : Nat} {p : Ptr} (h : s.turn T InputID p = some s') :
    (T = SessionManagerTask_id ∧ s' = ((sessionMessage s.session_table (some (InputID, p.msg))).2.filterMap SessionEvent.out).foldl
        (give T p.block) { s with session_table := (sessionMessage s.session_table (some (InputID, p.msg))).1 }) ∨
      (T = ZigBeeTask_id ∧ ∃ z' outs, ZigBeeTask s.z (InputID, p.msg) = some (z', outs) ∧
        s' = outs.foldl (give T p.block) { s with z := z' }) ∨
      (T = IpStreamSenderTask_id ∧ s' = give T p.block { s with sslegacymode := decide (p.msg.rd 0 = 0xff) } (.free p.msg)) ∨
      (T ≠ SessionManagerTask_id ∧ T ≠ ZigBeeTask_id ∧ T ≠ IpStreamSenderTask_id) ∧ s' = s := by
  unfold turn at h
  by_cases hS : T = SessionManagerTask_id
  · rw [if_pos hS, Option.some.injEq] at h
    exact .inl ⟨hS, h.symm⟩
  rw [if_neg hS] at h
  by_cases hZ : T = ZigBeeTask_id
  · rw [if_pos hZ] at h
    obtain ⟨⟨z', outs⟩, hz, rfl⟩ := Option.map_eq_some_iff.mp h
    exact .inr (.inl ⟨hZ, z', outs, hz, rfl⟩)
  rw [if_neg hZ] at h
  by_cases hI : T = IpStreamSenderTask_id
  · rw [if_pos hI, Option.some.injEq] at h
    exact .inr (.inr (.inl ⟨hI, h.symm⟩))
  · rw [if_neg hI, Option.some.injEq] at h
    exact .inr (.inr (.inr ⟨⟨hS, hZ, hI⟩, h.symm⟩))

/-- What comes of the receiver's return: a frame that fits is handed on, in the form the call was made with. -/
theorem frame_cases {s s' : Blocks} {bytes : List UInt8} (h : s.step (.frame bytes) = some s') :
    ∃ sslegacymode, s.calling = some sslegacymode ∧ bytes.length + 2 ≤ DATASIZE ∧
      s' = giveNew IpStreamReceiverTask_id { s with calling := none } (.broadcast Out1 (receivedFrame sslegacymode bytes)) := by
  obtain ⟨sslegacymode, hcalling, h⟩ := Option.bind_eq_some_iff.mp h
  rw [Option.ite_none_right_eq_some, Option.some.injEq] at h
  exact ⟨sslegacymode, hcalling, h.1, h.2.symm⟩

/-- Every block that was freed was freed where it starts, and once. -/
structure FreedAtBase (s : Blocks) : Prop where
  base : ∀ f ∈ s.freed, f.2 = 0
  once : (s.freed.map Prod.fst).Nodup

end Blocks

/-! ## When it is -/

/-- A command or a message for a device that the task answers at once or drops: the block does not reach the sender, nor
is it given back. -/
def StaysInside (z : ZigBee) (m : Msg) : Prop :=
  if m.vps = 0 then m.isAt ((ascii "XADDSTOP_REQ").take 11) 2 = true ∨ m.isAt (ascii "GETDESC_REQ") 2 = true
  else check_valid_vps z.table m.vps = false ∨ m.isAt (ascii "XCLUDE_REQ") 2 = false ∧
      m.isAt (ascii "GETDESC_REQ") 2 = false ∧
    m.isAt (ascii "GETUID_REQ") 2 = true

/-- The slot a frame from the radio is attributed to where its envelope is stripped. -/
def strippedSlot (z : ZigBee) (m : Msg) : Option Nat :=
  if (m.rd 8 = 0x40 ∧ z.getdescmode = false) ∧ ¬(z.excludemode = true ∧ m.rd 9 = 0x02 ∧ m.rd 10 = 0x00) then
    some (if m.rd 28 = 0x81 then vps_atov_nwk z.table (m.addr 31 ADDRLEN2) else vps_atov z.table (m.addr 14 ADDRLEN))
  else if m.rd 8 = 0x81 then some (vps_atov_nwk z.table (m.addr 11 ADDRLEN2))
  else none

/-- The session manager does not refuse the message: its slot is not above `MAX_VPS`. -/
def AcceptedFrame (z : ZigBee) (m : Msg) : Prop := GatewayBytes m ∨ ∀ v ∈ strippedSlot z m, v ≤ MAX_VPS

instance (z : ZigBee) (m : Msg) : Decidable (StaysInside z m) := by unfold StaysInside; infer_instance

instance (z : ZigBee) (m : Msg) : Decidable (AcceptedFrame z m) := by unfold AcceptedFrame GatewayBytes; infer_instance

namespace Blocks

/-- The message delivered is none whose block is freed where the pointer has been moved to: a request whose keyword was
stripped is answered or dropped by the ZigBee task, a frame whose envelope it strips is accepted. -/
def DeliveryKeeps (z : ZigBee) (e : Nat × Nat × Ptr) : Prop :=
  e.1 = ZigBeeTask_id → if e.2.1 = In1 then AcceptedFrame z e.2.2.msg else e.2.2.msg.off = 0 ∨ StaysInside z e.2.2.msg

instance (z : ZigBee) (e : Nat × Nat × Ptr) : Decidable (DeliveryKeeps z e) := by unfold DeliveryKeeps; infer_instance

/-- And no task at the serial stream takes an old message for a new one. -/
def KeepsBase (s : Blocks) : BlockAct → Prop
  | .deliver k => ∀ e ∈ s.transit[k]?, DeliveryKeeps s.z e
  | .wake T _ => T ≠ ZigBeeTask_id ∧ T ≠ IpStreamSenderTask_id
  | _ => True

instance (s : Blocks) (a : BlockAct) : Decidable (s.KeepsBase a) := by
  cases a <;> unfold KeepsBase <;> infer_instance

end Blocks

/-! ## Where a turn of the ZigBee task leaves the pointer -/

/-- At the end of the loop: a message that goes out and a block that is given back start where the block does, and so
does what goes up, unless the session manager accepts it. -/
structure Turn.Ends (t : Turn) : Prop where
  serial : t.do_broadcast_to_serial = true → t.dataPtr.off = 0
  upper : t.do_broadcast_to_upperlayers = true → t.dataPtr.off = 0 ∨ t.dataPtr.vps ≤ MAX_VPS
  freed : t.freed = true → t.dataPtr.off = 0

section ends

variable {z : ZigBee} {m : Msg} {t t' : Turn}

theorem ends_of_off (h : t.dataPtr.off = 0) : t.Ends := ⟨fun _ => h, fun _ => .inl h, fun _ => h⟩

/-- A message that only goes up, to an accepted slot. -/
theorem ends_of_vps (hs : t.do_broadcast_to_serial = false) (hf : t.freed = false) (hv : t.dataPtr.vps ≤ MAX_VPS) :
    t.Ends := by
  refine ⟨fun h => ?_, fun _ => .inr hv, fun h => ?_⟩
  · rw [hs] at h
    cases h
  · rw [hf] at h
    cases h

theorem addr_set (m : Msg) {i a n : Nat} (b : UInt8) (h : i < a) : (m.set i b).addr a n = m.addr a n :=
  Subtype.ext (m.bytes_set_disjoint b (.inr h))

theorem addr_adv (m : Msg) (k a n : Nat) : (m.adv k).addr a n = m.addr (k + a) n :=
  Subtype.ext (Msg.bytes_congr fun j _ => by rw [Msg.rd_adv, Nat.add_assoc])

/-- The descriptor branch, taken: it strips nine bytes, and attributes the message to a slot. -/
theorem descriptor_taken (h : t.dataPtr.rd 8 = 0x81) : (descriptor t).do_broadcast_to_serial = t.do_broadcast_to_serial ∧
    (descriptor t).freed = t.freed ∧ (descriptor t).dataPtr.vps = vps_atov_nwk t.z.table (t.dataPtr.addr 11 ADDRLEN2) := by
  have he : descriptor t = _ := if_pos h
  rw [he]
  exact ⟨rfl, rfl, vps_set_ofNat (vps_atov_nwk_lt ..) _⟩

/-- A frame that is passed upwards. -/
theorem upward_ends (hz : t.do_broadcast_to_serial = false) (hf : t.freed = false) (hoff : t.dataPtr.off = 0)
    (hx : ¬(t.z.excludemode = true ∧ t.dataPtr.rd 8 = 0x40 ∧ t.dataPtr.rd 9 = 0x02 ∧ t.dataPtr.rd 10 = 0x00))
    (hslot : ∀ v ∈ strippedSlot t.z t.dataPtr, v ≤ MAX_VPS) : (descriptor (deviceData (dataFailed t))).Ends := by
  by_cases h40 : t.dataPtr.rd 8 = 0x40
  · rw [dataFailed_skip (by rw [h40]; decide)]
    by_cases hd : t.z.getdescmode = false
    · have hdata : deviceData t = _ := if_pos ⟨h40, hd⟩
      have hs : strippedSlot t.z t.dataPtr = some _ := if_pos ⟨⟨h40, hd⟩, fun hc => hx ⟨hc.1, h40, hc.2⟩⟩
      have hv := hslot _ hs
      have h28 : (deviceData t).dataPtr.rd 8 = t.dataPtr.rd 28 := by
        rw [hdata]
        simp
      by_cases h81 : t.dataPtr.rd 28 = 0x81
      · obtain ⟨h1, h2, h3⟩ := descriptor_taken (h28.trans h81)
        rw [if_pos h81] at hv
        refine ends_of_vps ?_ ?_ ?_
        · rw [h1, hdata, hz]
        · rw [h2, hdata, hf]
        · have ha : (deviceData t).dataPtr.addr 11 ADDRLEN2 = t.dataPtr.addr 31 ADDRLEN2 := by
            rw [hdata]
            simp only [addr_set _ _ (show 1 < 11 by decide), addr_set _ _ (show 0 < 11 by decide), addr_adv]
          rw [h3, ha, hdata]
          exact hv
      · rw [descriptor_skip (by rwa [h28]), hdata]
        rw [if_neg h81] at hv
        exact ends_of_vps hz hf (by rwa [vps_set_ofNat (vps_atov_lt ..)])
    · rw [deviceData, if_neg fun hc => hd hc.2, descriptor_skip (by rw [h40]; decide)]
      exact ends_of_off hoff
  by_cases h81 : t.dataPtr.rd 8 = 0x81
  · rw [dataFailed_skip (by rw [h81]; decide), deviceData_skip h40]
    obtain ⟨h1, h2, h3⟩ := descriptor_taken h81
    have hs : strippedSlot t.z t.dataPtr = some _ := (if_neg fun hc => h40 hc.1.1).trans (if_pos h81)
    refine ends_of_vps (h1.trans hz) (h2.trans hf) ?_
    rw [h3]
    exact hslot _ hs
  · -- a report of a failure has an `A` where the command byte was
    have h8 : (dataFailed t).dataPtr.rd 8 ≠ 0x40 ∧ (dataFailed t).dataPtr.rd 8 ≠ 0x81 ∧ (dataFailed t).dataPtr.off = 0 := by
      rcases dataFailed_cases t with he | he
      · rw [he]
        exact ⟨h40, h81, hoff⟩
      · rw [he]
        have hA : (((t.dataPtr.set 0 (UInt8.ofNat (vps_atov t.z.table (t.dataPtr.addr 10 ADDRLEN)))).set 1 11).wr 2
            (ascii "DATA_FAILED" ++ [0])).rd 8 = 0x41 := by
          rw [Msg.rd_wr, if_pos (by decide)]
          rfl
        exact ⟨by rw [hA]; decide, by rw [hA]; decide, hoff⟩
    rw [deviceData_skip h8.1, descriptor_skip h8.2.1]
    exact ends_of_off h8.2.2

theorem strippedSlot_radioTurn (z : ZigBee) (m : Msg) :
    strippedSlot (radioTurn z m).z (radioTurn z m).dataPtr = strippedSlot z m := by
  have hz : (radioTurn z m).z = z := rfl
  have ha : ∀ k n, (radioTurn z m).dataPtr.addr (k + 1) n = m.addr (k + 1) n := fun k n => by simp [radioTurn]
  simp only [strippedSlot, hz, radioTurn_rd z m 7, radioTurn_rd z m 8, radioTurn_rd z m 9, radioTurn_rd z m 27,
    ha 30, ha 13, ha 10]

/-- A frame from the radio that is accepted. -/
theorem radioBranches_ends (hoff : m.off = 0) (hacc : AcceptedFrame z m) (h : radioBranches (radioTurn z m) = some t') :
    t'.Ends := by
  have hgoff : (gatewayAddress (radioTurn z m)).dataPtr.off = 0 := by rw [gatewayAddress_dataPtr]; exact hoff
  cases radioBranches_outcome h with
  | join h₀ _ h =>
    refine ends_of_off ((joinDevice_kept h).1.trans ?_)
    rcases h₀ with rfl | rfl
    · exact hoff
    · exact hgoff
  | announce _ hi h8 =>
    rw [announce_taken hi h8]
    exact ends_of_off hgoff
  | excludeConfirm _ hx =>
    rw [excludeConfirm_taken hx]
    exact ends_of_off hoff
  | netlist _ hn h => exact ends_of_off ((netlist_kept (by simpa using hn) h).1.trans hgoff)
  | upward _ _ hx _ =>
    by_cases hg : GatewayBytes m
    · -- the branch that stores the gateway's address has cleared both flags
      have hgate : gatewayAddress (radioTurn z m) = _ := if_pos ((gatewayBytes_radioTurn z m).mpr hg)
      obtain ⟨m', b, he⟩ := upward_frame (gatewayAddress (radioTurn z m))
      rw [he, hgate]
      exact ⟨nofun, nofun, nofun⟩
    · rw [gatewayAddress_other hg]
      exact upward_ends rfl rfl hoff hx (by rw [strippedSlot_radioTurn]; exact hacc.resolve_left hg)

/-- A command on port 0 that sends nothing out and keeps its block. -/
theorem gatewayCommand_quiet (hf : t.freed = false)
    (h : t.dataPtr.isAt ((ascii "XADDSTOP_REQ").take 11) 2 = true ∨ t.dataPtr.isAt (ascii "GETDESC_REQ") 2 = true) :
    (gatewayCommand t).do_broadcast_to_serial = false ∧ (gatewayCommand t).freed = false := by
  have hother : ∀ {kw}, t.dataPtr.isAt kw 2 = true → ¬(t.dataPtr.isAt ((ascii "XADDSTOP_REQ").take 11) 2 = false ∧
      t.dataPtr.isAt (ascii "GETDESC_REQ") 2 = false) := by
    rintro _ _ ⟨h1, h2⟩
    rcases h with h | h
    · exact absurd (h.symm.trans h1) (by decide)
    · exact absurd (h.symm.trans h2) (by decide)
  have ho := gatewayCommand_outcome t
  generalize gatewayCommand t = t' at ho
  cases ho with
  | netlistReq hk =>
    exact absurd ⟨Msg.isAt_eq_false_of_isAt hk 0 (by decide) (by decide) (by decide),
      Msg.isAt_eq_false_of_isAt hk 0 (by decide) (by decide) (by decide)⟩ (hother hk)
  | includeReq hk =>
    exact absurd ⟨Msg.isAt_eq_false_of_isAt hk 0 (by decide) (by decide) (by decide),
      Msg.isAt_eq_false_of_isAt hk 0 (by decide) (by decide) (by decide)⟩ (hother hk)
  | xaddstopReq hk =>
    rw [xaddstopReq, if_pos hk]
    exact ⟨rfl, hf⟩
  | getdescReq hk =>
    rw [getdescReq, if_pos hk]
    exact ⟨rfl, hf⟩
  | xcludeReq hk =>
    exact absurd ⟨Msg.isAt_eq_false_of_isAt hk 1 (by decide) (by decide) (by decide),
      Msg.isAt_eq_false_of_isAt hk 0 (by decide) (by decide) (by decide)⟩ (hother hk)
  | unrecognised _ _ h₂ h₃ _ =>
    rcases h with h | h
    · exact absurd (h.symm.trans h₂) (by decide)
    · exact absurd (h.symm.trans h₃) (by decide)

/-- A request that is answered on its port or dropped, or whose keyword was not stripped. -/
theorem serviceUpperLayers_ends (hv : m.vps ≤ MAX_VPS) (hkeep : m.off = 0 ∨ StaysInside z m)
    (h : serviceUpperLayers ⟨z, m, false, false, false⟩ = some t') : t'.Ends := by
  rcases serviceUpperLayers_cases h with ⟨h0, rfl⟩ | ⟨⟨h0, _⟩, ⟨hvalid, hd⟩ | ⟨_, rfl⟩⟩
  · rcases hkeep with hoff | hstay
    · exact ends_of_off ((gatewayCommand_kept _).off.trans hoff)
    · rw [StaysInside, if_pos (show m.vps = 0 from h0)] at hstay
      obtain ⟨hs, hf⟩ := gatewayCommand_quiet (t := ⟨z, m, false, false, false⟩) rfl hstay
      have hu : (gatewayCommand ⟨z, m, false, false, false⟩).do_broadcast_to_upperlayers = false := (gatewayCommand_kept _).upper
      exact ⟨fun h => absurd (hs.symm.trans h) (by decide), fun h => absurd (hu.symm.trans h) (by decide),
        fun h => absurd (hf.symm.trans h) (by decide)⟩
  · rcases hkeep with hoff | hstay
    · exact ends_of_off ((deviceCommand_kept hd).2.1.trans hoff)
    · rw [StaysInside, if_neg (show m.vps ≠ 0 from h0)] at hstay
      rcases hstay with hno | ⟨hx, hg, hu⟩
      · exact absurd (hvalid.symm.trans hno) (by decide)
      · simp only [deviceCommand, hx, hg, hu, Bool.false_eq_true, if_false, if_true, Option.some.injEq] at hd
        rw [← hd]
        refine ends_of_vps rfl rfl ?_
        simpa [Msg.vps, Msg.rd_wr] using hv
  · exact ends_of_vps rfl rfl (by simpa [invalidVps, Msg.vps] using hv)

end ends

/-! ## Who may be handed what -/

/-- The task that frees, and the session manager from the IP tasks, get pointers to where the block starts. What the
ZigBee task sends up is accepted, and what the session manager passes on carries a port it has accepted. -/
def Placed (T InputID : Nat) (m : Msg) : Prop :=
  if T = IpStreamSenderTask_id then m.off = 0
  else if T = SessionManagerTask_id then m.off = 0 ∨ InputID ≠ In1 ∧ m.vps ≤ MAX_VPS
  else if T = ZigBeeTask_id then if InputID = In1 then m.off = 0 else m.vps ≤ MAX_VPS
  else True

/-- What a task gives away is for its receiver, or starts where the block does. -/
def GivenAway (T : Nat) : ZigBeeOut → Prop
  | .broadcast outport m => Placed (route T outport).1 (route T outport).2 m
  | .free m => m.off = 0

/-- An IP task takes any message. -/
theorem givenAway_session_port {v : Nat} (hv : v ≤ MAX_VPS) (m : Msg) :
    GivenAway SessionManagerTask_id (.broadcast (v + 2) m) := by
  simp only [MAX_VPS, TOTAL_VPS] at hv
  have hroute : ∀ v ≤ 6, (route SessionManagerTask_id (v + 2)).1 ∉
      [IpStreamSenderTask_id, SessionManagerTask_id, ZigBeeTask_id] := by decide
  have hno := hroute v hv
  simp only [List.mem_cons, List.not_mem_nil, or_false, not_or] at hno
  rw [GivenAway, Placed, if_neg hno.1, if_neg hno.2.1, if_neg hno.2.2]
  trivial

section turns

variable {z z' : ZigBee} {t : SessionTable} {m : Msg} {InputID : Nat}

/-- The session manager gives one thing away for a message, at most. -/
theorem sessionMessage_givenAway (hm : Placed SessionManagerTask_id InputID m) :
    ((sessionMessage t (some (InputID, m))).2.filterMap SessionEvent.out).length ≤ 1 ∧
      ∀ o ∈ (sessionMessage t (some (InputID, m))).2.filterMap SessionEvent.out, GivenAway SessionManagerTask_id o := by
  have hm : m.off = 0 ∨ InputID ≠ In1 ∧ m.vps ≤ MAX_VPS := hm
  have hZ : ∀ m' : Msg, m'.vps ≤ MAX_VPS → GivenAway SessionManagerTask_id (.broadcast Out1 m') := fun _ h => h
  cases sessionMessage_outcome t (some (InputID, m)) with
  | refused _ hgt he =>
    rw [he]
    exact ⟨Nat.le_refl 1, List.forall_mem_singleton.mpr (hm.resolve_right fun hc => Nat.not_lt.mpr hc.2 hgt)⟩
  | @opened _ m' _ hle hm' he =>
    have hvps : m'.vps ≤ MAX_VPS := by
      rcases hm' with ⟨_, _, rfl⟩ | ⟨_, _, rfl⟩
      · exact hle
      · simpa [stripKeyword, Msg.vps] using hle
    rw [he]
    exact ⟨Nat.le_refl 1, List.forall_mem_singleton.mpr (hZ m' hvps)⟩
  | answered hle _ he =>
    rw [he]
    exact ⟨Nat.le_refl 1, List.forall_mem_singleton.mpr (givenAway_session_port hle m)⟩
  | closed _ _ he | other _ _ he =>
    rw [he]
    exact ⟨Nat.zero_le 1, fun _ ho => absurd ho List.not_mem_nil⟩

/-- At an alarm it sends on the output ports of the sessions. -/
theorem mem_sessionAlarm_out {o : ZigBeeOut} (ho : o ∈ (sessionAlarm t true).2.filterMap SessionEvent.out) :
    ∃ v ≤ MAX_VPS, ∃ m, o = .broadcast (v + 2) m := by
  obtain ⟨e, he, heo⟩ := List.mem_filterMap.mp ho
  rcases mem_sessionAlarm he with rfl | rfl | ⟨i, hi, rfl⟩
  · cases heo
  · cases heo
  · exact ⟨i, Nat.le_of_lt hi, _, (Option.some.inj heo).symm⟩

/-- At an alarm it answers IP tasks. -/
theorem sessionAlarm_givenAway (t : SessionTable) :
    ∀ o ∈ (sessionAlarm t true).2.filterMap SessionEvent.out, GivenAway SessionManagerTask_id o := by
  intro o ho
  obtain ⟨v, hv, m, rfl⟩ := mem_sessionAlarm_out ho
  exact givenAway_session_port hv m

/-- So does the ZigBee task, where its message keeps its block's start. -/
theorem zigBeeTask_givenAway {outs : List ZigBeeOut} {block : Nat} (hm : Placed ZigBeeTask_id InputID m)
    (hkeep : Blocks.DeliveryKeeps z (ZigBeeTask_id, InputID, ⟨block, m⟩))
    (h : ZigBeeTask z (InputID, m) = some (z', outs)) :
    outs.length ≤ 1 ∧ ∀ o ∈ outs, GivenAway ZigBeeTask_id o := by
  obtain ⟨t, ht, _, rfl⟩ := ZigBeeTask_eq_some h
  refine ⟨(endOfTurn_oneReceiver ht).handOff_length, ?_⟩
  have hm : if InputID = In1 then m.off = 0 else m.vps ≤ MAX_VPS := hm
  have hkeep : if InputID = In1 then AcceptedFrame z m else m.off = 0 ∨ StaysInside z m := hkeep rfl
  have hends : t.Ends ∨ (t.do_broadcast_to_serial = false ∧ t.do_broadcast_to_upperlayers = false ∧ t.freed = false) := by
    rcases endOfTurn_cases ht with ⟨h1, hr⟩ | ⟨h2, hr⟩ | ⟨_, rfl⟩
    · have h1 : InputID = In1 := h1
      rw [if_pos h1] at hm hkeep
      exact .inl (radioBranches_ends hm hkeep hr)
    · have h1 : ¬InputID = In1 := fun h1 => absurd (h1.symm.trans h2) (by decide)
      rw [if_neg h1] at hm hkeep
      exact .inl (serviceUpperLayers_ends hm hkeep hr)
    · exact .inr ⟨rfl, rfl, rfl⟩
  intro o ho
  rcases hends with hends | ⟨hs, hu, hf⟩
  · rcases mem_handOff.mp ho with ⟨hf, rfl⟩ | ⟨hs, rfl⟩ | ⟨hu, rfl⟩
    · exact hends.freed hf
    · exact hends.serial hs
    · have hs : t.do_broadcast_to_serial = false := (endOfTurn_upward ht hu).1
      rw [hs]
      exact (hends.upper hu).imp_right fun hv => ⟨by decide, hv⟩
  · rw [handOff, hs, hu, hf] at ho
    cases ho

end turns

/-! ## Every run -/

namespace Blocks

/-- The blocks under way and those that were freed. -/
def owned (s : Blocks) : List Nat := s.transit.map (fun e => e.2.2.block) ++ s.freed.map Prod.fst

/-- Each block is in one place, and each pointer under way is one its receiver may be handed. -/
structure Inv (s : Blocks) : Prop where
  placed : ∀ e ∈ s.transit, Placed e.1 e.2.1 e.2.2.msg
  base : ∀ f ∈ s.freed, f.2 = 0
  once : s.owned.Nodup
  allocated : ∀ b ∈ s.owned, b < s.allocated

section inv

variable {s s' : Blocks} {T block : Nat} {o : ZigBeeOut}

theorem Inv.freedAtBase (h : s.Inv) : s.FreedAtBase := ⟨h.base, (List.nodup_append.mp h.once).2.1⟩

theorem inv_start (gwieeeaddr : Addr ADDRLEN) : (start gwieeeaddr).Inv :=
  ⟨fun _ h => absurd h List.not_mem_nil, fun _ h => absurd h List.not_mem_nil, List.nodup_nil,
    fun _ h => absurd h List.not_mem_nil⟩

/-- What is given away is in one place more. -/
theorem owned_give : (s.give T block o).owned.Perm (block :: s.owned) := by
  cases o with
  | broadcast outport m =>
    simp only [owned, give, List.map_append, List.map_cons, List.map_nil, List.append_assoc]
    exact List.perm_middle
  | free m =>
    simp only [owned, give, List.map_append, List.map_cons, List.map_nil, ← List.append_assoc]
    exact List.perm_append_comm

theorem Inv.give (h : s.Inv) (hb : block ∉ s.owned) (hlt : block < s.allocated) (ho : GivenAway T o) :
    (s.give T block o).Inv := by
  refine ⟨?_, ?_, owned_give.nodup_iff.mpr (List.nodup_cons.mpr ⟨hb, h.once⟩), fun b hmem => ?_⟩
  · cases o with
    | broadcast outport m =>
      intro e he
      rcases List.mem_append.mp he with he | he
      · exact h.placed e he
      · rw [List.mem_singleton.mp he]
        exact ho
    | free m => exact h.placed
  · cases o with
    | broadcast outport m => exact h.base
    | free m =>
      intro f hf
      rcases List.mem_append.mp hf with hf | hf
      · exact h.base f hf
      · rw [List.mem_singleton.mp hf]
        exact ho
  · have halloc : (s.give T block o).allocated = s.allocated := by cases o <;> rfl
    rw [halloc]
    rcases List.mem_cons.mp (owned_give.mem_iff.mp hmem) with rfl | hmem
    · exact hlt
    · exact h.allocated b hmem

/-- A turn gives its block away once, at most. -/
theorem Inv.giveAll (h : s.Inv) (hb : block ∉ s.owned) (hlt : block < s.allocated) {outs : List ZigBeeOut}
    (hone : outs.length ≤ 1) (ho : ∀ o ∈ outs, GivenAway T o) : (outs.foldl (Blocks.give T block) s).Inv := by
  match outs, hone with
  | [], _ => exact h
  | [o], _ => exact h.give hb hlt (ho o (List.mem_singleton_self o))

theorem Inv.giveNew (h : s.Inv) (ho : GivenAway T o) : (s.giveNew T o).Inv := by
  have hmore : Inv { s with allocated := s.allocated + 1 } :=
    ⟨h.placed, h.base, h.once, fun b hb => Nat.lt_succ_of_lt (h.allocated b hb)⟩
  have he : s.giveNew T o = Blocks.give T s.allocated { s with allocated := s.allocated + 1 } o := by cases o <;> rfl
  rw [he]
  exact hmore.give (fun hb => absurd (h.allocated _ hb) (Nat.lt_irrefl _)) (Nat.lt_succ_self _) ho

theorem Inv.giveNewAll : ∀ {outs : List ZigBeeOut} {s : Blocks}, s.Inv → (∀ o ∈ outs, GivenAway T o) →
    (outs.foldl (Blocks.giveNew T) s).Inv := by
  intro outs
  induction outs with
  | nil => exact fun h _ => h
  | cons o outs ih =>
    intro s h ho
    exact ih (h.giveNew (ho o (List.mem_cons_self ..))) fun o' ho' => ho o' (List.mem_cons_of_mem _ ho')

/-- A message that is delivered is in no place until its receiver gives it away. -/
theorem Inv.take (h : s.Inv) {k : Nat} {e : Nat × Nat × Ptr} (hk : s.transit[k]? = some e)
    (holder : Nat → Option (Nat × Ptr)) :
    Inv { s with transit := s.transit.eraseIdx k, holder := holder } ∧
      e.2.2.block ∉ owned { s with transit := s.transit.eraseIdx k, holder := holder } ∧ e.2.2.block < s.allocated := by
  obtain ⟨hlt, rfl⟩ := List.getElem?_eq_some_iff.mp hk
  have hperm : (s.transit[k].2.2.block :: owned { s with transit := s.transit.eraseIdx k, holder := holder }).Perm s.owned :=
    ((List.getElem_cons_eraseIdx_perm hlt).map fun e : Nat × Nat × Ptr => e.2.2.block).append_right (s.freed.map Prod.fst)
  have hnodup := List.nodup_cons.mp (hperm.nodup_iff.mpr h.once)
  refine ⟨⟨fun e he => h.placed e (List.mem_of_mem_eraseIdx he), h.base, hnodup.2, fun b hb => ?_⟩, hnodup.1, ?_⟩
  · exact h.allocated b (hperm.mem_iff.mp (List.mem_cons_of_mem _ hb))
  · exact h.allocated _ (hperm.mem_iff.mp (List.mem_cons_self ..))

/-- A task's turn with a message it may be handed. -/
theorem Inv.turn (h : s.Inv) {InputID : Nat} {p : Ptr} (hb : p.block ∉ s.owned) (hlt : p.block < s.allocated)
    (hp : Placed T InputID p.msg)
    (hkeep : DeliveryKeeps s.z (T, InputID, p)) (hs : s.turn T InputID p = some s') : s'.Inv := by
  rcases turn_cases hs with ⟨rfl, rfl⟩ | ⟨rfl, z', outs, hz, rfl⟩ | ⟨rfl, rfl⟩ | ⟨_, rfl⟩
  · obtain ⟨hone, ho⟩ := sessionMessage_givenAway (t := s.session_table) hp
    have h' : Inv { s with session_table := (sessionMessage s.session_table (some (InputID, p.msg))).1 } :=
      ⟨h.placed, h.base, h.once, h.allocated⟩
    exact h'.giveAll hb hlt hone ho
  · obtain ⟨hone, ho⟩ := zigBeeTask_givenAway hp hkeep hz
    have h' : Inv { s with z := z' } := ⟨h.placed, h.base, h.once, h.allocated⟩
    exact h'.giveAll hb hlt hone ho
  · have h' : Inv { s with sslegacymode := decide (p.msg.rd 0 = 0xff) } := ⟨h.placed, h.base, h.once, h.allocated⟩
    exact h'.give hb hlt hp
  · exact h

/-- The step lemma. -/
theorem Inv.step (h : s.Inv) {a : BlockAct} (hc : s.KeepsBase a) (hs : s.step a = some s') : s'.Inv := by
  cases a with
  | request VPS stream closed =>
    obtain ⟨hv, rfl | ⟨m, hm, rfl⟩⟩ := request_cases hs
    · exact h
    · refine h.giveNew ?_
      rw [GivenAway, route_ip_task hv]
      exact .inl (IPTask_off hm)
  | call =>
    cases ((Option.ite_none_right_eq_some ..).mp hs).2
    exact ⟨h.placed, h.base, h.once, h.allocated⟩
  | frame bytes =>
    obtain ⟨sslegacymode, -, -, rfl⟩ := frame_cases hs
    have h' : Inv { s with calling := none } := ⟨h.placed, h.base, h.once, h.allocated⟩
    exact h'.giveNew (receivedFrame_off ..)
  | deliver k =>
    obtain ⟨⟨T, InputID, p⟩, hk, hs⟩ := Option.bind_eq_some_iff.mp hs
    obtain ⟨h', hb, hlt⟩ := h.take hk (Function.update s.holder T (some (InputID, p)))
    exact h'.turn hb hlt (h.placed _ (List.mem_of_getElem? hk)) (hc _ hk) hs
  | alarm =>
    cases hs
    have h' : Inv { s with session_table := (sessionAlarm s.session_table true).1 } :=
      ⟨h.placed, h.base, h.once, h.allocated⟩
    exact h'.giveNewAll (sessionAlarm_givenAway _)
  | wake T mem =>
    have hno : ¬(T = ZigBeeTask_id ∨ T = IpStreamSenderTask_id) := fun hT => hT.elim hc.1 hc.2
    simp only [Blocks.step, if_neg hno, Option.some.injEq] at hs
    exact hs ▸ h

end inv

end Blocks

open Blocks in
/-- In every run whose steps keep to the starts of the blocks, every block that is freed is freed where it starts, and
once. -/
theorem freedAtBase_always {gwieeeaddr : Addr ADDRLEN} {acts : List BlockAct}
    (h : Along Blocks.step KeepsBase (start gwieeeaddr) acts) :
    Always Blocks.step FreedAtBase (start gwieeeaddr) acts :=
  h.always (I := Blocks.Inv) (fun _ h => h.freedAtBase) (fun _ _ _ h hc hs => h.step hc hs) (inv_start gwieeeaddr)

/-- A line on port 0, and the stages it goes through: the session manager, the ZigBee task, the task at the serial
stream. -/
def requestRun (text : List UInt8) : List BlockAct := [.request 0 (text ++ [0x0a]) false, .deliver 0, .deliver 0, .deliver 0]

/-- A line that is passed through, and freed at the end. -/
theorem freedAtBase_always_plain :
    Along Blocks.step Blocks.KeepsBase (Blocks.start ⟨List.replicate 8 0, rfl⟩) (requestRun (ascii "6869")) ∧
      Always Blocks.step Blocks.FreedAtBase (Blocks.start ⟨List.replicate 8 0, rfl⟩) (requestRun (ascii "6869")) := by
  have h : Along Blocks.step Blocks.KeepsBase (Blocks.start ⟨List.replicate 8 0, rfl⟩)
      (requestRun (ascii "6869")) := by decide +kernel
  exact ⟨h, freedAtBase_always h⟩

/-- With the keyword `0TIME` before it (`3054494D45`), the block is freed five bytes behind its start. -/
theorem not_freedAtBase_always :
    ¬∀ gwieeeaddr acts, Always Blocks.step Blocks.FreedAtBase (Blocks.start gwieeeaddr) acts := by
  intro h
  have hrun : (run Blocks.step (Blocks.start ⟨List.replicate 8 0, rfl⟩)
      (requestRun (ascii "3054494D456869"))).map Blocks.freed =
      some [(0, 5)] := by
    decide +kernel
  obtain ⟨s, hs, he⟩ := Option.map_eq_some_iff.mp hrun
  have hbase := (always_iff_beginning.mp (h _ _) _ [] s (List.append_nil _).symm hs).base (0, 5)
  rw [he] at hbase
  exact absurd (hbase (List.mem_singleton_self _)) (by decide)

end HomeBridge
