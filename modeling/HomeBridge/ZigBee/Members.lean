import HomeBridge.ZigBee.Data
import HomeBridge.ZigBee.Table

/-!
# Devices that leave

A device leaves by an exclusion: a command sets `excludemode`, and a frame with the device's address completes it. The task answers that
frame and forgets the mode, but it never takes the device's slot back: `vps_del` has no caller. So the table follows the devices
exactly as long as no device that has a slot is excluded.
-/

namespace HomeBridge

open CMem Runs

/-- The address of the device whose exclusion a frame completes. -/
def excludedAddr (z : ZigBee) (m : Msg) : Option (Addr ADDRLEN) :=
  if z.excludemode = true ∧ m.rd 8 = 0x40 ∧ m.rd 9 = 0x02 ∧ m.rd 10 = 0x00 then some (m.addr 14 ADDRLEN) else none

/-- The frame is the network list the task has asked for: the table is built anew. -/
def Rebuilds (z : ZigBee) (m : Msg) : Prop := z.netupdatemode = true ∧ m.rd 8 = 0x83

instance (z : ZigBee) (m : Msg) : Decidable (Rebuilds z m) := by
  unfold Rebuilds
  infer_instance

/-- The task, and for each slot whether its device has been excluded since the slot was filled. -/
structure Members where
  z : ZigBee
  left : Nat → Bool

namespace Members

/-- A slot that was not in use, and every slot of a table built anew, is filled afresh if it is in use after the step. -/
def leftAfter (s : Members) (i : Nat × Msg) (v : Nat) : Bool :=
  if i.1 = In1 then
    decide (Used s.z.table v ∧ ¬Rebuilds s.z i.2) && (s.left v || decide (excludedAddr s.z i.2 = some (vps_vtoa s.z.table v)))
  else s.left v

/-- A turn of the task. -/
def step (s : Members) (i : Nat × Msg) : Option Members := (s.z.step i).map fun z => ⟨z, s.leftAfter i⟩

def start (gwieeeaddr : Addr ADDRLEN) : Members := ⟨.start gwieeeaddr, fun _ => false⟩

/-- A slot is in use only as long as its device has not been excluded since it was filled. -/
def Tracked (s : Members) : Prop := ∀ v, Used s.z.table v → s.left v = false

/-- A request on the port is answered at once. -/
def AnsweredInvalid (z : ZigBee) (v : Nat) : Prop := ∀ m : Msg, m.vps = v → ∃ z' m',
  ZigBeeTask z (In2, m) = some (z', [.broadcast Out1 m']) ∧ m'.vps = v ∧ m'.payload = ascii "invalid vps : "

/-- A frame that completes the exclusion of the device of slot `v` frees the slot, and touches no other. -/
def TakesEffect (s : Members) (i : Nat × Msg) : Prop := ∀ s', s.step i = some s' → i.1 = In1 →
  ∀ v, Used s.z.table v → excludedAddr s.z i.2 = some (vps_vtoa s.z.table v) →
    check_valid_vps s'.z.table v = false ∧ vps_atov s'.z.table (vps_vtoa s.z.table v) = 0 ∧ AnsweredInvalid s'.z v ∧
      (s'.z.table v).used = 0 ∧ ∀ w, w ≠ v → s'.z.table w = s.z.table w

/-- A device whose exclusion is completed has no slot. -/
def NoMemberLeaves (s : Members) (i : Nat × Msg) : Prop :=
  i.1 = In1 → ∀ a, excludedAddr s.z i.2 = some a → vps_atov s.z.table a = 0

section step

variable {s s' : Members} {i : Nat × Msg}

/-- The frame that completes an exclusion leaves the table as it is. -/
theorem table_of_excluded (hs : s.step i = some s') (h1 : i.1 = In1) {a : Addr ADDRLEN} (ha : excludedAddr s.z i.2 = some a) :
    s'.z.table = s.z.table ∧ ¬Rebuilds s.z i.2 := by
  obtain ⟨port, m⟩ := i
  cases h1
  have hx : s.z.excludemode = true ∧ m.rd 8 = 0x40 ∧ m.rd 9 = 0x02 ∧ m.rd 10 = 0x00 := by
    by_contra hno
    rw [excludedAddr, if_neg hno] at ha
    cases ha
  obtain ⟨z', hz, rfl⟩ := Option.map_eq_some_iff.mp hs
  cases tableChange_of_step hz with
  | join hj _ =>
    rcases (joinAddr_cases hj).2.1 with hc1 | ⟨h42, _⟩
    · exact absurd (hx.2.1.symm.trans hc1) (by decide)
    · exact absurd (hx.2.1.symm.trans h42) (by decide)
  | announce _ _ h42 _ => exact absurd (hx.2.1.symm.trans h42) (by decide)
  | netlist _ hn _ => exact absurd (hx.2.1.symm.trans hn.2) (by decide)
  | none _ _ hn h => exact ⟨h, hn⟩

/-- A step keeps the table with the devices exactly if no device that has a slot leaves. -/
theorem tracked_step (h : s.Tracked) (hs : s.step i = some s') : s'.Tracked ↔ s.NoMemberLeaves i := by
  have hleft : s'.left = s.leftAfter i := by
    obtain ⟨z', _, rfl⟩ := Option.map_eq_some_iff.mp hs
    rfl
  constructor
  · intro ht h1 a ha
    by_contra hno
    obtain ⟨v, hv, he⟩ := holds_iff_vps_atov.mpr hno
    obtain ⟨htable, hb⟩ := table_of_excluded hs h1 ha
    have hv' := ht v (by rwa [htable])
    rw [hleft, leftAfter, if_pos h1, decide_eq_true ⟨hv, hb⟩, decide_eq_true (by rw [he, ha]), Bool.or_true] at hv'
    cases hv'
  · intro hc v hv'
    rw [hleft, leftAfter]
    by_cases h1 : i.1 = In1
    · rw [if_pos h1]
      by_cases hv : Used s.z.table v ∧ ¬Rebuilds s.z i.2
      · have hno : excludedAddr s.z i.2 ≠ some (vps_vtoa s.z.table v) := fun ha =>
          absurd rfl (vps_atov_eq_zero.mp (hc h1 _ ha) v hv.1)
        rw [h v hv.1, decide_eq_false hno, Bool.or_false, Bool.and_false]
      · rw [decide_eq_false hv, Bool.false_and]
    · rw [if_neg h1]
      obtain ⟨z', hz, rfl⟩ := Option.map_eq_some_iff.mp hs
      exact h v (by rwa [← table_of_ne_in1 hz h1])

end step

/-- Where no member leaves, there is nothing to take effect. -/
theorem takesEffect_of_noMemberLeaves {s : Members} {i : Nat × Msg} (hc : s.NoMemberLeaves i) : s.TakesEffect i := by
  intro s' _ h1 v hv ha
  exact absurd rfl (vps_atov_eq_zero.mp (hc h1 _ ha) v hv)

/-- A request on a port whose slot is free is answered at once. -/
theorem answeredInvalid_of_free {z : ZigBee} {v : Nat} (hv : 1 ≤ v ∧ v < MAXVPS) (hfree : (z.table v).used = 0) :
    AnsweredInvalid z v := by
  intro m hm
  subst hm
  have hvalid : check_valid_vps z.table m.vps = false := by
    rw [check_valid_vps, hfree]
    rfl
  let t : Turn := ⟨z, m, false, false, false⟩
  rw [zigBeeTask_in2, serviceUpperLayers_invalid (t := t) (Nat.ne_of_gt hv.1) hv.2 hvalid]
  refine ⟨z, (invalidVps t).dataPtr, rfl, ?_, ?_⟩
  · simp [t, invalidVps, Msg.vps]
  · have hlen : (invalidVps t).dataPtr.len = 14 := by simp [invalidVps, Msg.len]
    rw [Msg.payload, hlen, invalidVps, Msg.bytes_set_disjoint _ _ (.inr (by decide)), Msg.bytes_set_disjoint _ _ (.inr (by decide))]
    exact Msg.bytes_wr_self m 2 (ascii "invalid vps : ")

/-- The deletion that has no caller does what is asked for, where no other slot holds the address. -/
theorem vps_del_effect {z : ZigBee} {v : Nat} (hv : Used z.table v) (hd : Distinct z.table) :
    check_valid_vps (vps_del z.table v) v = false ∧ vps_atov (vps_del z.table v) (vps_vtoa z.table v) = 0 ∧
      AnsweredInvalid { z with table := vps_del z.table v } v ∧ (vps_del z.table v v).used = 0 ∧
      ∀ w, w ≠ v → vps_del z.table v w = z.table w := by
  have hused : (vps_del z.table v v).used = 0 := by rw [vps_del, Function.update_self]
  have hother : ∀ w, w ≠ v → vps_del z.table v w = z.table w := fun w hw => Function.update_of_ne hw ..
  refine ⟨?_, vps_atov_eq_zero.mpr fun w hw he => ?_, answeredInvalid_of_free hv.1 hused, hused, hother⟩
  · rw [check_valid_vps, hused]
    decide
  · by_cases hwv : w = v
    · subst hwv
      exact hw.2 hused
    · rw [Used, hother w hwv] at hw
      rw [vps_vtoa, hother w hwv] at he
      exact hwv (hd w v hw hv he)

end Members

open Members in
/-- In every run, the slots in use are those of devices that have not been excluded since, and every exclusion takes effect, exactly if no
exclusion is completed of a device that has a slot. -/
theorem tracked_always_iff (gwieeeaddr : Addr ADDRLEN) (is : List (Nat × Msg)) :
    Always Members.step Tracked (start gwieeeaddr) is ∧ Along Members.step TakesEffect (start gwieeeaddr) is ↔
      Along Members.step NoMemberLeaves (start gwieeeaddr) is := by
  have hiff : Always Members.step Tracked (start gwieeeaddr) is ↔ Along Members.step NoMemberLeaves (start gwieeeaddr) is :=
    always_iff_along (I := Tracked) (fun _ h => h) (fun _ _ _ h hc hs => (tracked_step h hs).mpr hc)
      (fun _ _ _ h hs ht => (tracked_step h hs).mp ht) (fun _ _ => rfl)
  exact ⟨fun h => hiff.mp h.1, fun h => ⟨hiff.mpr h, h.mono fun _ _ => takesEffect_of_noMemberLeaves⟩⟩

/-- A device that joins is excluded: a command, and the frame with its address. -/
def joinAndLeave : List (Nat × Msg) :=
  [(In2, message 0 (ascii "INCLUDE_REQ")), (In1, joinMsg), (In2, message 0 (ascii "XCLUDE_REQ")),
    (In1, message 0xFF ([0x00, 0x03, 0x00, 0xC0, 0x13, 0x00, 0x40, 0x02, 0x00, 0x00, 0x00, 0x00] ++ List.replicate 8 0x07))]

/-- Its slot stays in use. -/
theorem not_tracked_always : ¬∀ gwieeeaddr is, Always Members.step Members.Tracked (Members.start gwieeeaddr) is := by
  intro h
  have hrun : (run Members.step (Members.start ⟨List.replicate 8 0, rfl⟩) joinAndLeave).map
      (fun s => (decide (Used s.z.table 1), s.left 1)) = some (true, true) := by
    decide +kernel
  obtain ⟨s, hs, he⟩ := Option.map_eq_some_iff.mp hrun
  obtain ⟨hu, hl⟩ := Prod.mk.inj he
  have ht := always_iff_beginning.mp (h _ joinAndLeave) joinAndLeave [] s (List.append_nil _).symm hs
  exact absurd (hl.symm.trans (ht 1 (of_decide_eq_true hu))) (by decide)

end HomeBridge
