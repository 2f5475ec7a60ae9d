import HomeBridge.ZigBee.Members
import HomeBridge.ZigBee.NetworkList
import HomeBridge.ZigBee.Requests

/-!
# Network addresses, as reported and as stored

A device keeps its IEEE address; the short one by which the network reaches it changes, and is reported by a network list, by the
long form of a join and by an announcement. A list stores what it reports, and an announcement stores it in the first slot with the
device. A join stores nothing: its slot keeps the two bytes that were there, zeros or those of the device that had the slot before.
-/

namespace HomeBridge

open CMem Runs

/-! ## Reports -/

/-- What a frame from the radio reports, in its order: the device of a `0x42` frame, or those of a network list the task has asked
for, each with its network address. -/
def reports (z : ZigBee) (m : Msg) : List (Addr ADDRLEN × Addr ADDRLEN2) :=
  if m.rd 8 = 0x42 then [(m.addr (2 + 15) ADDRLEN, m.addr (2 + 23) ADDRLEN2)]
  else if Rebuilds z m then listedDevices m netlistEntries
  else []

/-- The network address reported last for a device. -/
def lastReport (rs : List (Addr ADDRLEN × Addr ADDRLEN2)) (a : Addr ADDRLEN) : Option (Addr ADDRLEN2) := rs.reverse.lookup a

/-- The task, and for each slot the network address last reported for its device since it was put there. -/
structure Reporting where
  z : ZigBee
  reported : Nat → Option (Addr ADDRLEN2)

namespace Reporting

/-- What is known of slot `v` after a frame that leaves the table `t`. A slot that was not in use, and every slot of a table built
anew, is filled by the frame itself. -/
def reportedAfter (s : Reporting) (m : Msg) (t : VpsTable) (v : Nat) : Option (Addr ADDRLEN2) :=
  (lastReport (reports s.z m) (vps_vtoa t v)).or (if Used s.z.table v ∧ ¬Rebuilds s.z m then s.reported v else none)

/-- A turn of the task. -/
def step (s : Reporting) (i : Nat × Msg) : Option Reporting :=
  (s.z.step i).map fun z => ⟨z, if i.1 = In1 then s.reportedAfter i.2 z.table else s.reported⟩

def start (gwieeeaddr : Addr ADDRLEN) : Reporting := ⟨.start gwieeeaddr, fun _ => none⟩

/-- A `GETDESC_REQ` on port `v` is sent to the network address of the slot. -/
def Destination (z : ZigBee) (v : Nat) : Prop := ∃ m z' m', m.vps = v ∧ m.isAt (ascii "GETDESC_REQ") 2 = true ∧
  ZigBeeTask z (In2, m) = some (z', [.broadcast Out2 m']) ∧
    m'.bytes 10 4 = (vps_vtoa_nwk z.table v).1 ++ (vps_vtoa_nwk z.table v).1

/-- The network address of a used slot is the last one reported; where none was, the slot is neither matched nor asked. -/
structure NeverStale (s : Reporting) : Prop where
  last : ∀ v n, Used s.z.table v → s.reported v = some n → vps_vtoa_nwk s.z.table v = n
  unmatched : ∀ v, Used s.z.table v → s.reported v = none → ∀ n, vps_atov_nwk s.z.table n ≠ v
  unaddressed : ∀ v, Used s.z.table v → s.reported v = none → ¬Destination s.z v

/-- Every address that a frame reports is in each slot with its device after the turn: a join is of the long form, and the slot it
takes has the address already, as has every used slot with the device of a `0x42` frame, but for the one that an announcement writes
to; and a network list reports one address for a device. -/
structure StoresReports (s : Reporting) (m : Msg) : Prop where
  join : ∀ a, joinAddr s.z m = some a →
    m.rd 8 = 0x42 ∧ ∀ v, freeSlot s.z.table = some v → vps_vtoa_nwk s.z.table v = m.addr (2 + 23) ADDRLEN2
  known : m.rd 8 = 0x42 → ∀ v, Used s.z.table v → vps_vtoa s.z.table v = m.addr (2 + 15) ADDRLEN →
    s.z.includemode = true ∨ v ≠ vps_atov s.z.table (m.addr (2 + 15) ADDRLEN) →
      vps_vtoa_nwk s.z.table v = m.addr (2 + 23) ADDRLEN2
  listed : Rebuilds s.z m → ∀ d ∈ listedDevices m netlistEntries, ∀ e ∈ listedDevices m netlistEntries,
    d.1 = e.1 → d.2 = e.2

/-- The condition on a turn: it is about frames from the radio. -/
def FrameStores (s : Reporting) (i : Nat × Msg) : Prop := i.1 = In1 → s.StoresReports i.2

end Reporting

/-- A list of reports agrees with what each says exactly when no two of them contradict each other. -/
theorem lastReport_eq_iff {rs : List (Addr ADDRLEN × Addr ADDRLEN2)} :
    (∀ d ∈ rs, lastReport rs d.1 = some d.2) ↔ ∀ d ∈ rs, ∀ e ∈ rs, d.1 = e.1 → d.2 = e.2 := by
  constructor
  · intro h d hd e he hde
    have hd' := h d hd
    rw [hde, h e he] at hd'
    exact (Option.some.inj hd').symm
  · intro h d hd
    cases hl : lastReport rs d.1 with
    | none =>
      have hno := List.lookup_eq_none_iff.mp hl d (List.mem_reverse.mpr hd)
      exact absurd rfl (bne_iff_ne.mp hno)
    | some n =>
      obtain ⟨l₁, l₂, he, _⟩ := List.lookup_eq_some_iff.mp hl
      have hmem : (d.1, n) ∈ rs := List.mem_reverse.mp (he ▸ List.mem_append_right _ (List.mem_cons_self ..))
      rw [h d hd _ hmem rfl]

theorem lastReport_singleton (a b : Addr ADDRLEN) (n : Addr ADDRLEN2) :
    lastReport [(a, n)] b = if b = a then some n else none := by
  rw [lastReport, List.reverse_singleton, List.lookup_cons, List.lookup_nil]
  by_cases h : b = a
  · rw [if_pos h, beq_iff_eq.mpr h]
  · rw [if_neg h, beq_eq_false_iff_ne.mpr h]

/-! ## Where a `GETDESC_REQ` goes -/

/-- A `GETDESC_REQ` for a device in use goes to the network address of its slot. -/
theorem getdesc_sent {z : ZigBee} {m : Msg} (h0 : m.vps ≠ 0) (hmax : m.vps < MAXVPS)
    (hused : check_valid_vps z.table m.vps = true) (hat : m.isAt (ascii "GETDESC_REQ") 2 = true) :
    ∃ z' m', ZigBeeTask z (In2, m) = some (z', [.broadcast Out2 m']) ∧
      m'.bytes 10 4 = (vps_vtoa_nwk z.table m.vps).1 ++ (vps_vtoa_nwk z.table m.vps).1 := by
  have hx : m.isAt (ascii "XCLUDE_REQ") 2 = false := Msg.isAt_eq_false_of_isAt hat 0 (by decide) (by decide) (by decide)
  have hb : requestBuilding z m = some (descriptorBuilding z.table m) := by
    rw [requestBuilding, if_neg (by rw [hx]; exact Bool.false_ne_true), if_pos hat]
  obtain ⟨z', htask⟩ := (ZigBeeTask_building h0 hmax hused hb).1 descriptorBuilding_scratch
  refine ⟨z', _, htask, ?_⟩
  have hn := (vps_vtoa_nwk z.table m.vps).2
  let head := bufferHead 0x07 0x01 0x04
  let nwk := (vps_vtoa_nwk z.table m.vps).1 ++ (vps_vtoa_nwk z.table m.vps).1
  have hlen : nwk.length = 4 := by simp only [nwk, List.length_append, hn, ADDRLEN2]
  -- the address stands twice between the eight bytes of the head and the endpoint
  have hframe : descriptorFrame z.table m = (((m.wr 2 head).wr 10 nwk).wr (10 + nwk.length) [endpointOf m]).set 1 13 := by
    rw [← Msg.wr_append, show 10 = 2 + head.length from rfl, ← Msg.wr_append, ← List.append_assoc, ← List.append_assoc]
    rfl
  rw [descriptorBuilding_frame, hframe, Msg.bytes_set_disjoint _ _ (.inr (by decide)),
    Msg.bytes_set_disjoint _ _ (.inr (by decide)), Msg.bytes_wr_disjoint _ _ (.inl (by rw [hlen])), ← hlen]
  exact Msg.bytes_wr_self _ 10 nwk

/-! ## The two addresses of a slot -/

/-- `check_valid_vps` knows every slot in use. -/
def Flagged (t : VpsTable) : Prop := ∀ v, Used t v → check_valid_vps t v = true

section table

variable {t t' : VpsTable} {a : Addr ADDRLEN} {i : Nat}

/-- A slot keeps the network address it had when a device is put into it. -/
theorem vps_vtoa_nwk_add (h : vps_add t a = some (i, t')) (v : Nat) : vps_vtoa_nwk t' v = vps_vtoa_nwk t v := by
  obtain ⟨j, _, he⟩ := Option.map_eq_some_iff.mp h
  cases he
  unfold vps_vtoa_nwk
  by_cases hv : v = i
  · subst hv
    rw [Function.update_self]
  · rw [Function.update_of_ne hv]

theorem flagged_add (h : vps_add t a = some (i, t')) (ht : Flagged t) : Flagged t' := by
  obtain ⟨j, _, he⟩ := Option.map_eq_some_iff.mp h
  intro v hv
  rcases (used_add h v).mp hv with hold | rfl
  · have hvi : v ≠ i := fun hvi => not_used_add h (hvi ▸ hold)
    cases he
    rw [check_valid_vps, Function.update_of_ne hvi]
    exact ht v hold
  · cases he
    rw [check_valid_vps, Function.update_self]
    rfl

theorem vps_vtoa_nwk_add_nwk (t : VpsTable) (v : Nat) (n : Addr ADDRLEN2) (w : Nat) :
    vps_vtoa_nwk (vps_add_nwk t v n) w = if w = v then n else vps_vtoa_nwk t w := by
  unfold vps_vtoa_nwk vps_add_nwk
  by_cases h : w = v
  · subst h
    rw [Function.update_self, if_pos rfl]
  · rw [Function.update_of_ne h, if_neg h]

theorem flagged_add_nwk (v : Nat) (n : Addr ADDRLEN2) (ht : Flagged t) : Flagged (vps_add_nwk t v n) := by
  intro w hw
  have hflag := ht w ((used_add_nwk t v n w).mp hw)
  rw [check_valid_vps] at hflag ⊢
  unfold vps_add_nwk
  by_cases h : w = v
  · subst h
    rwa [Function.update_self]
  · rwa [Function.update_of_ne h]

end table

/-- Every turn keeps it so. -/
theorem flagged_step {z z' : ZigBee} {i : Nat × Msg} (h : z.step i = some z') (ht : Flagged z.table) : Flagged z'.table := by
  obtain ⟨port, m⟩ := i
  by_cases h1 : port = In1
  · subst h1
    cases tableChange_of_step h with
    | join _ hadd => exact flagged_add hadd ht
    | announce _ _ _ he =>
      rw [he]
      exact flagged_add_nwk _ _ ht
    | netlist _ _ hadd =>
      have hfill := filled_of_addEntries hadd
      intro v hv
      exact (hfill.check_valid_vps_iff hv.1.2).mpr ((hfill.used_iff (listedDevices_lt m) v).mp hv)
    | none _ _ _ he => rwa [he]
  · rwa [table_of_ne_in1 h h1]

namespace Reporting

/-- Each used slot has had a report, and has the address reported. -/
def Current (s : Reporting) : Prop := ∀ v, Used s.z.table v → s.reported v = some (vps_vtoa_nwk s.z.table v)

/-- Every slot in use can be asked, so that no address is stale exactly when each slot has its report. -/
theorem neverStale_iff {s : Reporting} (ht : Flagged s.z.table) : s.NeverStale ↔ s.Current := by
  constructor
  · intro h v hv
    cases hr : s.reported v with
    | some n => rw [h.last v n hv hr]
    | none =>
      let m := message (UInt8.ofNat v) (ascii "GETDESC_REQ")
      have hvps : m.vps = v := by
        have hlt : v < 256 := Nat.lt_trans hv.1.2 (by decide)
        change (UInt8.ofNat v).toNat = v
        rw [UInt8.toNat_ofNat', Nat.mod_eq_of_lt hlt]
      have hat : m.isAt (ascii "GETDESC_REQ") 2 = true := rfl
      obtain ⟨z', m', htask, hbytes⟩ := getdesc_sent (by rw [hvps]; exact Nat.ne_of_gt hv.1.1) (by rw [hvps]; exact hv.1.2)
        (by rw [hvps]; exact ht v hv) hat
      exact absurd ⟨m, z', m', hvps, hat, htask, hvps ▸ hbytes⟩ (h.unaddressed v hv hr)
  · intro h
    have hsome : ∀ v, Used s.z.table v → s.reported v ≠ none := fun v hv hr =>
      Option.some_ne_none _ ((h v hv).symm.trans hr)
    exact ⟨fun v n hv hr => Option.some.inj ((h v hv).symm.trans hr), fun v hv hr => absurd hr (hsome v hv),
      fun v hv hr => absurd hr (hsome v hv)⟩

section frame

variable {s : Reporting} {m : Msg} {t : VpsTable}

theorem reports_of_42 (h8 : m.rd 8 = 0x42) : reports s.z m = [(m.addr (2 + 15) ADDRLEN, m.addr (2 + 23) ADDRLEN2)] := if_pos h8

theorem reports_of_netlist (hn : Rebuilds s.z m) : reports s.z m = listedDevices m netlistEntries :=
  (if_neg (by rw [hn.2]; decide)).trans (if_pos hn)

theorem reports_of_other (h8 : m.rd 8 ≠ 0x42) (hn : ¬Rebuilds s.z m) : reports s.z m = [] := (if_neg h8).trans (if_neg hn)

/-- A slot that was in use has its report from the frame, or the one it had. -/
theorem reportedAfter_used (hn : ¬Rebuilds s.z m) {v : Nat} (hv : Used s.z.table v) :
    s.reportedAfter m t v = (lastReport (reports s.z m) (vps_vtoa t v)).or (s.reported v) := by
  rw [reportedAfter, if_pos ⟨hv, hn⟩]

/-- A slot that is filled by the frame has its report from the frame, or none. -/
theorem reportedAfter_new {v : Nat} (hv : ¬(Used s.z.table v ∧ ¬Rebuilds s.z m)) :
    s.reportedAfter m t v = lastReport (reports s.z m) (vps_vtoa t v) := by
  rw [reportedAfter, if_neg hv, Option.or_none]

/-- A join keeps the addresses current exactly if it is of the long form and reports the address that each slot with the device, the
new one included, has already. -/
theorem current_join (h : s.Current) {a : Addr ADDRLEN} {v : Nat} (ha : joinAddr s.z m = some a)
    (hadd : vps_add s.z.table a = some (v, t)) :
    (∀ w, Used t w → s.reportedAfter m t w = some (vps_vtoa_nwk t w)) ↔ s.StoresReports m := by
  obtain ⟨hi, h8, hn⟩ := joinAddr_cases ha
  have hslot : freeSlot s.z.table = some v := by
    obtain ⟨j, hj, he⟩ := Option.map_eq_some_iff.mp hadd
    rw [hj, show j = v from congrArg Prod.fst he]
  have hnew : ¬Used s.z.table v := not_used_add hadd
  have hvaddr : vps_vtoa t v = a := by rw [vps_vtoa_add hadd, if_pos rfl]
  have hold : ∀ {w}, Used s.z.table w → vps_vtoa t w = vps_vtoa s.z.table w := fun {w} hw => by
    rw [vps_vtoa_add hadd, if_neg fun hwv : w = v => hnew (hwv ▸ hw)]
  constructor
  · intro hc
    -- the slot that is taken has its report from this frame or from none
    have hv := hc v ((used_add hadd v).mpr (.inr rfl))
    rw [reportedAfter_new fun hu => hnew hu.1, hvaddr, vps_vtoa_nwk_add hadd] at hv
    rcases h8 with hc1 | ⟨h42, rfl⟩
    · rw [reports_of_other (by rw [hc1]; decide) hn] at hv
      exact absurd hv.symm (Option.some_ne_none _)
    · rw [reports_of_42 h42, lastReport_singleton, if_pos rfl, Option.some.injEq] at hv
      refine ⟨fun b _ => ⟨h42, fun w hw => ?_⟩, fun _ w hw he _ => ?_, fun hr => absurd hr hn⟩
      · rw [← Option.some.inj (hslot.symm.trans hw), hv]
      · have hw' := hc w ((used_add hadd w).mpr (.inl hw))
        rw [reportedAfter_used hn hw, hold hw, he, reports_of_42 h42, lastReport_singleton, if_pos rfl,
          vps_vtoa_nwk_add hadd] at hw'
        exact (Option.some.inj hw').symm
  · intro hc w hw
    obtain ⟨h42, hfree⟩ := hc.join a ha
    have haddr : a = m.addr (2 + 15) ADDRLEN := (h8.resolve_left fun hc1 => absurd (hc1.symm.trans h42) (by decide)).2
    rw [vps_vtoa_nwk_add hadd]
    rcases (used_add hadd w).mp hw with hw | rfl
    · rw [reportedAfter_used hn hw, hold hw, reports_of_42 h42, lastReport_singleton]
      by_cases he : vps_vtoa s.z.table w = m.addr (2 + 15) ADDRLEN
      · rw [if_pos he, hc.known h42 w hw he (.inl hi), Option.some_or]
      · rw [if_neg he, Option.none_or, h w hw]
    · rw [reportedAfter_new fun hu => hnew hu.1, hvaddr, reports_of_42 h42, lastReport_singleton, if_pos haddr, hfree w hslot]

/-- An announcement does exactly if every slot with the device but the first has the address. -/
theorem current_announce (h : s.Current) (ha : joinAddr s.z m = none) (hi : s.z.includemode = false) (h8 : m.rd 8 = 0x42)
    (ht : t = vps_add_nwk s.z.table (vps_atov s.z.table (m.addr (2 + 15) ADDRLEN)) (m.addr (2 + 23) ADDRLEN2)) :
    (∀ w, Used t w → s.reportedAfter m t w = some (vps_vtoa_nwk t w)) ↔ s.StoresReports m := by
  have hn : ¬Rebuilds s.z m := fun hr => absurd (h8.symm.trans hr.2) (by decide)
  have hreported : ∀ {w}, Used s.z.table w → s.reportedAfter m t w =
      if vps_vtoa s.z.table w = m.addr (2 + 15) ADDRLEN then some (m.addr (2 + 23) ADDRLEN2) else s.reported w := by
    intro w hw
    rw [reportedAfter_used hn hw, ht, vps_vtoa_add_nwk, reports_of_42 h8, lastReport_singleton]
    split <;> rfl
  subst ht
  simp only [used_add_nwk, vps_vtoa_nwk_add_nwk]
  constructor
  · intro hc
    refine ⟨fun a hj => absurd (hj.symm.trans ha) (Option.some_ne_none _), fun _ w hw he hne => ?_, fun hr => absurd hr hn⟩
    have hne : w ≠ vps_atov s.z.table (m.addr (2 + 15) ADDRLEN) := hne.resolve_left (by rw [hi]; exact Bool.false_ne_true)
    have hw' := hc w hw
    rw [hreported hw, if_pos he, if_neg hne] at hw'
    exact (Option.some.inj hw').symm
  · intro hc w hw
    rw [hreported hw]
    by_cases he : vps_vtoa s.z.table w = m.addr (2 + 15) ADDRLEN
    · rw [if_pos he]
      by_cases hw' : w = vps_atov s.z.table (m.addr (2 + 15) ADDRLEN)
      · rw [if_pos hw']
      · rw [if_neg hw', hc.known h8 w hw he (.inr hw')]
    · -- the address goes to a slot with the device, or to slot 0, which is never used
      have hw' : w ≠ vps_atov s.z.table (m.addr (2 + 15) ADDRLEN) := by
        rintro rfl
        rcases vps_atov_spec s.z.table (m.addr (2 + 15) ADDRLEN) with ⟨_, hfound⟩ | ⟨h0, _⟩
        · exact he hfound
        · exact absurd (h0 ▸ hw.1.1) (by decide)
      rw [if_neg he, if_neg hw', h w hw]

/-- A network list does exactly if it reports one address for a device. -/
theorem current_netlist (ha : joinAddr s.z m = none) (hn : Rebuilds s.z m) (hfill : Filled t (listedDevices m netlistEntries)) :
    (∀ w, Used t w → s.reportedAfter m t w = some (vps_vtoa_nwk t w)) ↔ s.StoresReports m := by
  have h42 : m.rd 8 ≠ 0x42 := by
    rw [hn.2]
    decide
  -- a slot stands for an entry, and has its report if the list agrees with the entry
  have hslots : (∀ w, Used t w → s.reportedAfter m t w = some (vps_vtoa_nwk t w)) ↔
      ∀ d ∈ listedDevices m netlistEntries, lastReport (listedDevices m netlistEntries) d.1 = some d.2 := by
    have hnew : ∀ {w}, s.reportedAfter m t w = lastReport (listedDevices m netlistEntries) (vps_vtoa t w) := fun {w} => by
      rw [reportedAfter_new fun hu => hu.2 hn, reports_of_netlist hn]
    constructor
    · intro hc d hd
      obtain ⟨i, hi, rfl⟩ := List.mem_iff_getElem.mp hd
      have hheld := hfill.held i hi
      have hc' := hc (i + 1) ((hfill.used_iff (listedDevices_lt m) _).mpr ⟨by omega, hi⟩)
      rw [hnew] at hc'
      rwa [← hheld]
    · intro hc w hw
      obtain ⟨i, hi, rfl, hfst, hsnd⟩ := hfill.eq_getElem (listedDevices_lt m) hw
      rw [hnew, hfst, hsnd]
      exact hc _ (List.getElem_mem hi)
  rw [hslots, lastReport_eq_iff]
  exact ⟨fun hc => ⟨fun a hj => absurd (hj.symm.trans ha) (Option.some_ne_none _), fun h8 => absurd h8 h42, fun _ => hc⟩,
    fun hc => hc.listed hn⟩

/-- What a frame leaves, by what it does to the table. -/
theorem current_frame (h : s.Current) (hc : TableChange s.z m t) :
    (∀ w, Used t w → s.reportedAfter m t w = some (vps_vtoa_nwk t w)) ↔ s.StoresReports m := by
  cases hc with
  | join ha hadd => exact current_join h ha hadd
  | announce ha hi h8 ht => exact current_announce h ha hi h8 ht
  | netlist ha hn hadd => exact current_netlist ha hn (filled_of_addEntries hadd)
  | none ha h8 hn ht =>
    subst ht
    refine iff_of_true (fun w hw => ?_)
      ⟨fun a hj => absurd (hj.symm.trans ha) (Option.some_ne_none _), fun h42 => absurd h42 h8, fun hr => absurd hr hn⟩
    rw [reportedAfter_used hn hw, reports_of_other h8 hn]
    exact h w hw

end frame

/-- A turn keeps the addresses current exactly if it meets the condition. -/
theorem current_step {s s' : Reporting} {i : Nat × Msg} (h : s.Current) (hs : s.step i = some s') :
    s'.Current ↔ s.FrameStores i := by
  obtain ⟨port, m⟩ := i
  obtain ⟨z', hz, rfl⟩ := Option.map_eq_some_iff.mp hs
  unfold Current FrameStores
  by_cases h1 : port = In1
  · subst h1
    simp only [if_true, true_implies]
    exact current_frame h (tableChange_of_step hz)
  · rw [if_neg h1, table_of_ne_in1 hz h1]
    exact iff_of_true h fun hc => absurd hc h1

end Reporting

open Reporting in
/-- In every run from the empty table, no network address is stale, and a slot without one is neither matched nor asked, exactly
when every address that a frame reports is in each slot with its device after the turn. -/
theorem neverStale_always_iff (gwieeeaddr : Addr ADDRLEN) (is : List (Nat × Msg)) :
    Always Reporting.step NeverStale (start gwieeeaddr) is ↔ Along Reporting.step FrameStores (start gwieeeaddr) is := by
  have hflag : ∀ {s i s'}, Reporting.step s i = some s' → Flagged s.z.table → Flagged s'.z.table := fun hs ht => by
    obtain ⟨z', hz, rfl⟩ := Option.map_eq_some_iff.mp hs
    exact flagged_step hz ht
  exact always_iff_along (I := fun s => Flagged s.z.table ∧ s.Current) (fun _ h => (neverStale_iff h.1).mpr h.2)
    (fun _ _ _ h hc hs => ⟨hflag hs h.1, (current_step h.2 hs).mpr hc⟩)
    (fun _ _ _ h hs hp => (current_step h.2 hs).mp ((neverStale_iff (hflag hs h.1)).mp hp))
    ⟨fun v hv => absurd hv (not_used_clear _ v), fun v hv => absurd hv (not_used_clear _ v)⟩

/-- A device joins by the long form, and reports the network address `07 07`. -/
def joinAnnouncing : List (Nat × Msg) := [(In2, message 0 (ascii "INCLUDE_REQ")), (In1, joinMsg)]

/-- Its slot has two zeros. -/
theorem not_neverStale_always :
    ¬∀ gwieeeaddr is, Always Reporting.step Reporting.NeverStale (Reporting.start gwieeeaddr) is := by
  intro h
  have hrun : (run Reporting.step (Reporting.start VpsEntry.zero.addr) joinAnnouncing).map
      (fun s => (decide (Used s.z.table 1), s.reported 1, (vps_vtoa_nwk s.z.table 1).1)) =
        some (true, some ⟨[0x07, 0x07], rfl⟩, [0x00, 0x00]) := by
    decide +kernel
  obtain ⟨s, hs, he⟩ := Option.map_eq_some_iff.mp hrun
  simp only [Prod.mk.injEq, decide_eq_true_eq] at he
  obtain ⟨hu, hr, hz⟩ := he
  have hn := always_iff_beginning.mp (h _ joinAnnouncing) joinAnnouncing [] s (List.append_nil _).symm hs
  rw [hn.last 1 _ hu hr] at hz
  exact absurd hz (by decide)

end HomeBridge
