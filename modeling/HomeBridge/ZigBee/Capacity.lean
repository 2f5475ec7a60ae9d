import Mathlib.Data.List.Find
import HomeBridge.ZigBee.Wiring

/-!
# The table as a bounded map

Seen from its callers the table is a map from ports to devices, with ten places: an address is added at the lowest free one, and
there is a result for the case that none is free. `vps_add` does not give it: its loop goes up to the last unsigned char, and with
every slot used it leaves `addrs` at index `MAXVPS`. So the table is this map exactly as long as nothing is added to a full one.
-/

namespace HomeBridge

open CMem Runs

/-! ## The loop of `vps_add` -/

/-- The loop from index `i` on, for `n` more turns: the indices of `addrs` it reads, and what is returned, nothing where an index is
not one of `addrs`. The index is an unsigned char, and the loop ends when it wraps. -/
def addLoop (t : VpsTable) (addr : Addr ADDRLEN) : Nat → UInt8 → List Nat × Option (Nat × VpsTable)
  | 0, _ => ([], some (0, t))
  | n + 1, i =>
    if i = 0 then ([], some (0, t))
    else if MAXVPS ≤ i.toNat then ([i.toNat], none)
    else if (t i.toNat).used = 0 then
      ([i.toNat], some (i.toNat, Function.update t i.toNat { t i.toNat with used := 1, addr := addr }))
    else
      let (indices, r) := addLoop t addr n (i + 1)
      (i.toNat :: indices, r)

/-- An index of the table as an unsigned char. -/
theorem index_ofNat {i : Nat} (h1 : 1 ≤ i) (h2 : i < MAXVPS) : (UInt8.ofNat i).toNat = i ∧ UInt8.ofNat i ≠ 0 := by
  have hi : (UInt8.ofNat i).toNat = i := by
    rw [UInt8.toNat_ofNat']
    simp only [MAXVPS] at h2
    omega
  refine ⟨hi, fun he => ?_⟩
  rw [he] at hi
  exact absurd hi.symm (Nat.ne_of_gt h1)

section loop

variable {t : VpsTable} {addr : Addr ADDRLEN}

/-- One turn on a slot that is used. -/
theorem addLoop_used {n i : Nat} (h1 : 1 ≤ i) (h2 : i < MAXVPS) (hu : (t i).used ≠ 0) : addLoop t addr (n + 1) (UInt8.ofNat i) =
    (i :: (addLoop t addr n (UInt8.ofNat (i + 1))).1, (addLoop t addr n (UInt8.ofNat (i + 1))).2) := by
  obtain ⟨hi, h0⟩ := index_ofNat h1 h2
  have hs : UInt8.ofNat i + 1 = UInt8.ofNat (i + 1) := (UInt8.ofNat_add i 1).symm
  rw [addLoop, if_neg h0, hi, if_neg (Nat.not_le.mpr h2), if_neg hu, hs]

/-- The turn on a slot that is free. -/
theorem addLoop_free {n i : Nat} (h1 : 1 ≤ i) (h2 : i < MAXVPS) (hu : (t i).used = 0) : addLoop t addr (n + 1) (UInt8.ofNat i) =
    ([i], some (i, Function.update t i { t i with used := 1, addr := addr })) := by
  obtain ⟨hi, h0⟩ := index_ofNat h1 h2
  rw [addLoop, if_neg h0, hi, if_neg (Nat.not_le.mpr h2), if_pos hu]

/-- Where the slots from `i` on are used up to `j`, the loop comes to `j`. -/
theorem addLoop_skip {j : Nat} (hj : j ≤ MAXVPS) : ∀ {k n i : Nat}, i + k = j → 1 ≤ i → (∀ v, i ≤ v → v < j → (t v).used ≠ 0) →
    addLoop t addr (n + k) (UInt8.ofNat i) =
      (List.range' i k ++ (addLoop t addr n (UInt8.ofNat j)).1, (addLoop t addr n (UInt8.ofNat j)).2) := by
  intro k
  induction k with
  | zero =>
    rintro n i rfl _ _
    rfl
  | succ k ih =>
    intro n i hij h1 hu
    rw [← Nat.add_assoc, addLoop_used h1 (by omega) (hu i (Nat.le_refl i) (by omega)),
      ih (show i + 1 + k = j by omega) (by omega) fun v hv => hu v (by omega)]
    rfl

/-- With a free slot the loop stops there. -/
theorem addLoop_of_free {i : Nat} (h : freeSlot t = some i) : addLoop t addr 255 1 = (List.range' 1 i, vps_add t addr) := by
  obtain ⟨hu, ⟨h1, h2⟩, hmin⟩ := freeSlot_eq_some h
  have hle : i ≤ 255 := by
    simp only [MAXVPS] at h2
    omega
  have hskip := @addLoop_skip t addr i (Nat.le_of_lt h2) (i - 1) (254 - (i - 1) + 1) 1 (by omega) (Nat.le_refl 1) hmin
  rw [addLoop_free h1 h2 hu, show 254 - (i - 1) + 1 + (i - 1) = 255 by omega] at hskip
  have hrange : List.range' 1 (i - 1) ++ [i] = List.range' 1 i := by
    have := List.range'_1_concat (s := 1) (n := i - 1)
    rw [show 1 + (i - 1) = i by omega, Nat.sub_add_cancel h1] at this
    exact this.symm
  rw [vps_add, h]
  exact hskip.trans (by rw [hrange]; rfl)

/-- With a full table it reads behind `addrs`. -/
theorem addLoop_of_full (h : freeSlot t = none) : addLoop t addr 255 1 = (List.range' 1 MAXVPS, none) := by
  have hskip := @addLoop_skip t addr MAXVPS (Nat.le_refl MAXVPS) 10 245 1 rfl (Nat.le_refl 1) (freeSlot_eq_none.mp h)
  exact hskip

/-- What is returned, in any case. -/
theorem addLoop_snd : (addLoop t addr 255 1).2 = vps_add t addr := by
  cases h : freeSlot t with
  | none => rw [addLoop_of_full h, vps_add, h]; rfl
  | some i => rw [addLoop_of_free h]

end loop

/-! ## The map it stands for -/

/-- A slot of the table that is not in use. -/
def IsFree (t : VpsTable) (v : Nat) : Prop := (1 ≤ v ∧ v < MAXVPS) ∧ (t v).used = 0

/-- `vps_add` on a table: it reads entries of the table only, and it adds the address at the lowest free slot and changes nothing else,
or returns 0 and changes nothing when there is none. -/
structure BoundedAdd (t : VpsTable) (addr : Addr ADDRLEN) : Prop where
  indices : ∀ i ∈ (addLoop t addr 255 1).1, 1 ≤ i ∧ i < MAXVPS
  added : (∃ v, IsFree t v) → ∃ v t', (addLoop t addr 255 1).2 = some (v, t') ∧ IsFree t v ∧ (∀ w, IsFree t w → v ≤ w) ∧
    Used t' v ∧ vps_vtoa t' v = addr ∧ vps_vtoa_nwk t' v = vps_vtoa_nwk t v ∧ ∀ w, w ≠ v → t' w = t w
  full : (¬∃ v, IsFree t v) → (addLoop t addr 255 1).2 = some (0, t)

/-- What the table is for: a device for each port, or none. -/
abbrev PortMap : Type := Nat → Option (Addr ADDRLEN)

/-- The map a table stands for. -/
def devices (t : VpsTable) : PortMap := fun v => if Used t v then some (vps_vtoa t v) else none

/-- An operation on the table. -/
inductive TableOp where
  | vps_add (addr : Addr ADDRLEN)
  | vps_del (vps : Nat)
  | vps_add_nwk (vps : Nat) (addr : Addr ADDRLEN2)
  | clearvpstable

/-- What it does to the table; nothing where it reads behind `addrs`. -/
def TableOp.step (t : VpsTable) : TableOp → Option VpsTable
  | .vps_add addr => (HomeBridge.vps_add t addr).map Prod.snd
  | .vps_del vps => if vps < MAXVPS then some (HomeBridge.vps_del t vps) else none
  | .vps_add_nwk vps addr => if vps < MAXVPS then some (HomeBridge.vps_add_nwk t vps addr) else none
  | .clearvpstable => some (HomeBridge.clearvpstable t)

/-- The lowest port without a device. -/
def PortMap.lowest (m : PortMap) : Option Nat := (List.range' 1 (MAXVPS - 1)).find? (fun v => (m v).isNone)

/-- What it means for the map. -/
def PortMap.step (m : PortMap) : TableOp → PortMap
  | .vps_add addr => match m.lowest with
    | some v => Function.update m v (some addr)
    | none => m
  | .vps_del vps => Function.update m vps none
  | .vps_add_nwk _ _ => m
  | .clearvpstable => fun _ => none

/-- The map after the operations. -/
def PortMap.after (ops : List TableOp) : PortMap := ops.foldl PortMap.step fun _ => none

section refine

variable {t t' : VpsTable} {op : TableOp}

theorem devices_isNone {v : Nat} (h1 : 1 ≤ v) (h2 : v < MAXVPS) : (devices t v).isNone = true ↔ (t v).used = 0 := by
  unfold devices
  by_cases hu : Used t v
  · rw [if_pos hu]
    exact iff_of_false Bool.false_ne_true hu.2
  · rw [if_neg hu]
    exact iff_of_true rfl (by_contra fun h0 => hu ⟨⟨h1, h2⟩, h0⟩)

/-- The lowest port without a device is the lowest free slot. -/
theorem lowest_devices : (devices t).lowest = freeSlot t := by
  refine List.find?_congr fun v hv => ?_
  rw [List.mem_range'_1] at hv
  have h := devices_isNone (t := t) hv.1 (show v < MAXVPS by simp only [MAXVPS] at hv ⊢; omega)
  rw [Bool.eq_iff_iff, h, beq_iff_eq]

/-- Every operation on the table does to the map what it should. -/
theorem devices_step (h : op.step t = some t') : devices t' = (devices t).step op := by
  funext w
  cases op with
  | vps_add addr =>
    obtain ⟨⟨v, t₁⟩, hadd, rfl⟩ := Option.map_eq_some_iff.mp h
    obtain ⟨i, hi, he⟩ := Option.map_eq_some_iff.mp hadd
    obtain rfl : i = v := congrArg Prod.fst he
    simp only [PortMap.step, lowest_devices, hi, devices, used_add hadd, vps_vtoa_add hadd]
    by_cases hw : w = i
    · subst hw
      rw [if_pos (.inr rfl), if_pos rfl, Function.update_self]
    · simp only [hw, or_false, if_false, Function.update_of_ne hw]
      rfl
  | vps_del vps =>
    obtain ⟨_, he⟩ := Option.ite_none_right_eq_some.mp h
    cases he
    by_cases hw : w = vps
    · subst hw
      have hu : ¬Used (HomeBridge.vps_del t w) w := fun hu => hu.2 (by simp [HomeBridge.vps_del])
      rw [PortMap.step, Function.update_self, devices, if_neg hu]
    · simp only [PortMap.step, devices, Used, vps_vtoa, HomeBridge.vps_del, Function.update_of_ne hw]
  | vps_add_nwk vps addr =>
    obtain ⟨_, he⟩ := Option.ite_none_right_eq_some.mp h
    cases he
    simp only [PortMap.step, devices, used_add_nwk, vps_vtoa_add_nwk]
  | clearvpstable =>
    cases h
    exact if_neg (not_used_clear t w)

/-- So does every sequence of operations. -/
theorem devices_run {ops : List TableOp} (h : run TableOp.step genvpstable ops = some t) : devices t = PortMap.after ops := by
  have hrun : ∀ {ops : List TableOp} {s : VpsTable}, run TableOp.step s ops = some t → devices t = ops.foldl PortMap.step (devices s) := by
    intro ops
    induction ops with
    | nil =>
      intro s h
      cases h
      rfl
    | cons op ops ih =>
      intro s h
      obtain ⟨s', h1, h2⟩ := run_cons_eq_some.mp h
      rw [ih h2, devices_step h1]
      rfl
  have h0 : devices genvpstable = fun _ => none := funext fun v => if_neg fun hu => hu.2 rfl
  rw [hrun h, h0, PortMap.after]

end refine

/-! ## When it is the map -/

theorem exists_isFree_iff {t : VpsTable} : (∃ v, IsFree t v) ↔ freeSlot t ≠ none := by
  rw [ne_eq, freeSlot_eq_none, not_forall]
  constructor
  · rintro ⟨v, ⟨h1, h2⟩, h0⟩
    exact ⟨v, fun h => h h1 h2 h0⟩
  · rintro ⟨v, hv⟩
    by_contra hno
    exact hv fun h1 h2 h0 => hno ⟨v, ⟨h1, h2⟩, h0⟩

/-- `vps_add` behaves exactly when a slot is free. -/
theorem boundedAdd_iff {t : VpsTable} {addr : Addr ADDRLEN} : BoundedAdd t addr ↔ ∃ v, IsFree t v := by
  constructor
  · intro h
    by_contra hno
    have hnone : freeSlot t = none := by
      by_contra hsome
      exact hno (exists_isFree_iff.mpr hsome)
    have hfull := h.full hno
    rw [addLoop_of_full hnone] at hfull
    exact Option.some_ne_none _ hfull.symm
  · intro h
    obtain ⟨i, hi⟩ := Option.ne_none_iff_exists'.mp (exists_isFree_iff.mp h)
    obtain ⟨h0, hr, hmin⟩ := freeSlot_eq_some hi
    have hadd : vps_add t addr = some (i, Function.update t i { t i with used := 1, addr := addr }) := by rw [vps_add, hi]; rfl
    refine ⟨fun j hj => ?_, fun _ => ⟨i, _, addLoop_snd.trans hadd, ⟨hr, h0⟩, fun w hw => ?_, ?_⟩, fun hno => absurd h hno⟩
    · rw [addLoop_of_free hi, List.mem_range'_1] at hj
      omega
    · exact Nat.le_of_not_lt fun hlt => hmin w hw.1.1 hlt hw.2
    · refine ⟨(used_add hadd i).mpr (.inr rfl), by rw [vps_vtoa_add hadd, if_pos rfl], ?_, fun w hw => ?_⟩
      · simp only [vps_vtoa_nwk, Function.update_self]
      · exact Function.update_of_ne hw ..

/-- Every call of `vps_add` in a sequence of operations from the fresh table behaves. -/
def AddsBehave (ops : List TableOp) : Prop := ∀ pre addr post t, ops = pre ++ .vps_add addr :: post →
  run TableOp.step genvpstable pre = some t → BoundedAdd t addr

/-- Every call of `vps_add` that is reached comes while the operations before it leave a port without a device. -/
def AddsFindRoom (ops : List TableOp) : Prop := ∀ pre addr post, ops = pre ++ .vps_add addr :: post →
  (run TableOp.step genvpstable pre).isSome → ∃ v, (1 ≤ v ∧ v < MAXVPS) ∧ PortMap.after pre v = none

/-- A table's free slots are the ports without a device. -/
theorem isFree_iff {t : VpsTable} {v : Nat} : IsFree t v ↔ (1 ≤ v ∧ v < MAXVPS) ∧ devices t v = none := by
  refine and_congr_right fun hr => ?_
  rw [← devices_isNone hr.1 hr.2, Option.isNone_iff_eq_none]

theorem addsBehave_iff (ops : List TableOp) : AddsBehave ops ↔ AddsFindRoom ops := by
  constructor
  · intro h pre addr post hops hrun
    obtain ⟨t, ht⟩ := Option.isSome_iff_exists.mp hrun
    obtain ⟨v, hv⟩ := boundedAdd_iff.mp (h pre addr post t hops ht)
    exact ⟨v, by rw [← devices_run ht]; exact isFree_iff.mp hv⟩
  · intro h pre addr post t hops ht
    obtain ⟨v, hv⟩ := h pre addr post hops (by rw [ht]; rfl)
    exact boundedAdd_iff.mpr ⟨v, isFree_iff.mpr (by rwa [devices_run ht])⟩

/-! ## The caller -/

/-- A join while no slot is free stores no address and confirms nothing. -/
def JoinRefused (z : ZigBee) (m : Msg) : Prop := joinAddr z m ≠ none → (¬∃ v, IsFree z.table v) →
  ∃ z' outs, ZigBeeTask z (In1, m) = some (z', outs) ∧ z'.table = z.table ∧ ∀ m', .broadcast Out2 m' ∉ outs

/-- A join in a full table leaves the table. -/
theorem zigBeeTask_join_full {z : ZigBee} {m : Msg} (hj : joinAddr z m ≠ none) (hfull : freeSlot z.table = none) :
    ZigBeeTask z (In1, m) = none := by
  have hnone : ∀ t : Turn, t.z.table = z.table → ∀ a, joinDevice t a = none := fun t ht a => by
    rw [joinDevice, vps_add, ht, hfull]
    rfl
  have h8 : (radioTurn z m).dataPtr.rd 8 = m.rd 8 := radioTurn_rd z m 7
  have h9 : (radioTurn z m).dataPtr.rd 9 = m.rd 9 := radioTurn_rd z m 8
  have h10 : (radioTurn z m).dataPtr.rd 10 = m.rd 10 := radioTurn_rd z m 9
  rw [zigBeeTask_in1]
  by_cases hs : z.includemode = true ∧ m.rd 8 = 0xc1 ∧ m.rd 9 = 0x20 ∧ m.rd 10 = 0xf1
  · rw [radio_joinShort (by rwa [h8, h9, h10]), hnone _ rfl]
    rfl
  · have hl : z.includemode = true ∧ m.rd 8 = 0x42 := by
      by_contra hno
      exact hj ((if_neg hs).trans (if_neg hno))
    rw [radio_joinAnnounced hl.1 (h8.trans hl.2), hnone _ (gatewayAddress_table _)]
    rfl

theorem joinRefused_iff (z : ZigBee) (m : Msg) : JoinRefused z m ↔ (joinAddr z m ≠ none → ∃ v, IsFree z.table v) := by
  constructor
  · intro h hj
    by_contra hno
    have hfull : freeSlot z.table = none := by
      by_contra hsome
      exact hno (exists_isFree_iff.mpr hsome)
    obtain ⟨z', outs, he, _⟩ := h hj hno
    rw [zigBeeTask_join_full hj hfull] at he
    exact Option.some_ne_none _ he.symm
  · intro h hj hno
    exact absurd (h hj) hno

/-- For every sequence of operations from the fresh table, each call of `vps_add` behaves as on a bounded map exactly when each comes
while one of the ports 1 to 10 has no device; and the caller refuses a join in a full table exactly when there is none. -/
theorem boundedMap_iff (ops : List TableOp) (z : ZigBee) (m : Msg) : (AddsBehave ops ↔ AddsFindRoom ops) ∧
    (JoinRefused z m ↔ (joinAddr z m ≠ none → ∃ v, IsFree z.table v)) :=
  ⟨addsBehave_iff ops, joinRefused_iff z m⟩

/-- An eleventh device. -/
def elevenDevices : List TableOp := List.replicate 11 (.vps_add VpsEntry.zero.addr)

/-- There is no slot for it, and the loop reads `addrs[11]`. -/
theorem not_addsBehave : ¬∀ ops, AddsBehave ops := by
  intro h
  have hrun : (run TableOp.step genvpstable (elevenDevices.take 10)).map
      (fun t => (addLoop t VpsEntry.zero.addr 255 1).1.contains 11) = some true := by
    decide +kernel
  obtain ⟨t, ht, hc⟩ := Option.map_eq_some_iff.mp hrun
  have hb := h elevenDevices _ _ [] t rfl ht
  exact absurd (hb.indices 11 (List.contains_iff_mem.mp hc)).2 (by decide)

end HomeBridge
