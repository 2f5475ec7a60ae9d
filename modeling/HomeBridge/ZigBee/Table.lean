import Mathlib.Data.List.Nodup
import HomeBridge.Lib.Run
import HomeBridge.ZigBee.Radio

/-!
# One slot for a device

The table is meant to be a map both ways. What fills it (two forms of a join, and a network list) never asks whether the address
is there already; an announcement, which does, shows how it is done. So the table is a map both ways in every state of a run
exactly when each device that joins is new to the table and no network list names a device twice.
-/

namespace HomeBridge

open CMem Runs

/-! ## Tables -/

/-- No two used slots hold the same address. -/
def Distinct (t : VpsTable) : Prop := ∀ v w, Used t v → Used t w → vps_vtoa t v = vps_vtoa t w → v = w

/-- A used slot holds the address. -/
def Holds (t : VpsTable) (a : Addr ADDRLEN) : Prop := ∃ v, Used t v ∧ vps_vtoa t v = a

/-- `vps_atov` inverts `vps_vtoa` where the addresses are distinct. -/
theorem Distinct.vps_atov {t : VpsTable} (h : Distinct t) {v : Nat} (hv : Used t v) : vps_atov t (vps_vtoa t v) = v :=
  vps_atov_of_unique hv rfl fun _ hw he => h _ _ hw hv he

/-- An address is in the table exactly if it has a port. -/
theorem holds_iff_vps_atov {t : VpsTable} {a : Addr ADDRLEN} : Holds t a ↔ vps_atov t a ≠ 0 := by
  rw [ne_eq, vps_atov_eq_zero]
  constructor
  · rintro ⟨v, hv, he⟩ hno
    exact hno v hv he
  · intro h
    by_contra hno
    exact h fun v hv he => hno ⟨v, hv, he⟩

section add

variable {t t' : VpsTable} {a : Addr ADDRLEN} {i : Nat}

/-- An addition takes one slot into use. -/
theorem used_add (h : vps_add t a = some (i, t')) (v : Nat) : Used t' v ↔ Used t v ∨ v = i := by
  obtain ⟨j, hj, he⟩ := Option.map_eq_some_iff.mp h
  cases he
  obtain ⟨_, hr, _⟩ := freeSlot_eq_some hj
  unfold Used
  by_cases hv : v = i
  · subst hv
    simp only [Function.update_self, or_true, iff_true]
    exact ⟨hr, by decide⟩
  · simp only [Function.update_of_ne hv, hv, or_false]

/-- It stores the address there, and leaves the others. -/
theorem vps_vtoa_add (h : vps_add t a = some (i, t')) (v : Nat) :
    vps_vtoa t' v = if v = i then a else vps_vtoa t v := by
  obtain ⟨j, hj, he⟩ := Option.map_eq_some_iff.mp h
  cases he
  unfold vps_vtoa
  by_cases hv : v = i
  · subst hv
    rw [Function.update_self, if_pos rfl]
  · rw [Function.update_of_ne hv, if_neg hv]

/-- The slot was free before. -/
theorem not_used_add (h : vps_add t a = some (i, t')) : ¬Used t i := by
  obtain ⟨j, hj, he⟩ := Option.map_eq_some_iff.mp h
  cases he
  exact fun hu => hu.2 (freeSlot_eq_some hj).1

/-- What an added address adds. -/
theorem holds_add (h : vps_add t a = some (i, t')) (b : Addr ADDRLEN) : Holds t' b ↔ Holds t b ∨ b = a := by
  constructor
  · rintro ⟨v, hv, he⟩
    rw [vps_vtoa_add h] at he
    split at he
    · exact .inr he.symm
    · rename_i hvi
      exact .inl ⟨v, ((used_add h v).mp hv).resolve_right hvi, he⟩
  · rintro (⟨v, hv, he⟩ | rfl)
    · refine ⟨v, (used_add h v).mpr (.inl hv), ?_⟩
      rw [vps_vtoa_add h, if_neg fun hvi : v = i => not_used_add h (hvi ▸ hv), he]
    · exact ⟨i, (used_add h i).mpr (.inr rfl), by rw [vps_vtoa_add h, if_pos rfl]⟩

/-- After an addition the addresses are distinct exactly when they were before and the new one was not among them. -/
theorem distinct_add (h : vps_add t a = some (i, t')) : Distinct t' ↔ Distinct t ∧ ¬Holds t a := by
  have hne : ∀ {v}, Used t v → v ≠ i := fun hv hvi => not_used_add h (hvi ▸ hv)
  have hi : Used t' i := (used_add h i).mpr (.inr rfl)
  have hai : vps_vtoa t' i = a := by rw [vps_vtoa_add h, if_pos rfl]
  have hold : ∀ {v}, Used t v → Used t' v ∧ vps_vtoa t' v = vps_vtoa t v := fun {v} hv =>
    ⟨(used_add h v).mpr (.inl hv), by rw [vps_vtoa_add h, if_neg (hne hv)]⟩
  constructor
  · intro hd
    refine ⟨fun v w hv hw he => ?_, fun ⟨v, hv, he⟩ => ?_⟩
    · exact hd v w (hold hv).1 (hold hw).1 (by rw [(hold hv).2, (hold hw).2, he])
    · exact hne hv (hd v i (hold hv).1 hi (by rw [(hold hv).2, he, hai]))
  · rintro ⟨hd, hno⟩ v w hv hw he
    rcases (used_add h v).mp hv with hv | rfl <;> rcases (used_add h w).mp hw with hw | rfl
    · exact hd v w hv hw (by rw [← (hold hv).2, ← (hold hw).2, he])
    · exact absurd ⟨v, hv, by rw [← (hold hv).2, he, hai]⟩ hno
    · exact absurd ⟨w, hw, by rw [← (hold hw).2, ← he, hai]⟩ hno
    · rfl

end add

/-- A network address changes neither the used slots nor their addresses. -/
@[simp] theorem used_add_nwk (t : VpsTable) (v : Nat) (n : Addr ADDRLEN2) (w : Nat) : Used (vps_add_nwk t v n) w ↔ Used t w := by
  unfold Used vps_add_nwk
  by_cases h : w = v
  · subst h
    rw [Function.update_self]
  · rw [Function.update_of_ne h]

/-- A network address is stored beside the address. -/
@[simp] theorem vps_vtoa_add_nwk (t : VpsTable) (v : Nat) (n : Addr ADDRLEN2) (w : Nat) :
    vps_vtoa (vps_add_nwk t v n) w = vps_vtoa t w := by
  unfold vps_vtoa vps_add_nwk
  by_cases h : w = v
  · subst h
    rw [Function.update_self]
  · rw [Function.update_of_ne h]

@[simp] theorem distinct_add_nwk (t : VpsTable) (v : Nat) (n : Addr ADDRLEN2) : Distinct (vps_add_nwk t v n) ↔ Distinct t := by
  simp only [Distinct, used_add_nwk, vps_vtoa_add_nwk]

@[simp] theorem holds_add_nwk (t : VpsTable) (v : Nat) (n : Addr ADDRLEN2) (a : Addr ADDRLEN) :
    Holds (vps_add_nwk t v n) a ↔ Holds t a := by
  simp only [Holds, used_add_nwk, vps_vtoa_add_nwk]

/-- In a cleared table no slot is used. -/
theorem not_used_clear (t : VpsTable) (v : Nat) : ¬Used (clearvpstable t) v := fun h => h.2 rfl

/-! ## A network list -/

/-- The addresses of the entries present in a network list. -/
def entryAddrs (m : Msg) (entries : List (Nat × List UInt8)) : List (Addr ADDRLEN) :=
  (entries.filter (fun e => m.rd (2 + e.1) != 0xFF)).map (fun e => m.addr (2 + e.1) ADDRLEN)

/-- After the entries are added the addresses are distinct exactly when they were before, the list names none twice, and none of
it was there before. -/
theorem distinct_addEntries (m : Msg) : ∀ {entries : List (Nat × List UInt8)} {t t' : VpsTable} {buffer buffer' : List UInt8},
    addEntries m entries (t, buffer) = some (t', buffer') →
      (Distinct t' ↔ Distinct t ∧ (entryAddrs m entries).Nodup ∧ ∀ a ∈ entryAddrs m entries, ¬Holds t a)
  | [], t, t', _, _, h => by
    cases h
    exact ⟨fun hd => ⟨hd, List.nodup_nil, nofun⟩, And.left⟩
  | (start, label) :: entries, t, t', buffer, buffer', h => by
    by_cases hff : m.rd (2 + start) = 0xFF
    · rw [addEntries, if_neg (not_not_intro hff)] at h
      have hsame : entryAddrs m ((start, label) :: entries) = entryAddrs m entries := by simp [entryAddrs, hff]
      rw [hsame]
      exact distinct_addEntries m h
    · rw [addEntries, if_pos hff, Option.bind_eq_some_iff] at h
      obtain ⟨⟨v, t₁⟩, hadd, h⟩ := h
      have hcons : entryAddrs m ((start, label) :: entries) = m.addr (2 + start) ADDRLEN :: entryAddrs m entries := by
        simp [entryAddrs, hff]
      rw [hcons, distinct_addEntries m h, List.nodup_cons]
      simp only [distinct_add_nwk, holds_add_nwk, distinct_add hadd, holds_add hadd, not_or, List.forall_mem_cons]
      constructor
      · rintro ⟨⟨hd, hno⟩, hnodup, hall⟩
        exact ⟨hd, ⟨fun hmem => (hall _ hmem).2 rfl, hnodup⟩, hno, fun a ha => (hall a ha).1⟩
      · rintro ⟨hd, ⟨hnot, hnodup⟩, hno, hall⟩
        exact ⟨⟨hd, hno⟩, hnodup, fun a ha => ⟨hall a ha, fun he => hnot (he ▸ ha)⟩⟩

/-- The first byte is no part of the list. -/
theorem addEntries_set_zero (m : Msg) (b : UInt8) (entries : List (Nat × List UInt8)) :
    ∀ acc, addEntries (m.set 0 b) entries acc = addEntries m entries acc := by
  induction entries with
  | nil =>
    intro acc
    rfl
  | cons e entries ih =>
    intro acc
    obtain ⟨start, label⟩ := e
    have h1 : (m.set 0 b).rd (2 + start) = m.rd (2 + start) := by rw [Msg.rd_set, if_neg (by omega)]
    have h2 : ∀ k n, (m.set 0 b).addr (2 + k) n = m.addr (2 + k) n := fun k n =>
      Subtype.ext (m.bytes_set_disjoint b (.inr (by omega)))
    rw [addEntries, addEntries, h1, h2, h2]
    simp only [ih]

/-- A table rebuilt from a network list has distinct addresses exactly when the list names none twice. -/
theorem distinct_rebuilt {m : Msg} {t t' : VpsTable} {buffer : List UInt8}
    (h : addEntries m netlistEntries (clearvpstable t, []) = some (t', buffer)) :
    Distinct t' ↔ (entryAddrs m netlistEntries).Nodup := by
  rw [distinct_addEntries m h]
  refine ⟨fun hd => hd.2.1, fun hn => ⟨fun v _ hv => absurd hv (not_used_clear t v), hn, ?_⟩⟩
  rintro a _ ⟨v, hv, _⟩
  exact not_used_clear t v hv

/-! ## What a turn does to the table -/

section turn

variable {t t' : Turn}

/-- What the commands on port 0 leave alone. -/
structure Turn.Kept (t t' : Turn) : Prop where
  table : t'.z.table = t.z.table
  upper : t'.do_broadcast_to_upperlayers = t.do_broadcast_to_upperlayers
  off : t'.dataPtr.off = t.dataPtr.off

/-- Two commands leave alone what each of them does. -/
theorem Turn.Kept.trans {t'' : Turn} (h : t.Kept t') (h' : t'.Kept t'') : t.Kept t'' :=
  ⟨h'.table.trans h.table, h'.upper.trans h.upper, h'.off.trans h.off⟩

/-- The first four keep their block. -/
theorem getdescReq_kept (t : Turn) : t.Kept (getdescReq (xaddstopReq (includeReq (netlistReq t)))) ∧
    (getdescReq (xaddstopReq (includeReq (netlistReq t)))).freed = t.freed := by
  have h1 : ∀ t : Turn, t.Kept (netlistReq t) ∧ (netlistReq t).freed = t.freed := fun t => by
    unfold netlistReq
    split <;> exact ⟨⟨rfl, rfl, rfl⟩, rfl⟩
  have h2 : ∀ t : Turn, t.Kept (includeReq t) ∧ (includeReq t).freed = t.freed := fun t => by
    unfold includeReq
    split <;> exact ⟨⟨rfl, rfl, rfl⟩, rfl⟩
  have h3 : ∀ t : Turn, t.Kept (xaddstopReq t) ∧ (xaddstopReq t).freed = t.freed := fun t => by
    unfold xaddstopReq
    split <;> exact ⟨⟨rfl, rfl, rfl⟩, rfl⟩
  have h4 : ∀ t : Turn, t.Kept (getdescReq t) ∧ (getdescReq t).freed = t.freed := fun t => by
    unfold getdescReq
    split <;> exact ⟨⟨rfl, rfl, rfl⟩, rfl⟩
  exact ⟨(((h1 _).1.trans (h2 _).1).trans (h3 _).1).trans (h4 _).1, by rw [(h4 _).2, (h3 _).2, (h2 _).2, (h1 _).2]⟩

/-- All five leave the table, the flag and the pointer alone. -/
theorem gatewayCommand_kept (t : Turn) : t.Kept (gatewayCommand t) := by
  have h5 : ∀ t : Turn, t.Kept (xcludeReq t) := fun t => by
    unfold xcludeReq
    split <;> exact ⟨rfl, rfl, rfl⟩
  obtain ⟨h, _⟩ := getdescReq_kept { t with do_broadcast_to_serial := true }
  have h : t.Kept _ := ⟨h.table, h.upper, h.off⟩
  exact h.trans (h5 _)

/-- What a command for a device leaves alone. -/
theorem deviceCommand_kept (h : deviceCommand t = some t') :
    t'.z.table = t.z.table ∧ t'.dataPtr.off = t.dataPtr.off ∧ t'.freed = t.freed := by
  simp only [deviceCommand] at h
  repeat' split at h
  all_goals cases h
  all_goals exact ⟨rfl, rfl, rfl⟩

/-- A message from the upper layers is a command on port 0, one for a device, or for a slot that is not in use. -/
theorem serviceUpperLayers_cases (h : serviceUpperLayers t = some t') :
    t.dataPtr.vps = 0 ∧ gatewayCommand t = t' ∨
      (t.dataPtr.vps ≠ 0 ∧ t.dataPtr.vps < MAXVPS) ∧
        (check_valid_vps t.z.table t.dataPtr.vps = true ∧ deviceCommand t = some t' ∨
          check_valid_vps t.z.table t.dataPtr.vps = false ∧ invalidVps t = t') := by
  by_cases h0 : t.dataPtr.vps = 0
  · rw [serviceUpperLayers_gateway h0] at h
    exact .inl ⟨h0, Option.some.inj h⟩
  by_cases hmax : MAXVPS ≤ t.dataPtr.vps
  · rw [serviceUpperLayers_outside h0 hmax] at h
    cases h
  have hlt : t.dataPtr.vps < MAXVPS := Nat.lt_of_not_le hmax
  refine .inr ⟨⟨h0, hlt⟩, ?_⟩
  cases hv : check_valid_vps t.z.table t.dataPtr.vps with
  | true =>
    rw [serviceUpperLayers_device h0 hlt hv] at h
    exact .inl ⟨rfl, h⟩
  | false =>
    rw [serviceUpperLayers_invalid h0 hlt hv] at h
    exact .inr ⟨rfl, Option.some.inj h⟩

/-- Messages from the upper layers leave the table alone. -/
theorem serviceUpperLayers_table (h : serviceUpperLayers t = some t') : t'.z.table = t.z.table := by
  rcases serviceUpperLayers_cases h with ⟨_, rfl⟩ | ⟨_, ⟨_, h⟩ | ⟨_, rfl⟩⟩
  · exact (gatewayCommand_kept t).table
  · exact (deviceCommand_kept h).1
  · rfl

/-- A join is one addition to the table. -/
theorem joinDevice_table {a : Addr ADDRLEN} (h : joinDevice t a = some t') : ∃ v, vps_add t.z.table a = some (v, t'.z.table) := by
  obtain ⟨⟨v, table⟩, hadd, rfl⟩ := Option.map_eq_some_iff.mp h
  exact ⟨v, hadd⟩

/-- A network list is its entries, added to an empty table. -/
theorem netlist_table (hn : t.z.netupdatemode = true ∧ t.dataPtr.rd 8 = 0x83) (h : netlist t = some t') :
    ∃ buffer, addEntries t.dataPtr netlistEntries (clearvpstable t.z.table, []) = some (t'.z.table, buffer) := by
  obtain ⟨table, buffer, m, hadd, _, rfl⟩ := netlist_eq_some hn h
  exact ⟨buffer, hadd⟩

/-- The branches that pass a frame upwards leave the table alone. -/
theorem upward_table (t : Turn) : (descriptor (deviceData (dataFailed t))).z.table = t.z.table := by
  obtain ⟨m, b, h⟩ := upward_frame t
  rw [h]

end turn

/-- The address a frame from the radio adds, if it is a join. -/
def joinAddr (z : ZigBee) (m : Msg) : Option (Addr ADDRLEN) :=
  if z.includemode = true ∧ m.rd 8 = 0xc1 ∧ m.rd 9 = 0x20 ∧ m.rd 10 = 0xf1 then some (m.addr 12 ADDRLEN)
  else if z.includemode = true ∧ m.rd 8 = 0x42 then some (m.addr 17 ADDRLEN)
  else none

/-- A join is of the short form or of the long one, and no network list. -/
theorem joinAddr_cases {z : ZigBee} {m : Msg} {a : Addr ADDRLEN} (h : joinAddr z m = some a) : z.includemode = true ∧
    (m.rd 8 = 0xc1 ∨ m.rd 8 = 0x42 ∧ a = m.addr (2 + 15) ADDRLEN) ∧ ¬(z.netupdatemode = true ∧ m.rd 8 = 0x83) := by
  unfold joinAddr at h
  split at h
  · rename_i hs
    exact ⟨hs.1, .inl hs.2.1, fun hl => absurd (hs.2.1.symm.trans hl.2) (by decide)⟩
  · split at h
    · rename_i hl
      exact ⟨hl.1, .inr ⟨hl.2, (Option.some.inj h).symm⟩, fun hn => absurd (hl.2.symm.trans hn.2) (by decide)⟩
    · cases h

@[simp] theorem addr_set_zero (m : Msg) (b : UInt8) (k n : Nat) : (m.set 0 b).addr (k + 1) n = m.addr (k + 1) n :=
  Subtype.ext (m.bytes_set_disjoint b (.inr (Nat.succ_pos k)))

theorem joinAddr_set_zero (z : ZigBee) (m : Msg) (b : UInt8) : joinAddr z (m.set 0 b) = joinAddr z m := by
  simp [joinAddr]

/-- The outcomes of a frame from the radio: a device joins, a network address is stored, an exclusion or a network list is confirmed, or
the frame goes upwards. -/
inductive RadioOutcome (t : Turn) : Turn → Prop
  | join {t₀ t' : Turn} {a : Addr ADDRLEN} (h₀ : t₀ = t ∨ t₀ = gatewayAddress t) (ha : joinAddr t.z t.dataPtr = some a)
      (h : joinDevice t₀ a = some t') : RadioOutcome t t'
  | announce (ha : joinAddr t.z t.dataPtr = none) (hi : t.z.includemode = false) (h8 : t.dataPtr.rd 8 = 0x42) :
      RadioOutcome t (announce (gatewayAddress t))
  | excludeConfirm (ha : joinAddr t.z t.dataPtr = none)
      (hx : t.z.excludemode = true ∧ t.dataPtr.rd 8 = 0x40 ∧ t.dataPtr.rd 9 = 0x02 ∧ t.dataPtr.rd 10 = 0x00) :
      RadioOutcome t (excludeConfirm (gatewayAddress t))
  | netlist {t' : Turn} (ha : joinAddr t.z t.dataPtr = none) (hn : t.z.netupdatemode = true ∧ t.dataPtr.rd 8 = 0x83)
      (h : netlist (gatewayAddress t) = some t') : RadioOutcome t t'
  | upward (ha : joinAddr t.z t.dataPtr = none) (h8 : t.dataPtr.rd 8 ≠ 0x42)
      (hx : ¬(t.z.excludemode = true ∧ t.dataPtr.rd 8 = 0x40 ∧ t.dataPtr.rd 9 = 0x02 ∧ t.dataPtr.rd 10 = 0x00))
      (hn : ¬(t.z.netupdatemode = true ∧ t.dataPtr.rd 8 = 0x83)) :
      RadioOutcome t (descriptor (deviceData (dataFailed (gatewayAddress t))))

/-- Every turn on a frame has one of these outcomes. -/
theorem radioBranches_outcome {t t' : Turn} (h : radioBranches t = some t') : RadioOutcome t t' := by
  by_cases hj : t.z.includemode = true ∧ t.dataPtr.rd 8 = 0xc1 ∧ t.dataPtr.rd 9 = 0x20 ∧ t.dataPtr.rd 10 = 0xf1
  · rw [radio_joinShort hj] at h
    exact .join (.inl rfl) (if_pos hj) h
  by_cases h42 : t.dataPtr.rd 8 = 0x42
  · cases hi : t.z.includemode with
    | true =>
      rw [radio_joinAnnounced hi h42] at h
      exact .join (.inr rfl) ((if_neg hj).trans (if_pos ⟨hi, h42⟩)) h
    | false =>
      have hnone : joinAddr t.z t.dataPtr = none := by
        refine (if_neg hj).trans (if_neg fun hc => ?_)
        rw [hi] at hc
        exact absurd hc.1 (by decide)
      rw [radio_announce hi h42, Option.some.injEq] at h
      exact h ▸ .announce hnone hi h42
  have hnone : joinAddr t.z t.dataPtr = none := (if_neg hj).trans (if_neg fun hc => h42 hc.2)
  by_cases hx : t.z.excludemode = true ∧ t.dataPtr.rd 8 = 0x40 ∧ t.dataPtr.rd 9 = 0x02 ∧ t.dataPtr.rd 10 = 0x00
  · rw [radio_excludeConfirm hx, Option.some.injEq] at h
    exact h ▸ .excludeConfirm hnone hx
  by_cases hn : t.z.netupdatemode = true ∧ t.dataPtr.rd 8 = 0x83
  · rw [radio_netlist hn] at h
    exact .netlist hnone hn h
  · rw [radio_upward hj h42 hx hn, Option.some.injEq] at h
    exact h ▸ .upward hnone h42 hx hn

/-- The branches of two of the outcomes, taken. -/
theorem announce_taken {t : Turn} (hi : t.z.includemode = false) (h8 : t.dataPtr.rd 8 = 0x42) : announce (gatewayAddress t) =
    { gatewayAddress t with
      z := { (gatewayAddress t).z with
        table := vps_add_nwk t.z.table (vps_atov t.z.table (t.dataPtr.addr (2 + 15) ADDRLEN)) (t.dataPtr.addr (2 + 23) ADDRLEN2) }
      do_broadcast_to_serial := false
      do_broadcast_to_upperlayers := false } := by
  have h : announce (gatewayAddress t) = _ := if_pos ⟨by rw [gatewayAddress_includemode, hi], by rw [gatewayAddress_dataPtr, h8]⟩
  rw [h]
  simp only [gatewayAddress_dataPtr, gatewayAddress_table]

theorem excludeConfirm_taken {t : Turn}
    (hx : t.z.excludemode = true ∧ t.dataPtr.rd 8 = 0x40 ∧ t.dataPtr.rd 9 = 0x02 ∧ t.dataPtr.rd 10 = 0x00) :
    excludeConfirm (gatewayAddress t) =
      { gatewayAddress t with
        dataPtr := excludeFrame t.dataPtr (vps_vtoa t.z.table (vps_atov t.z.table (t.dataPtr.addr (12 + 2) ADDRLEN)))
        z := { (gatewayAddress t).z with excludemode := false }
        do_broadcast_to_serial := true
        do_broadcast_to_upperlayers := false } := by
  have h : excludeConfirm (gatewayAddress t) = _ := if_pos (by simpa only [gatewayAddress_excludemode, gatewayAddress_dataPtr] using hx)
  rw [h, gatewayAddress_dataPtr, gatewayAddress_table]

/-- What one frame from the radio does to the table: a join adds an address, an announcement stores a network address, a network list
the task has asked for rebuilds it, and any other frame leaves it alone. -/
inductive TableChange (z : ZigBee) (m : Msg) : VpsTable → Prop
  | join {a : Addr ADDRLEN} {v : Nat} {t : VpsTable} (ha : joinAddr z m = some a) (h : vps_add z.table a = some (v, t)) :
      TableChange z m t
  | announce {t : VpsTable} (ha : joinAddr z m = none) (hi : z.includemode = false) (h8 : m.rd 8 = 0x42)
      (h : t = vps_add_nwk z.table (vps_atov z.table (m.addr (2 + 15) ADDRLEN)) (m.addr (2 + 23) ADDRLEN2)) : TableChange z m t
  | netlist {t : VpsTable} {buffer : List UInt8} (ha : joinAddr z m = none) (hn : z.netupdatemode = true ∧ m.rd 8 = 0x83)
      (h : addEntries m netlistEntries (clearvpstable z.table, []) = some (t, buffer)) : TableChange z m t
  | none {t : VpsTable} (ha : joinAddr z m = none) (h8 : m.rd 8 ≠ 0x42) (hn : ¬(z.netupdatemode = true ∧ m.rd 8 = 0x83))
      (h : t = z.table) : TableChange z m t

/-- So the table changes in one of these ways. -/
theorem radioBranches_table {t t' : Turn} (h : radioBranches t = some t') : TableChange t.z t.dataPtr t'.z.table := by
  cases radioBranches_outcome h with
  | @join t₀ _ a h₀ ha h =>
    obtain ⟨v, hadd⟩ := joinDevice_table h
    have htable : t₀.z.table = t.z.table := by
      rcases h₀ with rfl | rfl
      · rfl
      · exact gatewayAddress_table t
    rw [htable] at hadd
    exact .join ha hadd
  | announce ha hi h8 =>
    rw [announce_taken hi h8]
    exact .announce ha hi h8 rfl
  | excludeConfirm ha hx =>
    refine .none ha (by rw [hx.2.1]; decide) (fun hc => absurd (hx.2.1.symm.trans hc.2) (by decide)) ?_
    rw [excludeConfirm_taken hx, gatewayAddress_table]
  | netlist ha hn h =>
    obtain ⟨buffer, hadd⟩ := netlist_table (by simpa using hn) h
    rw [gatewayAddress_dataPtr, gatewayAddress_table] at hadd
    exact .netlist ha hn hadd
  | upward ha h8 _ hn => exact .none ha h8 hn ((upward_table _).trans (gatewayAddress_table t))

section frame

variable {z z' : ZigBee} {m : Msg} {t : VpsTable}

/-- The first byte, which the task overwrites, is not looked at. -/
theorem TableChange.of_set_zero {b : UInt8} (h : TableChange z (m.set 0 b) t) : TableChange z m t := by
  have h8 : (m.set 0 b).rd 8 = m.rd 8 := (m.rd_set 0 8 b).trans (if_neg (Nat.succ_ne_zero 7))
  cases h with
  | join ha h => exact .join (joinAddr_set_zero z m b ▸ ha) h
  | announce ha hi h42 h =>
    rw [addr_set_zero, addr_set_zero] at h
    exact .announce (joinAddr_set_zero z m b ▸ ha) hi (h8 ▸ h42) h
  | netlist ha hn h => exact .netlist (joinAddr_set_zero z m b ▸ ha) (h8 ▸ hn) (addEntries_set_zero m b netlistEntries _ ▸ h)
  | none ha h42 hn h => exact .none (joinAddr_set_zero z m b ▸ ha) (h8 ▸ h42) (h8 ▸ hn) h

/-- What a turn on a frame from the radio does to the table. -/
theorem tableChange_of_step (h : z.step (In1, m) = some z') : TableChange z m z'.table := by
  obtain ⟨t, hr, rfl⟩ := step_in1_eq_some.mp h
  exact (radioBranches_table hr).of_set_zero.of_set_zero

end frame

/-! ## Every run -/

/-- The table is a map both ways: no two used slots hold the same address, and the port of the address of a used slot is that slot. -/
structure DistinctDevices (z : ZigBee) : Prop where
  distinct : ∀ v w, Used z.table v → Used z.table w → vps_vtoa z.table v = vps_vtoa z.table w → v = w
  attributed : ∀ v, Used z.table v → vps_atov z.table (vps_vtoa z.table v) = v

/-- Of a state it is said of its table. -/
theorem distinctDevices_iff {z : ZigBee} : DistinctDevices z ↔ Distinct z.table :=
  ⟨DistinctDevices.distinct, fun h => ⟨h, fun _ hv => h.vps_atov hv⟩⟩

/-- A frame from the radio names only devices that are new: one that joins is not in the table, and a network list the task has
asked for names none twice. -/
def NewDevices (z : ZigBee) (i : Nat × Msg) : Prop :=
  i.1 = In1 → (∀ a, joinAddr z i.2 = some a → vps_atov z.table a = 0) ∧
    (z.netupdatemode = true ∧ i.2.rd 8 = 0x83 → (entryAddrs i.2 netlistEntries).Nodup)

/-- A frame from the radio keeps the addresses distinct exactly when the devices it names are new. -/
theorem distinct_frame {z : ZigBee} {m : Msg} {t : VpsTable} (hc : TableChange z m t) (hd : Distinct z.table) :
    Distinct t ↔ NewDevices z (In1, m) := by
  have hnew : NewDevices z (In1, m) ↔ (∀ a, joinAddr z m = some a → vps_atov z.table a = 0) ∧
      (z.netupdatemode = true ∧ m.rd 8 = 0x83 → (entryAddrs m netlistEntries).Nodup) := ⟨fun hn => hn rfl, fun hn _ => hn⟩
  rw [hnew]
  cases hc with
  | join ha hadd =>
    rw [distinct_add hadd, holds_iff_vps_atov, not_not, ha]
    exact ⟨fun hc => ⟨fun b hb => Option.some.inj hb ▸ hc.2, fun hl => absurd hl (joinAddr_cases ha).2.2⟩,
      fun hc => ⟨hd, hc.1 _ rfl⟩⟩
  | announce ha _ h8 h =>
    rw [h, distinct_add_nwk, ha]
    exact iff_of_true hd ⟨nofun, fun hl => absurd (h8.symm.trans hl.2) (by decide)⟩
  | netlist ha hn hadd =>
    rw [distinct_rebuilt hadd, ha]
    exact ⟨fun hc => ⟨nofun, fun _ => hc⟩, fun hc => hc.2 hn⟩
  | none ha _ hn h =>
    rw [h, ha]
    exact iff_of_true hd ⟨nofun, fun hl => absurd hl hn⟩

/-- A turn on a message from the upper layers leaves the table alone. -/
theorem table_of_ne_in1 {z z' : ZigBee} {i : Nat × Msg} (h : z.step i = some z') (h1 : i.1 ≠ In1) : z'.table = z.table := by
  obtain ⟨⟨_, outs⟩, htask, rfl⟩ := Option.map_eq_some_iff.mp h
  obtain ⟨t, ht, he⟩ := Option.map_eq_some_iff.mp htask
  cases he
  by_cases h2 : i.1 = In2
  · exact serviceUpperLayers_table ((if_pos h2).symm.trans ((if_neg h1).symm.trans ht))
  · exact Option.some.inj ((if_neg h2).symm.trans ((if_neg h1).symm.trans ht)) ▸ rfl

/-- A step keeps the addresses distinct exactly when it meets the condition. -/
theorem distinct_step {z z' : ZigBee} {i : Nat × Msg} (h : z.step i = some z') (hd : Distinct z.table) :
    Distinct z'.table ↔ NewDevices z i := by
  obtain ⟨port, m⟩ := i
  by_cases h1 : port = In1
  · subst h1
    exact distinct_frame (tableChange_of_step h) hd
  · rw [table_of_ne_in1 h h1]
    exact iff_of_true hd fun hc => absurd hc h1

/-- In every state of a run from the empty table, no two used slots hold the same address, and each device's port is its slot, exactly
when every frame from the radio names only devices that are new. -/
theorem distinctDevices_always_iff (gwieeeaddr : Addr ADDRLEN) (is : List (Nat × Msg)) :
    Always ZigBee.step DistinctDevices (ZigBee.start gwieeeaddr) is ↔ Along ZigBee.step NewDevices (ZigBee.start gwieeeaddr) is :=
  always_iff_along (I := DistinctDevices) (fun _ h => h)
    (fun _ _ _ hi hc hs => distinctDevices_iff.mpr ((distinct_step hs hi.distinct).mpr hc))
    (fun _ _ _ hi hs hp => (distinct_step hs hi.distinct).mp hp.distinct)
    (distinctDevices_iff.mpr fun v _ hv => absurd hv (not_used_clear _ v))

/-- A device that joins. -/
def joinMsg : Msg := message 0xFF ([0x00, 0x03, 0x00, 0xC0, 0x13, 0x00, 0x42] ++ List.replicate 18 0x07)

/-- A device that joins, leaves without a word, and joins again while the task includes devices. -/
def joinTwice : List (Nat × Msg) :=
  [(In2, message 0 (ascii "INCLUDE_REQ")), (In1, joinMsg), (In2, message 0 (ascii "INCLUDE_REQ")), (In1, joinMsg)]

/-- It holds two slots. -/
theorem not_distinctDevices_always : ¬∀ gwieeeaddr is, Always ZigBee.step DistinctDevices (ZigBee.start gwieeeaddr) is := by
  intro h
  let gw : Addr ADDRLEN := ⟨List.replicate 8 0, rfl⟩
  have hrun : (run ZigBee.step (ZigBee.start gw) joinTwice).map
      (fun z => ((z.table 1).used, (z.table 2).used, vps_vtoa z.table 1 == vps_vtoa z.table 2)) = some (1, 1, true) := by
    decide +kernel
  obtain ⟨z, hz, he⟩ := Option.map_eq_some_iff.mp hrun
  simp only [Prod.mk.injEq, beq_iff_eq] at he
  obtain ⟨h1, h2, h3⟩ := he
  have hd := always_iff_beginning.mp (h gw joinTwice) joinTwice [] z (by simp) hz
  exact absurd (hd.distinct 1 2 ⟨by decide, by rw [h1]; decide⟩ ⟨by decide, by rw [h2]; decide⟩ h3) (by decide)

end HomeBridge
