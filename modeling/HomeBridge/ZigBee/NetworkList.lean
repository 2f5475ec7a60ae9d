import Mathlib.Data.List.Flatten
import HomeBridge.ZigBee.Data
import HomeBridge.ZigBee.Frames
import HomeBridge.ZigBee.Table

/-!
# A network list, entry by entry

A network list clears the table and adds the entries present, each to the lowest free slot. Clearing resets the flags and nothing
else, so the old addresses are still there; but a used slot is always one of the list, and the lookups look at no other. The
table itself is therefore right whatever the list says. The reply is not: it takes the port of an entry from its place in the
frame, and is written over the frame without a NUL of its own.
-/

namespace HomeBridge

open CMem Runs

/-! ## The table -/

/-- The devices a network list names: the IEEE address and the network address of each entry present. -/
def listedDevices (m : Msg) (entries : List (Nat × List UInt8)) : List (Addr ADDRLEN × Addr ADDRLEN2) :=
  (entries.filter (fun e => m.rd (2 + e.1) != 0xFF)).map
    (fun e => (m.addr (2 + e.1) ADDRLEN, m.addr (2 + (e.1 + 8)) ADDRLEN2))

/-- The first slots of a table hold the devices of a list, in its order, and the others are free. -/
structure Filled (t : VpsTable) (ds : List (Addr ADDRLEN × Addr ADDRLEN2)) : Prop where
  flag : ∀ v, 1 ≤ v → v ≤ ds.length → (t v).used = 1
  free : ∀ v, v = 0 ∨ ds.length < v → v < MAXVPS → (t v).used = 0
  held : ∀ i (h : i < ds.length), (vps_vtoa t (i + 1), vps_vtoa_nwk t (i + 1)) = ds[i]

/-- A cleared table is filled with nothing, whatever its slots held. -/
theorem filled_clear (t : VpsTable) : Filled (clearvpstable t) [] :=
  ⟨fun _ h1 h2 => absurd (Nat.lt_of_lt_of_le h1 h2) (Nat.lt_irrefl 0), fun _ _ _ => rfl,
    fun i h => absurd h (Nat.not_lt_zero i)⟩

section filled

variable {t : VpsTable} {ds : List (Addr ADDRLEN × Addr ADDRLEN2)}

/-- The next device goes to the next slot. -/
theorem Filled.freeSlot (h : Filled t ds) (hlt : ds.length + 1 < MAXVPS) : freeSlot t = some (ds.length + 1) := by
  obtain ⟨i, hi, hle⟩ := freeSlot_of_free (fun v hv => h.free v (.inr hv)) hlt
  obtain ⟨h0, ⟨h1, _⟩, _⟩ := freeSlot_eq_some hi
  have hgt : ds.length < i := by
    refine Nat.lt_of_not_le fun hle' => ?_
    rw [h.flag i h1 hle'] at h0
    exact absurd h0 (by decide)
  rw [hi, show i = ds.length + 1 by omega]

/-- Adding a device to a filled table. -/
theorem Filled.add (h : Filled t ds) (hlt : ds.length + 1 < MAXVPS) (a : Addr ADDRLEN) (n : Addr ADDRLEN2) :
    ∃ t', vps_add t a = some (ds.length + 1, t') ∧ Filled (vps_add_nwk t' (ds.length + 1) n) (ds ++ [(a, n)]) := by
  refine ⟨_, by rw [vps_add, h.freeSlot hlt]; rfl, ⟨fun v h1 h2 => ?_, fun v h1 h2 => ?_, fun i hi => ?_⟩⟩
  · rw [List.length_append, List.length_singleton] at h2
    by_cases hv : v = ds.length + 1
    · subst hv
      simp only [vps_add_nwk, Function.update_self]
    · simp only [vps_add_nwk, Function.update_of_ne hv]
      exact h.flag v h1 (by omega)
  · rw [List.length_append, List.length_singleton] at h1
    have hv : v ≠ ds.length + 1 := by omega
    simp only [vps_add_nwk, Function.update_of_ne hv]
    exact h.free v (by omega) h2
  · rw [List.length_append, List.length_singleton] at hi
    by_cases hi' : i < ds.length
    · have hne : i + 1 ≠ ds.length + 1 := by omega
      rw [List.getElem_append_left hi', ← h.held i hi']
      simp only [vps_vtoa, vps_vtoa_nwk, vps_add_nwk, Function.update_of_ne hne]
    · obtain rfl : i = ds.length := by omega
      rw [List.getElem_append_right (Nat.le_refl _)]
      simp only [vps_vtoa, vps_vtoa_nwk, vps_add_nwk, Function.update_self, Nat.sub_self, List.getElem_cons_zero]

/-- The used slots of a filled table are the first ones. -/
theorem Filled.used_iff (h : Filled t ds) (hle : ds.length < MAXVPS) (v : Nat) : Used t v ↔ 1 ≤ v ∧ v ≤ ds.length := by
  constructor
  · rintro ⟨⟨h1, h2⟩, hu⟩
    exact ⟨h1, Nat.le_of_not_lt fun hgt => hu (h.free v (.inr hgt) h2)⟩
  · rintro ⟨h1, h2⟩
    refine ⟨⟨h1, by omega⟩, ?_⟩
    rw [h.flag v h1 h2]
    decide

/-- A used slot of a filled table, by its place in the list. -/
theorem Filled.eq_getElem (h : Filled t ds) (hle : ds.length < MAXVPS) {v : Nat} (hv : Used t v) :
    ∃ (i : Nat) (hi : i < ds.length), v = i + 1 ∧ vps_vtoa t v = ds[i].1 ∧ vps_vtoa_nwk t v = ds[i].2 := by
  obtain ⟨h1, h2⟩ := (h.used_iff hle v).mp hv
  obtain ⟨i, rfl⟩ := Nat.exists_eq_add_of_le' h1
  have hi : i < ds.length := by omega
  have he := h.held i hi
  exact ⟨i, hi, rfl, congrArg Prod.fst he, congrArg Prod.snd he⟩

end filled

/-- What a network list leaves: the used slots are the first ones, one for each device, with its two addresses in the order of
the list; an address that is not listed has no port; and each of two lookups finds a device where its addresses are distinct. -/
structure Rebuilt (t : VpsTable) (ds : List (Addr ADDRLEN × Addr ADDRLEN2)) : Prop where
  used : ∀ v, Used t v ↔ 1 ≤ v ∧ v ≤ ds.length
  held : ∀ i (h : i < ds.length), (vps_vtoa t (i + 1), vps_vtoa_nwk t (i + 1)) = ds[i]
  absent : ∀ a, a ∉ ds.map Prod.fst → vps_atov t a = 0
  found : (ds.map Prod.fst).Nodup → ∀ i (h : i < ds.length), vps_atov t ds[i].1 = i + 1
  found_nwk : (ds.map Prod.snd).Nodup → ∀ i (h : i < ds.length), vps_atov_nwk t ds[i].2 = i + 1

/-- A list without repetitions has each element at one place. -/
theorem eq_of_map_nodup {α β : Type*} {f : α → β} {l : List α} (h : (l.map f).Nodup) {i j : Nat} (hi : i < l.length)
    (hj : j < l.length) (he : f l[i] = f l[j]) : i = j := by
  have hi' : i < (l.map f).length := by rwa [List.length_map]
  have hj' : j < (l.map f).length := by rwa [List.length_map]
  have he' : (l.map f)[i] = (l.map f)[j] := by rw [List.getElem_map, List.getElem_map, he]
  exact h.getElem_inj_iff.mp he'

theorem Filled.rebuilt {t : VpsTable} {ds : List (Addr ADDRLEN × Addr ADDRLEN2)} (h : Filled t ds) (hle : ds.length < MAXVPS) :
    Rebuilt t ds := by
  have hused : ∀ i, i < ds.length → Used t (i + 1) := fun i hi => (h.used_iff hle (i + 1)).mpr ⟨by omega, hi⟩
  refine ⟨h.used_iff hle, h.held, fun a ha => ?_, fun hnd i hi => ?_, fun hnd i hi => ?_⟩
  · refine vps_atov_eq_zero.mpr fun v hv he => ha ?_
    obtain ⟨i, hi, _, hfst, _⟩ := h.eq_getElem hle hv
    exact List.mem_map.mpr ⟨ds[i], List.getElem_mem hi, hfst.symm.trans he⟩
  · refine vps_atov_of_unique (hused i hi) (congrArg Prod.fst (h.held i hi)) fun w hw he => ?_
    obtain ⟨j, hj, rfl, hfst, _⟩ := h.eq_getElem hle hw
    rw [eq_of_map_nodup hnd hj hi (hfst.symm.trans he)]
  · refine vps_atov_nwk_of_unique (hused i hi) (congrArg Prod.snd (h.held i hi)) fun w hw he => ?_
    obtain ⟨j, hj, rfl, _, hsnd⟩ := h.eq_getElem hle hw
    rw [eq_of_map_nodup hnd hj hi (hsnd.symm.trans he)]

/-! ## The entries one after the other -/

/-- The entries present are added in order. -/
theorem addEntries_filled (m : Msg) {entries : List (Nat × List UInt8)} : ∀ {t : VpsTable} (buffer : List UInt8)
    {ds : List (Addr ADDRLEN × Addr ADDRLEN2)}, Filled t ds → ds.length + entries.length < MAXVPS →
      ∃ t', addEntries m entries (t, buffer) = some (t', buffer ++ labels m entries) ∧
        Filled t' (ds ++ listedDevices m entries) := by
  induction entries with
  | nil =>
    intro t buffer ds h _
    refine ⟨t, by simp [addEntries, labels], ?_⟩
    rwa [show listedDevices m [] = [] from rfl, List.append_nil]
  | cons e entries ih =>
    intro t buffer ds h hlt
    obtain ⟨start, label⟩ := e
    rw [List.length_cons] at hlt
    by_cases hff : m.rd (2 + start) = 0xFF
    · obtain ⟨t', hadd, hfill⟩ := ih buffer h (by omega)
      have hl : labels m ((start, label) :: entries) = labels m entries := by simp [labels, hff]
      have hd : listedDevices m ((start, label) :: entries) = listedDevices m entries := by simp [listedDevices, hff]
      exact ⟨t', by rw [addEntries, if_neg (not_not_intro hff), hadd, hl], by rwa [hd]⟩
    · obtain ⟨t₁, hadd₁, hfill₁⟩ := h.add (show ds.length + 1 < MAXVPS by omega) (m.addr (2 + start) ADDRLEN)
        (m.addr (2 + (start + 8)) ADDRLEN2)
      obtain ⟨t', hadd, hfill⟩ := ih (buffer ++ label) hfill₁
        (by rw [List.length_append, List.length_singleton]; omega)
      have hl : labels m ((start, label) :: entries) = label ++ labels m entries := by simp [labels, hff]
      have hd : listedDevices m ((start, label) :: entries) =
          (m.addr (2 + start) ADDRLEN, m.addr (2 + (start + 8)) ADDRLEN2) :: listedDevices m entries := by
        simp [listedDevices, hff]
      rw [List.append_assoc] at hadd hfill
      refine ⟨t', ?_, ?_⟩
      · rw [addEntries, if_pos hff, hadd₁, Option.bind_some, hl]
        exact hadd
      · rwa [hd]

/-- There are five entries at most. -/
theorem length_listedDevices (m : Msg) : (listedDevices m netlistEntries).length ≤ 5 := by
  rw [listedDevices, List.length_map]
  exact List.length_filter_le _ _

/-- So they find room in a cleared table. -/
theorem listedDevices_lt (m : Msg) : (listedDevices m netlistEntries).length < MAXVPS :=
  Nat.lt_of_le_of_lt (length_listedDevices m) (by decide)

/-- The table a network list leaves, and the labels, whatever the table was before. -/
theorem addEntries_netlist (m : Msg) (t : VpsTable) :
    ∃ t', addEntries m netlistEntries (clearvpstable t, []) = some (t', labels m netlistEntries) ∧
      Filled t' (listedDevices m netlistEntries) :=
  addEntries_filled m [] (filled_clear t) (by decide)

theorem filled_of_addEntries {m : Msg} {t t' : VpsTable} {buffer : List UInt8}
    (h : addEntries m netlistEntries (clearvpstable t, []) = some (t', buffer)) : Filled t' (listedDevices m netlistEntries) := by
  obtain ⟨t₁, hadd, hfill⟩ := addEntries_netlist m t
  obtain ⟨rfl, _⟩ := Prod.mk.inj (Option.some.inj (hadd.symm.trans h))
  exact hfill

section turn

variable {z : ZigBee} {m : Msg}

/-- The turn on a network list the task has asked for: the table is rebuilt, and the reply goes up if it fits in the block. -/
theorem zigBeeTask_netlist (h : Lists z m) {table : VpsTable} {buffer : List UInt8}
    (hadd : addEntries m netlistEntries (clearvpstable z.table, []) = some (table, buffer)) : ZigBeeTask z (In1, m) =
      (((radioTurn z m).dataPtr.wr 2 (ascii "netlist_done: ")).strcat 2 buffer).map fun r =>
        ({ (gatewayAddress (radioTurn z m)).z with table := table, netupdatemode := false },
          [.broadcast Out1 ((r.set 0 0).set 1 (UInt8.ofNat ((r.set 0 0).strlen 2)))]) := by
  have hl : (radioTurn z m).z.netupdatemode = true ∧ (radioTurn z m).dataPtr.rd 8 = 0x83 :=
    ⟨h.1, (radioTurn_rd z m 7).trans h.2⟩
  have hadd' : addEntries (radioTurn z m).dataPtr netlistEntries (clearvpstable z.table, []) = some (table, buffer) := by
    rw [radioTurn, addEntries_set_zero, addEntries_set_zero, hadd]
  have hn : netlist (gatewayAddress (radioTurn z m)) = _ :=
    if_pos (by rwa [gatewayAddress_netupdatemode, gatewayAddress_dataPtr])
  rw [zigBeeTask_in1, radio_netlist hl, hn, gatewayAddress_dataPtr, gatewayAddress_table, show (radioTurn z m).z = z from rfl,
    hadd', Option.bind_some]
  dsimp only
  cases ((radioTurn z m).dataPtr.wr 2 (ascii "netlist_done: ")).strcat 2 buffer with
  | none => rfl
  | some r =>
    simp only [Option.map_some, handOff, gatewayAddress_freed]
    rfl

/-- There is a reply where it fits. -/
theorem zigBeeTask_netlist_isSome (h : Lists z m) : (ZigBeeTask z (In1, m)).isSome = true ↔ ReplyFits m := by
  obtain ⟨table, hadd, -⟩ := addEntries_netlist m z.table
  have hfits : ReplyFits (radioTurn z m).dataPtr ↔ ReplyFits m := (replyFits_set_zero _ 0x00).trans (replyFits_set_zero m 0x00)
  have hlabels : labels (radioTurn z m).dataPtr netlistEntries = labels m netlistEntries :=
    (labels_set_zero _ 0x00).trans (labels_set_zero m 0x00)
  rw [zigBeeTask_netlist h hadd, Option.isSome_map, ← hfits, ← hlabels, Msg.strcat]
  split
  · rename_i hfit
    exact iff_of_true rfl hfit
  · rename_i hfit
    exact iff_of_false Bool.false_ne_true hfit

end turn

/-- For every table and every network list the task has asked for: the entries are added without fail, and the table they make, which
is the task's after the turn, has the devices of the list and no others, each in the slot of its place among those present. The turn comes
to its end where the reply fits in the block, and there only. -/
theorem netlist_rebuilds {z : ZigBee} {m : Msg} (h : Lists z m) :
    ∃ table buffer, addEntries m netlistEntries (clearvpstable z.table, []) = some (table, buffer) ∧
      Rebuilt table (listedDevices m netlistEntries) ∧
      (∀ z' outs, ZigBeeTask z (In1, m) = some (z', outs) → z'.table = table) ∧
      ((ZigBeeTask z (In1, m)).isSome = true ↔ ReplyFits m) := by
  obtain ⟨table, hadd, hfill⟩ := addEntries_netlist m z.table
  refine ⟨table, _, hadd, hfill.rebuilt (listedDevices_lt m), fun z' outs htask => ?_, zigBeeTask_netlist_isSome h⟩
  rw [zigBeeTask_netlist h hadd] at htask
  obtain ⟨r, _, he⟩ := Option.map_eq_some_iff.mp htask
  cases he
  rfl

/-- The frame of a network list with the given entries. -/
def listOf (entries : List (List UInt8)) : Msg :=
  message 0xFF ([0x00, 0x03, 0x00, 0xC0, 0x3A, 0x00, 0x83] ++ List.replicate 5 0x00 ++ entries.flatten)

/-- A list with a first, a third and a fourth entry. -/
def listFrame : Msg :=
  listOf [List.replicate 10 0x01, List.replicate 10 0xFF, List.replicate 10 0x03, List.replicate 10 0x04, List.replicate 10 0xFF]

/-- The task after a `NETLIST_REQ`. -/
def listing : ZigBee := { ZigBee.start VpsEntry.zero.addr with netupdatemode := true }

theorem lists_listFrame : Lists listing listFrame := ⟨rfl, by decide⟩

/-- The turn on it comes to its end, and slots 1 to 3 hold its devices. -/
theorem netlist_rebuilds_listFrame : Lists listing listFrame ∧
    ∃ z' outs, ZigBeeTask listing (In1, listFrame) = some (z', outs) ∧ Rebuilt z'.table (listedDevices listFrame netlistEntries) := by
  refine ⟨lists_listFrame, ?_⟩
  obtain ⟨table, buffer, -, hrebuilt, htable, hreply⟩ := netlist_rebuilds lists_listFrame
  have hfits : ReplyFits listFrame := by
    unfold ReplyFits
    decide +kernel
  obtain ⟨⟨z', outs⟩, htask⟩ := Option.isSome_iff_exists.mp (hreply.mpr hfits)
  exact ⟨z', outs, htask, htable z' outs htask ▸ hrebuilt⟩

/-! ## The reply -/

/-- The reply to a network list is its fourteen characters and the labels of the scratch buffer, and the length byte says so. -/
def RepliesExactly (z : ZigBee) (m : Msg) : Prop :=
  ∃ table buffer z' r, addEntries m netlistEntries (clearvpstable z.table, []) = some (table, buffer) ∧
    ZigBeeTask z (In1, m) = some (z', [.broadcast Out1 r]) ∧ r.len = 14 + buffer.length ∧
    r.bytes 2 (14 + buffer.length) = ascii "netlist_done: " ++ buffer

/-- The labels are characters, 35 of them at most. -/
theorem labels_bounds (m : Msg) : 0 ∉ labels m netlistEntries ∧ (labels m netlistEntries).length ≤ 35 := by
  have hsub : List.Sublist (labels m netlistEntries) (netlistEntries.flatMap Prod.snd) :=
    List.filter_sublist.flatMap Prod.snd
  have h0 : (0 : UInt8) ∉ netlistEntries.flatMap Prod.snd := by decide
  exact ⟨fun hm => h0 (hsub.subset hm), hsub.length_le⟩

section reply

variable (z : ZigBee) (frame : Mem)

/-- The block with the fourteen characters written over the frame. -/
theorem reply_rd (k : Nat) : ((radioTurn z ⟨frame, 0⟩).dataPtr.wr 2 (ascii "netlist_done: ")).rd (2 + k) =
    if k < 14 then (ascii "netlist_done: ").getD k 0 else frame (2 + k) := by
  have hlen : (ascii "netlist_done: ").length = 14 := by decide
  rw [Msg.rd_wr, hlen]
  by_cases hk : k < 14
  · rw [if_pos (by omega), if_pos hk, Nat.add_sub_cancel_left]
  · rw [if_neg (by omega), if_neg hk, show 2 + k = (1 + k) + 1 by omega, radioTurn_rd, Msg.rd, Nat.zero_add]

/-- What `strlen` sees of it is those characters exactly when the frame has a NUL behind them. -/
theorem reply_strlen : ((radioTurn z ⟨frame, 0⟩).dataPtr.wr 2 (ascii "netlist_done: ")).strlen 2 = 14 ↔ frame 16 = 0 := by
  have hchars : ∀ k < 14, (ascii "netlist_done: ").getD k 0 ≠ 0 := by decide
  have hrd := reply_rd z frame
  have h16 := hrd 14
  rw [if_neg (by decide)] at h16
  constructor
  · intro hs
    by_contra hne
    have hle : 15 ≤ ((radioTurn z ⟨frame, 0⟩).dataPtr.wr 2 (ascii "netlist_done: ")).strlen 2 := by
      refine Msg.le_strlen (by change 15 ≤ 255 - (0 + 2); decide) fun k hk => ?_
      rw [hrd]
      split
      · rename_i hlt
        exact hchars k hlt
      · obtain rfl : k = 14 := by omega
        exact hne
    omega
  · intro h0
    refine Msg.strlen_eq (by change 14 ≤ 255 - (0 + 2); decide) (fun k hk => ?_) (h16.trans h0)
    rw [hrd, if_pos hk]
    exact hchars k hk

end reply

/-- The reply is right exactly when `strlen` sees no more of it than the fourteen characters. -/
theorem repliesExactly_iff_strlen {z : ZigBee} {frame : Mem} (h : Lists z ⟨frame, 0⟩) : RepliesExactly z ⟨frame, 0⟩ ↔
    ((radioTurn z ⟨frame, 0⟩).dataPtr.wr 2 (ascii "netlist_done: ")).strlen 2 = 14 := by
  obtain ⟨table, hadd, _⟩ := addEntries_netlist ⟨frame, 0⟩ z.table
  obtain ⟨hnul, hle⟩ := labels_bounds ⟨frame, 0⟩
  let w := (radioTurn z ⟨frame, 0⟩).dataPtr.wr 2 (ascii "netlist_done: ")
  have htask := zigBeeTask_netlist h hadd
  constructor
  · rintro ⟨table', buffer, z', r, hadd', he, hlen, _⟩
    obtain ⟨rfl, rfl⟩ := Prod.mk.inj (Option.some.inj (hadd.symm.trans hadd'))
    rw [htask] at he
    obtain ⟨r', hcat, he⟩ := Option.map_eq_some_iff.mp he
    cases he
    -- the length byte is that of the whole string, and it does not wrap
    obtain ⟨hs, _, hfit⟩ := Msg.strcat_spec hcat hnul
    rw [Msg.strlen_set_of_lt _ (by decide), hs] at hlen
    simp only [Msg.len, Msg.rd_set, if_true, UInt8.toNat_ofNat', DATASIZE] at hlen hfit
    rw [Nat.mod_eq_of_lt (by omega)] at hlen
    omega
  · intro hs
    have hfit : w.off + 2 + w.strlen 2 + (labels ⟨frame, 0⟩ netlistEntries).length + 1 ≤ DATASIZE := by
      change 0 + 2 + w.strlen 2 + (labels ⟨frame, 0⟩ netlistEntries).length + 1 ≤ 255
      rw [hs]
      omega
    obtain ⟨r, hcat⟩ : ∃ r, w.strcat 2 (labels ⟨frame, 0⟩ netlistEntries) = some r := ⟨_, if_pos hfit⟩
    obtain ⟨hs', hb, _⟩ := Msg.strcat_spec hcat hnul
    rw [hcat, Option.map_some] at htask
    refine ⟨table, _, _, _, hadd, htask, ?_, ?_⟩
    · rw [Msg.strlen_set_of_lt _ (by decide), hs', hs]
      simp only [Msg.len, Msg.rd_set, if_true, UInt8.toNat_ofNat']
      omega
    · rw [Msg.bytes_set_disjoint _ _ (.inr (by decide)), Msg.bytes_set_disjoint _ _ (.inr (by decide))]
      have htext : w.bytes 2 14 = ascii "netlist_done: " := Msg.bytes_wr_self _ 2 (ascii "netlist_done: ")
      rwa [show w.strlen 2 = 14 from hs, htext] at hb

/-- For every network list the task has asked for, in a block as the stream receiver sends it: the payload handed up is the fourteen
characters and the labels exactly when byte 16 of the frame, the one behind the characters, is NUL. -/
theorem repliesExactly_iff {z : ZigBee} {frame : Mem} (h : Lists z ⟨frame, 0⟩) :
    RepliesExactly z ⟨frame, 0⟩ ↔ frame 16 = 0 := by
  rw [repliesExactly_iff_strlen h, reply_strlen]

/-- A list without devices, in a frame with a NUL there. -/
def emptyList : Msg := listOf ([0xFF, 0xFF, 0x00] :: List.replicate 47 [0xFF])

theorem repliesExactly_iff_emptyList : (Lists listing ⟨emptyList.mem, 0⟩ ∧ emptyList.mem 16 = 0) ∧
    RepliesExactly listing ⟨emptyList.mem, 0⟩ :=
  ⟨⟨⟨rfl, by decide⟩, by decide⟩, (repliesExactly_iff ⟨rfl, by decide⟩).mpr (by decide)⟩

/-- After a `NETLIST_REQ`, the list of three devices is answered with the bytes of the frame up to its first NUL between the
fourteen characters and the labels. -/
theorem not_repliesExactly : ¬∀ gw z frame, Reachable ZigBee.step (ZigBee.start gw) z → Lists z ⟨frame, 0⟩ →
    RepliesExactly z ⟨frame, 0⟩ := by
  intro h
  have hz : ZigBee.step (ZigBee.start VpsEntry.zero.addr) (In2, message 0 (ascii "NETLIST_REQ")) = some listing := rfl
  have hl : Lists listing ⟨listFrame.mem, 0⟩ := lists_listFrame
  exact absurd ((repliesExactly_iff_strlen hl).mp (h _ _ _ ((Reachable.refl _).next hz) hl)) (by decide +kernel)

/-! ## The ports it names -/

/-- The numbers in a text, as a reader finds them; `n` is the number read so far. -/
def portsFrom : Option Nat → List UInt8 → List Nat
  | n, [] => n.toList
  | n, c :: text =>
    if 0x30 ≤ c ∧ c ≤ 0x39 then portsFrom (some (10 * n.getD 0 + (c - 0x30).toNat)) text else n.toList ++ portsFrom none text

/-- The port numbers in the text appended to a reply. -/
def portsIn (text : List UInt8) : List Nat := portsFrom none text

/-- The port on which `main` lets the IP task of virtual port `j` listen. -/
def ipPort (j : Nat) : Nat := SERVER_PORT + j

/-- The ports of a reply are those of the used slots, and a client that connects to the port of an entry reaches its device. -/
structure NamesPorts (table : VpsTable) (buffer : List UInt8) (m : Msg) : Prop where
  ports : ∀ p, p ∈ portsIn buffer ↔ ∃ v, v < MAXVPS ∧ check_valid_vps table v = true ∧ p = ipPort v
  reached : ∀ k < 5, m.rd (14 + 10 * k) ≠ 0xFF → ∃ v < TOTAL_VPS, ipPort v = 10001 + k ∧ check_valid_vps table v = true ∧
    vps_vtoa table v = m.addr (14 + 10 * k) ADDRLEN

/-- No absent entry stands before a present one. -/
def NoGap (m : Msg) : Prop := ∀ i j, i < j → j < 5 → m.rd (14 + 10 * i) = 0xFF → m.rd (14 + 10 * j) = 0xFF

/-- The label of entry `k` is its place in the frame. -/
def portLabel (k : Nat) : List UInt8 := ascii " 1000" ++ [UInt8.ofNat (0x31 + k)] ++ ascii " "

/-- The places of the entries present. -/
def presentEntries (m : Msg) : List Nat := (List.range 5).filter (fun k => m.rd (14 + 10 * k) != 0xFF)

theorem netlistEntries_eq : netlistEntries = (List.range 5).map fun k => (12 + 10 * k, portLabel k) := by decide

/-- The entries that are added, by their places. -/
theorem filter_netlistEntries (m : Msg) :
    netlistEntries.filter (fun e => m.rd (2 + e.1) != 0xFF) = (presentEntries m).map fun k => (12 + 10 * k, portLabel k) := by
  rw [netlistEntries_eq, List.filter_map, presentEntries]
  congr 1

theorem listedDevices_eq (m : Msg) : listedDevices m netlistEntries =
    (presentEntries m).map fun k => (m.addr (14 + 10 * k) ADDRLEN, m.addr (22 + 10 * k) ADDRLEN2) := by
  rw [listedDevices, filter_netlistEntries, List.map_map]
  refine List.map_congr_left fun k _ => ?_
  rw [Function.comp_apply, show 2 + (12 + 10 * k) = 14 + 10 * k by omega, show 2 + (12 + 10 * k + 8) = 22 + 10 * k by omega]

/-- A label is read as its port. -/
theorem portsFrom_label {k : Nat} (hk : k < 5) (text : List UInt8) :
    portsFrom none (portLabel k ++ text) = (10001 + k) :: portsFrom none text := by
  match k, hk with
  | 0, _ | 1, _ | 2, _ | 3, _ | 4, _ => rfl

/-- The ports in the labels of a list of places. -/
theorem portsIn_labels {ks : List Nat} (hks : ∀ k ∈ ks, k < 5) : portsIn (ks.flatMap portLabel) = ks.map (10001 + ·) := by
  induction ks with
  | nil => rfl
  | cons k ks ih =>
    rw [List.flatMap_cons, portsIn, portsFrom_label (hks k (List.mem_cons_self ..)), List.map_cons]
    exact congrArg _ (ih fun j hj => hks j (List.mem_cons_of_mem _ hj))

theorem mem_presentEntries {m : Msg} {k : Nat} : k ∈ presentEntries m ↔ k < 5 ∧ m.rd (14 + 10 * k) ≠ 0xFF := by
  simp [presentEntries]

theorem portsIn_netlist (m : Msg) : portsIn (labels m netlistEntries) = (presentEntries m).map (10001 + ·) := by
  have hl : labels m netlistEntries = (presentEntries m).flatMap portLabel := by
    rw [labels, filter_netlistEntries, List.flatMap_map]
  rw [hl, portsIn_labels fun k hk => (mem_presentEntries.mp hk).1]

/-- What a condition that holds up to some number leaves of a range is a range. -/
theorem filter_range_eq_range {p : Nat → Bool} : ∀ {n : Nat}, (∀ i j, i < j → j < n → p j = true → p i = true) →
    (List.range n).filter p = List.range ((List.range n).filter p).length := by
  intro n
  induction n with
  | zero =>
    intro _
    rfl
  | succ n ih =>
    intro h
    rw [List.range_succ, List.filter_append]
    cases hn : p n with
    | true =>
      have hall : (List.range n).filter p = List.range n :=
        List.filter_eq_self.mpr fun i hi => h i n (List.mem_range.mp hi) (Nat.lt_succ_self n) hn
      rw [hall, List.filter_singleton, hn, cond_true, ← List.range_succ, List.length_range]
    | false =>
      rw [List.filter_singleton, hn, cond_false, List.append_nil]
      exact ih fun i j hij hj => h i j hij (Nat.lt_succ_of_lt hj)

/-- The entries present are the first ones exactly when there is no gap. -/
theorem noGap_iff (m : Msg) : NoGap m ↔ presentEntries m = List.range (presentEntries m).length := by
  constructor
  · intro h
    refine filter_range_eq_range fun i j hij hj hp => ?_
    rw [bne_iff_ne] at hp ⊢
    exact fun hi => hp (h i j hij hj hi)
  · intro h i j hij hj hi
    by_contra hne
    have hj' : j ∈ presentEntries m := mem_presentEntries.mpr ⟨hj, hne⟩
    rw [h, List.mem_range] at hj'
    have hi' : i ∈ presentEntries m := by
      rw [h, List.mem_range]
      omega
    exact (mem_presentEntries.mp hi').2 hi

/-- The slots of a filled table that `check_valid_vps` knows. -/
theorem Filled.check_valid_vps_iff {t : VpsTable} {ds : List (Addr ADDRLEN × Addr ADDRLEN2)} (h : Filled t ds) {v : Nat}
    (hv : v < MAXVPS) : check_valid_vps t v = true ↔ 1 ≤ v ∧ v ≤ ds.length := by
  rw [check_valid_vps, beq_iff_eq]
  constructor
  · intro h1
    by_contra hno
    exact absurd ((h.free v (by omega) hv).symm.trans h1) (by decide)
  · rintro ⟨h1, h2⟩
    exact h.flag v h1 h2

/-- The labels name the ports of the slots exactly when no absent entry stands before a present one. -/
theorem namesPorts_iff_noGap {m : Msg} {table : VpsTable} (h : Filled table (listedDevices m netlistEntries)) :
    NamesPorts table (labels m netlistEntries) m ↔ NoGap m := by
  have hlen : (listedDevices m netlistEntries).length = (presentEntries m).length := by rw [listedDevices_eq, List.length_map]
  have h5 : (presentEntries m).length ≤ 5 := hlen ▸ length_listedDevices m
  have hmem : ∀ k, 10001 + k ∈ portsIn (labels m netlistEntries) ↔ k ∈ presentEntries m := fun k => by
    rw [portsIn_netlist, List.mem_map]
    refine ⟨fun ⟨j, hj, he⟩ => ?_, fun hk => ⟨k, hk, rfl⟩⟩
    rwa [← show j = k by omega]
  have hvalid : ∀ {v}, v < MAXVPS → (check_valid_vps table v = true ↔ 1 ≤ v ∧ v ≤ (presentEntries m).length) := fun hv => by
    rw [h.check_valid_vps_iff hv, hlen]
  have hport : ∀ k, ipPort (k + 1) = 10001 + k := fun k => by
    simp only [ipPort, SERVER_PORT]
    omega
  have hslot : ∀ {k}, k < (presentEntries m).length → k + 1 < MAXVPS ∧ check_valid_vps table (k + 1) = true := fun {k} hk => by
    have hlt : k + 1 < MAXVPS := by
      simp only [MAXVPS]
      omega
    exact ⟨hlt, (hvalid hlt).mpr ⟨by omega, by omega⟩⟩
  -- the ports of the slots are the first ones, as many as there are entries
  have hnamed : ∀ p, (∃ v, v < MAXVPS ∧ check_valid_vps table v = true ∧ p = ipPort v) ↔
      ∃ k < (presentEntries m).length, 10001 + k = p := fun p => by
    constructor
    · rintro ⟨v, hv, hc, rfl⟩
      obtain ⟨h1, h2⟩ := (hvalid hv).mp hc
      obtain ⟨k, rfl⟩ := Nat.exists_eq_add_of_le' h1
      exact ⟨k, by omega, (hport k).symm⟩
    · rintro ⟨k, hk, rfl⟩
      exact ⟨k + 1, (hslot hk).1, (hslot hk).2, (hport k).symm⟩
  rw [noGap_iff]
  constructor
  · intro hn
    -- the places present are as many as the slots, and slot `k + 1` stands for place `k`
    have hiff : ∀ k, k ∈ presentEntries m ↔ k < (presentEntries m).length := fun k => by
      rw [← hmem, hn.ports, hnamed]
      refine ⟨fun ⟨j, hj, he⟩ => ?_, fun hk => ⟨k, hk, rfl⟩⟩
      rwa [← show j = k by omega]
    refine (noGap_iff m).mp fun i j hij hj hi => ?_
    by_contra hne
    have hj' := (hiff j).mp (mem_presentEntries.mpr ⟨hj, hne⟩)
    exact (mem_presentEntries.mp ((hiff i).mpr (by omega))).2 hi
  · intro hr
    have hiff : ∀ k, k ∈ presentEntries m ↔ k < (presentEntries m).length := fun k => by
      conv_lhs => rw [hr, List.mem_range]
    refine ⟨fun p => ?_, fun k hk hne => ?_⟩
    · rw [hnamed, portsIn_netlist, List.mem_map]
      exact exists_congr fun k => and_congr_left fun _ => hiff k
    · have hk' := (hiff k).mp (mem_presentEntries.mpr ⟨hk, hne⟩)
      refine ⟨k + 1, by simp only [TOTAL_VPS]; omega, hport k, (hslot hk').2, ?_⟩
      have hheld := congrArg Prod.fst (h.held k (hlen ▸ hk'))
      have hget : (presentEntries m)[k] = k := by
        rw [List.getElem_of_eq hr hk', List.getElem_range]
      simp only [listedDevices_eq, List.getElem_map, hget] at hheld
      exact hheld

/-- For every network list the task has asked for: the ports its labels name are those of the slots its devices got, and a client that
connects to one reaches the device that was listed there, exactly when no absent entry stands before a present one. The text that is
handed up is the string in the block with these labels appended. -/
theorem namesPorts_iff {z : ZigBee} {m : Msg} (h : Lists z m) :
    ∃ table buffer, addEntries m netlistEntries (clearvpstable z.table, []) = some (table, buffer) ∧
      (NamesPorts table buffer m ↔ NoGap m) ∧
      ∀ z' outs, ZigBeeTask z (In1, m) = some (z', outs) → z'.table = table ∧
        ∃ r, ((radioTurn z m).dataPtr.wr 2 (ascii "netlist_done: ")).strcat 2 buffer = some r ∧
          outs = [.broadcast Out1 ((r.set 0 0).set 1 (UInt8.ofNat ((r.set 0 0).strlen 2)))] := by
  obtain ⟨table, hadd, hfill⟩ := addEntries_netlist m z.table
  refine ⟨table, _, hadd, namesPorts_iff_noGap hfill, fun z' outs htask => ?_⟩
  rw [zigBeeTask_netlist h hadd] at htask
  obtain ⟨r, hr, he⟩ := Option.map_eq_some_iff.mp htask
  cases he
  exact ⟨rfl, r, hr, rfl⟩

/-- A list with a first and a second entry. -/
def twoEntries : Msg := listOf [List.replicate 10 0x01, List.replicate 10 0x02, List.replicate 30 0xFF]

/-- Its labels are ` 10001 ` and ` 10002 `, and slots 1 and 2 are used. -/
theorem namesPorts_iff_twoEntries : Lists listing twoEntries ∧
    ∃ table buffer, addEntries twoEntries netlistEntries (clearvpstable listing.table, []) = some (table, buffer) ∧
      NamesPorts table buffer twoEntries := by
  have h : Lists listing twoEntries := ⟨rfl, by decide⟩
  obtain ⟨table, buffer, hadd, hiff, _⟩ := namesPorts_iff h
  have hgap : ∀ j < 5, ∀ i < j, twoEntries.rd (14 + 10 * i) = 0xFF → twoEntries.rd (14 + 10 * j) = 0xFF := by decide
  exact ⟨h, table, buffer, hadd, hiff.mpr fun i j hij hj => hgap j hj i hij⟩

/-- After a `NETLIST_REQ`, a list whose second entry is absent is answered with the ports 10001, 10003 and 10004; its devices are in
slots 1 to 3. -/
theorem not_namesPorts : ¬∀ gw z m table buffer, Reachable ZigBee.step (ZigBee.start gw) z → Lists z m →
    addEntries m netlistEntries (clearvpstable z.table, []) = some (table, buffer) → NamesPorts table buffer m := by
  intro h
  have hz : ZigBee.step (ZigBee.start VpsEntry.zero.addr) (In2, message 0 (ascii "NETLIST_REQ")) = some listing := rfl
  obtain ⟨table, hadd, hfill⟩ := addEntries_netlist listFrame listing.table
  have hgap := (namesPorts_iff_noGap hfill).mp (h _ _ _ _ _ ((Reachable.refl _).next hz) lists_listFrame hadd)
  exact absurd (hgap 1 2 (by decide) (by decide) (by decide)) (by decide)

end HomeBridge
