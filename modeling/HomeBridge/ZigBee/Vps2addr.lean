import HomeBridge.Ihaplite.Framework

/-!
# The table of virtual ports and device addresses

`vps2addr.c`. Slots 1 to `MAXVPS - 1` pair a virtual port with the 8-byte address and the 2-byte network address of a device; a
slot counts only while its `used` flag is set. Nothing is erased when the flag is cleared, and slot 0 is never searched.
-/

namespace HomeBridge

open CMem

/-- The bytes of an IEEE address. -/
@[simp] def ADDRLEN : Nat := 8

/-- The bytes of a network address. -/
@[simp] def ADDRLEN2 : Nat := 2

/-- One more than the last slot. -/
@[simp] def MAXVPS : Nat := 11

/-- A byte string of a given length. -/
abbrev Addr (n : Nat) : Type := { bs : List UInt8 // bs.length = n }

/-- A slot of the table. -/
structure VpsEntry where
  used : UInt8
  addr : Addr ADDRLEN
  nwkaddr : Addr ADDRLEN2

/-- A slot as calloc leaves it. -/
def VpsEntry.zero : VpsEntry := ⟨0, ⟨List.replicate ADDRLEN 0, rfl⟩, ⟨List.replicate ADDRLEN2 0, rfl⟩⟩

/-- `addrs`. -/
abbrev VpsTable : Type := Nat → VpsEntry

/-- `genvpstable`. -/
def genvpstable : VpsTable := fun _ => .zero

/-- `clearvpstable`. -/
def clearvpstable (t : VpsTable) : VpsTable := fun c => { t c with used := 0 }

/-- The slot `vps_add` takes, the lowest one that is not used. Its loop does not stop at the end of the table: with every slot
used it goes on behind `addrs`, and what happens there is undefined. -/
def freeSlot (t : VpsTable) : Option Nat := (List.range' 1 (MAXVPS - 1)).find? (fun i => (t i).used == 0)

/-- `vps_add`: the returned port and the table, or nothing where the loop has left the table. -/
def vps_add (t : VpsTable) (addr : Addr ADDRLEN) : Option (Nat × VpsTable) :=
  (freeSlot t).map (fun i => (i, Function.update t i { t i with used := 1, addr := addr }))

/-- `vps_add_nwk`. -/
def vps_add_nwk (t : VpsTable) (vps : Nat) (addr : Addr ADDRLEN2) : VpsTable :=
  Function.update t vps { t vps with nwkaddr := addr }

/-- `vps_del`. -/
def vps_del (t : VpsTable) (vps : Nat) : VpsTable := Function.update t vps { t vps with used := 0 }

/-- `vps_vtoa`. -/
def vps_vtoa (t : VpsTable) (vps : Nat) : Addr ADDRLEN := (t vps).addr

/-- `vps_vtoa_nwk`. -/
def vps_vtoa_nwk (t : VpsTable) (vps : Nat) : Addr ADDRLEN2 := (t vps).nwkaddr

/-- `vps_atov`: the first used slot with the address, 0 when there is none. -/
def vps_atov (t : VpsTable) (addr : Addr ADDRLEN) : Nat :=
  ((List.range' 1 (MAXVPS - 1)).find? (fun i => (t i).used != 0 && memcmp addr.1 (t i).addr.1 == 0)).getD 0

/-- `vps_atov_nwk`. -/
def vps_atov_nwk (t : VpsTable) (addr : Addr ADDRLEN2) : Nat :=
  ((List.range' 1 (MAXVPS - 1)).find? (fun i => (t i).used != 0 && memcmp addr.1 (t i).nwkaddr.1 == 0)).getD 0

/-- `check_valid_vps`. -/
def check_valid_vps (t : VpsTable) (vps : Nat) : Bool := (t vps).used == 1

/-! ## What the searches find -/

/-- A slot of the table that is in use. -/
def Used (t : VpsTable) (v : Nat) : Prop := (1 ≤ v ∧ v < MAXVPS) ∧ (t v).used ≠ 0

instance (t : VpsTable) (v : Nat) : Decidable (Used t v) := by unfold Used; infer_instance

/-- Two addresses of one length are compared as a whole. -/
theorem memcmp_addr {n : Nat} (a b : Addr n) : memcmp a.1 b.1 = 0 ↔ a = b := by
  have hl : a.1.length = b.1.length := a.2.trans b.2.symm
  constructor
  · intro h
    exact Subtype.ext ((uchar_memcmp_eq_zero hl).mp (by rw [h]; rfl))
  · rintro rfl
    exact memcmp_self a.1

/-- The search of a slot by one of its addresses, for both lookups: it finds a used slot, or there is none. -/
theorem search_spec {n : Nat} (t : VpsTable) (f : VpsEntry → Addr n) (addr : Addr n) :
    let v := ((List.range' 1 (MAXVPS - 1)).find? (fun i => (t i).used != 0 && memcmp addr.1 (f (t i)).1 == 0)).getD 0
    Used t v ∧ f (t v) = addr ∨ v = 0 ∧ ∀ w, Used t w → f (t w) ≠ addr := by
  cases h : (List.range' 1 (MAXVPS - 1)).find? (fun i => (t i).used != 0 && memcmp addr.1 (f (t i)).1 == 0) with
  | some i =>
    obtain ⟨h1, h2, _⟩ := List.find?_range'_eq_some.mp h
    rw [List.mem_range'_1] at h2
    simp only [Bool.and_eq_true, bne_iff_ne, beq_iff_eq, memcmp_addr] at h1
    exact .inl ⟨⟨⟨h2.1, by simpa using h2.2⟩, h1.1⟩, h1.2.symm⟩
  | none =>
    refine .inr ⟨rfl, fun v hv he => ?_⟩
    have h1 := List.find?_range'_eq_none.mp h v hv.1.1 (by have := hv.1.2; simp only [MAXVPS] at this ⊢; omega)
    simp only [Bool.not_and, Bool.or_eq_true, Bool.not_eq_true', bne_eq_false_iff_eq, beq_eq_false_iff_ne] at h1
    rcases h1 with h1 | h1
    · exact hv.2 h1
    · exact h1 ((memcmp_addr _ _).mpr he.symm)

/-- `vps_atov` finds a used slot with the address, or there is none. -/
theorem vps_atov_spec (t : VpsTable) (addr : Addr ADDRLEN) :
    Used t (vps_atov t addr) ∧ vps_vtoa t (vps_atov t addr) = addr ∨
      vps_atov t addr = 0 ∧ ∀ v, Used t v → vps_vtoa t v ≠ addr :=
  search_spec t VpsEntry.addr addr

/-- So does `vps_atov_nwk`. -/
theorem vps_atov_nwk_spec (t : VpsTable) (addr : Addr ADDRLEN2) :
    Used t (vps_atov_nwk t addr) ∧ vps_vtoa_nwk t (vps_atov_nwk t addr) = addr ∨
      vps_atov_nwk t addr = 0 ∧ ∀ v, Used t v → vps_vtoa_nwk t v ≠ addr :=
  search_spec t VpsEntry.nwkaddr addr

/-- No used slot has the address exactly when `vps_atov` finds none. -/
theorem vps_atov_eq_zero {t : VpsTable} {addr : Addr ADDRLEN} : vps_atov t addr = 0 ↔ ∀ v, Used t v → vps_vtoa t v ≠ addr := by
  rcases vps_atov_spec t addr with ⟨hu, he⟩ | ⟨h0, hno⟩
  · constructor
    · intro h0
      rw [h0] at hu
      exact absurd hu.1.1 (by decide)
    · intro hno
      exact absurd he (hno _ hu)
  · exact ⟨fun _ => hno, fun _ => h0⟩

/-- An address that one used slot holds and no other is found there. -/
theorem vps_atov_of_unique {t : VpsTable} {addr : Addr ADDRLEN} {v : Nat} (hv : Used t v) (he : vps_vtoa t v = addr)
    (huniq : ∀ w, Used t w → vps_vtoa t w = addr → w = v) : vps_atov t addr = v := by
  rcases vps_atov_spec t addr with ⟨hu, he'⟩ | ⟨_, hno⟩
  · exact huniq _ hu he'
  · exact absurd he (hno v hv)

theorem vps_atov_nwk_of_unique {t : VpsTable} {addr : Addr ADDRLEN2} {v : Nat} (hv : Used t v) (he : vps_vtoa_nwk t v = addr)
    (huniq : ∀ w, Used t w → vps_vtoa_nwk t w = addr → w = v) : vps_atov_nwk t addr = v := by
  rcases vps_atov_nwk_spec t addr with ⟨hu, he'⟩ | ⟨_, hno⟩
  · exact huniq _ hu he'
  · exact absurd he (hno v hv)

/-- The slot `vps_add` takes is a free one of the table. -/
theorem freeSlot_eq_some {t : VpsTable} {i : Nat} (h : freeSlot t = some i) :
    (t i).used = 0 ∧ (1 ≤ i ∧ i < MAXVPS) ∧ ∀ j, 1 ≤ j → j < i → (t j).used ≠ 0 := by
  obtain ⟨h1, h2, h3⟩ := List.find?_range'_eq_some.mp h
  rw [List.mem_range'_1] at h2
  exact ⟨by simpa using h1, ⟨h2.1, by simpa using h2.2⟩, fun j hj hji => by simpa using h3 j hj hji⟩

/-- `vps_add` has no result exactly when every slot is used. -/
theorem freeSlot_eq_none {t : VpsTable} : freeSlot t = none ↔ ∀ v, 1 ≤ v → v < MAXVPS → (t v).used ≠ 0 := by
  unfold freeSlot
  rw [List.find?_range'_eq_none]
  constructor
  · intro h v h1 h2
    simpa using h v h1 (by simp only [MAXVPS] at h2 ⊢; omega)
  · intro h i h1 h2
    simpa using h i h1 (by simp only [MAXVPS] at h2 ⊢; omega)

/-- Where every slot behind `k` is free, `vps_add` takes one of the first `k + 1`. -/
theorem freeSlot_of_free {t : VpsTable} {k : Nat} (hfree : ∀ v, k < v → v < MAXVPS → (t v).used = 0) (hk : k + 1 < MAXVPS) :
    ∃ i, freeSlot t = some i ∧ i ≤ k + 1 := by
  have hfree' := hfree (k + 1) (Nat.lt_succ_self k) hk
  cases h : freeSlot t with
  | none => exact absurd hfree' (freeSlot_eq_none.mp h (k + 1) (Nat.le_add_left 1 k) hk)
  | some i =>
    obtain ⟨_, _, hmin⟩ := freeSlot_eq_some h
    exact ⟨i, rfl, Nat.le_of_not_lt fun hlt => hmin (k + 1) (Nat.le_add_left 1 k) hlt hfree'⟩

end HomeBridge
