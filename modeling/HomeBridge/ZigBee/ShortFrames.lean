import HomeBridge.ZigBee.Branches
import HomeBridge.ZigBee.Blocks

/-!
# Frames shorter than their envelope

The stream receiver sends what it has read, however little: a stream that is split gives short frames, a gateway that disconnects an
empty one. The task does not ask. An empty frame goes up like any other, since the test for it stands behind the flag it was to keep
from being set, and the length of a stripped frame is a difference of unsigned chars, which wraps where the envelope is not all there.
-/

namespace HomeBridge

open CMem Runs

/-- A frame of `bs` is handled safely: an empty one does nothing, and what is stripped goes up with no more than the bytes behind the
envelope that were received. -/
structure SafeFrame (z : ZigBee) (bs : List UInt8) : Prop where
  empty : bs = [] → ZigBeeTask z (In1, message 0xFF bs) = some (z, [])
  within : ∀ z' outs r, ZigBeeTask z (In1, message 0xFF bs) = some (z', outs) →
    (.deviceData ∈ entered z (message 0xFF bs) ∨ .descriptor ∈ entered z (message 0xFF bs)) →
    .broadcast Out1 r ∈ outs → r.len ≤ bs.length - r.off

/-- The frame is not empty, and one that is stripped and goes up is as long as its envelope: twenty bytes of data, nine of a descriptor,
both of data that is taken for a descriptor. -/
def LongEnough (z : ZigBee) (bs : List UInt8) : Prop :=
  bs ≠ [] ∧ (¬GatewayBytes (message 0xFF bs) →
    (IsData z (message 0xFF bs) → (if (message 0xFF bs).rd 28 = 0x81 then 29 else 20) ≤ bs.length) ∧
      ((message 0xFF bs).rd 8 = 0x81 → 9 ≤ bs.length))

/-! ## What goes up -/

section upward

variable {z : ZigBee} {m : Msg}

/-- Where the pointer of a stripped message stands, and its length byte. -/
theorem deviceData_taken (h : IsData z m) : (deviceData (radioTurn z m)).dataPtr.off = m.off + 20 ∧
    (deviceData (radioTurn z m)).dataPtr.rd 1 = m.rd 1 - 6 - 6 - 8 ∧ (deviceData (radioTurn z m)).dataPtr.rd 8 = m.rd 28 := by
  have hd : deviceData (radioTurn z m) = _ := if_pos ⟨(radioTurn_rd z m 7).trans h.1, h.2.1⟩
  have h1 : (radioTurn z m).dataPtr.rd 1 = m.rd 1 := radioTurn_rd z m 0
  have h28 : (radioTurn z m).dataPtr.rd 28 = m.rd 28 := radioTurn_rd z m 27
  rw [hd]
  refine ⟨rfl, ?_, ?_⟩
  · rw [Msg.rd_set, if_pos rfl, h1]
  · rw [Msg.rd_set, if_neg (by decide), Msg.rd_set, if_neg (by decide), Msg.rd_adv, h28]

theorem descriptor_stripped {t : Turn} (h : t.dataPtr.rd 8 = 0x81) :
    (descriptor t).dataPtr.off = t.dataPtr.off + 9 ∧ (descriptor t).dataPtr.rd 1 = t.dataPtr.rd 1 - 11 + 2 := by
  have hd : descriptor t = _ := if_pos h
  rw [hd]
  exact ⟨rfl, by rw [Msg.rd_set, if_pos rfl]⟩

/-- The end of a turn on a frame that is stripped. -/
theorem stripped_outcome (h : IsData z m ∨ m.rd 8 = 0x81) : ∃ z', ZigBeeTask z (In1, m) =
    some (z', handOff { gatewayAddress (radioTurn z m) with
      dataPtr := (descriptor (deviceData (gatewayAddress (radioTurn z m)))).dataPtr }) := by
  have h8 : m.rd 8 ∉ [0xc1, 0x42, 0x83, 0x80] := by
    rcases h with hd | h81
    · rw [hd.1]
      decide
    · rw [h81]
      decide
  have hx : ¬(z.excludemode = true ∧ m.rd 8 = 0x40 ∧ m.rd 9 = 0x02 ∧ m.rd 10 = 0x00) := by
    rcases h with hd | h81
    · exact fun hx => hd.2.2 ⟨hx.1, hx.2.2⟩
    · exact fun hx => absurd (h81.symm.trans hx.2.1) (by decide)
  have ht := upward_outcome h8 hx
  rw [flags_after_data] at ht
  exact ⟨_, ht⟩

/-- One message goes up. -/
theorem stripped_up (h : IsData z m ∨ m.rd 8 = 0x81) (hg : ¬GatewayBytes m) : ∃ z', ZigBeeTask z (In1, m) =
    some (z', [.broadcast Out1 (descriptor (deviceData (radioTurn z m))).dataPtr]) := by
  obtain ⟨z', ht⟩ := stripped_outcome h
  rw [gatewayAddress_other hg] at ht
  exact ⟨z', ht⟩

/-- With the gateway's announcement in the frame none does. -/
theorem stripped_kept (h : IsData z m ∨ m.rd 8 = 0x81) (hg : GatewayBytes m) : ∃ z', ZigBeeTask z (In1, m) = some (z', []) := by
  obtain ⟨z', ht⟩ := stripped_outcome h
  have hgate : gatewayAddress (radioTurn z m) = _ := if_pos ((gatewayBytes_radioTurn z m).mpr hg)
  rw [hgate] at ht
  exact ⟨z', ht⟩

end upward

/-! ## Lengths -/

/-- A length byte less a constant is the difference exactly where it does not wrap. -/
theorem sub_le_iff {a c : UInt8} (hc : c ≠ 0) : (a - c).toNat ≤ a.toNat - c.toNat ↔ c.toNat ≤ a.toNat := by
  have ha := a.toNat_lt
  have hc' := c.toNat_lt
  have h0 : c.toNat ≠ 0 := fun h => hc (UInt8.toNat_inj.mp h)
  rw [UInt8.toNat_sub]
  omega

/-- The message of a stripped frame, in a block that starts with the frame: where its pointer stands and what its length byte says. -/
theorem stripped_header {z : ZigBee} {m : Msg} (hoff : m.off = 0) (h : IsData z m ∨ m.rd 8 = 0x81) :
    ∃ c : UInt8, c ≠ 0 ∧ (descriptor (deviceData (radioTurn z m))).dataPtr.off = c.toNat ∧
      (descriptor (deviceData (radioTurn z m))).dataPtr.rd 1 = m.rd 1 - c ∧
      ((IsData z m → (if m.rd 28 = 0x81 then 29 else 20) ≤ m.len) ∧ (m.rd 8 = 0x81 → 9 ≤ m.len) ↔ c.toNat ≤ m.len) := by
  have hsub : ∀ a : UInt8, a - 11 + 2 = a - 9 ∧ a - 6 - 6 - 8 = a - 20 ∧ a - 20 - 9 = a - 29 := by
    intro a
    have ha := a.toNat_lt
    refine ⟨UInt8.toNat_inj.mp ?_, UInt8.toNat_inj.mp ?_, UInt8.toNat_inj.mp ?_⟩ <;>
      simp only [UInt8.toNat_sub, UInt8.toNat_add, UInt8.reduceToNat] <;> omega
  by_cases hd : IsData z m
  · obtain ⟨h1, h2, h3⟩ := deviceData_taken hd
    have hno : m.rd 8 ≠ 0x81 := fun h81 => absurd (hd.1.symm.trans h81) (by decide)
    by_cases h28 : m.rd 28 = 0x81
    · obtain ⟨h4, h5⟩ := descriptor_stripped (h3.trans h28)
      refine ⟨29, by decide, by rw [h4, h1, hoff]; rfl, by rw [h5, h2, (hsub _).1, (hsub _).2.1, (hsub _).2.2], ?_⟩
      rw [if_pos h28]
      exact ⟨fun hl => hl.1 hd, fun hl => ⟨fun _ => hl, fun h81 => absurd h81 hno⟩⟩
    · rw [descriptor_skip (by rwa [h3])]
      refine ⟨20, by decide, by rw [h1, hoff]; rfl, by rw [h2, (hsub _).2.1], ?_⟩
      rw [if_neg h28]
      exact ⟨fun hl => hl.1 hd, fun hl => ⟨fun _ => hl, fun h81 => absurd h81 hno⟩⟩
  · have h81 := h.resolve_left hd
    have hr8 : (radioTurn z m).dataPtr.rd 8 = 0x81 := (radioTurn_rd z m 7).trans h81
    have hr1 : (radioTurn z m).dataPtr.rd 1 = m.rd 1 := radioTurn_rd z m 0
    rw [deviceData_skip (by rw [hr8]; decide)]
    obtain ⟨h4, h5⟩ := descriptor_stripped hr8
    refine ⟨9, by decide, by rw [h4]; exact congrArg (· + 9) hoff, by rw [h5, hr1, (hsub _).1], ?_⟩
    exact ⟨fun hl => hl.2 h81, fun hl => ⟨fun hd' => absurd hd' hd, fun _ => hl⟩⟩

/-! ## Every frame -/

/-- An empty frame goes up. -/
theorem empty_up (z : ZigBee) : ZigBeeTask z (In1, message 0xFF []) ≠ some (z, []) := by
  intro h
  have h8 : (message 0xFF []).rd 8 = 0 := rfl
  have hg : ¬GatewayBytes (message 0xFF []) := fun hg => absurd (show (0 : UInt8) = 0x53 from hg.1) (by decide)
  have ht := upward_outcome (z := z) (m := message 0xFF []) (by rw [h8]; decide)
    fun hx => absurd (h8.symm.trans hx.2.1) (by decide)
  rw [flags_after_data, gatewayAddress_other hg, h] at ht
  exact absurd (congrArg Prod.snd (Option.some.inj ht)) (List.cons_ne_nil _ _).symm

/-- For every state and every frame the receiver can send: it is handled safely exactly when it is long enough. -/
theorem safeFrame_iff_longEnough {z : ZigBee} {bs : List UInt8} (hbs : bs.length ≤ 253) : SafeFrame z bs ↔ LongEnough z bs := by
  have hlen : (message 0xFF bs).len = bs.length := by
    change (UInt8.ofNat bs.length).toNat = bs.length
    rw [UInt8.toNat_ofNat']
    omega
  have hup : (IsData z (message 0xFF bs) ∨ (message 0xFF bs).rd 8 = 0x81) → ¬GatewayBytes (message 0xFF bs) →
      ((∀ z' outs r, ZigBeeTask z (In1, message 0xFF bs) = some (z', outs) → .broadcast Out1 r ∈ outs → r.len ≤ bs.length - r.off) ↔
        (IsData z (message 0xFF bs) → (if (message 0xFF bs).rd 28 = 0x81 then 29 else 20) ≤ bs.length) ∧
          ((message 0xFF bs).rd 8 = 0x81 → 9 ≤ bs.length)) := by
    intro hs hg
    obtain ⟨z', ht⟩ := stripped_up hs hg
    obtain ⟨c, hc, hoff, h1, hiff⟩ := stripped_header rfl hs
    rw [hlen] at hiff
    have hle := sub_le_iff (a := (message 0xFF bs).rd 1) hc
    rw [show ((message 0xFF bs).rd 1).toNat = bs.length from hlen, ← h1, ← hoff] at hle
    rw [hiff, ← hoff, ← hle]
    constructor
    · intro h
      exact h _ _ _ ht (List.mem_singleton_self _)
    · rintro h z'' outs r hr hm
      obtain ⟨_, rfl⟩ := Prod.mk.inj (Option.some.inj (ht.symm.trans hr))
      cases List.mem_singleton.mp hm
      exact h
  constructor
  · intro h
    refine ⟨fun hnil => ?_, fun hg => ?_⟩
    · subst hnil
      exact empty_up z (h.empty rfl)
    · by_cases hs : IsData z (message 0xFF bs) ∨ (message 0xFF bs).rd 8 = 0x81
      · exact (hup hs hg).mp fun z' outs r hr hm => h.within z' outs r hr (entered_stripping.mpr hs) hm
      · exact ⟨fun hd => absurd (.inl hd) hs, fun h81 => absurd (.inr h81) hs⟩
  · rintro ⟨hne, hl⟩
    refine ⟨fun hnil => absurd hnil hne, fun z' outs r hr hs hm => ?_⟩
    have hs := entered_stripping.mp hs
    by_cases hg : GatewayBytes (message 0xFF bs)
    · obtain ⟨z'', ht⟩ := stripped_kept hs hg
      obtain ⟨_, rfl⟩ := Prod.mk.inj (Option.some.inj (ht.symm.trans hr))
      exact absurd hm List.not_mem_nil
    · exact (hup hs hg).mpr (hl hg) z' outs r hr hm

/-- An input that is a frame as the stream receiver sends it, of at most 253 bytes, meets the condition. -/
def EachFrame (P : ZigBee → List UInt8 → Prop) (z : ZigBee) (i : Nat × Msg) : Prop :=
  ∀ bs : List UInt8, bs.length ≤ 253 → i = (In1, message 0xFF bs) → P z bs

/-- For every run from the start: each frame of the stream receiver is handled safely exactly when each is long enough. -/
theorem safeFrame_iff (gwieeeaddr : Addr ADDRLEN) (is : List (Nat × Msg)) :
    AtEach ZigBee.step (EachFrame SafeFrame) (ZigBee.start gwieeeaddr) is ↔
      AtEach ZigBee.step (EachFrame LongEnough) (ZigBee.start gwieeeaddr) is :=
  atEach_congr (fun _ _ => forall_congr' fun _ => imp_congr_right fun hbs => imp_congr_right fun _ => safeFrame_iff_longEnough hbs) _ _

/-- The gateway disconnects before anything else. -/
theorem not_safeFrame : ¬∀ gw is, AtEach ZigBee.step (EachFrame SafeFrame) (ZigBee.start gw) is := by
  intro h
  let gw : Addr ADDRLEN := ⟨List.replicate 8 0, rfl⟩
  have hs := h gw [(In1, message 0xFF [])] [] (In1, message 0xFF []) [] (ZigBee.start gw) rfl rfl [] (by decide) rfl
  exact empty_up _ (hs.empty rfl)

end HomeBridge
