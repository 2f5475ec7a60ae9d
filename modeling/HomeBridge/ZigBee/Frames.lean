import HomeBridge.Lib.Run
import HomeBridge.ZigBee.Radio

/-!
# The frames on the serial stream

Everything the task hands to `Out2` should be a frame the gateway can read: a fixed start, a count of the bytes behind byte 5, a
checksum over the first five bytes, and a length byte that announces exactly the frame. Eight branches build one each. What goes
wrong, goes wrong in the length: a confirmation of a join keeps the length byte of the frame it answers, and the frame of an
`XONFIG_REQ` announces one length whatever its argument; a long payload and a full table leave the buffers.
-/

namespace HomeBridge

open CMem Runs

/-- A frame for the gateway, as the body of a message: byte `n` of the body is `dataPtr[n + 2]`. -/
structure WellFormed (m : Msg) : Prop where
  header : m.bytes 2 4 = [0x00, 0x03, 0x00, 0xC0]
  count : m.len = 6 + (m.rd 6).toNat
  checksum : m.rd 7 = CHECKSUM fun i => m.rd (2 + i)

/-- A message on port 0 that is none of the five commands. -/
def Unrecognised (i : Nat × Msg) : Prop :=
  i.1 = In2 ∧ (i.2.rd 0).toNat = 0 ∧ i.2.isAt (ascii "NETLIST_REQ") 2 = false ∧ i.2.isAt (ascii "INCLUDE_REQ") 2 = false ∧
    i.2.isAt ((ascii "XADDSTOP_REQ").take 11) 2 = false ∧ i.2.isAt (ascii "GETDESC_REQ") 2 = false ∧
    i.2.isAt (ascii "XCLUDE_REQ") 2 = false

/-- The task handles the message without leaving its buffers, and what it hands to `Out2` is a frame; an unrecognised command,
which is passed through as it is, excepted. -/
def Framed (z : ZigBee) (i : Nat × Msg) : Prop :=
  ∃ z' outs, ZigBeeTask z i = some (z', outs) ∧ (¬Unrecognised i → ∀ m, .broadcast Out2 m ∈ outs → WellFormed m)

/-! ## When it is -/

/-- A frame of a device that joins while the task includes devices. -/
def Joins (z : ZigBee) (m : Msg) : Prop :=
  z.includemode = true ∧ (m.rd 8 = 0xc1 ∧ m.rd 9 = 0x20 ∧ m.rd 10 = 0xf1 ∨ m.rd 8 = 0x42)

/-- A network list the task has asked for. -/
def Lists (z : ZigBee) (m : Msg) : Prop := z.netupdatemode = true ∧ m.rd 8 = 0x83

/-- The labels of the entries present in a network list. -/
def labels (m : Msg) (entries : List (Nat × List UInt8)) : List UInt8 :=
  (entries.filter (fun e => m.rd (2 + e.1) != 0xFF)).flatMap Prod.snd

/-- The string that starts with the reply's fourteen characters, and goes on with what stands in the block up to the first NUL,
leaves room in the block for the labels. -/
def ReplyFits (m : Msg) : Prop :=
  m.off + 2 + (m.wr 2 (ascii "netlist_done: ")).strlen 2 + (labels m netlistEntries).length + 1 ≤ DATASIZE

/-- The messages for a device whose frame comes out right. -/
def DeviceFits (z : ZigBee) (m : Msg) : Prop :=
  m.vps = 0 ∨ m.vps < MAXVPS ∧ (check_valid_vps z.table m.vps = true →
    m.isAt (ascii "XCLUDE_REQ") 2 = true ∨ m.isAt (ascii "GETDESC_REQ") 2 = true ∨ m.isAt (ascii "GETUID_REQ") 2 = true ∨
      if m.isAt (ascii "XONFIG_REQ") 2 = true then m.len = 18 ∨ m.len = 19 else m.len + 16 ≤ SCRATCH)

/-- The condition on a message and the state before it: a device joins with a frame of twenty bytes, while a slot is free; the
reply to a network list fits in the block; an `XONFIG_REQ` has an argument of eight or nine characters; a payload for a device
fits in the scratch buffer. -/
def FrameFits (z : ZigBee) (i : Nat × Msg) : Prop :=
  if i.1 = In1 then (Joins z i.2 → i.2.len = 20 ∧ freeSlot z.table ≠ none) ∧ (Lists z i.2 → ReplyFits i.2)
  else if i.1 = In2 then DeviceFits z i.2
  else True

/-! ## Reading a frame -/

/-- A frame is well formed by its length byte and its first six bytes. -/
theorem wellFormed_iff {m : Msg} (h2 : m.rd 2 = 0x00) (h3 : m.rd 3 = 0x03) (h4 : m.rd 4 = 0x00) (h5 : m.rd 5 = 0xC0)
    (h7 : m.rd 7 = 0x00 ^^^ 0x03 ^^^ 0x00 ^^^ 0xC0 ^^^ m.rd 6) : WellFormed m ↔ m.len = 6 + (m.rd 6).toNat := by
  refine ⟨WellFormed.count, fun h => ⟨?_, h, ?_⟩⟩
  · refine List.ext_getElem (by simp) fun i h₁ _ => ?_
    rw [Msg.length_bytes] at h₁
    rw [Msg.getElem_bytes]
    match i, h₁ with
    | 0, _ => exact h2
    | 1, _ => exact h3
    | 2, _ => exact h4
    | 3, _ => exact h5
  · simp only [CHECKSUM, Nat.add_zero, Nat.reduceAdd, h2, h3, h4, h5, h7]

/-- The first byte is not part of the frame. -/
theorem wellFormed_set_zero {m : Msg} {b : UInt8} : WellFormed (m.set 0 b) ↔ WellFormed m := by
  have hheader : (m.set 0 b).bytes 2 4 = m.bytes 2 4 := m.bytes_set_disjoint b (.inr (by decide))
  have hlen : (m.set 0 b).len = m.len := by simp [Msg.len]
  have hrd : ∀ i, (m.set 0 b).rd (i + 1) = m.rd (i + 1) := fun i => by rw [Msg.rd_set, if_neg (Nat.succ_ne_zero i)]
  have hcheck : (CHECKSUM fun i => (m.set 0 b).rd (2 + i)) = CHECKSUM fun i => m.rd (2 + i) := by simp [CHECKSUM]
  constructor
  · rintro ⟨h1, h2, h3⟩
    exact ⟨hheader ▸ h1, by rw [← hlen, h2, hrd], by rw [← hrd, h3, hcheck]⟩
  · rintro ⟨h1, h2, h3⟩
    exact ⟨hheader.trans h1, by rw [hlen, h2, hrd], by rw [hrd, h3, hcheck]⟩

/-- What a turn hands to `Out2`. -/
theorem mem_handOff_serial {t : Turn} {m : Msg} :
    .broadcast Out2 m ∈ handOff t ↔ t.do_broadcast_to_serial = true ∧ m = t.dataPtr.set 0 0xff := by
  simp [mem_handOff]

/-! ## Commands on port 0 -/

section gateway

variable {t : Turn}

/-- A command that was recognised has a NUL where the keywords start. -/
theorem keyword_gone {m : Msg} (h : m.rd 2 = 0x00) {kw : List UInt8} (hkw : kw.headD 0x00 ≠ 0x00) : m.isAt kw 2 = false := by
  cases kw with
  | nil => exact absurd rfl hkw
  | cons c kw => exact Msg.isAt_eq_false 0 (Nat.zero_lt_succ _) (by rw [Nat.add_zero, h]; exact hkw.symm)

theorem netlistReq_skip (h : t.dataPtr.isAt (ascii "NETLIST_REQ") 2 = false) : netlistReq t = t := if_neg (by rw [h]; decide)

theorem includeReq_skip (h : t.dataPtr.isAt (ascii "INCLUDE_REQ") 2 = false) : includeReq t = t := if_neg (by rw [h]; decide)

theorem xaddstopReq_skip (h : t.dataPtr.isAt ((ascii "XADDSTOP_REQ").take 11) 2 = false) : xaddstopReq t = t :=
  if_neg (by rw [h]; decide)

theorem getdescReq_skip (h : t.dataPtr.isAt (ascii "GETDESC_REQ") 2 = false) : getdescReq t = t := if_neg (by rw [h]; decide)

theorem xcludeReq_skip (h : t.dataPtr.isAt (ascii "XCLUDE_REQ") 2 = false) : xcludeReq t = t := if_neg (by rw [h]; decide)

/-- The tests behind a recognised command fail. -/
theorem skip_after_include (h : t.dataPtr.rd 2 = 0x00) : xcludeReq (getdescReq (xaddstopReq t)) = t := by
  rw [xaddstopReq_skip (keyword_gone h (by decide)), getdescReq_skip (keyword_gone h (by decide)),
    xcludeReq_skip (keyword_gone h (by decide))]

/-- The frame that asks for the network list is built where the keyword was, and is well-formed. -/
theorem netlistReq_taken (h : t.dataPtr.isAt (ascii "NETLIST_REQ") 2 = true) :
    (netlistReq t).dataPtr.rd 2 = 0x00 ∧ WellFormed (netlistReq t).dataPtr := by
  rw [netlistReq, if_pos h]
  refine ⟨by simp [Msg.rd_wr], (wellFormed_iff ?_ ?_ ?_ ?_ ?_).mpr ?_⟩ <;> simp [Msg.rd_wr, Msg.len, CHECKSUM]

/-- So is the one that opens the network. -/
theorem includeReq_taken (h : t.dataPtr.isAt (ascii "INCLUDE_REQ") 2 = true) :
    (includeReq t).dataPtr.rd 2 = 0x00 ∧ WellFormed (includeReq t).dataPtr := by
  rw [includeReq, if_pos h]
  refine ⟨by simp [Msg.rd_wr], (wellFormed_iff ?_ ?_ ?_ ?_ ?_).mpr ?_⟩ <;> simp [Msg.rd_wr, Msg.len]
  decide

/-- The next command leaves no keyword either. -/
theorem xaddstopReq_taken (h : t.dataPtr.isAt ((ascii "XADDSTOP_REQ").take 11) 2 = true) :
    (xaddstopReq t).dataPtr.rd 2 = 0x00 := by
  rw [xaddstopReq, if_pos h]
  simp [Msg.rd_wr]

/-- Nor does this one. -/
theorem getdescReq_taken (h : t.dataPtr.isAt (ascii "GETDESC_REQ") 2 = true) :
    (getdescReq t).dataPtr.rd 2 = 0x00 := by
  rw [getdescReq, if_pos h]
  simp [Msg.rd_wr]

/-- A message on port 0 is one of the five commands, or none. -/
inductive GatewayOutcome (t : Turn) : Turn → Prop
  | netlistReq (h : t.dataPtr.isAt (ascii "NETLIST_REQ") 2 = true) : GatewayOutcome t (netlistReq { t with do_broadcast_to_serial := true })
  | includeReq (h : t.dataPtr.isAt (ascii "INCLUDE_REQ") 2 = true) : GatewayOutcome t (includeReq { t with do_broadcast_to_serial := true })
  | xaddstopReq (h : t.dataPtr.isAt ((ascii "XADDSTOP_REQ").take 11) 2 = true) :
      GatewayOutcome t (xaddstopReq { t with do_broadcast_to_serial := true })
  | getdescReq (h : t.dataPtr.isAt (ascii "GETDESC_REQ") 2 = true) : GatewayOutcome t (getdescReq { t with do_broadcast_to_serial := true })
  | xcludeReq (h : t.dataPtr.isAt (ascii "XCLUDE_REQ") 2 = true) : GatewayOutcome t (xcludeReq { t with do_broadcast_to_serial := true })
  | unrecognised (h₀ : t.dataPtr.isAt (ascii "NETLIST_REQ") 2 = false) (h₁ : t.dataPtr.isAt (ascii "INCLUDE_REQ") 2 = false)
      (h₂ : t.dataPtr.isAt ((ascii "XADDSTOP_REQ").take 11) 2 = false) (h₃ : t.dataPtr.isAt (ascii "GETDESC_REQ") 2 = false)
      (h₄ : t.dataPtr.isAt (ascii "XCLUDE_REQ") 2 = false) : GatewayOutcome t { t with do_broadcast_to_serial := true }

/-- The tests are made one after the other on what the ones before have left, and one at most applies. -/
theorem gatewayCommand_outcome (t : Turn) : GatewayOutcome t (gatewayCommand t) := by
  let u : Turn := { t with do_broadcast_to_serial := true }
  change GatewayOutcome t (xcludeReq (getdescReq (xaddstopReq (includeReq (netlistReq u)))))
  cases h1 : t.dataPtr.isAt (ascii "NETLIST_REQ") 2 with
  | true =>
    have h2 := (netlistReq_taken (t := u) h1).1
    rw [includeReq_skip (keyword_gone h2 (by decide)), skip_after_include h2]
    exact .netlistReq h1
  | false =>
    rw [netlistReq_skip (t := u) h1]
    cases h2 : t.dataPtr.isAt (ascii "INCLUDE_REQ") 2 with
    | true =>
      rw [skip_after_include (includeReq_taken (t := u) h2).1]
      exact .includeReq h2
    | false =>
      rw [includeReq_skip (t := u) h2]
      cases h3 : t.dataPtr.isAt ((ascii "XADDSTOP_REQ").take 11) 2 with
      | true =>
        have h4 := xaddstopReq_taken (t := u) h3
        rw [getdescReq_skip (keyword_gone h4 (by decide)), xcludeReq_skip (keyword_gone h4 (by decide))]
        exact .xaddstopReq h3
      | false =>
        rw [xaddstopReq_skip (t := u) h3]
        cases h4 : t.dataPtr.isAt (ascii "GETDESC_REQ") 2 with
        | true =>
          rw [xcludeReq_skip (keyword_gone (getdescReq_taken (t := u) h4) (by decide))]
          exact .getdescReq h4
        | false =>
          rw [getdescReq_skip (t := u) h4]
          cases h5 : t.dataPtr.isAt (ascii "XCLUDE_REQ") 2 with
          | true => exact .xcludeReq h5
          | false =>
            rw [xcludeReq_skip (t := u) h5]
            exact .unrecognised h1 h2 h3 h4 h5

/-- What a command on port 0 leaves for the gateway is a frame, unless it was none. -/
theorem gatewayCommand_wellFormed (hs : (gatewayCommand t).do_broadcast_to_serial = true)
    (hrec : ¬(t.dataPtr.isAt (ascii "NETLIST_REQ") 2 = false ∧ t.dataPtr.isAt (ascii "INCLUDE_REQ") 2 = false ∧
      t.dataPtr.isAt ((ascii "XADDSTOP_REQ").take 11) 2 = false ∧ t.dataPtr.isAt (ascii "GETDESC_REQ") 2 = false ∧
      t.dataPtr.isAt (ascii "XCLUDE_REQ") 2 = false)) :
    WellFormed (gatewayCommand t).dataPtr := by
  have ho := gatewayCommand_outcome t
  generalize gatewayCommand t = t' at ho hs ⊢
  cases ho with
  | netlistReq h => exact (netlistReq_taken (t := { t with do_broadcast_to_serial := true }) h).2
  | includeReq h => exact (includeReq_taken (t := { t with do_broadcast_to_serial := true }) h).2
  -- the three other commands hand nothing to the gateway
  | xaddstopReq h =>
    rw [xaddstopReq, if_pos h] at hs
    cases hs
  | getdescReq h =>
    rw [getdescReq, if_pos h] at hs
    cases hs
  | xcludeReq h =>
    rw [xcludeReq, if_pos h] at hs
    cases hs
  | unrecognised h₀ h₁ h₂ h₃ h₄ => exact absurd ⟨h₀, h₁, h₂, h₃, h₄⟩ hrec

end gateway

/-! ## Commands for a device -/

/-- The first eight bytes of a frame from the scratch buffer. -/
theorem bufferHead_rd (m : Msg) (a b c n : UInt8) (rest : List UInt8) {k : Nat} (hk : k < 8) :
    ((m.wr 2 (bufferHead a b c ++ rest)).set 1 n).rd (2 + k) = (bufferHead a b c).getD k 0 := by
  have hl : (bufferHead a b c).length = 8 := rfl
  rw [Msg.rd_set, if_neg (by omega), Msg.rd_wr, if_pos (by rw [List.length_append]; omega), Nat.add_sub_cancel_left]
  simp only [List.getD_eq_getElem?_getD]
  rw [List.getElem?_append_left (by omega)]

/-- A frame from the scratch buffer is well formed when its length byte agrees with byte 4. -/
theorem wellFormed_bufferHead (m : Msg) {a b c n : UInt8} {rest : List UInt8} (h : n.toNat = 6 + a.toNat) :
    WellFormed ((m.wr 2 (bufferHead a b c ++ rest)).set 1 n) := by
  have hr : ∀ k, k < 8 → ((m.wr 2 (bufferHead a b c ++ rest)).set 1 n).rd (2 + k) = (bufferHead a b c).getD k 0 :=
    fun k hk => bufferHead_rd m a b c n rest hk
  have h6 : ((m.wr 2 (bufferHead a b c ++ rest)).set 1 n).rd 6 = a := hr 4 (by decide)
  refine (wellFormed_iff (hr 0 (by decide)) (hr 1 (by decide)) (hr 2 (by decide)) (hr 3 (by decide)) ?_).mpr ?_
  · rw [h6]
    exact hr 5 (by decide)
  · rw [h6]
    simpa [Msg.len] using h

/-- The exclusion of any device is well-formed. -/
theorem excludeFrame_wellFormed (m : Msg) (a : Addr ADDRLEN) : WellFormed (excludeFrame m a) := by
  have h6 : (excludeFrame m a).rd 6 = 0x0D := excludeFrame_rd m a (by decide) (by decide)
  refine (wellFormed_iff (excludeFrame_rd m a (by decide) (by decide)) (excludeFrame_rd m a (by decide) (by decide))
    (excludeFrame_rd m a (by decide) (by decide)) (excludeFrame_rd m a (by decide) (by decide)) ?_).mpr ?_
  · rw [h6, excludeFrame_rd m a (by decide) (by decide)]
    decide
  · rw [h6]
    simp [excludeFrame, Msg.len]

/-- So is the question for a descriptor. -/
theorem descriptorFrame_wellFormed (t : VpsTable) (m : Msg) : WellFormed (descriptorFrame t m) := by
  unfold descriptorFrame
  simp only [List.append_assoc]
  exact wellFormed_bufferHead m (by decide)

/-- So is a payload for a device, as long as it fits in the scratch buffer. -/
theorem dataFrame_wellFormed (t : VpsTable) {m : Msg} (h : m.len + 16 ≤ SCRATCH) : WellFormed (dataFrame t m) := by
  unfold dataFrame
  simp only [List.append_assoc]
  refine wellFormed_bufferHead m ?_
  simp only [Msg.len, SCRATCH] at h
  rw [UInt8.toNat_add, UInt8.toNat_add, Nat.mod_eq_of_lt (by simp; omega), Nat.mod_eq_of_lt (by simp; omega)]
  simp
  omega

/-- How many bytes precede the end of an `XONFIG_REQ` frame, for a payload that holds the keyword and for a shorter one. -/
theorem configLen_cases (m : Msg) :
    10 ≤ m.len ∧ configLen m = 33 + (m.len - 10) / 2 ∨ m.len < 10 ∧ 28 ≤ configLen m ∧ configLen m ≤ 33 := by
  unfold configLen
  by_cases h : 10 ≤ m.len
  · obtain ⟨k, hk⟩ := Nat.exists_eq_add_of_le h
    have h1 : (m.len : Int) - 10 = (k : Int) := by omega
    have h2 : ((k : Int).tdiv 2) = ((k / 2 : Nat) : Int) := rfl
    rw [h1, h2]
    omega
  · have hall : ∀ n < 10, 28 ≤ (33 + (((n : Nat) : Int) - 10).tdiv 2).toNat ∧ (33 + ((n : Int) - 10).tdiv 2).toNat ≤ 33 := by decide
    exact .inr ⟨by omega, hall m.len (by omega)⟩

/-- The length byte of the frame of an `XONFIG_REQ` is what the frame says only for arguments of eight and nine characters. -/
theorem configLen_eq (m : Msg) : (UInt8.ofNat (configLen m + 9)).toNat = 46 ↔ m.len = 18 ∨ m.len = 19 := by
  have hlen : m.len < 256 := (m.rd 1).toNat_lt
  rw [UInt8.toNat_ofNat']
  rcases configLen_cases m with h | h <;> omega

/-- The first six bytes of the scratch buffer of an `XONFIG_REQ`. -/
theorem configBuffer_head (z : ZigBee) (m : Msg) {k : Nat} (hk : k < 6) :
    configBuffer z m k = [0x00, 0x03, 0x00, 0xC0, 0x28, 0xEB].getD k 0 := by
  have hlen : 28 ≤ configLen m := by rcases configLen_cases m with h | h <;> omega
  unfold configBuffer
  rw [write_of_lt _ _ (by omega), write_of_lt _ _ (by omega), write_of_lt _ _ (by omega), write_of_lt _ _ (by omega),
    write_of_lt _ _ (by omega), write_of_lt _ _ (by omega)]
  match k, hk with
  | 0, _ | 1, _ | 2, _ | 3, _ | 4, _ | 5, _ => decide

/-- The length of a configuration is right for arguments of eight or nine characters only. -/
theorem configFrame_wellFormed (z : ZigBee) (m : Msg) : WellFormed (configFrame z m) ↔ m.len = 18 ∨ m.len = 19 := by
  have hr : ∀ k, k < 6 → (configFrame z m).rd (2 + k) = [0x00, 0x03, 0x00, 0xC0, 0x28, 0xEB].getD k 0 := by
    intro k hk
    rw [configFrame, Msg.rd_set, if_neg (by omega), Msg.rd_wr, if_pos (by rw [CMem.length_bytes]; omega), Nat.add_sub_cancel_left,
      ← configBuffer_head z m hk]
    simp only [List.getD_eq_getElem?_getD]
    rw [List.getElem?_eq_getElem (by rw [CMem.length_bytes]; omega), CMem.getElem_bytes, Nat.zero_add]
    rfl
  have h6 : (configFrame z m).rd 6 = 0x28 := hr 4 (by decide)
  have hw := wellFormed_iff (hr 0 (by decide)) (hr 1 (by decide)) (hr 2 (by decide)) (hr 3 (by decide))
    (show (configFrame z m).rd 7 = _ by rw [h6]; exact hr 5 (by decide))
  have hlen : (configFrame z m).len = (UInt8.ofNat (configLen m + 9)).toNat := by simp [configFrame, Msg.len]
  rw [hw, h6, hlen]
  exact configLen_eq m

/-- A turn that goes through, with a frame for the gateway if there is anything for it. -/
def Good (r : Option Turn) : Prop := ∃ t, r = some t ∧ (t.do_broadcast_to_serial = true → WellFormed t.dataPtr)

theorem good_some {t : Turn} : Good (some t) ↔ (t.do_broadcast_to_serial = true → WellFormed t.dataPtr) :=
  ⟨fun ⟨_, h, hw⟩ => Option.some.inj h ▸ hw, fun hw => ⟨t, rfl, hw⟩⟩

theorem not_good_none : ¬Good none := fun ⟨_, h, _⟩ => nomatch h

/-- A turn that sends nothing to the gateway is good. -/
theorem good_of_quiet {t : Turn} (h : t.do_broadcast_to_serial = false) : Good (some t) :=
  good_some.mpr fun hs => absurd (h.symm.trans hs) (by decide)

/-- A message for a device whose slot is in use becomes a frame exactly when it fits. -/
theorem deviceCommand_good (t : Turn) : Good (deviceCommand t) ↔
    (t.dataPtr.isAt (ascii "XCLUDE_REQ") 2 = true ∨ t.dataPtr.isAt (ascii "GETDESC_REQ") 2 = true ∨
      t.dataPtr.isAt (ascii "GETUID_REQ") 2 = true ∨
      if t.dataPtr.isAt (ascii "XONFIG_REQ") 2 = true then t.dataPtr.len = 18 ∨ t.dataPtr.len = 19
      else t.dataPtr.len + 16 ≤ SCRATCH) := by
  by_cases h1 : t.dataPtr.isAt (ascii "XCLUDE_REQ") 2 = true
  · have he : deviceCommand t = some _ := if_pos h1
    rw [he]
    exact iff_of_true (good_some.mpr fun _ => excludeFrame_wellFormed _ _) (.inl h1)
  by_cases h2 : t.dataPtr.isAt (ascii "GETDESC_REQ") 2 = true
  · have he : deviceCommand t = some _ := (if_neg h1).trans (if_pos h2)
    rw [he]
    exact iff_of_true (good_some.mpr fun _ => descriptorFrame_wellFormed _ _) (.inr (.inl h2))
  by_cases h3 : t.dataPtr.isAt (ascii "GETUID_REQ") 2 = true
  · have he : deviceCommand t = some _ := (if_neg h1).trans ((if_neg h2).trans (if_pos h3))
    rw [he]
    exact iff_of_true (good_of_quiet rfl) (.inr (.inr (.inl h3)))
  have hkw : ∀ P : Prop, (t.dataPtr.isAt (ascii "XCLUDE_REQ") 2 = true ∨ t.dataPtr.isAt (ascii "GETDESC_REQ") 2 = true ∨
      t.dataPtr.isAt (ascii "GETUID_REQ") 2 = true ∨ P) ↔ P := fun P =>
    ⟨fun h => ((h.resolve_left h1).resolve_left h2).resolve_left h3, fun h => .inr (.inr (.inr h))⟩
  rw [hkw]
  by_cases h4 : t.dataPtr.isAt (ascii "XONFIG_REQ") 2 = true
  · have he : deviceCommand t = some { t with dataPtr := configFrame t.z t.dataPtr, do_broadcast_to_serial := true } :=
      (if_neg h1).trans ((if_neg h2).trans ((if_neg h3).trans (if_pos h4)))
    rw [he, if_pos h4, good_some, ← configFrame_wellFormed t.z t.dataPtr]
    exact ⟨fun h => h rfl, fun h _ => h⟩
  rw [if_neg h4]
  by_cases h5 : t.dataPtr.len + 16 ≤ SCRATCH
  · have he : deviceCommand t = some _ :=
      (if_neg h1).trans ((if_neg h2).trans ((if_neg h3).trans ((if_neg h4).trans (if_pos h5))))
    rw [he]
    exact iff_of_true (good_some.mpr fun _ => dataFrame_wellFormed _ h5) h5
  · have he : deviceCommand t = none :=
      (if_neg h1).trans ((if_neg h2).trans ((if_neg h3).trans ((if_neg h4).trans (if_neg h5))))
    rw [he]
    exact iff_of_false not_good_none h5

/-- A message from the upper layers, an unrecognised command excepted, becomes a frame exactly when it fits. -/
theorem serviceUpperLayers_good {t : Turn} (hrec : ¬Unrecognised (In2, t.dataPtr)) :
    Good (serviceUpperLayers t) ↔ DeviceFits t.z t.dataPtr := by
  unfold DeviceFits
  by_cases h0 : t.dataPtr.vps = 0
  · rw [serviceUpperLayers_gateway h0]
    exact iff_of_true (good_some.mpr fun hs => gatewayCommand_wellFormed hs fun hno => hrec ⟨rfl, h0, hno⟩) (.inl h0)
  by_cases hmax : MAXVPS ≤ t.dataPtr.vps
  · rw [serviceUpperLayers_outside h0 hmax]
    refine iff_of_false not_good_none ?_
    rintro (h | ⟨h, _⟩) <;> omega
  have hlt : t.dataPtr.vps < MAXVPS := Nat.lt_of_not_le hmax
  by_cases hv : check_valid_vps t.z.table t.dataPtr.vps = true
  · rw [serviceUpperLayers_device h0 hlt hv, deviceCommand_good]
    exact ⟨fun h => .inr ⟨hlt, fun _ => h⟩, fun h => (h.resolve_left h0).2 hv⟩
  · rw [serviceUpperLayers_invalid h0 hlt (Bool.eq_false_iff.mpr hv)]
    exact iff_of_true (good_of_quiet rfl) (.inr ⟨hlt, fun h => absurd h hv⟩)

/-- An unrecognised command goes through. -/
theorem serviceUpperLayers_unrecognised {t : Turn} (hrec : Unrecognised (In2, t.dataPtr)) :
    serviceUpperLayers t = some (gatewayCommand t) := serviceUpperLayers_gateway hrec.2.1

/-! ## Frames from the radio -/

/-- A confirmation of a join is well formed exactly when the frame it answers was twenty bytes long. -/
theorem joinFrame_wellFormed (m : Msg) (a : Addr ADDRLEN) : WellFormed (joinFrame m a) ↔ m.len = 20 := by
  have h6 : (joinFrame m a).rd 6 = 0x0E := joinFrame_rd m a (by decide)
  have h1 : (joinFrame m a).rd 1 = m.rd 1 := joinFrame_rd m a (by decide)
  rw [wellFormed_iff (joinFrame_rd m a (by decide)) (joinFrame_rd m a (by decide)) (joinFrame_rd m a (by decide))
    (joinFrame_rd m a (by decide)) (by rw [h6]; exact joinFrame_rd m a (by decide)), h6, Msg.len, h1]
  rfl

/-- The confirmation of a join keeps the length byte of the frame it answers, which has to be 20, and a slot has to be free. -/
theorem joinDevice_good (t : Turn) (a : Addr ADDRLEN) : Good (joinDevice t a) ↔ t.dataPtr.len = 20 ∧ freeSlot t.z.table ≠ none := by
  unfold joinDevice vps_add
  cases h : freeSlot t.z.table with
  | none => exact iff_of_false not_good_none fun hc => hc.2 rfl
  | some i =>
    rw [Option.map_some, Option.map_some, good_some]
    exact ⟨fun hw => ⟨(joinFrame_wellFormed _ _).mp (hw rfl), nofun⟩, fun hw _ => (joinFrame_wellFormed _ _).mpr hw.1⟩

/-- The entries of a network list find slots: as many as there are entries were free. -/
theorem addEntries_eq (m : Msg) : ∀ (entries : List (Nat × List UInt8)) (table : VpsTable) (buffer : List UInt8) (k : Nat),
    (∀ v, k < v → v < MAXVPS → (table v).used = 0) → k + entries.length < MAXVPS →
      ∃ table', addEntries m entries (table, buffer) = some (table', buffer ++ labels m entries)
  | [], table, buffer, _, _, _ => ⟨table, by simp [addEntries, labels]⟩
  | (start, label) :: entries, table, buffer, k, hfree, hk => by
    rw [List.length_cons] at hk
    by_cases hff : m.rd (2 + start) = 0xFF
    · obtain ⟨table', ih⟩ := addEntries_eq m entries table buffer k hfree (by omega)
      refine ⟨table', ?_⟩
      rw [addEntries, if_neg (not_not_intro hff), ih]
      simp [labels, hff]
    · obtain ⟨i, hi, hik⟩ := freeSlot_of_free hfree (show k + 1 < MAXVPS by omega)
      let table₁ := Function.update table i { table i with used := 1, addr := m.addr (2 + start) ADDRLEN }
      have hfree₁ : ∀ v, k + 1 < v → v < MAXVPS → (vps_add_nwk table₁ i (m.addr (2 + (start + 8)) ADDRLEN2) v).used = 0 := by
        intro v h1 h2
        have hvi : v ≠ i := by omega
        simp only [vps_add_nwk, table₁, Function.update_of_ne hvi]
        exact hfree v (by omega) h2
      obtain ⟨table', ih⟩ := addEntries_eq m entries _ (buffer ++ label) (k + 1) hfree₁ (by omega)
      refine ⟨table', ?_⟩
      rw [addEntries, if_pos hff, vps_add, hi, Option.map_some, Option.bind_some]
      exact ih.trans (by simp [labels, hff])

/-- A network list is good exactly if the reply fits. -/
theorem netlist_good {t : Turn} (h : t.z.netupdatemode = true ∧ t.dataPtr.rd 8 = 0x83) :
    Good (netlist t) ↔ ReplyFits t.dataPtr := by
  obtain ⟨table', he⟩ := addEntries_eq t.dataPtr netlistEntries (clearvpstable t.z.table) [] 0 (fun _ _ _ => rfl) (by decide)
  have hn : netlist t = _ := if_pos h
  rw [hn, he, Option.bind_some, List.nil_append]
  dsimp only
  by_cases hfit : ReplyFits t.dataPtr
  · have hcat : (t.dataPtr.wr 2 (ascii "netlist_done: ")).strcat 2 (labels t.dataPtr netlistEntries) = some _ := if_pos hfit
    rw [hcat, Option.map_some]
    exact iff_of_true (good_of_quiet rfl) hfit
  · have hcat : (t.dataPtr.wr 2 (ascii "netlist_done: ")).strcat 2 (labels t.dataPtr netlistEntries) = none := if_neg hfit
    rw [hcat]
    exact iff_of_false not_good_none hfit

/-- The last three branches hand nothing to the gateway. -/
theorem upward_quiet {t : Turn} (hs : t.do_broadcast_to_serial = false) :
    (descriptor (deviceData (dataFailed t))).do_broadcast_to_serial = false := by
  obtain ⟨m, b, h⟩ := upward_frame t
  rw [h, hs]

/-- A frame from the radio is handled within the buffers, and answered with a frame, exactly when it fits. -/
theorem radioBranches_good {t : Turn} (hs : t.do_broadcast_to_serial = false) : Good (radioBranches t) ↔
    (Joins t.z t.dataPtr → t.dataPtr.len = 20 ∧ freeSlot t.z.table ≠ none) ∧ (Lists t.z t.dataPtr → ReplyFits t.dataPtr) := by
  have hg := gatewayAddress_serial hs
  by_cases hj : t.z.includemode = true ∧ t.dataPtr.rd 8 = 0xc1 ∧ t.dataPtr.rd 9 = 0x20 ∧ t.dataPtr.rd 10 = 0xf1
  · have hnl : ¬Lists t.z t.dataPtr := fun hl => by
      rw [hl.2] at hj
      exact absurd hj.2.1 (by decide)
    rw [radio_joinShort hj, joinDevice_good]
    exact ⟨fun h => ⟨fun _ => h, fun hl => absurd hl hnl⟩, fun h => h.1 ⟨hj.1, .inl hj.2⟩⟩
  by_cases h42 : t.dataPtr.rd 8 = 0x42
  · have hnl : ¬Lists t.z t.dataPtr := fun hl => by
      rw [hl.2] at h42
      exact absurd h42 (by decide)
    cases hi : t.z.includemode with
    | true =>
      rw [radio_joinAnnounced hi h42, joinDevice_good, gatewayAddress_dataPtr, gatewayAddress_table]
      exact ⟨fun h => ⟨fun _ => h, fun hl => absurd hl hnl⟩, fun h => h.1 ⟨hi, .inr h42⟩⟩
    | false =>
      have ha : announce (gatewayAddress t) = _ := if_pos (by simp [hi, h42])
      rw [radio_announce hi h42, ha]
      refine iff_of_true (good_of_quiet rfl) ⟨fun hjoin => ?_, fun hl => absurd hl hnl⟩
      rw [hjoin.1] at hi
      cases hi
  have hnj : ¬Joins t.z t.dataPtr := fun h => h.2.elim (fun h' => hj ⟨h.1, h'⟩) h42
  by_cases hx : t.z.excludemode = true ∧ t.dataPtr.rd 8 = 0x40 ∧ t.dataPtr.rd 9 = 0x02 ∧ t.dataPtr.rd 10 = 0x00
  · have hnl : ¬Lists t.z t.dataPtr := fun hl => by
      rw [hl.2] at hx
      exact absurd hx.2.1 (by decide)
    have he : excludeConfirm (gatewayAddress t) = _ := if_pos (by simpa using hx)
    rw [radio_excludeConfirm hx, he]
    exact iff_of_true (good_some.mpr fun _ => excludeFrame_wellFormed _ _) ⟨fun h => absurd h hnj, fun hl => absurd hl hnl⟩
  by_cases hn : t.z.netupdatemode = true ∧ t.dataPtr.rd 8 = 0x83
  · rw [radio_netlist hn, netlist_good (by simpa using hn), gatewayAddress_dataPtr]
    exact ⟨fun h => ⟨fun h' => absurd h' hnj, fun _ => h⟩, fun h => h.2 hn⟩
  · rw [radio_upward hj h42 hx hn]
    exact iff_of_true (good_of_quiet (upward_quiet hg)) ⟨fun h => absurd h hnj, fun hl => absurd hl hn⟩

/-! ## Every message -/

/-- A turn is framed when its locals are good. -/
theorem framed_iff_good {z : ZigBee} {i : Nat × Msg} {r : Option Turn} (hr : ZigBeeTask z i = r.map fun t => (t.z, handOff t))
    (hrec : ¬Unrecognised i) : Framed z i ↔ Good r := by
  unfold Framed
  rw [hr]
  constructor
  · rintro ⟨z', outs, he, hw⟩
    obtain ⟨t, rfl, ht⟩ := Option.map_eq_some_iff.mp he
    cases ht
    refine good_some.mpr fun hs => ?_
    exact wellFormed_set_zero.mp (hw hrec _ (mem_handOff_serial.mpr ⟨hs, rfl⟩))
  · rintro ⟨t, rfl, hw⟩
    refine ⟨t.z, handOff t, rfl, fun _ m hm => ?_⟩
    obtain ⟨hs, rfl⟩ := mem_handOff_serial.mp hm
    exact wellFormed_set_zero.mpr (hw hs)

theorem labels_set_zero (m : Msg) (b : UInt8) : labels (m.set 0 b) netlistEntries = labels m netlistEntries := by simp [labels]

/-- The port byte of the message has no part in it. -/
theorem replyFits_set_zero (m : Msg) (b : UInt8) : ReplyFits (m.set 0 b) ↔ ReplyFits m := by
  have hstr : ((m.set 0 b).wr 2 (ascii "netlist_done: ")).strlen 2 = (m.wr 2 (ascii "netlist_done: ")).strlen 2 := by
    refine strlen_congr fun i _ => ?_
    simp only [Msg.off_wr, Msg.off_set, Nat.add_assoc]
    change ((m.set 0 b).wr 2 _).rd (2 + i) = (m.wr 2 _).rd (2 + i)
    rw [Msg.rd_wr, Msg.rd_wr, Msg.rd_set, if_neg (show ¬2 + i = 0 by omega)]
  unfold ReplyFits
  rw [hstr, labels_set_zero, Msg.off_set]

/-- The first byte, which the task overwrites, is no part of the condition. -/
theorem fits_set_zero (z : ZigBee) (m : Msg) (b : UInt8) :
    ((Joins z (m.set 0 b) → (m.set 0 b).len = 20 ∧ freeSlot z.table ≠ none) ∧ (Lists z (m.set 0 b) → ReplyFits (m.set 0 b))) ↔
      ((Joins z m → m.len = 20 ∧ freeSlot z.table ≠ none) ∧ (Lists z m → ReplyFits m)) := by
  have hj : Joins z (m.set 0 b) ↔ Joins z m := by simp [Joins]
  have hl : Lists z (m.set 0 b) ↔ Lists z m := by simp [Lists]
  have hlen : (m.set 0 b).len = m.len := by simp [Msg.len]
  rw [hj, hl, hlen, replyFits_set_zero]

/-- A frame from the radio is framed exactly if a join has the right length and finds a slot, and a list fits. -/
theorem framed_radio (z : ZigBee) (m : Msg) : Framed z (In1, m) ↔
    (Joins z m → m.len = 20 ∧ freeSlot z.table ≠ none) ∧ (Lists z m → ReplyFits m) := by
  have hrec : ¬Unrecognised (In1, m) := fun h => absurd (show In1 = In2 from h.1) (by decide)
  have hr : ZigBeeTask z (In1, m) = (messageFromRadio
    { z := z, dataPtr := m.set 0 0x00, do_broadcast_to_serial := false, do_broadcast_to_upperlayers := false }).map
      fun t => (t.z, handOff t) := rfl
  rw [framed_iff_good hr hrec, messageFromRadio, radioBranches_good rfl, fits_set_zero, fits_set_zero]

/-- A message from the upper layers that is recognised is framed exactly if it fits the device. -/
theorem framed_command (z : ZigBee) {m : Msg} (hrec : ¬Unrecognised (In2, m)) : Framed z (In2, m) ↔ DeviceFits z m := by
  rw [framed_iff_good (zigBeeTask_in2 z m) hrec]
  exact serviceUpperLayers_good hrec

/-- Whatever the state: a message is handled within the buffers, and what is handed to `Out2` is a well-formed frame (an unrecognised
command excepted), exactly when the message fits. -/
theorem framed_iff (z : ZigBee) (i : Nat × Msg) : Framed z i ↔ FrameFits z i := by
  obtain ⟨port, m⟩ := i
  unfold FrameFits
  by_cases h1 : port = In1
  · subst h1
    exact framed_radio z m
  rw [if_neg h1]
  by_cases h2 : port = In2
  · subst h2
    rw [if_pos rfl]
    by_cases hrec : Unrecognised (In2, m)
    · refine iff_of_true ?_ (.inl hrec.2.1)
      have hr := serviceUpperLayers_unrecognised (t := ⟨z, m, false, false, false⟩) hrec
      exact ⟨_, _, congrArg (Option.map fun t : Turn => (t.z, handOff t)) hr, fun hno => absurd hrec hno⟩
    · exact framed_command z hrec
  · rw [if_neg h2]
    have hr : ZigBeeTask z (port, m) = some (z, []) := by
      simp only [ZigBeeTask, h1, h2, if_false, Option.map_some]
      rfl
    exact iff_of_true ⟨z, [], hr, fun _ m hm => nomatch hm⟩ trivial

/-- A frame of 24 bytes with which a device joins. -/
def longJoin : Msg := message 0xFF ([0x00, 0x03, 0x00, 0xC0, 0x12, 0xD1, 0x42] ++ List.replicate 17 0x07)

/-- After an `INCLUDE_REQ` it is confirmed with a frame that says 14 bytes follow, in a message of 24. -/
theorem not_framed : ¬∀ gw z i, Reachable ZigBee.step (ZigBee.start gw) z → Framed z i := by
  intro h
  have hz : ZigBee.step (ZigBee.start ⟨List.replicate 8 0, rfl⟩) (In2, message 0 (ascii "INCLUDE_REQ")) =
      some { ZigBee.start ⟨List.replicate 8 0, rfl⟩ with includemode := true } := rfl
  have hf := (framed_radio _ longJoin).mp (h _ _ (In1, longJoin) ((Reachable.refl _).next hz))
  exact absurd (hf.1 ⟨rfl, .inr (by decide)⟩).1 (by decide)

end HomeBridge
