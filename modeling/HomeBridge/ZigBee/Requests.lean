import HomeBridge.Ihaplite.Lines
import HomeBridge.ZigBee.Data
import HomeBridge.ZigBee.Frames

/-!
# Requests and their buffers

A frame for a device is built in a scratch buffer of 200 bytes and copied over the message it answers, in a block of 255. The stores of
the three frames that carry something from the request are listed here one by one. What a client can send is bounded by the block only,
not by the scratch buffer: a line that is not hex text comes with up to 252 bytes, and the frame for it has sixteen more.
-/

namespace HomeBridge

open CMem

/-- A frame as the task builds it: the stores into the scratch buffer, and the local `len` when the buffer is copied. -/
structure Building where
  scratch : List (Nat × List UInt8)
  len : Nat

namespace Building

def buffer (b : Building) : Mem := writes zeroed b.scratch

/-- The stores into the block of the message: the frame, and the length byte. -/
def block (b : Building) (m : Msg) : List (Nat × List UInt8) :=
  [(m.off + 2, bytes b.buffer 0 b.len), (m.off + 1, [UInt8.ofNat b.len])]

/-- The message they leave. -/
def frame (b : Building) (m : Msg) : Msg := { m with mem := writes m.mem (b.block m) }

end Building

/-- The first eight bytes, stored one by one. -/
def headStores (b₄ b₆ b₇ : UInt8) : List (Nat × List UInt8) :=
  [(0, [0x00]), (1, [0x03]), (2, [0x00]), (3, [0xC0]), (4, [b₄]), (5, [0x00 ^^^ 0x03 ^^^ 0x00 ^^^ 0xC0 ^^^ b₄]), (6, [b₆]), (7, [b₇])]

/-- The frame of a `GETDESC_REQ`. -/
def descriptorBuilding (t : VpsTable) (m : Msg) : Building :=
  let nwk := (vps_vtoa_nwk t (m.rd 0).toNat).1
  ⟨headStores 0x07 0x01 0x04 ++ [(8, nwk), (10, nwk), (12, [endpointOf m])], 13⟩

/-- The frame of an `XONFIG_REQ`. -/
def configBuilding (z : ZigBee) (m : Msg) : Building :=
  let addr := (vps_vtoa z.table (m.rd 0).toNat).1
  ⟨[(0, hexbinary CONFIGHEADER), (8, addr), (16, hexbinary CONFIGCSTRING), (25, addr), (33, hexbinary (m.bytes 12 (m.strlen 12))),
    (configLen m, z.gwieeeaddr.1), (configLen m + 8, [0xc0])], configLen m + 9⟩

/-- The frame of any other payload. -/
def dataBuilding (t : VpsTable) (m : Msg) : Building :=
  ⟨headStores (m.rd 1 + 10) 0x00 0x03 ++ [(8, (vps_vtoa t (m.rd 0).toNat).1), (16, m.payload)], m.len + 16⟩

/-- The frame a message for a device asks for, in the order of the tests; none where nothing is built in the scratch buffer. -/
def requestBuilding (z : ZigBee) (m : Msg) : Option Building :=
  if m.isAt (ascii "XCLUDE_REQ") 2 then none
  else if m.isAt (ascii "GETDESC_REQ") 2 then some (descriptorBuilding z.table m)
  else if m.isAt (ascii "GETUID_REQ") 2 then none
  else if m.isAt (ascii "XONFIG_REQ") 2 then some (configBuilding z m)
  else some (dataBuilding z.table m)

/-- The commands for a device. -/
def deviceKeywords : List (List UInt8) := [ascii "XCLUDE_REQ", ascii "GETDESC_REQ", ascii "GETUID_REQ", ascii "XONFIG_REQ"]

/-- Every store lies in its buffer, and the length byte is the number of bytes copied. -/
structure FitsBuffers (b : Building) (m : Msg) : Prop where
  scratch : StoresIn b.scratch SCRATCH
  block : StoresIn (b.block m) DATASIZE
  length : (b.frame m).len = b.len

/-! ## The frames they leave -/

section frames

variable {z : ZigBee} {m : Msg}

theorem Building.frame_eq (b : Building) (m : Msg) : b.frame m = (m.wr 2 (bytes b.buffer 0 b.len)).set 1 (UInt8.ofNat b.len) := rfl

/-- The bytes of a frame whose stores are adjacent. -/
theorem Building.bytes_buffer {b : Building} (h : Adjacent 0 b.scratch) (hlen : b.len = (b.scratch.flatMap Prod.snd).length) :
    bytes b.buffer 0 b.len = b.scratch.flatMap Prod.snd :=
  bytes_writes h (by rw [Nat.zero_add, hlen])

theorem descriptorBuilding_frame : (descriptorBuilding z.table m).frame m = descriptorFrame z.table m := by
  have hn := (vps_vtoa_nwk z.table (m.rd 0).toNat).2
  rw [Building.frame_eq, Building.bytes_buffer]
  · simp [descriptorBuilding, descriptorFrame, headStores, bufferHead]
  · simp [descriptorBuilding, headStores, Adjacent, hn]
  · simp [descriptorBuilding, headStores, hn]

theorem configBuilding_frame : (configBuilding z m).frame m = configFrame z m := rfl

theorem dataBuilding_frame : (dataBuilding z.table m).frame m = dataFrame z.table m := by
  have ha := (vps_vtoa z.table (m.rd 0).toNat).2
  have hp : m.payload.length = m.len := Msg.length_bytes ..
  have hlen : UInt8.ofNat (m.len + 16) = m.rd 1 + 16 := by
    rw [UInt8.ofNat_add, Msg.len, UInt8.ofNat_toNat]
    rfl
  rw [Building.frame_eq, Building.bytes_buffer]
  · simp [dataBuilding, dataFrame, headStores, bufferHead, hlen]
  · simp [dataBuilding, headStores, Adjacent, ha]
  · simp [dataBuilding, headStores, ha, hp]
    omega

end frames

/-! ## What fits -/

section fits

variable {z : ZigBee} {m : Msg}

/-- A frame that the scratch buffer holds, with its end, is copied into a block with room for it. -/
theorem fitsBuffers_of_scratch {b : Building} (hoff : m.off ≤ 5) (hlen : b.len ≤ SCRATCH) (h : StoresIn b.scratch SCRATCH) :
    FitsBuffers b m := by
  simp only [SCRATCH] at hlen
  refine ⟨h, ?_, ?_⟩
  · intro s hs
    rcases List.mem_pair.mp hs with rfl | rfl
    · simp only [CMem.length_bytes, DATASIZE]
      omega
    · simp only [List.length_singleton, DATASIZE]
      omega
  · rw [Building.frame_eq, Msg.len, Msg.rd_set, if_pos rfl, UInt8.toNat_ofNat']
    omega

theorem descriptorBuilding_scratch : StoresIn (descriptorBuilding z.table m).scratch SCRATCH := by
  have hn := (vps_vtoa_nwk z.table (m.rd 0).toNat).2
  simp [StoresIn, descriptorBuilding, headStores, hn]

/-- The text behind the keyword ends with the block, so that its bytes take less than two thirds of the scratch buffer. -/
theorem configBuilding_scratch : StoresIn (configBuilding z m).scratch SCRATCH := by
  have ha := (vps_vtoa z.table (m.rd 0).toNat).2
  have hg := z.gwieeeaddr.2
  have hs : m.strlen 12 ≤ DATASIZE - (m.off + 12) := m.strlen_le 12
  have hlen : m.len < 256 := (m.rd 1).toNat_lt
  have hc := configLen_cases m
  have hhead : CONFIGHEADER.length = 16 := by decide
  have hcstr : CONFIGCSTRING.length = 18 := by decide
  simp only [DATASIZE] at hs
  simp [StoresIn, configBuilding, ha, hg, hhead, hcstr, length_hexbinary]
  omega

theorem dataBuilding_scratch : StoresIn (dataBuilding z.table m).scratch SCRATCH ↔ m.len + 16 ≤ SCRATCH := by
  have ha := (vps_vtoa z.table (m.rd 0).toNat).2
  have hp : m.payload.length = m.len := Msg.length_bytes ..
  simp [StoresIn, dataBuilding, headStores, ha, hp]
  omega

/-- The frame that is built fits where the message is a command or has at most 184 bytes. -/
theorem requestBuilding_fits {b : Building} (hoff : m.off ≤ 5) (h : requestBuilding z m = some b)
    (hlen : m.len ≤ 184 ∨ ∃ kw ∈ deviceKeywords, m.isAt kw 2 = true) : FitsBuffers b m := by
  have hmlen : m.len < 256 := (m.rd 1).toNat_lt
  unfold requestBuilding at h
  split at h
  · cases h
  · rename_i h1
    split at h
    · cases h
      exact fitsBuffers_of_scratch hoff (show 13 ≤ 200 by decide) descriptorBuilding_scratch
    · rename_i h2
      split at h
      · cases h
      · rename_i h3
        split at h
        · cases h
          have hc := configLen_cases m
          exact fitsBuffers_of_scratch hoff (show configLen m + 9 ≤ 200 by omega) configBuilding_scratch
        · rename_i h4
          cases h
          have h184 : m.len ≤ 184 := hlen.resolve_right fun ⟨kw, hkw, hat⟩ => by
            simp only [deviceKeywords, List.mem_cons, List.not_mem_nil, or_false] at hkw
            rcases hkw with rfl | rfl | rfl | rfl
            · exact h1 hat
            · exact h2 hat
            · exact h3 hat
            · exact h4 hat
          have hfit : m.len + 16 ≤ SCRATCH := by
            simp only [SCRATCH]
            omega
          exact fitsBuffers_of_scratch hoff hfit (dataBuilding_scratch.mpr hfit)

/-- A message for a device is answered by the frame that is built, where the scratch buffer holds it. -/
theorem deviceCommand_building {t : Turn} {b : Building} (h : requestBuilding t.z t.dataPtr = some b) :
    (StoresIn b.scratch SCRATCH → ∃ z', deviceCommand t =
      some { t with dataPtr := b.frame t.dataPtr, z := z', do_broadcast_to_serial := true }) ∧
    (¬StoresIn b.scratch SCRATCH → deviceCommand t = none) := by
  unfold requestBuilding at h
  unfold deviceCommand
  dsimp only
  split at h
  · cases h
  · rename_i h1
    rw [if_neg h1]
    split at h
    · rename_i h2
      cases h
      exact ⟨fun _ => ⟨_, by rw [if_pos h2, descriptorBuilding_frame]⟩, fun hno => absurd descriptorBuilding_scratch hno⟩
    · rename_i h2
      rw [if_neg h2]
      split at h
      · cases h
      · rename_i h3
        rw [if_neg h3]
        split at h
        · rename_i h4
          cases h
          exact ⟨fun _ => ⟨_, by rw [if_pos h4, configBuilding_frame]⟩, fun hno => absurd configBuilding_scratch hno⟩
        · rename_i h4
          cases h
          rw [if_neg h4, dataBuilding_scratch]
          exact ⟨fun hfit => ⟨_, by rw [if_pos hfit, dataBuilding_frame]⟩, fun hno => if_neg hno⟩

/-- What the task hands to the gateway for a device in use is the frame that was built, where the scratch buffer holds it; else it has
stored behind the buffer. -/
theorem ZigBeeTask_building {b : Building} (h0 : m.vps ≠ 0) (hmax : m.vps < MAXVPS) (hused : check_valid_vps z.table m.vps = true)
    (h : requestBuilding z m = some b) :
    (StoresIn b.scratch SCRATCH → ∃ z', ZigBeeTask z (In2, m) = some (z', [.broadcast Out2 ((b.frame m).set 0 0xff)])) ∧
    (¬StoresIn b.scratch SCRATCH → ZigBeeTask z (In2, m) = none) := by
  have hserve := serviceUpperLayers_device (t := ⟨z, m, false, false, false⟩) h0 hmax hused
  obtain ⟨hfit, hno⟩ := deviceCommand_building (t := ⟨z, m, false, false, false⟩) h
  rw [zigBeeTask_in2, hserve]
  refine ⟨fun hs => ?_, fun hs => by rw [hno hs]; rfl⟩
  obtain ⟨z', hd⟩ := hfit hs
  exact ⟨z', by rw [hd]; rfl⟩

end fits

/-! ## Every line -/

/-- The text becomes a payload of at most 184 bytes, or starts with a command. -/
def RequestFits (text : List UInt8) : Prop := payloadLen text ≤ 184 ∨ ∃ kw ∈ deviceKeywords, kw <+: text

/-- A payload that is longer than any hex text gives is the text itself, and a keyword in it starts the text. -/
theorem IsRequest.isAt_iff {m : Msg} {VPS : UInt8} {text kw : List UInt8} (h : IsRequest m VPS text)
    (hraw : ¬IsHexChar (text.headD 0)) (hle : kw.length ≤ text.length) : m.isAt kw 2 = true ↔ kw <+: text := by
  have hb : m.bytes 2 kw.length = text.take kw.length := by
    refine List.ext_getElem (by rw [Msg.length_bytes, List.length_take, Nat.min_eq_left hle]) fun i h1 h2 => ?_
    rw [Msg.getElem_bytes, h.raw hraw, List.getElem_take, List.getD_eq_getElem]
  rw [Msg.isAt_iff, hb, List.prefix_iff_eq_take, eq_comm]

/-- The turn on a request for a device: the stores for the frame it builds lie in their buffers, and the gateway gets what they leave. -/
structure StoresInside (z : ZigBee) (m : Msg) : Prop where
  fits : ∀ b, requestBuilding z m = some b → FitsBuffers b m
  sent : ∀ b, requestBuilding z m = some b → ∃ z', ZigBeeTask z (In2, m) = some (z', [.broadcast Out2 ((b.frame m).set 0 0xff)])

section lines

variable {VPS : UInt8} {text : List UInt8} {t : SessionTable} {z : ZigBee} {m₀ m : Msg}

/-- A text whose payload is longer than 184 bytes is not hex text, and the session manager passes its message on as it is. -/
theorem long_request (h : IsRequest m₀ VPS text) (hlen : text.length ≤ LINESIZE) (hlong : 184 < payloadLen text)
    (hm : .broadcast Out1 m ∈ (sessionIn1 t m₀).2) : ¬IsHexChar (text.headD 0) ∧ m = m₀ := by
  have hle := length_takeWhile_le text
  simp only [LINESIZE, DATASIZE] at hlen
  have hraw : ¬IsHexChar (text.headD 0) := by
    intro hc
    have hp : payloadLen text = (text.takeWhile (· != 0)).length / 2 := if_pos hc
    omega
  exact ⟨hraw, (session_passes h hm).2.resolve_right fun hs => hraw (hs.isHexChar h)⟩

/-- For a request of any text: the stores lie inside exactly when it fits. -/
theorem storesInside_iff_requestFits (h : IsRequest m₀ VPS text) (hlen : text.length ≤ LINESIZE) (hv : 1 ≤ VPS.toNat ∧ VPS.toNat ≤ 5)
    (hused : check_valid_vps z.table VPS.toNat = true) (hm : .broadcast Out1 m ∈ (sessionIn1 t m₀).2) :
    StoresInside z m ↔ RequestFits text := by
  obtain ⟨hvps, hpass⟩ := session_passes h hm
  have hoff : m.off ≤ 5 := by
    rcases hpass with rfl | hs
    · rw [h.off]
      exact Nat.zero_le 5
    · rw [hs.off, h.off]
  have hmlen : m.len ≤ payloadLen text := by
    rcases hpass with rfl | hs
    · exact Nat.le_of_eq h.len
    · rw [hs.len, h.len]
      exact Nat.sub_le ..
  have hport : m.vps = VPS.toNat := by rw [Msg.vps, hvps]
  have hturn := fun b (hb : requestBuilding z m = some b) =>
    ZigBeeTask_building (b := b) (by omega) (by simp only [MAXVPS]; omega) (by rwa [hport]) hb
  constructor
  · -- a long payload without a command goes into the scratch buffer as it is
    intro hin
    by_contra hno
    rw [RequestFits, not_or, not_exists] at hno
    have hlong : 184 < payloadLen text := Nat.lt_of_not_le hno.1
    obtain ⟨hraw, rfl⟩ := long_request h hlen hlong hm
    have hle := payloadLen_le text
    have hkw : ∀ kw ∈ deviceKeywords, ¬m.isAt kw 2 = true := by
      intro kw hkw
      have h11 : kw.length ≤ 11 := by
        revert kw
        decide
      rw [h.isAt_iff hraw (by omega)]
      exact fun hpre => hno.2 kw ⟨hkw, hpre⟩
    have hb : requestBuilding z m = some (dataBuilding z.table m) := by
      unfold requestBuilding
      rw [if_neg (hkw _ (by simp [deviceKeywords])), if_neg (hkw _ (by simp [deviceKeywords])), if_neg (hkw _ (by simp [deviceKeywords])),
        if_neg (hkw _ (by simp [deviceKeywords]))]
    have hfit := dataBuilding_scratch.mp (hin.fits _ hb).scratch
    simp only [h.len, SCRATCH] at hfit
    omega
  · intro hfits
    have hcmd : m.len ≤ 184 ∨ ∃ kw ∈ deviceKeywords, m.isAt kw 2 = true := by
      by_cases hle : payloadLen text ≤ 184
      · exact .inl (Nat.le_trans hmlen hle)
      · obtain ⟨kw, hkw, hpre⟩ := hfits.resolve_left hle
        obtain ⟨hraw, rfl⟩ := long_request h hlen (Nat.lt_of_not_le hle) hm
        exact .inr ⟨kw, hkw, (h.isAt_iff hraw hpre.length_le).mpr hpre⟩
    have hall : ∀ b, requestBuilding z m = some b → FitsBuffers b m := fun b hb => requestBuilding_fits hoff hb hcmd
    exact ⟨hall, fun b hb => (hturn b hb).1 (hall b hb).scratch⟩

end lines

/-- A line of text makes a request, and the session manager passes it on. -/
theorem request_of_line (VPS : UInt8) (t : SessionTable) {e : UInt8} (text rest : List UInt8) (closed : Bool) (he : EndsLine e)
    (hlen : text.length < LINESIZE) (hno : ∀ b ∈ text, ¬EndsLine b) (hv : VPS.toNat ≤ 5) :
    ∃ m₀ m, IPTask VPS (text ++ e :: rest) closed = some m₀ ∧ .broadcast Out1 m ∈ (sessionIn1 t m₀).2 ∧ IsRequest m₀ VPS text := by
  have hnul := zeroed_rd VPS (show 0 < 2 + text.length by omega)
  simp only [LINESIZE, DATASIZE] at hlen
  obtain ⟨cmd, hcmd, _, _⟩ :=
    receiveLoop_line rest closed he (Nat.le_refl 2) (by decide) (by simp only [DATASIZE]; omega) hno hnul
  have hm₀ : IPTask VPS (text ++ e :: rest) closed = some (decodeCommand cmd) := congrArg (Option.map decodeCommand) hcmd
  obtain ⟨text', ended, hr, hreq⟩ := IPTask_text hm₀
  rw [receivedText_line rest closed he (by simp only [LINESIZE, DATASIZE]; omega) hno] at hr
  cases hr
  obtain ⟨time, m, hs⟩ := sessionIn1_eq t (m := decodeCommand cmd) (by rw [Msg.vps, hreq.vps]; simp only [MAX_VPS, TOTAL_VPS]; omega)
  exact ⟨_, m, hm₀, by simp [hs], hreq⟩

/-- For every line a client of a port in use can send, in every state: the stores for its frame lie in their buffers, and the length byte
is what is stored, exactly when its payload has at most 184 bytes or it is a command. -/
theorem storesInside_iff {VPS : UInt8} {stream text : List UInt8} {closed ended : Bool} {t : SessionTable} {z : ZigBee} {m₀ m : Msg}
    (hv : 1 ≤ VPS.toNat ∧ VPS.toNat ≤ 5) (hused : check_valid_vps z.table VPS.toNat = true)
    (htext : receivedText closed stream LINESIZE = some (text, ended)) (hline : IPTask VPS stream closed = some m₀)
    (hm : .broadcast Out1 m ∈ (sessionIn1 t m₀).2) : StoresInside z m ↔ RequestFits text := by
  obtain ⟨text', ended', hr, hreq⟩ := IPTask_text hline
  cases hr.symm.trans htext
  exact storesInside_iff_requestFits hreq (by have := length_receivedText (by decide) htext; omega) hv hused hm

/-- A byte in hex for the device in slot 1. -/
theorem storesInside_iff_oneByte : ∃ m₀ m, IPTask 1 ([0x61, 0x62] ++ 0x0d :: []) false = some m₀ ∧
    .broadcast Out1 m ∈ (sessionIn1 noSession m₀).2 ∧ (StoresInside joined m ↔ RequestFits [0x61, 0x62]) := by
  have hno : ∀ b ∈ [(0x61 : UInt8), 0x62], ¬EndsLine b := by simp [EndsLine]
  have hlt : [(0x61 : UInt8), 0x62].length < LINESIZE := by simp
  obtain ⟨m₀, m, hline, hm, _⟩ := request_of_line 1 noSession _ [] false (.inl rfl) hlt hno (by decide)
  exact ⟨m₀, m, hline, hm, storesInside_iff (by decide) (by decide) (receivedText_line [] false (.inl rfl) hlt hno) hline hm⟩

/-- A line of 185 letters to the device in slot 1. -/
theorem not_storesInside : ¬∀ (VPS : UInt8) (stream : List UInt8) (t : SessionTable) (z : ZigBee) (m₀ m : Msg),
    1 ≤ VPS.toNat ∧ VPS.toNat ≤ 5 → check_valid_vps z.table VPS.toNat = true → IPTask VPS stream false = some m₀ →
      .broadcast Out1 m ∈ (sessionIn1 t m₀).2 → StoresInside z m := by
  intro h
  let text : List UInt8 := List.replicate 185 0x78
  have hx : ∀ b ∈ text, b = 0x78 := fun b hb => List.eq_of_mem_replicate hb
  have hlen : text.length = 185 := List.length_replicate
  have hle : text.length < LINESIZE := by
    rw [hlen]
    decide
  obtain ⟨m₀, m, hline, hm, hreq⟩ := request_of_line 1 noSession (e := 0x0d) text [] false (.inl rfl) hle
    (fun b hb => by rw [hx b hb]; unfold EndsLine; decide) (by decide)
  have hs := h 1 _ noSession joined m₀ m (by decide) (by decide) hline hm
  rcases (storesInside_iff_requestFits hreq (Nat.le_of_lt hle) (by decide) (by decide) hm).mp hs with h184 | ⟨kw, hkw, hpre⟩
  · have hp : payloadLen text = text.length := payloadLen_raw (fun b hb => by rw [hx b hb]; decide) (show ¬IsHexChar 0x78 by decide)
    rw [hp, hlen] at h184
    exact absurd h184 (by decide)
  · have hus : 0x5F ∈ kw := by
      revert kw
      decide
    exact absurd (hx _ (hpre.subset hus)) (by decide)

end HomeBridge
