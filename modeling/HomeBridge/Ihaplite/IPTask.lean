import HomeBridge.Ihaplite.Hex

/-!
# From the connection to a message

`receive_cmd` of `tcpserver.c` and the part of `iptask.c` up to the broadcast. A line is read byte by byte into a fresh block until
CR or LF, or until the block is full; text that starts with a hex digit is then decoded onto itself. What `read` returns is not
looked at: once the connection has ended it stores nothing, and the block is soon full of bytes that were never sent.
-/

namespace HomeBridge

open CMem

/-- CR or LF. -/
def EndsLine (b : UInt8) : Prop := b = 0x0d ∨ b = 0x0a

instance (b : UInt8) : Decidable (EndsLine b) := by unfold EndsLine; infer_instance

/-- The command, where the byte just read at `cmd_len` ends the line: a NUL takes its place, and the length byte is stored. -/
def endCommand (cmd : Msg) (cmd_len : Nat) : Msg := (cmd.set cmd_len 0x00).set 1 (uchar (((cmd_len + 1 : Nat) : Int) - 3))

/-- The turns left for `room` bytes of a block, on a connection that has ended: `select` finds it readable, `read` stores nothing, and
the length grows all the same. -/
def closedLoop : Nat → Msg → Nat → Msg
  | 0, cmd, _ => cmd
  | room + 1, cmd, cmd_len => if EndsLine (cmd.rd cmd_len) then endCommand cmd cmd_len else closedLoop room cmd (cmd_len + 1)

/-- The loop of `receive_cmd`, on the bytes the client sends in time. When they run out on a connection that is open, `select` runs into
its timeout, the block is freed and there is no message; where the client has closed it the loop goes on. -/
def receiveLoop (closed : Bool) : List UInt8 → Msg → Nat → Option Msg
  | [], cmd, cmd_len => if closed = true then some (closedLoop (DATASIZE - 1 - cmd_len) cmd cmd_len) else none
  | b :: stream, cmd, cmd_len =>
    let cmd := cmd.set cmd_len b
    if EndsLine b then some (endCommand cmd cmd_len)
    else if cmd_len + 1 = DATASIZE - 1 then some cmd
    else receiveLoop closed stream cmd (cmd_len + 1)

/-- `receive_cmd`, for the bytes of a client that closes the connection behind them or leaves it open. -/
def receive_cmd (stream : List UInt8) (closed : Bool) (VPS : UInt8) : Option Msg :=
  receiveLoop closed stream (Msg.set ⟨zeroed, 0⟩ 0 VPS) 2

/-- What `IPTask` makes of a command: the length byte is the length of the string, or of what the hex text stands for. -/
def decodeCommand (m : Msg) : Msg :=
  let m := m.set 1 (UInt8.ofNat (m.strlen 2))
  if IsHexChar (m.rd 2) then
    let (mem, length) := hexbinary_to_binary m.mem (m.off + 2) (m.off + 2) (DATASIZE - (m.off + 2))
    Msg.set { m with mem := mem } 1 length
  else m

/-- The message `IPTask` broadcasts for what a client sends. -/
def IPTask (VPS : UInt8) (stream : List UInt8) (closed : Bool) : Option Msg := (receive_cmd stream closed VPS).map decodeCommand

section

variable {closed : Bool}

theorem closedLoop_off : ∀ {room : Nat} {cmd : Msg} {k : Nat}, (closedLoop room cmd k).off = cmd.off := by
  intro room
  induction room with
  | zero => exact rfl
  | succ room ih =>
    intro cmd k
    rw [closedLoop]
    split
    · rfl
    · exact ih

/-- A fresh block is returned as it was when the connection ended. -/
theorem closedLoop_zeroed {room : Nat} {cmd : Msg} : ∀ {k : Nat}, (∀ i, k ≤ i → cmd.rd i = 0) → closedLoop room cmd k = cmd := by
  induction room with
  | zero => exact fun _ => rfl
  | succ room ih =>
    intro k h0
    have hk : ¬EndsLine (cmd.rd k) := by
      rw [h0 k (Nat.le_refl k)]
      decide
    rw [closedLoop, if_neg hk]
    exact ih fun i hi => h0 i (Nat.le_of_succ_le hi)

/-- The message starts where its block does. -/
theorem receiveLoop_off : ∀ {stream : List UInt8} {cmd m : Msg} {k : Nat}, receiveLoop closed stream cmd k = some m →
    m.off = cmd.off := by
  intro stream
  induction stream with
  | nil =>
    intro cmd m k h
    rw [receiveLoop, Option.ite_none_right_eq_some, Option.some.injEq] at h
    rw [← h.2, closedLoop_off]
  | cons b stream ih =>
    intro cmd m k h
    simp only [receiveLoop] at h
    split at h
    · cases h
      rfl
    · split at h
      · cases h
        rfl
      · rw [ih h, Msg.off_set]

theorem decodeCommand_off (m : Msg) : (decodeCommand m).off = m.off := by
  simp only [decodeCommand]
  split <;> rfl

theorem IPTask_off {VPS : UInt8} {stream : List UInt8} {m : Msg} (h : IPTask VPS stream closed = some m) : m.off = 0 := by
  obtain ⟨cmd, hc, rfl⟩ := Option.map_eq_some_iff.mp h
  have hcmd : cmd.off = 0 := receiveLoop_off hc
  rw [decodeCommand_off, hcmd]

/-! ## A line of hex text -/

theorem Msg.rd_wr_cons (m : Msg) (k : Nat) (b : UInt8) (bs : List UInt8) (i : Nat) :
    ((m.set k b).wr (k + 1) bs).rd i = (m.wr k (b :: bs)).rd i := by
  rw [Msg.rd_wr, Msg.rd_set, Msg.rd_wr, List.length_cons]
  by_cases hk : i = k
  · subst hk
    rw [if_neg (by omega), if_pos rfl, if_pos (by omega), Nat.sub_self]
    rfl
  · by_cases hi : k + 1 ≤ i ∧ i < k + 1 + bs.length
    · rw [if_pos hi, if_pos (by omega), show i - k = i - (k + 1) + 1 by omega]
      rfl
    · rw [if_neg hi, if_neg hk, if_neg (by omega)]

/-- A line that fits in the block is stored as it came, with a NUL behind it; only the length byte is another matter. -/
theorem receiveLoop_line {e : UInt8} (rest : List UInt8) (closed : Bool) (he : EndsLine e) : ∀ {text : List UInt8} {cmd : Msg} {k : Nat},
    2 ≤ k → k < DATASIZE - 1 → k + text.length ≤ DATASIZE - 1 → (∀ b ∈ text, ¬EndsLine b) → cmd.rd (k + text.length) = 0x00 →
      ∃ m, receiveLoop closed (text ++ e :: rest) cmd k = some m ∧ m.off = cmd.off ∧
        ∀ i, i ≠ 1 → m.rd i = (cmd.wr k text).rd i := by
  intro text
  induction text with
  | nil =>
    intro cmd k h2 hk _ _ h0
    refine ⟨_, if_pos he, rfl, fun i hi => ?_⟩
    rw [endCommand, Msg.rd_set, if_neg hi, Msg.rd_set, Msg.rd_set, Msg.wr, write_nil]
    split
    · rename_i hik
      subst hik
      exact h0.symm
    · rfl
  | cons b text ih =>
    intro cmd k h2 hk hfit hno h0
    rw [List.length_cons] at hfit h0
    have hb : ¬EndsLine b := hno b (List.mem_cons_self ..)
    by_cases hfull : k + 1 = DATASIZE - 1
    · have hnil : text = [] := List.eq_nil_of_length_eq_zero (by omega)
      subst hnil
      exact ⟨_, (if_neg hb).trans (if_pos hfull), rfl, fun i _ => rfl⟩
    · have h0' : (cmd.set k b).rd (k + 1 + text.length) = 0x00 := by
        rw [Msg.rd_set, if_neg (by omega), ← h0]
        congr 1
        omega
      obtain ⟨m, hm, hoff, hrd⟩ := @ih (cmd.set k b) (k + 1) (by omega) (by omega) (by omega)
        (fun c hc => hno c (List.mem_cons_of_mem _ hc)) h0'
      refine ⟨m, (if_neg hb).trans ((if_neg hfull).trans hm), hoff, fun i hi => ?_⟩
      rw [hrd i hi, Msg.rd_wr_cons]

/-- A message for port `VPS` that carries `p`, with a NUL behind it. -/
structure Carries (m : Msg) (VPS : UInt8) (p : List UInt8) : Prop where
  vps : m.rd 0 = VPS
  len : m.rd 1 = UInt8.ofNat p.length
  bytes : m.bytes 2 p.length = p
  nul : m.rd (2 + p.length) = 0x00

theorem Carries.payload {m : Msg} {VPS : UInt8} {p : List UInt8} (h : Carries m VPS p) (hp : p.length < 256) :
    m.payload = p := by
  have hlen : m.len = p.length := by
    rw [Msg.len, h.len, UInt8.toNat_ofNat']
    exact Nat.mod_eq_of_lt hp
  rw [Msg.payload, hlen, h.bytes]

/-- A keyword test that succeeds has not looked behind the payload: no keyword holds the NUL that stands there. -/
theorem Carries.prefix_of_bytes {m : Msg} {VPS : UInt8} {p kw : List UInt8} (h : Carries m VPS p) (h0 : 0x00 ∉ kw)
    (hkw : m.bytes 2 kw.length = kw) : kw <+: p := by
  by_cases hle : kw.length ≤ p.length
  · obtain ⟨k, hk⟩ := Nat.exists_eq_add_of_le hle
    have hp := h.bytes
    rw [hk, Msg.bytes_add, hkw] at hp
    exact ⟨_, hp⟩
  · have hlt : p.length < kw.length := by omega
    have hnul : kw[p.length] = 0x00 := by
      have hget : (m.bytes 2 kw.length)[p.length]? = kw[p.length]? := by rw [hkw]
      rw [List.getElem?_eq_getElem (by simpa using hlt), List.getElem?_eq_getElem hlt, Msg.getElem_bytes, h.nul] at hget
      exact (Option.some.inj hget).symm
    exact absurd (hnul ▸ List.getElem_mem hlt) h0

/-- The block of a request before its text: NULs from the length byte on. -/
theorem zeroed_rd (VPS : UInt8) {i : Nat} (hi : 0 < i) : (Msg.set ⟨zeroed, 0⟩ 0 VPS).rd i = 0x00 := by
  rw [Msg.rd_set, if_neg (Nat.ne_of_gt hi)]
  rfl

/-- A line of hex text in its block: the header's first byte, the text, a NUL. -/
theorem receive_cmd_spelling (VPS : UInt8) {e : UInt8} {p text : List UInt8} (rest : List UInt8) (closed : Bool) (he : EndsLine e)
    (h : Spelling text p) (h126 : p.length ≤ 126) : ∃ m, receive_cmd (text ++ e :: rest) closed VPS = some m ∧ m.off = 0 ∧ m.rd 0 = VPS ∧
      (∀ i (hi : i < text.length), m.rd (2 + i) = text[i]) ∧ m.rd (2 + text.length) = 0x00 := by
  have hlen := h.length_eq
  have hno : ∀ b ∈ text, ¬EndsLine b := by
    intro b hb hend
    obtain ⟨_, _, hcr, hlf⟩ := h.isHexChar b hb
    rcases hend with hend | hend
    · exact hcr hend
    · exact hlf hend
  have hnul := zeroed_rd VPS (show 0 < 2 + text.length by omega)
  obtain ⟨m, hm, hoff, hrd⟩ :=
    receiveLoop_line rest closed he (Nat.le_refl 2) (by decide) (by simp only [DATASIZE]; omega) hno hnul
  refine ⟨m, hm, hoff, ?_, fun i hi => ?_, ?_⟩
  · rw [hrd 0 (by decide), Msg.rd_wr, if_neg (by omega), Msg.rd_set, if_pos rfl]
  · rw [hrd (2 + i) (by omega), Msg.rd_wr, if_pos ⟨by omega, by omega⟩, Nat.add_sub_cancel_left]
    simp [hi]
  · rw [hrd _ (by omega), Msg.rd_wr, if_neg (by omega), hnul]

/-- Text that spells `p` is decoded onto itself: its second half stays where it was, from one byte behind the payload on. -/
theorem decodeCommand_spelling {VPS : UInt8} {p text : List UInt8} {m : Msg} (h : Spelling text p) (h1 : 1 ≤ p.length)
    (h126 : p.length ≤ 126) (hoff : m.off = 0) (hvps : m.rd 0 = VPS)
    (htext : ∀ i (hi : i < text.length), m.rd (2 + i) = text[i]) (hnul : m.rd (2 + text.length) = 0x00) :
    (decodeCommand m).off = 0 ∧ Carries (decodeCommand m) VPS p := by
  have hlen := h.length_eq
  -- the length byte, stored before the text is decoded, is not part of it
  obtain ⟨m₁, hm₁⟩ : ∃ m₁, m.set 1 (UInt8.ofNat (m.strlen 2)) = m₁ := ⟨_, rfl⟩
  have hoff₁ : m₁.off = 0 := by rw [← hm₁, Msg.off_set, hoff]
  have hmem₁ : ∀ i, i ≠ 1 → m₁.mem i = m.rd i := by
    intro i hi
    have hrd₁ : m₁.rd i = m.rd i := by rw [← hm₁, Msg.rd_set, if_neg hi]
    rwa [Msg.rd, hoff₁, Nat.zero_add] at hrd₁
  have hbytes : CMem.bytes m₁.mem 2 (2 * p.length) = text := by
    refine List.ext_getElem (by rw [CMem.length_bytes, hlen]) fun i _ hi => ?_
    rw [CMem.getElem_bytes, hmem₁ _ (by omega), htext i hi]
  have hstrlen : CMem.strlen m₁.mem 2 (DATASIZE - 2) = 2 * p.length := by
    refine strlen_eq (by simp only [DATASIZE]; omega) (fun i hi => ?_) (fun _ => ?_)
    · rw [hmem₁ _ (by omega), htext i (by omega)]
      exact (h.isHexChar _ (List.getElem_mem _)).2.1
    · rw [hmem₁ _ (by omega), ← hlen, hnul]
  have hfirst : IsHexChar (m₁.rd 2) := by
    have h0 : 0 < text.length := by omega
    rw [Msg.rd, hoff₁, Nat.zero_add, hmem₁ 2 (by decide), htext 0 h0]
    exact (h.isHexChar _ (List.getElem_mem h0)).1
  obtain ⟨hl, hb, hz, hkeep⟩ := hexbinary_to_binary_spelling (Nat.le_refl 2) (hbytes.symm ▸ h) hstrlen (by omega)
  obtain ⟨r, hr⟩ : ∃ r, hexbinary_to_binary m₁.mem 2 2 (DATASIZE - 2) = r := ⟨_, rfl⟩
  rw [hr] at hl hb hz hkeep
  have hdec : decodeCommand m = Msg.set { m₁ with mem := r.1 } 1 r.2 := by
    simp only [decodeCommand, hm₁, hfirst, if_true, hoff₁, Nat.zero_add, hr]
  have hrd₂ : ∀ i, i ≠ 1 → (decodeCommand m).rd i = r.1 i := by
    intro i hi
    rw [hdec, Msg.rd_set, if_neg hi, Msg.rd, hoff₁, Nat.zero_add]
  refine ⟨by rw [hdec, Msg.off_set, hoff₁], ?_, ?_, ?_, ?_⟩
  · rw [hrd₂ 0 (by decide), hkeep 0 (by omega), hmem₁ 0 (by decide), hvps]
  · rw [hdec, Msg.rd_set, if_pos rfl, hl]
  · conv_rhs => rw [← hb]
    refine List.ext_getElem (by simp) fun i _ _ => ?_
    rw [Msg.getElem_bytes, CMem.getElem_bytes, hrd₂ _ (by omega)]
  · rw [hrd₂ _ (by omega), hz]

/-- A line that spells `p` becomes a message that carries `p`. -/
theorem IPTask_spelling (VPS : UInt8) {e : UInt8} {p text : List UInt8} (rest : List UInt8) (closed : Bool) (he : EndsLine e)
    (h : Spelling text p) (h1 : 1 ≤ p.length) (h126 : p.length ≤ 126) :
    ∃ m, IPTask VPS (text ++ e :: rest) closed = some m ∧ m.off = 0 ∧ Carries m VPS p := by
  obtain ⟨m, hm, hoff, hvps, htext, hnul⟩ := receive_cmd_spelling VPS rest closed he h h126
  obtain ⟨hoff', hc⟩ := decodeCommand_spelling h h1 h126 hoff hvps htext hnul
  exact ⟨decodeCommand m, by rw [IPTask, hm, Option.map_some], hoff', hc⟩

end

end HomeBridge
