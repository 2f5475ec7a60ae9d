import Mathlib.Data.List.GetD
import Mathlib.Data.List.TakeWhile
import HomeBridge.Ihaplite.IPTask
import HomeBridge.Ihaplite.SessionManager

/-!
# The messages lines become

A client may send any bytes. What it sends becomes a message by its bytes up to CR or LF, or by the first 252 of them, those of a client
that has closed its connection being NULs: the length byte is first that of the line, then that of the string in it, then half as much
where the string is hex text, and five less where the session manager takes the keyword `0TIME` off.
-/

namespace HomeBridge

open CMem

/-! ## The line -/

/-- The bytes read, where the block has room for `room`, and whether CR or LF has ended them. Where the client stops before there is
nothing, or NULs for all of the room once it has closed the connection. -/
def receivedText (closed : Bool) : List UInt8 → Nat → Option (List UInt8 × Bool)
  | [], room => if closed = true then some (List.replicate room 0, false) else none
  | b :: stream, room =>
    if EndsLine b then some ([], true)
    else if room = 1 then some ([b], false)
    else (receivedText closed stream (room - 1)).map fun (text, ended) => (b :: text, ended)

/-- The room for a line: the block without the header, less one byte. -/
@[simp] def LINESIZE : Nat := DATASIZE - 3

section

variable {closed : Bool}

/-- There is no more text than room, and less where it was ended. -/
theorem length_receivedText {stream : List UInt8} : ∀ {room : Nat} {text : List UInt8} {ended : Bool}, 1 ≤ room →
    receivedText closed stream room = some (text, ended) → text.length + (if ended = true then 1 else 0) ≤ room := by
  induction stream with
  | nil =>
    intro room text ended _ h
    rw [receivedText, Option.ite_none_right_eq_some, Option.some.injEq, Prod.mk.injEq] at h
    obtain ⟨-, rfl, rfl⟩ := h
    exact Nat.le_of_eq List.length_replicate
  | cons b stream ih =>
    intro room text ended hroom h
    rw [receivedText] at h
    split at h
    · cases h
      exact hroom
    · split at h
      · cases h
        exact hroom
      · rename_i hne
        obtain ⟨⟨text', ended'⟩, hr, he⟩ := Option.map_eq_some_iff.mp h
        cases he
        have := ih (by omega) hr
        rw [List.length_cons]
        omega

/-- A line that fits is read as it is. -/
theorem receivedText_line {e : UInt8} (rest : List UInt8) (closed : Bool) (he : EndsLine e) {text : List UInt8} :
    ∀ {room : Nat}, text.length < room → (∀ b ∈ text, ¬EndsLine b) → receivedText closed (text ++ e :: rest) room = some (text, true) := by
  induction text with
  | nil =>
    intro room _ _
    exact if_pos he
  | cons b text ih =>
    intro room hroom hno
    rw [List.length_cons] at hroom
    have hb : ¬EndsLine b := hno b (List.mem_cons_self ..)
    rw [List.cons_append, receivedText, if_neg hb, if_neg (by omega), ih (by omega) fun c hc => hno c (List.mem_cons_of_mem _ hc)]
    rfl

/-- A line that is cut off where the client closes the connection is filled up. -/
theorem receivedText_closed {text : List UInt8} : ∀ {room : Nat}, text.length < room → (∀ b ∈ text, ¬EndsLine b) →
    receivedText true text room = some (text ++ List.replicate (room - text.length) 0, false) := by
  induction text with
  | nil => exact fun _ _ => rfl
  | cons b text ih =>
    intro room hroom hno
    rw [List.length_cons] at hroom
    have hb : ¬EndsLine b := hno b (List.mem_cons_self ..)
    rw [receivedText, if_neg hb, if_neg (by omega), ih (by omega) fun c hc => hno c (List.mem_cons_of_mem _ hc), List.length_cons,
      Nat.add_comm, Nat.sub_add_eq]
    rfl

/-- The block a line is read into: the text where the loop stands, a NUL behind it, and the length byte if the line was ended. -/
theorem receiveLoop_text {stream : List UInt8} : ∀ {cmd m : Msg} {k : Nat}, 2 ≤ k → k < DATASIZE - 1 → (∀ i, k ≤ i → cmd.rd i = 0) →
    receiveLoop closed stream cmd k = some m → ∃ text ended, receivedText closed stream (DATASIZE - 1 - k) = some (text, ended) ∧
      m.rd 1 = (if ended = true then UInt8.ofNat (k + text.length - 2) else cmd.rd 1) ∧
      ∀ i, i ≠ 1 → m.rd i = (cmd.wr k text).rd i := by
  induction stream with
  | nil =>
    intro cmd m k _ _ h0 h
    rw [receiveLoop, Option.ite_none_right_eq_some, Option.some.injEq] at h
    obtain ⟨hclosed, hm⟩ := h
    rw [closedLoop_zeroed h0] at hm
    subst hm
    refine ⟨_, false, if_pos hclosed, (if_neg Bool.false_ne_true).symm, fun i _ => ?_⟩
    -- the NULs of the end are the block's own
    rw [Msg.rd_wr]
    split
    · rename_i hik
      rw [List.length_replicate] at hik
      rw [h0 i hik.1, List.getD_replicate 0 (by omega)]
    · rfl
  | cons b stream ih =>
    intro cmd m k h2 hk h0 h
    rw [receiveLoop] at h
    by_cases hb : EndsLine b
    · -- the line ends here, and a NUL takes the place of its end
      refine ⟨[], true, if_pos hb, ?_⟩
      rw [if_pos hb, Option.some.injEq] at h
      subst h
      refine ⟨?_, fun i hi => ?_⟩
      · rw [endCommand, Msg.rd_set, if_pos rfl, if_pos rfl, List.length_nil, Nat.add_zero, uchar]
        congr 1
        simp only [DATASIZE] at hk
        omega
      · rw [endCommand, Msg.rd_set, if_neg hi, Msg.rd_set, Msg.rd_set, Msg.wr, write_nil]
        split
        · rename_i hik
          subst hik
          exact (h0 i (Nat.le_refl i)).symm
        · rfl
    · rw [if_neg hb] at h
      by_cases hfull : k + 1 = DATASIZE - 1
      · rw [if_pos hfull, Option.some.injEq] at h
        subst h
        refine ⟨[b], false, ?_, ?_, fun i _ => rfl⟩
        · rw [receivedText, if_neg hb, if_pos (by omega)]
        · rw [Msg.rd_set, if_neg (by omega), if_neg Bool.false_ne_true]
      · rw [if_neg hfull] at h
        have h0' : ∀ i, k + 1 ≤ i → (cmd.set k b).rd i = 0 := fun i hi => by
          rw [Msg.rd_set, if_neg (by omega), h0 i (by omega)]
        obtain ⟨text, ended, hr, h1, hrd⟩ := ih (show 2 ≤ k + 1 by omega) (by omega) h0' h
        refine ⟨b :: text, ended, ?_, ?_, fun i hi => ?_⟩
        · rw [receivedText, if_neg hb, if_neg (by simp only [DATASIZE] at hk hfull ⊢; omega), Nat.sub_sub, hr]
          rfl
        · rw [h1, Msg.rd_set, if_neg (show ¬1 = k by omega), List.length_cons, Nat.add_assoc k 1, Nat.add_comm 1]
        · rw [hrd i hi, Msg.rd_wr_cons]

/-- A command is read exactly where the text ends. -/
theorem receiveLoop_isSome {stream : List UInt8} : ∀ {cmd : Msg} {k : Nat}, 2 ≤ k → k < DATASIZE - 1 →
    (receiveLoop closed stream cmd k).isSome = (receivedText closed stream (DATASIZE - 1 - k)).isSome := by
  induction stream with
  | nil =>
    intro cmd k _ _
    rw [receiveLoop, receivedText]
    split <;> rfl
  | cons b stream ih =>
    intro cmd k h2 hk
    rw [receiveLoop, receivedText]
    by_cases hb : EndsLine b
    · rw [if_pos hb, if_pos hb]
      rfl
    · rw [if_neg hb, if_neg hb]
      by_cases hfull : k + 1 = DATASIZE - 1
      · have hroom : DATASIZE - 1 - k = 1 := by omega
        rw [if_pos hfull, if_pos hroom]
        rfl
      · have hroom : DATASIZE - 1 - k ≠ 1 := by omega
        rw [if_neg hfull, if_neg hroom, ih (show 2 ≤ k + 1 by omega) (by omega), Option.isSome_map,
          Nat.sub_sub _ k]

/-- A command as `receive_cmd` returns it. -/
structure IsCommand (cmd : Msg) (VPS : UInt8) (text : List UInt8) (ended : Bool) : Prop where
  off : cmd.off = 0
  vps : cmd.rd 0 = VPS
  len : cmd.rd 1 = if ended = true then UInt8.ofNat text.length else 0
  body : ∀ i, cmd.rd (2 + i) = text.getD i 0

theorem receive_cmd_text {stream : List UInt8} {VPS : UInt8} {cmd : Msg} (h : receive_cmd stream closed VPS = some cmd) :
    ∃ text ended, receivedText closed stream LINESIZE = some (text, ended) ∧ IsCommand cmd VPS text ended := by
  have h0 : ∀ i, 2 ≤ i → (Msg.set ⟨zeroed, 0⟩ 0 VPS).rd i = 0 := fun i hi => zeroed_rd VPS (Nat.lt_of_succ_lt hi)
  obtain ⟨text, ended, hr, h1, hrd⟩ := receiveLoop_text (Nat.le_refl 2) (by decide) h0 h
  refine ⟨text, ended, hr, receiveLoop_off h, ?_, ?_, fun i => ?_⟩
  · rw [hrd 0 (by decide), Msg.rd_wr, if_neg (by omega), Msg.rd_set, if_pos rfl]
  · rw [h1, Nat.add_sub_cancel_left, Msg.rd_set, if_neg Nat.one_ne_zero]
    rfl
  · rw [hrd _ (by omega), Msg.rd_wr]
    split
    · rw [Nat.add_sub_cancel_left]
    · rw [h0 _ (by omega), List.getD_eq_default _ _ (by omega)]

/-- And what is read is a command. -/
theorem receive_cmd_isSome (stream : List UInt8) (closed : Bool) (VPS : UInt8) :
    (receive_cmd stream closed VPS).isSome = (receivedText closed stream LINESIZE).isSome :=
  receiveLoop_isSome (Nat.le_refl 2) (by decide)

end

/-! ## The payload -/

/-- The length of the payload that becomes of a text: that of the string in it, half of it where that is taken for hex text. -/
def payloadLen (text : List UInt8) : Nat :=
  let s := text.takeWhile (· != 0)
  if IsHexChar (text.headD 0) then s.length / 2 else s.length

theorem length_takeWhile_le (text : List UInt8) : (text.takeWhile (· != 0)).length ≤ text.length :=
  (List.takeWhile_sublist _).length_le

theorem payloadLen_le (text : List UInt8) : payloadLen text ≤ text.length := by
  have := length_takeWhile_le text
  unfold payloadLen
  dsimp only
  split <;> omega

/-- The payload of a text that is neither hex text nor holds a NUL is the text. -/
theorem payloadLen_raw {text : List UInt8} (h0 : ∀ b ∈ text, b ≠ 0) (hraw : ¬IsHexChar (text.headD 0)) :
    payloadLen text = text.length := by
  have hs : text.takeWhile (· != 0) = text := List.takeWhile_eq_self_iff.mpr fun b hb => bne_iff_ne.mpr (h0 b hb)
  rw [payloadLen, hs, if_neg hraw]

/-- NULs behind a text add nothing to its payload. -/
theorem payloadLen_filled (text : List UInt8) (n : Nat) : payloadLen (text ++ List.replicate n 0) = payloadLen text := by
  have hzeros : (List.replicate n (0 : UInt8)).takeWhile (· != 0) = [] := by cases n <;> rfl
  have hstring : (text ++ List.replicate n 0).takeWhile (· != 0) = text.takeWhile (· != 0) := by
    rw [List.takeWhile_append, hzeros, List.append_nil]
    split
    · rename_i h
      exact ((List.takeWhile_prefix _).eq_of_length h).symm
    · rfl
  have hhead : (text ++ List.replicate n 0).headD 0 = text.headD 0 := by
    cases text with
    | nil => cases n <;> rfl
    | cons b text => rfl
  rw [payloadLen, payloadLen, hstring, hhead]

/-- The string in a text ends at its first NUL. -/
theorem takeWhile_ne_zero (text : List UInt8) : (∀ k < (text.takeWhile (· != 0)).length, text.getD k 0 ≠ 0) ∧
    text.getD (text.takeWhile (· != 0)).length 0 = 0 := by
  induction text with
  | nil => exact ⟨fun k hk => absurd hk (Nat.not_lt_zero k), rfl⟩
  | cons b text ih =>
    by_cases hb : b = 0
    · subst hb
      exact ⟨fun k hk => absurd hk (Nat.not_lt_zero k), rfl⟩
    · rw [List.takeWhile_cons_of_pos (by simpa using hb), List.length_cons]
      refine ⟨fun k hk => ?_, ih.2⟩
      cases k with
      | zero => exact hb
      | succ k => exact ih.1 k (Nat.lt_of_succ_lt_succ hk)

theorem strlen_text {m : Msg} {i : Nat} {text : List UInt8} (hfit : m.off + i + text.length < DATASIZE)
    (h : ∀ k, m.rd (i + k) = text.getD k 0) : m.strlen i = (text.takeWhile (· != 0)).length := by
  have hle := length_takeWhile_le text
  obtain ⟨hne, h0⟩ := takeWhile_ne_zero text
  refine Msg.strlen_eq (by omega) (fun k hk => ?_) ?_
  · rw [h]
    exact hne k hk
  · rw [h, h0]

/-! ## What is decoded onto itself -/

/-- Decoding stores from the output on, and a NUL behind the last byte. -/
theorem decodeLoop_stores {n : Nat} : ∀ {m : Mem} {input output : Nat},
    decodeLoop n m input output (output + n) = 0 ∧ ∀ i < output, decodeLoop n m input output i = m i := by
  induction n with
  | zero =>
    intro m input output
    exact ⟨write_singleton m output 0, fun i hi => write_of_lt m [0] hi⟩
  | succ n ih =>
    intro m input output
    obtain ⟨ih1, ih2⟩ := @ih (write m output [readDigit (readDigit 0 (m input)) (m (input + 1))]) (input + 2) (output + 1)
    rw [decodeLoop]
    refine ⟨?_, fun i hi => ?_⟩
    · rw [offset_succ output n]
      exact ih1
    · exact (ih2 i (by omega)).trans (write_of_lt _ _ hi)

/-- A message as `IPTask` broadcasts it for a line: the header, a NUL behind the payload, and the text itself where it was not decoded. -/
structure IsRequest (m : Msg) (VPS : UInt8) (text : List UInt8) : Prop where
  off : m.off = 0
  vps : m.rd 0 = VPS
  len : m.len = payloadLen text
  nul : m.rd (2 + payloadLen text) = 0
  raw : ¬IsHexChar (text.headD 0) → ∀ i, m.rd (2 + i) = text.getD i 0

theorem decodeCommand_text {cmd : Msg} {VPS : UInt8} {text : List UInt8} {ended : Bool} (h : IsCommand cmd VPS text ended)
    (hlen : text.length ≤ LINESIZE) : IsRequest (decodeCommand cmd) VPS text := by
  simp only [LINESIZE, DATASIZE] at hlen
  have hstr : cmd.strlen 2 = (text.takeWhile (· != 0)).length :=
    strlen_text (by simp only [h.off, DATASIZE]; omega) h.body
  have hle := length_takeWhile_le text
  obtain ⟨m₁, hm₁⟩ : ∃ m₁, cmd.set 1 (UInt8.ofNat (cmd.strlen 2)) = m₁ := ⟨_, rfl⟩
  have hoff₁ : m₁.off = 0 := by rw [← hm₁, Msg.off_set, h.off]
  have h0₁ : m₁.rd 0 = VPS := by rw [← hm₁, Msg.rd_set, if_neg (by decide), h.vps]
  have h1₁ : m₁.rd 1 = UInt8.ofNat (text.takeWhile (· != 0)).length := by rw [← hm₁, Msg.rd_set, if_pos rfl, hstr]
  have hbody₁ : ∀ i, m₁.rd (2 + i) = text.getD i 0 := fun i => by rw [← hm₁, Msg.rd_set, if_neg (by omega), h.body i]
  have h2₁ : m₁.rd 2 = text.headD 0 := (hbody₁ 0).trans (by cases text <;> rfl)
  have hstr₁ : CMem.strlen m₁.mem 2 (DATASIZE - 2) = (text.takeWhile (· != 0)).length := by
    have hs : m₁.strlen 2 = cmd.strlen 2 := by rw [← hm₁, Msg.strlen_set_of_lt _ (by decide)]
    rw [← hstr, ← hs, Msg.strlen, hoff₁]
  by_cases hc : IsHexChar (text.headD 0)
  · have hp : payloadLen text = (text.takeWhile (· != 0)).length / 2 := if_pos hc
    obtain ⟨r, hr⟩ : ∃ r, hexbinary_to_binary m₁.mem 2 2 (DATASIZE - 2) = r := ⟨_, rfl⟩
    have hn : (UInt8.ofNat ((text.takeWhile (· != 0)).length / 2)).toNat = payloadLen text := by
      rw [UInt8.toNat_ofNat', hp]
      omega
    have hr' : r = (decodeLoop (payloadLen text) m₁.mem 2 2, UInt8.ofNat ((text.takeWhile (· != 0)).length / 2)) := by
      rw [← hr, ← hn]
      simp only [hexbinary_to_binary, hstr₁]
    have hdec : decodeCommand cmd = Msg.set { m₁ with mem := r.1 } 1 r.2 := by
      simp only [decodeCommand, hm₁, h2₁, hc, if_true, hoff₁, Nat.zero_add, hr]
    have hrd : ∀ i, i ≠ 1 → (decodeCommand cmd).rd i = decodeLoop (payloadLen text) m₁.mem 2 2 i := fun i hi => by
      rw [hdec, Msg.rd_set, if_neg hi, Msg.rd, hoff₁, Nat.zero_add, hr']
    obtain ⟨hnul, hkeep⟩ := @decodeLoop_stores (payloadLen text) m₁.mem 2 2
    refine ⟨by rw [hdec, Msg.off_set, hoff₁], ?_, ?_, ?_, fun hno => absurd hc hno⟩
    · rw [hrd 0 (by decide), hkeep 0 (by decide), ← h0₁, Msg.rd, hoff₁]
    · rw [Msg.len, hdec, Msg.rd_set, if_pos rfl, hr', hn]
    · rw [hrd _ (by omega), hnul]
  · have hp : payloadLen text = (text.takeWhile (· != 0)).length := if_neg hc
    have hdec : decodeCommand cmd = m₁ := by
      simp only [decodeCommand, hm₁, h2₁, hc, if_false]
    rw [hdec]
    refine ⟨hoff₁, h0₁, ?_, ?_, fun _ => hbody₁⟩
    · rw [Msg.len, h1₁, hp, UInt8.toNat_ofNat']
      omega
    · rw [hp, hbody₁, (takeWhile_ne_zero text).2]

/-- The message `IPTask` broadcasts for what a client sends. -/
theorem IPTask_text {stream : List UInt8} {closed : Bool} {VPS : UInt8} {m : Msg} (h : IPTask VPS stream closed = some m) :
    ∃ text ended, receivedText closed stream LINESIZE = some (text, ended) ∧ IsRequest m VPS text := by
  obtain ⟨cmd, hc, rfl⟩ := Option.map_eq_some_iff.mp h
  obtain ⟨text, ended, hr, hcmd⟩ := receive_cmd_text hc
  have hle := length_receivedText (by decide) hr
  exact ⟨text, ended, hr, decodeCommand_text hcmd (by omega)⟩

/-! ## What the session manager passes on -/

/-- A keyword is found in payloads only that are as long as it. -/
theorem IsRequest.length_le {m : Msg} {VPS : UInt8} {text kw : List UInt8} (h : IsRequest m VPS text) (h0 : 0x00 ∉ kw)
    (hkw : m.bytes 2 kw.length = kw) : kw.length ≤ m.len := by
  refine Nat.le_of_not_lt fun hlt => h0 ?_
  rw [h.len] at hlt
  have hnul : kw[payloadLen text] = m.rd (2 + payloadLen text) := by
    conv_lhs => rw [List.getElem_of_eq hkw.symm hlt]
    exact Msg.getElem_bytes ..
  rw [← h.nul, ← hnul]
  exact List.getElem_mem hlt

/-- A request from which the session manager has taken the keyword off. -/
structure Stripped (m m' : Msg) : Prop where
  keyword : m.bytes 2 5 = ascii "0TIME"
  long : 5 ≤ m.len
  eq : m' = stripKeyword m
  off : m'.off = m.off + 5
  len : m'.len = m.len - 5

/-- The session manager takes the keyword off where its comparison finds it. -/
theorem stripped_of_keyword {m : Msg} {VPS : UInt8} {text : List UInt8} (h : IsRequest m VPS text)
    (hk : strncmp (m.bytes 2 5) (ascii "0TIME") = 0) : Stripped m (stripKeyword m) := by
  have hb : m.bytes 2 5 = ascii "0TIME" := (strncmp_eq_zero (by simp [ascii]) (by decide)).mp hk
  have h5 : (ascii "0TIME").length ≤ m.len := h.length_le (by decide) hb
  refine ⟨hb, h5, rfl, rfl, ?_⟩
  simp only [Msg.len, stripKeyword, Msg.rd_set, if_true] at h5 ⊢
  exact UInt8.toNat_sub_of_le _ _ (UInt8.le_iff_toNat_le.mpr h5)

/-- A request as the session manager passes it on: as it came, or behind the keyword. -/
theorem session_passes {t : SessionTable} {m m' : Msg} {VPS : UInt8} {text : List UInt8} (h : IsRequest m VPS text)
    (hm : .broadcast Out1 m' ∈ (sessionIn1 t m).2) : m'.rd 0 = VPS ∧ (m' = m ∨ Stripped m m') := by
  unfold sessionIn1 at hm
  dsimp only at hm
  split at hm
  · simp at hm
  · split at hm
    · obtain rfl : m' = m := by simpa using hm
      exact ⟨h.vps, .inl rfl⟩
    · rename_i hk
      obtain rfl : m' = stripKeyword m := by simpa using hm
      refine ⟨?_, .inr (stripped_of_keyword h (not_not.mp hk))⟩
      rw [stripKeyword, Msg.rd_set, if_neg (by decide), Msg.rd_set, if_pos rfl, h.vps]

/-- The keyword starts with a digit, so it is found in text only that was decoded. -/
theorem Stripped.isHexChar {m m' : Msg} {VPS : UInt8} {text : List UInt8} (hs : Stripped m m') (h : IsRequest m VPS text) :
    IsHexChar (text.headD 0) := by
  by_contra hraw
  have h2 : m.rd 2 = 0x30 := Msg.rd_of_isAt ((m.isAt_iff (ascii "0TIME") 2).mpr hs.keyword) 0 (by decide)
  have hhead : text.headD 0 = 0x30 := by
    rw [← h2, h.raw hraw 0]
    cases text <;> rfl
  exact hraw (hhead ▸ by decide)

end HomeBridge
