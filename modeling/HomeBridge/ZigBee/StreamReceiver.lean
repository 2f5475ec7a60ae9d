import HomeBridge.Ihaplite.Framework

/-!
# Reading from the serial stream

`receive_stream_data` of `ipstreamtasks.c` reads one byte at a time until the stream pauses, and then hands over what it has. Its own
limit of 254 is one more than the caller has room for behind the two bytes of the header; and it counts every read, also one that was an
error.
-/

namespace HomeBridge

open CMem

/-- What `select` and `read` come to: a byte, an error, the end of the stream, or nothing for the time waited. -/
inductive Arrival where
  | byte (b : UInt8)
  | error
  | eof
  | pause
deriving DecidableEq

namespace Arrival

/-- What is in `cmd` for a read; the block is from calloc. -/
def stored : Arrival → UInt8
  | byte b => b
  | _ => 0x00

def isByte : Arrival → Bool
  | byte _ => true
  | _ => false

end Arrival

/-- What `receive_stream_data` returns, what it copies to `message`, and what has not arrived by then. -/
structure Received where
  cmd_len : Nat
  message : List (Nat × List UInt8)
  rest : List Arrival

/-- The loop of `receive_stream_data`, with the bytes in `cmd`. At the end of the stream it returns at once. -/
def receiveStreamLoop (cmd : List UInt8) (message_detected : Bool) : List Arrival → Option Received
  | [] => none
  | .pause :: rest =>
    if message_detected then some ⟨cmd.length, [(0, cmd)], rest⟩ else receiveStreamLoop cmd message_detected rest
  | .eof :: rest => some ⟨0, [], rest⟩
  | result :: rest =>
    if cmd.length + 1 = 254 then some ⟨cmd.length + 1, [(0, cmd ++ [result.stored])], rest⟩
    else receiveStreamLoop (cmd ++ [result.stored]) true rest

/-- `receive_stream_data`, where it returns. -/
def receive_stream_data (arrivals : List Arrival) : Option Received := receiveStreamLoop [] false arrivals

/-- What `IpStreamReceiverTask` stores in its buffer: the header's first byte, what was received behind the header, and the length. -/
def Received.buffer (r : Received) : List (Nat × List UInt8) :=
  (0, [0xFF]) :: r.message.map (fun s => (s.1 + 2, s.2)) ++ [(1, [UInt8.ofNat r.cmd_len])]

/-- The buffer when the call has returned. The length is stored in the first of its two forms only, `sslegacymode`. -/
def receiverBuffer (sslegacymode : Bool) (r : Received) : Msg :=
  let buffer := r.message.foldl (fun m s => m.wr (s.1 + 2) s.2) (Msg.set ⟨zeroed, 0⟩ 0 0xFF)
  if sslegacymode then buffer.set 1 (UInt8.ofNat r.cmd_len) else buffer

/-- The message lies in the buffer; the length is the number of bytes that arrived during the call, or 0 if the stream ended, and is
what the buffer's length field says. -/
structure Received.Exact (r : Received) (arrivals : List Arrival) : Prop where
  within : StoresIn r.buffer DATASIZE
  count : ∃ consumed, arrivals = consumed ++ r.rest ∧ r.cmd_len = if .eof ∈ consumed then 0 else consumed.countP Arrival.isByte
  field : (UInt8.ofNat r.cmd_len).toNat = r.cmd_len

/-- What the call reads: up to the first pause behind a read, 254 times at most. -/
def burst (arrivals : List Arrival) : List Arrival :=
  ((arrivals.dropWhile (· = .pause)).takeWhile (· ≠ .pause)).take 254

/-- The stream ends in the burst, or the burst is of bytes only and leaves room for the header. -/
def GoodBurst (arrivals : List Arrival) : Prop :=
  .eof ∈ burst arrivals ∨ .error ∉ burst arrivals ∧ (burst arrivals).length ≤ DATASIZE - 2

instance (arrivals : List Arrival) : Decidable (GoodBurst arrivals) := inferInstanceAs (Decidable (_ ∨ _))

/-- How the loop ends: at the end of the stream, or with all that was read. -/
inductive Read (cmd : List UInt8) (reads : List Arrival) (arrivals : List Arrival) (r : Received) : Prop
  | ended (consumed : List Arrival) : .eof ∈ reads → arrivals = consumed ++ r.rest → .eof ∈ consumed → r.cmd_len = 0 → r.message = [] →
      Read cmd reads arrivals r
  | copied (consumed : List Arrival) : .eof ∉ reads → arrivals = consumed ++ r.rest → .eof ∉ consumed →
      consumed.countP Arrival.isByte = reads.countP Arrival.isByte → r.cmd_len = cmd.length + reads.length →
      r.message = [(0, cmd ++ reads.map Arrival.stored)] → Read cmd reads arrivals r

/-- One read more, before the others. -/
theorem Read.cons {cmd : List UInt8} {reads arrivals : List Arrival} {r : Received} {result : Arrival} (hne : result ≠ .eof)
    (h : Read (cmd ++ [result.stored]) reads arrivals r) : Read cmd (result :: reads) (result :: arrivals) r := by
  have hmem {l : List Arrival} (hl : .eof ∉ l) : .eof ∉ result :: l :=
    fun hm => (List.mem_cons.mp hm).elim (fun he => hne he.symm) hl
  cases h with
  | ended consumed heof harr hcons hlen hmsg =>
    exact .ended (result :: consumed) (List.mem_cons_of_mem _ heof) (congrArg _ harr) (List.mem_cons_of_mem _ hcons) hlen hmsg
  | copied consumed heof harr hcons hcount hlen hmsg =>
    refine .copied (result :: consumed) (hmem heof) (congrArg _ harr) (hmem hcons) ?_ ?_ ?_
    · rw [List.countP_cons, List.countP_cons, hcount]
    · rw [hlen, List.length_append, List.length_singleton, List.length_cons]
      omega
    · rw [hmsg, List.append_assoc]
      rfl

/-- Once something was read, the loop reads up to the next pause, or to its limit. -/
theorem read_of_detected : ∀ {arrivals : List Arrival} {cmd : List UInt8} {r : Received}, cmd.length < 254 →
    receiveStreamLoop cmd true arrivals = some r →
    Read cmd ((arrivals.takeWhile (· ≠ .pause)).take (254 - cmd.length)) arrivals r := by
  intro arrivals
  induction arrivals with
  | nil =>
    intro cmd r _ h
    cases h
  | cons result rest ih =>
    intro cmd r hcmd h
    have htake (hne : result ≠ .pause) : ((result :: rest).takeWhile (· ≠ .pause)).take (254 - cmd.length) =
        result :: (rest.takeWhile (· ≠ .pause)).take (254 - (cmd ++ [result.stored]).length) := by
      have hk : 254 - cmd.length = 254 - (cmd ++ [result.stored]).length + 1 := by
        rw [List.length_append, List.length_singleton]
        omega
      rw [List.takeWhile_cons_of_pos (by simpa using hne), hk, List.take_succ_cons]
    -- a byte and an error take the same branch
    have hread (hne : result ≠ .pause) (hne' : result ≠ .eof) (hr : (if cmd.length + 1 = 254 then
        some (Received.mk (cmd.length + 1) [(0, cmd ++ [result.stored])] rest)
        else receiveStreamLoop (cmd ++ [result.stored]) true rest) = some r) :
        Read cmd (((result :: rest).takeWhile (· ≠ .pause)).take (254 - cmd.length)) (result :: rest) r := by
      rw [htake hne]
      refine Read.cons hne' ?_
      by_cases hfull : cmd.length + 1 = 254
      · rw [if_pos hfull] at hr
        cases hr
        have hlen : (cmd ++ [result.stored]).length = 254 := by rw [List.length_append, List.length_singleton, hfull]
        rw [hlen, Nat.sub_self, List.take_zero]
        exact .copied [] List.not_mem_nil rfl List.not_mem_nil rfl (by rw [hlen, hfull, List.length_nil]) (by simp)
      · rw [if_neg hfull] at hr
        exact ih (by rw [List.length_append, List.length_singleton]; omega) hr
    cases result with
    | pause =>
      cases h
      have hnil : ((Arrival.pause :: rest).takeWhile (· ≠ .pause)).take (254 - cmd.length) = [] := by
        rw [List.takeWhile_cons_of_neg (by simp), List.take_nil]
      rw [hnil]
      exact .copied [.pause] List.not_mem_nil rfl (by decide) rfl rfl (by simp)
    | eof =>
      cases h
      refine .ended [.eof] ?_ rfl (List.mem_singleton_self _) rfl rfl
      rw [htake (by decide)]
      exact List.mem_cons_self ..
    | byte b => exact hread (fun he => Arrival.noConfusion he) (fun he => Arrival.noConfusion he) h
    | error => exact hread (by decide) (by decide) h

/-- Pauses before anything was read are waited through. -/
theorem read_of_received {r : Received} : ∀ {arrivals : List Arrival}, receive_stream_data arrivals = some r →
    Read [] (burst arrivals) arrivals r := by
  intro arrivals
  induction arrivals with
  | nil =>
    intro h
    cases h
  | cons result rest ih =>
    intro h
    by_cases hp : result = .pause
    · subst hp
      have hburst : burst (.pause :: rest) = burst rest := by
        rw [burst, List.dropWhile_cons_of_pos (by decide)]
        rfl
      rw [hburst]
      cases ih h with
      | ended consumed heof harr hmem hlen hmsg =>
        exact .ended (.pause :: consumed) heof (congrArg _ harr) (List.mem_cons_of_mem _ hmem) hlen hmsg
      | copied consumed heof harr hmem hcount hlen hmsg =>
        exact .copied (.pause :: consumed) heof (congrArg _ harr) (by simpa using hmem) hcount hlen hmsg
    · rw [burst, List.dropWhile_cons_of_neg (by simpa using hp)]
      refine @read_of_detected _ [] _ (by decide) ?_
      cases result with
      | pause => exact absurd rfl hp
      | byte b => exact h
      | error => exact h
      | eof => exact h

/-- In a burst of bytes and errors every read is counted as a byte exactly if none of them was an error. -/
theorem countP_isByte : ∀ {reads : List Arrival}, (∀ a ∈ reads, a ≠ .pause) → .eof ∉ reads →
    (reads.length = reads.countP Arrival.isByte ↔ .error ∉ reads) := by
  intro reads hpause heof
  rw [eq_comm, List.countP_eq_length]
  constructor
  · intro h hm
    exact absurd (h _ hm) (by decide)
  · intro h a ha
    cases a with
    | byte b => rfl
    | error => exact absurd ha h
    | eof => exact absurd ha heof
    | pause => exact absurd rfl (hpause _ ha)

/-- The buffer, the count and the length are right exactly if the burst is a good one. -/
theorem received_exact_iff {arrivals : List Arrival} {r : Received} (h : receive_stream_data arrivals = some r) :
    r.Exact arrivals ↔ GoodBurst arrivals := by
  have hpause : ∀ a ∈ burst arrivals, a ≠ .pause := by
    intro a ha
    simpa using (List.all_eq_true.mp List.all_takeWhile) a (List.mem_of_mem_take ha)
  have hshort : (burst arrivals).length ≤ 254 := by
    rw [burst, List.length_take]
    exact Nat.min_le_left ..
  cases read_of_received h with
  | ended consumed heof harr hmem hlen hmsg =>
    refine iff_of_true ⟨?_, ⟨consumed, harr, ?_⟩, ?_⟩ (.inl heof)
    · rw [Received.buffer, hmsg]
      simp [StoresIn]
    · rw [hlen, if_pos hmem]
    · rw [hlen]
      rfl
  | copied consumed heof harr hmem hcount hlen hmsg =>
    have hlen : r.cmd_len = (burst arrivals).length := by rw [hlen, List.length_nil, Nat.zero_add]
    have hwithin : StoresIn r.buffer DATASIZE ↔ (burst arrivals).length ≤ DATASIZE - 2 := by
      rw [Received.buffer, hmsg]
      simp [StoresIn]
      omega
    rw [GoodBurst, or_iff_right heof, ← hwithin, ← countP_isByte hpause heof, and_comm]
    constructor
    · intro he
      obtain ⟨consumed', harr', hcount'⟩ := he.count
      have hsame : consumed' = consumed := List.append_cancel_right (harr'.symm.trans harr)
      rw [hsame, if_neg hmem, hcount, hlen] at hcount'
      exact ⟨he.within, hcount'⟩
    · rintro ⟨hin, hc⟩
      refine ⟨hin, ⟨consumed, harr, ?_⟩, ?_⟩
      · rw [if_neg hmem, hcount, hlen, hc]
      · rw [hlen, UInt8.toNat_ofNat']
        omega

/-- Three bytes and a pause. -/
theorem received_exact_three : (Received.mk 3 [(0, ascii "abc")] []).Exact
    [.pause, .byte 0x61, .byte 0x62, .byte 0x63, .pause] :=
  (received_exact_iff rfl).mpr (by decide)

/-- Bytes up to the limit are copied, without a pause behind them. -/
theorem receiveStreamLoop_full : ∀ {bytes : List UInt8} {cmd : List UInt8} {detected : Bool}, bytes ≠ [] → cmd.length + bytes.length = 254 →
    receiveStreamLoop cmd detected (bytes.map .byte) = some ⟨254, [(0, cmd ++ bytes)], []⟩ := by
  intro bytes
  induction bytes with
  | nil => exact fun hne _ => absurd rfl hne
  | cons b bytes ih =>
    intro cmd detected _ hlen
    rw [List.length_cons] at hlen
    rw [List.map_cons, receiveStreamLoop, Arrival.stored]
    · cases bytes with
      | nil =>
        rw [List.length_nil] at hlen
        rw [if_pos hlen, hlen]
        rfl
      | cons c bytes =>
        rw [List.length_cons] at hlen
        rw [if_neg (by omega), ih (List.cons_ne_nil _ _) (by simp only [List.length_append, List.length_cons, List.length_nil]; omega),
          List.append_assoc]
        rfl
    all_goals exact fun he => Arrival.noConfusion he

/-- A burst of 254 bytes. -/
theorem not_received_exact : ¬∀ arrivals r, receive_stream_data arrivals = some r → r.Exact arrivals := by
  intro h
  obtain ⟨bytes, hlen⟩ : ∃ bytes : List UInt8, bytes.length = 254 := ⟨List.replicate 254 0x41, List.length_replicate⟩
  have hfull : receive_stream_data (bytes.map .byte) = some ⟨254, [(0, bytes)], []⟩ :=
    receiveStreamLoop_full (List.ne_nil_of_length_eq_add_one hlen) ((Nat.zero_add _).trans hlen)
  have hin := (h _ _ hfull).within (2, bytes) (by simp [Received.buffer])
  rw [hlen] at hin
  exact absurd (show 2 + 254 ≤ 255 from hin) (by decide)

end HomeBridge
