import Mathlib.Logic.Function.Basic
import HomeBridge.Lib.Memory

/-!
# The framework of the bridge: sizes, task and port numbers, messages and the routing table

`framework.h` and the globals of `zigbee-bridge.c`. A task is a thread with a number; a message is a block of `DATASIZE` bytes
that the tasks pass on by pointer, `[VPS][payload length][payload]`; the message handler routes it by the table that `main`
fills with softwired connections.

What the tasks print on the console is left out here and in the modules that follow, but for the messages they render there.
-/

namespace HomeBridge

open CMem

/-! ## Sizes and numbers -/

/-- The bytes of a message block. -/
@[simp] def DATASIZE : Nat := 255

/-- The slots of the message handler's queue. -/
@[simp] def QUEUESIZE : Nat := 4

/-- How many alarm periods a session stays open. -/
@[simp] def SESSION_TIMEOUT : Nat := 15

@[simp] def SERVER_PORT : Nat := 10000
@[simp] def UDPPORTBASE : Nat := 10000

@[simp] def UNUSED : Nat := 0

/-- Input ports of a task. -/
@[simp] def In1 : Nat := 1
@[simp] def In2 : Nat := 2

/-- Output ports of a task. -/
@[simp] def Out1 : Nat := 1
@[simp] def Out2 : Nat := 2

@[simp] def IpStreamReceiverTask_id : Nat := 0
@[simp] def IpStreamSenderTask_id : Nat := 1
@[simp] def SessionManagerTask_id : Nat := 2
@[simp] def ZigBeeTask_id : Nat := 7

@[simp] def USER_TASKS : Nat := 9
@[simp] def TOTAL_VPS : Nat := 6
@[simp] def TOTAL_TASKS : Nat := (USER_TASKS + TOTAL_VPS) + 1

/-- The macros `IPTask0_id` to `IPTask5_id`: the task that serves virtual port `v`. -/
@[simp] def IPTask_id (v : Nat) : Nat := v + USER_TASKS

/-- `max_vps` and `max_tasks`, as `main` sets them. -/
@[simp] def MAX_VPS : Nat := TOTAL_VPS
@[simp] def MAX_TASKS : Nat := TOTAL_TASKS

/-! ## Messages -/

/-- A message as a task holds it: the block it was allocated in and where `dataPtr` points inside it. -/
structure Msg where
  mem : Mem
  off : Nat := 0

namespace Msg

/-- `dataPtr[i]`. -/
def rd (m : Msg) (i : Nat) : UInt8 := m.mem (m.off + i)

/-- `memcpy(dataPtr + i, bs, |bs|)`. -/
def wr (m : Msg) (i : Nat) (bs : List UInt8) : Msg := { m with mem := write m.mem (m.off + i) bs }

/-- `dataPtr[i] = b`. -/
def set (m : Msg) (i : Nat) (b : UInt8) : Msg := m.wr i [b]

/-- `dataPtr = dataPtr + k`. -/
def adv (m : Msg) (k : Nat) : Msg := { m with off := m.off + k }

/-- The `n` bytes from `dataPtr + i` on. -/
def bytes (m : Msg) (i n : Nat) : List UInt8 := CMem.bytes m.mem (m.off + i) n

/-- `strlen(dataPtr + i)`, up to the end of the block. -/
def strlen (m : Msg) (i : Nat) : Nat := CMem.strlen m.mem (m.off + i) (DATASIZE - (m.off + i))

/-- `strcat(dataPtr + i, s)`. Nothing where the result would not fit in the block. -/
def strcat (m : Msg) (i : Nat) (s : List UInt8) : Option Msg :=
  let n := m.strlen i
  if m.off + i + n + s.length + 1 ≤ DATASIZE then some (m.wr (i + n) (s ++ [0])) else none

/-- The VPS byte. -/
def vps (m : Msg) : Nat := (m.rd 0).toNat

/-- The length byte. -/
def len (m : Msg) : Nat := (m.rd 1).toNat

/-- The payload the length byte announces. -/
def payload (m : Msg) : List UInt8 := m.bytes 2 m.len

/-- `!(unsigned char) memcmp(kw, dataPtr + i, |kw|)`. -/
def isAt (m : Msg) (kw : List UInt8) (i : Nat) : Bool := uchar (memcmp kw (m.bytes i kw.length)) == 0

@[simp] theorem off_wr (m : Msg) (i : Nat) (bs : List UInt8) : (m.wr i bs).off = m.off := rfl

@[simp] theorem off_set (m : Msg) (i : Nat) (b : UInt8) : (m.set i b).off = m.off := rfl

/-- What is read after bytes were stored: one of them, or what was there. -/
theorem rd_wr (m : Msg) (i j : Nat) (bs : List UInt8) :
    (m.wr i bs).rd j = if i ≤ j ∧ j < i + bs.length then bs.getD (j - i) 0 else m.rd j := by
  simp only [rd, wr, write]
  congr 1
  · simp only [Nat.add_le_add_iff_left, Nat.add_assoc, Nat.add_lt_add_iff_left]
  · congr 1
    omega

@[simp] theorem rd_set (m : Msg) (i j : Nat) (b : UInt8) : (m.set i b).rd j = if j = i then b else m.rd j := by
  rw [set, rd_wr, List.length_singleton]
  by_cases h : j = i
  · rw [if_pos ⟨by omega, by omega⟩, if_pos h, h, Nat.sub_self]
    rfl
  · rw [if_neg (by omega), if_neg h]

/-- A pointer moved on reads what is further on. -/
@[simp] theorem rd_adv (m : Msg) (k j : Nat) : (m.adv k).rd j = m.rd (k + j) := by
  simp only [rd, adv, Nat.add_assoc]

@[simp] theorem length_bytes (m : Msg) (i n : Nat) : (m.bytes i n).length = n := CMem.length_bytes _ _ _

@[simp] theorem getElem_bytes (m : Msg) (i n k : Nat) (h : k < (m.bytes i n).length) : (m.bytes i n)[k] = m.rd (i + k) := by
  simp only [bytes, rd, CMem.getElem_bytes, Nat.add_assoc]

/-- Bytes are the same where each one is. -/
theorem bytes_congr {m m' : Msg} {i i' n : Nat} (h : ∀ k < n, m.rd (i + k) = m'.rd (i' + k)) :
    m.bytes i n = m'.bytes i' n :=
  CMem.bytes_congr fun k hk => by simpa only [rd, Nat.add_assoc] using h k hk

/-- Bytes are read in two parts. -/
theorem bytes_add (m : Msg) (i a b : Nat) : m.bytes i (a + b) = m.bytes i a ++ m.bytes (i + a) b := by
  simp only [bytes, CMem.bytes_add, Nat.add_assoc]

/-- Bytes that were stored are read back. -/
theorem bytes_wr_self (m : Msg) (i : Nat) (bs : List UInt8) : (m.wr i bs).bytes i bs.length = bs :=
  bytes_write_self _ _ _

/-- Bytes are stored in two parts. -/
theorem wr_append (m : Msg) (i : Nat) (as bs : List UInt8) : m.wr i (as ++ bs) = (m.wr i as).wr (i + as.length) bs := by
  simp only [wr, write_append, Nat.add_assoc]

/-- A store leaves alone what is in front of it and behind it. -/
theorem bytes_wr_disjoint (m : Msg) {i a n : Nat} (bs : List UInt8) (h : a + n ≤ i ∨ i + bs.length ≤ a) :
    (m.wr i bs).bytes a n = m.bytes a n :=
  bytes_write_disjoint _ _ (by simp only [off_wr]; omega)

/-- So does the store of one byte. -/
theorem bytes_set_disjoint (m : Msg) {i a n : Nat} (b : UInt8) (h : a + n ≤ i ∨ i < a) :
    (m.set i b).bytes a n = m.bytes a n :=
  m.bytes_wr_disjoint [b] (by simp only [List.length_singleton]; omega)

/-- The keyword tests compare the bytes and nothing else. -/
theorem isAt_iff (m : Msg) (kw : List UInt8) (i : Nat) : m.isAt kw i = true ↔ m.bytes i kw.length = kw := by
  rw [isAt, beq_iff_eq, uchar_memcmp_eq_zero (by simp), eq_comm]

/-- The bytes of a keyword that is found. -/
theorem rd_of_isAt {m : Msg} {kw : List UInt8} {i : Nat} (h : m.isAt kw i = true) (k : Nat) (hk : k < kw.length) : m.rd (i + k) = kw[k] := by
  have hb := (isAt_iff m kw i).mp h
  have hget : (m.bytes i kw.length)[k]? = kw[k]? := by rw [hb]
  rw [List.getElem?_eq_getElem hk, List.getElem?_eq_getElem (by simpa using hk), getElem_bytes] at hget
  exact Option.some.inj hget

/-- A keyword is not found where one of its bytes differs. -/
theorem isAt_eq_false {m : Msg} {kw : List UInt8} {i : Nat} (k : Nat) (hk : k < kw.length) (h : m.rd (i + k) ≠ kw[k]) :
    m.isAt kw i = false := by
  rw [Bool.eq_false_iff]
  exact fun he => h (rd_of_isAt he k hk)

/-- Of two keywords with different bytes somewhere, one at most is found. -/
theorem isAt_eq_false_of_isAt {m : Msg} {kw kw' : List UInt8} {i : Nat} (h : m.isAt kw i = true) (k : Nat) (hk : k < kw.length)
    (hk' : k < kw'.length) (hne : kw[k] ≠ kw'[k]) : m.isAt kw' i = false :=
  isAt_eq_false k hk' (by rw [rd_of_isAt h k hk]; exact hne)

/-- A string is no longer than the rest of its block. -/
theorem strlen_le (m : Msg) (i : Nat) : m.strlen i ≤ DATASIZE - (m.off + i) := CMem.strlen_le _ _ _

/-- A store in front of a string does not change its length. -/
theorem strlen_set_of_lt (m : Msg) {i j : Nat} (h : j < i) (b : UInt8) : (m.set j b).strlen i = m.strlen i := by
  refine strlen_congr fun k _ => ?_
  simp only [off_set, Nat.add_assoc]
  change (m.set j b).rd (i + k) = m.rd (i + k)
  rw [rd_set, if_neg (by omega)]

/-- A block without a NUL at the start of a string, in which there is room for it. -/
theorem strlen_eq {m : Msg} {i n : Nat} (hn : n ≤ DATASIZE - (m.off + i)) (hne : ∀ k < n, m.rd (i + k) ≠ 0)
    (h0 : m.rd (i + n) = 0) : m.strlen i = n :=
  CMem.strlen_eq hn (fun k hk => by simpa only [rd, Nat.add_assoc] using hne k hk)
    (fun _ => by simpa only [rd, Nat.add_assoc] using h0)

/-- A string is at least as long as its bytes are not NUL. -/
theorem le_strlen {m : Msg} {i n : Nat} (hn : n ≤ DATASIZE - (m.off + i)) (hne : ∀ k < n, m.rd (i + k) ≠ 0) : n ≤ m.strlen i :=
  CMem.le_strlen hn fun k hk => by simpa only [rd, Nat.add_assoc] using hne k hk

/-- The bytes of a string are not NUL. -/
theorem rd_ne_zero_of_lt_strlen {m : Msg} {i k : Nat} (h : k < m.strlen i) : m.rd (i + k) ≠ 0 := by
  have := strlen_spec.1 k h
  simpa only [rd, Nat.add_assoc] using this

/-- Behind them stands one, where the block goes on. -/
theorem rd_strlen {m : Msg} {i : Nat} (h : m.strlen i < DATASIZE - (m.off + i)) : m.rd (i + m.strlen i) = 0 := by
  rw [rd, ← Nat.add_assoc]
  exact strlen_spec.2 h

/-- `strcat` appends to what `strlen` sees, and the result is a string. -/
theorem strcat_spec {m r : Msg} {i : Nat} {s : List UInt8} (h : m.strcat i s = some r) (hs : 0 ∉ s) :
    r.strlen i = m.strlen i + s.length ∧ r.bytes i (m.strlen i + s.length) = m.bytes i (m.strlen i) ++ s ∧
      m.off + i + m.strlen i + s.length + 1 ≤ DATASIZE := by
  simp only [strcat, Option.ite_none_right_eq_some, Option.some.injEq] at h
  obtain ⟨hfit, rfl⟩ := h
  have hlen : (s ++ [0]).length = s.length + 1 := by simp
  refine ⟨strlen_eq (by rw [off_wr]; omega) (fun k hk => ?_) ?_, ?_, hfit⟩
  · rw [rd_wr]
    split
    · rename_i hin
      rw [List.getD_append _ _ _ _ (by omega), List.getD_eq_getElem _ _ (by omega)]
      exact fun he => hs (he ▸ List.getElem_mem _)
    · rename_i hout
      exact rd_ne_zero_of_lt_strlen (by omega)
  · rw [rd_wr, if_pos (by omega), List.getD_append_right _ _ _ _ (by omega), show i + (m.strlen i + s.length) - (i + m.strlen i) -
      s.length = 0 by omega]
    rfl
  · rw [bytes_add, bytes_wr_disjoint m (s ++ [0]) (.inl (Nat.le_refl _))]
    have hself := bytes_wr_self m (i + m.strlen i) (s ++ [0])
    rw [hlen, bytes_add] at hself
    rw [(List.append_inj' hself rfl).1]

end Msg

/-! ## The routing table -/

/-- `msg_table[sender][output - 1]`, by the output ids, of which the first is 1: the receiving task and its input port. -/
abbrev MsgTable : Type := Nat → Nat → Nat × Nat

/-- `insert_msg_table_entry`. -/
def insert_msg_table_entry (t : MsgTable) (e : Nat × Nat × Nat × Nat) : MsgTable :=
  let (Sender_taskid, Sender_output, Receiver_taskid, Receiver_input) := e
  Function.update t Sender_taskid
    (Function.update (t Sender_taskid) Sender_output (Receiver_taskid, Receiver_input))

/-- The connections `main` softwires: sending task, output port, receiving task, input port. -/
def wiring : List (Nat × Nat × Nat × Nat) :=
  [(IPTask_id 0, Out1, SessionManagerTask_id, In1), (IPTask_id 1, Out1, SessionManagerTask_id, In1),
   (IPTask_id 2, Out1, SessionManagerTask_id, In1), (IPTask_id 3, Out1, SessionManagerTask_id, In1),
   (IPTask_id 4, Out1, SessionManagerTask_id, In1), (IPTask_id 5, Out1, SessionManagerTask_id, In1),
   (SessionManagerTask_id, Out1, ZigBeeTask_id, In2),
   (SessionManagerTask_id, 2, IPTask_id 0, In1), (SessionManagerTask_id, 3, IPTask_id 1, In1),
   (SessionManagerTask_id, 4, IPTask_id 2, In1), (SessionManagerTask_id, 5, IPTask_id 3, In1),
   (SessionManagerTask_id, 6, IPTask_id 4, In1), (SessionManagerTask_id, 7, IPTask_id 5, In1),
   (IpStreamReceiverTask_id, Out1, ZigBeeTask_id, In1), (ZigBeeTask_id, Out1, SessionManagerTask_id, In2),
   (ZigBeeTask_id, Out2, IpStreamSenderTask_id, In1)]

/-- The routing table once `main` has filled it; a cell nobody inserted stays all-zero. -/
def msg_table : MsgTable := wiring.foldl insert_msg_table_entry (fun _ _ => (0, 0))

/-- Where the message handler sends what a task broadcasts on an output port. -/
def route (sender_taskid sender_outputid : Nat) : Nat × Nat := msg_table sender_taskid sender_outputid

/-- The IP task of `v` is wired to the session manager. -/
theorem route_ip_task {v : Nat} (h : v < MAX_VPS) : route (IPTask_id v) Out1 = (SessionManagerTask_id, In1) := by
  simp only [MAX_VPS, TOTAL_VPS] at h
  match v, h with
  | 0, _ | 1, _ | 2, _ | 3, _ | 4, _ | 5, _ => rfl

/-- Port `v + 2` of the session manager is wired to the IP task of `v`. -/
theorem route_session_port {v : Nat} (h : v < MAX_VPS) : route SessionManagerTask_id (v + 2) = (IPTask_id v, In1) := by
  simp only [MAX_VPS, TOTAL_VPS] at h
  match v, h with
  | 0, _ | 1, _ | 2, _ | 3, _ | 4, _ | 5, _ => rfl

end HomeBridge
