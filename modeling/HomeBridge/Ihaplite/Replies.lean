import HomeBridge.Ihaplite.Encode
import HomeBridge.Ihaplite.SessionManager

/-!
# What leaves the bridge as hex text

A message from the network leaves as hex text in one of two ways: an IP task writes it to its client, or the session
manager, which finds no session for it, sends it out on UDP. Both encode it into a buffer of their own and send as many
bytes as the encoder returns. The return value is a byte and holds twice the length up to 127; the buffers hold the NUL
at three times the length up to 170 and up to 85.
-/

namespace HomeBridge

open CMem Runs

/-- The bytes of `output` in `IP_send_server_hexbinaryString`. -/
@[simp] def DATASIZE_HEXBINARY : Nat := DATASIZE * 2 + 1

/-- The bytes of `broadcastbuffer` in `SessionManagerTask`. -/
@[simp] def BROADCASTBUFFER : Nat := 256

/-- `IP_send_server_hexbinaryString`, on what lay in its buffer and the data: what it hands to `write`, if it calls
it. -/
def IP_send_server_hexbinaryString (output : Mem) (binary_data : List UInt8) : Option (List UInt8) :=
  let (output, len) := binary_to_hexbinary output binary_data 0
  if binary_data.length > 0 then some (bytes output 0 len.toNat) else none

/-- What an IP task sends to its client for a message. -/
def IPTaskReply (output : Mem) (m : Msg) : List UInt8 := (IP_send_server_hexbinaryString output (m.bytes 2 m.len)).getD []

/-- What is sent is the payload in hex, all of it, and it was encoded within its buffer. -/
structure LeavesComplete (sent payload : List UInt8) (size : Nat) : Prop where
  count : sent.length = 2 * payload.length
  digits : sent = hexDigits payload
  inside : ∀ s ∈ encodeLoop payload 0 0, s.1 < size

/-- As many bytes as the encoder returns are the first of the digits, whatever lay in the buffer. -/
theorem bytes_returned (m : Mem) (p : List UInt8) :
    bytes (binary_to_hexbinary m p 0).1 0 (binary_to_hexbinary m p 0).2.toNat = (hexDigits p).take (2 * p.length % 256) := by
  have hlen : (binary_to_hexbinary m p 0).2.toNat = 2 * p.length % 256 := by
    rw [binary_to_hexbinary, UInt8.toNat_ofNat', Nat.mul_comm]
  obtain ⟨k, hk⟩ := Nat.exists_eq_add_of_le (Nat.mod_le (2 * p.length) 256)
  have hdigits := @bytes_encoded p m 0
  rw [hk, bytes_add] at hdigits
  rw [hlen, ← hdigits, List.take_left' (length_bytes ..)]

/-- They are all of the digits up to a length of 127, and the last store is the NUL at three times the length. -/
theorem leavesComplete_iff (p : List UInt8) (size : Nat) :
    LeavesComplete ((hexDigits p).take (2 * p.length % 256)) p size ↔ 2 * p.length < 256 ∧ 3 * p.length < size := by
  constructor
  · rintro ⟨hcount, _, hinside⟩
    rw [List.length_take, length_hexDigits] at hcount
    obtain ⟨s, hs, he⟩ := (@mem_encodeLoop p 0 0 _).mpr (.inr rfl)
    have h3 := hinside s hs
    omega
  · rintro ⟨h2, h3⟩
    have hall : (hexDigits p).take (2 * p.length % 256) = hexDigits p := by
      rw [Nat.mod_eq_of_lt h2, ← length_hexDigits, List.take_length]
    rw [hall]
    refine ⟨length_hexDigits p, rfl, fun s hs => ?_⟩
    have h := mem_encodeLoop.mp ⟨s, hs, rfl⟩
    omega

section

variable (m : Msg)

@[simp] theorem Msg.length_payload : m.payload.length = m.len := m.length_bytes 2 m.len

theorem IPTaskReply_eq (output : Mem) : IPTaskReply output m = (hexDigits m.payload).take (2 * m.payload.length % 256) := by
  have hpayload : m.bytes 2 m.len = m.payload := rfl
  rw [IPTaskReply, IP_send_server_hexbinaryString, hpayload]
  by_cases h0 : m.payload.length > 0
  · simp only [h0, if_true, Option.getD_some]
    exact bytes_returned output m.payload
  · rw [List.eq_nil_of_length_eq_zero (Nat.eq_zero_of_not_pos h0)]
    rfl

/-- What lies in the session manager's buffer does not matter. -/
theorem udpData_eq : udpData m = (hexDigits m.payload).take (2 * m.payload.length % 256) := bytes_returned zeroed m.payload

end

/-- A message leaves complete through an IP task exactly up to a length of 127, and through the session manager, with no
session open for it, exactly up to one of 85. -/
theorem replies_complete_iff (m : Msg) :
    (∀ output, LeavesComplete (IPTaskReply output m) m.payload DATASIZE_HEXBINARY ↔ m.len ≤ 127) ∧
      ∀ (t : SessionTable) (alarm : Bool), m.vps < MAX_VPS → t m.vps = 0 →
        ∃ data rest, (SessionManagerTask t ⟨some (In2, m), alarm⟩).2 =
          .received In2 m :: .UDP_broadcast (UDPPORTBASE + m.vps) data :: rest ∧
          (LeavesComplete data m.payload BROADCASTBUFFER ↔ m.len ≤ 85) := by
  constructor
  · intro output
    rw [IPTaskReply_eq, leavesComplete_iff, m.length_payload]
    simp only [DATASIZE_HEXBINARY, DATASIZE]
    omega
  · intro t alarm hm h0
    obtain ⟨rest, he, _⟩ := in2_closed hm h0 alarm
    refine ⟨udpData m, rest, he, ?_⟩
    rw [udpData_eq, leavesComplete_iff, m.length_payload]
    simp only [BROADCASTBUFFER]
    omega

/-- A message of `n` bytes for port 1. -/
def reply (n : Nat) : Msg := ⟨write zeroed 0 (1 :: UInt8.ofNat n :: List.replicate n 0x7A), 0⟩

theorem len_reply (n : UInt8) : (reply n.toNat).len = n.toNat := by
  simp [reply, Msg.len, Msg.rd, write]

/-- One of 85 bytes, with no session open. -/
theorem replies_complete_85 : ∃ data rest, (SessionManagerTask noSession ⟨some (In2, reply 85), false⟩).2 =
    .received In2 (reply 85) :: .UDP_broadcast (UDPPORTBASE + (reply 85).vps) data :: rest ∧
      LeavesComplete data (reply 85).payload BROADCASTBUFFER := by
  obtain ⟨data, rest, he, hc⟩ := (replies_complete_iff (reply 85)).2 noSession false (by decide) rfl
  exact ⟨data, rest, he, hc.mpr (Nat.le_of_eq (len_reply 85))⟩

/-- One of 200 bytes: an IP task hands 144 to `write` instead of 400. -/
theorem not_replies_complete : ¬∀ output m, m.len ≤ 253 →
    LeavesComplete (IPTaskReply output m) m.payload DATASIZE_HEXBINARY := by
  intro h
  have hlen : (reply 200).len = 200 := len_reply 200
  have hc := h zeroed (reply 200) (by rw [hlen]; decide)
  rw [IPTaskReply_eq, leavesComplete_iff, Msg.length_payload, hlen] at hc
  exact absurd hc.1 (by decide)

end HomeBridge
