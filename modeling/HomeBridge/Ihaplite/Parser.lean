import HomeBridge.Ihaplite.Decode
import HomeBridge.ZigBee.Exchanges

/-!
# The driver of a switch

`parser.c`, which `ztest.c` calls to switch a device on or off. It asks the device for its descriptor, and if that is the descriptor it
knows, it puts a command to the device. Both go by `hpclientPUT`, whose line with the answer may have one byte more behind it.
-/

namespace HomeBridge.Parser

open CMem Runs

/-- The descriptor that the parser knows. -/
def switchDescriptor : List UInt8 :=
  [0x7A, 0x62, 0x1A, 0x21, 0x04, 0x01, 0x09, 0x00, 0x01, 0x08, 0x00, 0x00, 0x03, 0x00, 0x04, 0x00, 0x05, 0x00, 0x06, 0x00, 0x02, 0x07, 0x0A,
    0x00, 0x09, 0x00, 0x01, 0x06, 0x04]

/-- The text it compares with. -/
def switchText : List UInt8 := ascii "7A621A210401090001080000030004000500060002070A000900010604"

/-- What `get_desc`, `d_zigbee_device_on` and `d_zigbee_device_off` put. -/
def get_desc : List UInt8 := ascii "GETDESC_REQ21"
def d_zigbee_device_on : List UInt8 := ascii "0401210600FF0403116701"
def d_zigbee_device_off : List UInt8 := ascii "0401210600FF0403116700"

/-- `ODSDL_parser`: what it puts to the device, if anything. -/
def ODSDLparser (devicexml_path inputparm : Mem) : Option (List UInt8) :=
  if strncmp (bytes devicexml_path 0 58) switchText = 0 then
    if strncmp (bytes inputparm 0 3) (ascii "Off") = 0 then some d_zigbee_device_off else some d_zigbee_device_on
  else none

/-- `hp_ODSDL_parser`: what it puts to the device in turn, where `hpclientPUT` leaves its line in the buffer. -/
def hpODSDLparser (hpclientPUT : List UInt8 → Mem) (inputparm : Mem) : List (List UInt8) :=
  get_desc :: (ODSDLparser (hpclientPUT get_desc) inputparm).toList

/-- The last byte of the command. -/
def onOff (inputparm : Mem) : UInt8 := if strncmp (bytes inputparm 0 3) (ascii "Off") = 0 then 0x00 else 0x01

/-- What the command is to the device. -/
def command (inputparm : Mem) : List UInt8 := [0x04, 0x01, 0x21, 0x06, 0x00, 0xFF, 0x04, 0x03, 0x11, 0x67, onOff inputparm]

/-- A line: a text, at most one byte more, and the line end. -/
def IsLine (m : Mem) (text : List UInt8) : Prop :=
  ∃ tail : List UInt8, tail.length ≤ 1 ∧ bytes m 0 (text ++ tail ++ [0x0A]).length = text ++ tail ++ [0x0A]

/-- The digits of a text start with those of another one exactly if it does. -/
theorem hexDigits_prefix {p bs : List UInt8} : hexDigits p <+: hexDigits bs ↔ p <+: bs := by
  constructor
  · intro h
    have hlen : p.length ≤ bs.length := by
      have := h.length_le
      simp only [length_hexDigits] at this
      omega
    have hsplit : hexDigits bs = hexDigits (bs.take p.length) ++ hexDigits (bs.drop p.length) := by
      simp only [hexDigits, ← List.map_append, ← List.flatMap_append, List.take_append_drop]
    obtain ⟨rest, hrest⟩ := h
    rw [hsplit] at hrest
    have hp := List.append_inj_left hrest (by rw [length_hexDigits, length_hexDigits, List.length_take, Nat.min_eq_left hlen])
    rw [hexDigits_inj] at hp
    rw [hp]
    exact List.take_prefix _ _
  · rintro ⟨rest, rfl⟩
    refine ⟨hexDigits rest, ?_⟩
    simp only [hexDigits, List.flatMap_append, List.map_append]

/-- On a line with the digits of a descriptor, the parser puts something exactly if it starts with the one it knows. -/
theorem switchText_iff {m : Mem} {bs : List UInt8} (h : IsLine m (hexDigits bs)) :
    strncmp (bytes m 0 58) switchText = 0 ↔ switchDescriptor <+: bs := by
  obtain ⟨tail, htail, hline⟩ := h
  have hdigits : switchText = hexDigits switchDescriptor := by decide
  have hlen : (hexDigits bs).length = 2 * bs.length := length_hexDigits bs
  rw [strncmp_eq_zero (by rw [length_bytes]; rfl) (by decide), ← hexDigits_prefix, ← hdigits]
  rw [List.append_assoc, List.length_append, bytes_add] at hline
  obtain ⟨htext, hrest⟩ := List.append_inj hline (length_bytes ..)
  constructor
  · intro h58
    -- the line end is behind what is compared
    have hlong : 58 ≤ (hexDigits bs).length := by
      by_contra hshort
      have hend : m ((hexDigits bs).length + tail.length) = 0x0A := by
        rw [List.length_append, bytes_add, Nat.zero_add] at hrest
        have hnl := (List.append_inj hrest (length_bytes ..)).2
        exact List.singleton_inj.mp hnl
      have hmem := List.getElem_mem (l := bytes m 0 58) (n := (hexDigits bs).length + tail.length) (by rw [length_bytes]; omega)
      rw [getElem_bytes, Nat.zero_add, hend, h58] at hmem
      exact absurd hmem (by decide)
    obtain ⟨n, hn⟩ := Nat.exists_eq_add_of_le hlong
    rw [hn, bytes_add, h58] at htext
    exact ⟨_, htext⟩
  · rintro ⟨rest, hprefix⟩
    have hsum : (hexDigits bs).length = 58 + rest.length := by rw [← hprefix, List.length_append]; rfl
    rw [hsum, bytes_add, ← hprefix] at htext
    exact List.append_inj_left htext (by rw [length_bytes]; rfl)

/-- What it puts then is the command, in hex. -/
theorem ODSDLparser_eq (devicexml_path inputparm : Mem) : ODSDLparser devicexml_path inputparm =
    if strncmp (bytes devicexml_path 0 58) switchText = 0 then some (hexDigits (command inputparm)) else none := by
  have hon : d_zigbee_device_on = hexDigits [0x04, 0x01, 0x21, 0x06, 0x00, 0xFF, 0x04, 0x03, 0x11, 0x67, 0x01] := by decide
  have hoff : d_zigbee_device_off = hexDigits [0x04, 0x01, 0x21, 0x06, 0x00, 0xFF, 0x04, 0x03, 0x11, 0x67, 0x00] := by decide
  rw [ODSDLparser, command, onOff, hon, hoff]
  split
  · split <;> rfl
  · rfl

theorem command_plain (inputparm : Mem) : PlainPayload (command inputparm) := by
  unfold command onOff
  split <;> decide

/-- The client of port 0 asks for the devices, and three are listed. -/
def listInputs : List BridgeInput :=
  [.client 0 (ascii "NETLIST_REQ" ++ [0x0d]) false, .deliver 0, .deliver 0, .deliver 0, .frame listFrame, .deliver 0, .deliver 0, .deliver 0]

/-- The descriptor of the first one as the gateway sends it, and the line that its digits are read from. -/
def descriptorMsg : Msg :=
  message 0xFF ([0x00, 0x03, 0x00, 0xC0, 0x1E, 0x00, 0x81, 0x00, 0x00, 0x01, 0x01] ++ switchDescriptor.drop 2)

def descriptorLine : Mem := write zeroed 0 (switchText ++ [0x0A])

def offParm : Mem := write zeroed 0 (ascii "Off")

end HomeBridge.Parser
