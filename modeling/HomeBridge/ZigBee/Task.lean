import HomeBridge.Ihaplite.Hex
import HomeBridge.ZigBee.Vps2addr

/-!
# The ZigBee task

`zigbee.c`. One turn of the loop takes a message: a command for the gateway or for a device (`In2`), which leaves as a frame on
the serial stream (`Out2`) or is answered at once (`Out1`), or a frame from the radio (`In1`), which a dozen conditions one
after the other turn into a confirmation, a change of the table, a message upwards, or nothing. The conditions read the buffer as
the ones before left it, so each is a function of its own on the locals of the turn.

A turn has no result where the code stores outside its buffers or walks out of the table.
-/

namespace HomeBridge

open CMem

/-- What the task keeps from one message to the next. -/
structure ZigBee where
  table : VpsTable
  includemode : Bool
  excludemode : Bool
  netupdatemode : Bool
  getdescmode : Bool
  gwieeeaddr : Addr ADDRLEN

/-- The task before its first message. `gwieeeaddr` is not initialised. -/
def ZigBee.start (gwieeeaddr : Addr ADDRLEN) : ZigBee := ⟨clearvpstable genvpstable, false, false, false, false, gwieeeaddr⟩

/-- The locals of one turn of the loop. -/
structure Turn where
  z : ZigBee
  dataPtr : Msg
  do_broadcast_to_serial : Bool
  do_broadcast_to_upperlayers : Bool
  freed : Bool := false

/-- The `n` bytes from `dataPtr + i` on, as an address. -/
def Msg.addr (m : Msg) (i n : Nat) : Addr n := ⟨m.bytes i n, m.length_bytes i n⟩

/-- The checksum over the first five bytes of a frame. -/
def CHECKSUM (a : Nat → UInt8) : UInt8 := a 0 ^^^ a 1 ^^^ a 2 ^^^ a 3 ^^^ a 4

def EXCLUDEIEEE : List UInt8 := ascii "000300C00DCE02FCFF009502000D00BC150000"
def CONFIGHEADER : List UInt8 := ascii "000300C028EB0003"
def CONFIGCSTRING : List UInt8 := ascii "000000210000001600"

/-! ## Commands on port 0 -/

def netlistReq (t : Turn) : Turn :=
  if t.dataPtr.isAt (ascii "NETLIST_REQ") 2 then
    let m := (t.dataPtr.wr 2 [0x00, 0x03, 0x00, 0xc0, 0x04, 0xcd, 0x03, 0x05, 0x00, 0x00]).set 1 10
    { t with
      dataPtr := m.set 7 (CHECKSUM (m.adv 2).rd)
      do_broadcast_to_serial := true
      z := { t.z with netupdatemode := true } }
  else t

def includeReq (t : Turn) : Turn :=
  if t.dataPtr.isAt (ascii "INCLUDE_REQ") 2 then
    { t with
      dataPtr := (t.dataPtr.wr 2 [0x00, 0x03, 0x00, 0xc0, 0x06, 0xc5, 0x01, 0x36, 0xFC, 0xFF, 0xFE, 0x01]).set 1 12
      do_broadcast_to_serial := true
      z := { t.z with includemode := true, excludemode := false } }
  else t

/-- Eleven bytes are compared: the last letter of the keyword is not looked at. -/
def xaddstopReq (t : Turn) : Turn :=
  if t.dataPtr.isAt ((ascii "XADDSTOP_REQ").take 11) 2 then
    { t with
      dataPtr := (t.dataPtr.wr 2 [0x00, 0x03, 0x00, 0xc0, 0x06, 0xc5, 0x01, 0x36, 0xFC, 0xFF, 0x00, 0x01]).set 1 12
      do_broadcast_to_serial := false
      z := { t.z with includemode := false, excludemode := false } }
  else t

def getdescReq (t : Turn) : Turn :=
  if t.dataPtr.isAt (ascii "GETDESC_REQ") 2 then
    { t with
      dataPtr := (t.dataPtr.wr 2 [0x00, 0x03, 0x00, 0xc0, 0x07, 0xc4, 0x01, 0x04, 0xdc, 0x54, 0xdc, 0x54, 0x21]).set 1 13
      do_broadcast_to_serial := false
      z := { t.z with includemode := false, excludemode := false } }
  else t

def xcludeReq (t : Turn) : Turn :=
  if t.dataPtr.isAt (ascii "XCLUDE_REQ") 2 then
    { t with
      freed := true
      do_broadcast_to_serial := false
      z := { t.z with excludemode := true, includemode := false } }
  else t

/-- The five tests on port 0, one after the other. -/
def gatewayCommand (t : Turn) : Turn :=
  xcludeReq (getdescReq (xaddstopReq (includeReq (netlistReq { t with do_broadcast_to_serial := true }))))

/-! ## Commands for a device -/

/-- The frame that excludes a device, built in the message. -/
def excludeFrame (m : Msg) (addr : Addr ADDRLEN) : Msg :=
  (((m.wr 2 (hexbinary EXCLUDEIEEE)).wr (2 + 10) addr.1).set 20 0x00).set 1 19

/-- The first eight bytes of a frame built in the scratch buffer. -/
def bufferHead (b₄ b₆ b₇ : UInt8) : List UInt8 := [0x00, 0x03, 0x00, 0xC0, b₄, 0x00 ^^^ 0x03 ^^^ 0x00 ^^^ 0xC0 ^^^ b₄, b₆, b₇]

/-- `htoi`: blanks are skipped, hex digits are read up to another character. The bytes end with the block. -/
def htoi : List UInt8 → UInt32 → UInt32
  | [], value => value
  | ch :: ptr, value =>
    if 0x30 ≤ ch ∧ ch ≤ 0x39 then htoi ptr ((value <<< 4) + (ch - 0x30).toUInt32)
    else if 0x41 ≤ ch ∧ ch ≤ 0x46 then htoi ptr ((value <<< 4) + (ch - 0x41 + 10).toUInt32)
    else if 0x61 ≤ ch ∧ ch ≤ 0x66 then htoi ptr ((value <<< 4) + (ch - 0x61 + 10).toUInt32)
    else value

/-- The endpoint of a `GETDESC_REQ`. -/
def endpointOf (m : Msg) : UInt8 :=
  let ptr := m.bytes 13 (DATASIZE - (m.off + 13))
  (htoi (ptr.dropWhile (fun ch => ch == 0x20 || ch == 0x09)) 0).toUInt8

/-- The frame that asks a device for a descriptor. -/
def descriptorFrame (t : VpsTable) (m : Msg) : Msg :=
  let nwk := (vps_vtoa_nwk t (m.rd 0).toNat).1
  let buffer := bufferHead 0x07 0x01 0x04 ++ nwk ++ nwk ++ [endpointOf m]
  (m.wr 2 buffer).set 1 13

/-- The bytes of an `XONFIG_REQ` frame before those of its end: `(VPSLEN - 10) / 2` of C, which rounds towards zero. -/
def configLen (m : Msg) : Nat := (33 + ((m.len : Int) - 10).tdiv 2).toNat

/-- The scratch buffer in which an `XONFIG_REQ` frame is built. -/
def configBuffer (z : ZigBee) (m : Msg) : Mem :=
  let addr := (vps_vtoa z.table (m.rd 0).toNat).1
  let buffer := write zeroed 0 (hexbinary CONFIGHEADER)
  let buffer := write buffer 8 addr
  let buffer := write buffer 16 (hexbinary CONFIGCSTRING)
  let buffer := write buffer 25 addr
  let buffer := write buffer 33 (hexbinary (m.bytes 12 (m.strlen 12)))
  let buffer := write buffer (configLen m) z.gwieeeaddr.1
  write buffer (configLen m + 8) [0xc0]

def configFrame (z : ZigBee) (m : Msg) : Msg :=
  (m.wr 2 (bytes (configBuffer z m) 0 (configLen m + 9))).set 1 (UInt8.ofNat (configLen m + 9))

/-- The frame that carries a payload to a device. -/
def dataFrame (t : VpsTable) (m : Msg) : Msg :=
  let buffer := bufferHead (m.rd 1 + 10) 0x00 0x03 ++ (vps_vtoa t (m.rd 0).toNat).1 ++ m.payload
  (m.wr 2 buffer).set 1 (m.rd 1 + 16)

/-- The bytes of the scratch buffer. -/
@[simp] def SCRATCH : Nat := 200

/-- A message for a device whose slot is in use. A payload that does not fit in the scratch buffer is stored behind its end. -/
def deviceCommand (t : Turn) : Option Turn :=
  let m := t.dataPtr
  if m.isAt (ascii "XCLUDE_REQ") 2 then
    some { t with
      dataPtr := excludeFrame m (vps_vtoa t.z.table (m.rd 0).toNat)
      z := { t.z with excludemode := true, includemode := false }
      do_broadcast_to_serial := true }
  else if m.isAt (ascii "GETDESC_REQ") 2 then
    some { t with
      dataPtr := descriptorFrame t.z.table m
      z := { t.z with getdescmode := true }
      do_broadcast_to_serial := true }
  else if m.isAt (ascii "GETUID_REQ") 2 then
    some { t with
      dataPtr := (m.wr 2 (vps_vtoa t.z.table (m.rd 0).toNat).1).set 1 8
      do_broadcast_to_serial := false
      do_broadcast_to_upperlayers := true }
  else if m.isAt (ascii "XONFIG_REQ") 2 then
    some { t with dataPtr := configFrame t.z m, do_broadcast_to_serial := true }
  else if m.len + 16 ≤ SCRATCH then
    some { t with dataPtr := dataFrame t.z.table m, do_broadcast_to_serial := true }
  else none

/-- The answer to a message for a slot that is not in use. -/
def invalidVps (t : Turn) : Turn :=
  { t with
    dataPtr := ((t.dataPtr.wr 2 (ascii "invalid vps : ")).set 0 (t.dataPtr.rd 0)).set 1 14
    do_broadcast_to_upperlayers := true
    do_broadcast_to_serial := false }

/-- The part of a turn that serves the upper layers. `check_valid_vps` reads `addrs[vpsport]`. -/
def serviceUpperLayers (t : Turn) : Option Turn :=
  let vpsport := (t.dataPtr.rd 0).toNat
  if vpsport = 0 then some (gatewayCommand t)
  else if MAXVPS ≤ vpsport then none
  else if check_valid_vps t.z.table vpsport then deviceCommand t
  else some (invalidVps t)

section serviceUpperLayers

variable {t : Turn}

/-- A message for port 0 is taken for a command of the gateway. -/
theorem serviceUpperLayers_gateway (h0 : t.dataPtr.vps = 0) : serviceUpperLayers t = some (gatewayCommand t) := if_pos h0

/-- For a port that has no slot the table is read outside. -/
theorem serviceUpperLayers_outside (h0 : t.dataPtr.vps ≠ 0) (hmax : MAXVPS ≤ t.dataPtr.vps) : serviceUpperLayers t = none :=
  (if_neg h0).trans (if_pos hmax)

/-- For a slot in use it is a message for its device. -/
theorem serviceUpperLayers_device (h0 : t.dataPtr.vps ≠ 0) (hmax : t.dataPtr.vps < MAXVPS)
    (hv : check_valid_vps t.z.table t.dataPtr.vps = true) : serviceUpperLayers t = deviceCommand t :=
  (if_neg h0).trans ((if_neg (Nat.not_le_of_lt hmax)).trans (if_pos hv))

/-- For one that is free the answer says so. -/
theorem serviceUpperLayers_invalid (h0 : t.dataPtr.vps ≠ 0) (hmax : t.dataPtr.vps < MAXVPS)
    (hv : check_valid_vps t.z.table t.dataPtr.vps = false) : serviceUpperLayers t = some (invalidVps t) :=
  (if_neg h0).trans ((if_neg (Nat.not_le_of_lt hmax)).trans (if_neg (Bool.eq_false_iff.mp hv)))

end serviceUpperLayers

/-! ## Frames from the radio -/

/-- The frame that confirms a join, built in the message. The length byte stays what it was. -/
def joinFrame (m : Msg) (addr : Addr ADDRLEN) : Msg :=
  ((m.wr 2 [0x00, 0x03, 0x00, 0xC0, 0x0E, 0xCD, 0x02, 0xFC, 0xFF, 0xFE]).wr (2 + 10) addr.1).wr (2 + 18) [0x01, 0x00]

/-- A device that joins gets a slot, and the gateway a confirmation. -/
def joinDevice (t : Turn) (addr : Addr ADDRLEN) : Option Turn :=
  (vps_add t.z.table addr).map fun (newvps, table) =>
    { t with
      dataPtr := joinFrame t.dataPtr (vps_vtoa table newvps)
      z := { t.z with table := table, includemode := false }
      do_broadcast_to_serial := true
      do_broadcast_to_upperlayers := false }

/-- The first form of a join. -/
def joinShort (t : Turn) : Option Turn :=
  let m := t.dataPtr
  if t.z.includemode ∧ m.rd 8 = 0xc1 ∧ m.rd 9 = 0x20 ∧ m.rd 10 = 0xf1 then joinDevice t (m.addr (10 + 2) ADDRLEN) else some t

def gatewayAddress (t : Turn) : Turn :=
  let m := t.dataPtr
  if m.rd 3 = 0x53 ∧ m.rd 4 = 0xc4 ∧ m.rd 5 = 0xc4 ∧ m.rd 6 = 0x08 then
    { t with
      z := { t.z with gwieeeaddr := m.addr (2 + 6) ADDRLEN }
      do_broadcast_to_serial := false
      do_broadcast_to_upperlayers := false }
  else t

def announce (t : Turn) : Turn :=
  let m := t.dataPtr
  if t.z.includemode = false ∧ m.rd 8 = 0x42 then
    let myvps := vps_atov t.z.table (m.addr (2 + 15) ADDRLEN)
    { t with
      z := { t.z with table := vps_add_nwk t.z.table myvps (m.addr (2 + 23) ADDRLEN2) }
      do_broadcast_to_serial := false
      do_broadcast_to_upperlayers := false }
  else t

/-- The second form of a join. -/
def joinAnnounced (t : Turn) : Option Turn :=
  let m := t.dataPtr
  if t.z.includemode ∧ m.rd 8 = 0x42 then joinDevice t (m.addr (2 + 15) ADDRLEN) else some t

def excludeConfirm (t : Turn) : Turn :=
  let m := t.dataPtr
  if t.z.excludemode ∧ m.rd 8 = 0x40 ∧ m.rd 9 = 0x02 ∧ m.rd 10 = 0x00 then
    let myvps := vps_atov t.z.table (m.addr (12 + 2) ADDRLEN)
    { t with
      dataPtr := excludeFrame m (vps_vtoa t.z.table myvps)
      z := { t.z with excludemode := false }
      do_broadcast_to_serial := true
      do_broadcast_to_upperlayers := false }
  else t

/-- The five entries of a network list, by where each starts in the frame and the label it adds to the reply. -/
def netlistEntries : List (Nat × List UInt8) :=
  [(12, ascii " 10001 "), (22, ascii " 10002 "), (32, ascii " 10003 "), (42, ascii " 10004 "), (52, ascii " 10005 ")]

/-- The entries one after the other; one that starts with `FF` is absent. -/
def addEntries (m : Msg) : List (Nat × List UInt8) → VpsTable × List UInt8 → Option (VpsTable × List UInt8)
  | [], acc => some acc
  | (start, label) :: entries, (table, buffer) =>
    if m.rd (2 + start) ≠ 0xFF then
      (vps_add table (m.addr (2 + start) ADDRLEN)).bind fun (myvps, table) =>
        addEntries m entries (vps_add_nwk table myvps (m.addr (2 + (start + 8)) ADDRLEN2), buffer ++ label)
    else addEntries m entries (table, buffer)

/-- A network list: the table is built anew and the reply lists a port for each entry present. -/
def netlist (t : Turn) : Option Turn :=
  let m := t.dataPtr
  if t.z.netupdatemode ∧ m.rd 8 = 0x83 then
    (addEntries m netlistEntries (clearvpstable t.z.table, [])).bind fun (table, buffer) =>
      ((m.wr 2 (ascii "netlist_done: ")).strcat 2 buffer).map fun m =>
        let m := m.set 0 0
        { t with
          dataPtr := m.set 1 (UInt8.ofNat (m.strlen 2))
          z := { t.z with table := table, netupdatemode := false }
          do_broadcast_to_serial := false
          do_broadcast_to_upperlayers := true }
  else some t

def dataFailed (t : Turn) : Turn :=
  let m := t.dataPtr
  if m.rd 8 = 0x80 ∧ m.rd 20 ≠ 0x00 then
    let myvps := vps_atov t.z.table (m.addr 10 ADDRLEN)
    { t with dataPtr := ((m.set 0 (UInt8.ofNat myvps)).set 1 11).wr 2 (ascii "DATA_FAILED" ++ [0]) }
  else t

/-- Data from a device: the message starts twenty bytes on, under a new header. -/
def deviceData (t : Turn) : Turn :=
  let m := t.dataPtr
  if m.rd 8 = 0x40 ∧ t.z.getdescmode = false then
    let myvps := vps_atov t.z.table (m.addr 14 ADDRLEN)
    { t with dataPtr := ((m.adv (6 + 6 + 8)).set 0 (UInt8.ofNat myvps)).set 1 (m.rd 1 - 6 - 6 - 8) }
  else t

/-- A descriptor from a device. The command byte is looked for where `dataPtr` points now. -/
def descriptor (t : Turn) : Turn :=
  let m := t.dataPtr
  if m.rd 8 = 0x81 then
    let myvps := vps_atov_nwk t.z.table (m.addr 11 ADDRLEN2)
    let m' := ((m.adv (2 + 13 - 2 - 4)).set 2 0x7A).set 3 0x62
    { t with
      dataPtr := (m'.set 0 (UInt8.ofNat myvps)).set 1 (m.rd 1 - 11 + 2)
      z := { t.z with getdescmode := false } }
  else t

/-- The conditions on a frame from the radio, one after the other. -/
def radioBranches (t : Turn) : Option Turn :=
  (joinShort t).bind fun t =>
    (joinAnnounced (announce (gatewayAddress t))).bind fun t =>
      (netlist (excludeConfirm t)).map fun t => descriptor (deviceData (dataFailed t))

/-- The part of a turn that handles a frame from the radio. -/
def messageFromRadio (t : Turn) : Option Turn :=
  radioBranches { t with dataPtr := t.dataPtr.set 0 0x00, do_broadcast_to_upperlayers := true }

/-! ## A turn of the loop -/

/-- What the task gives away: a message on an output port, or a block to the allocator. -/
inductive ZigBeeOut where
  | broadcast (outport : Nat) (m : Msg)
  | free (m : Msg)

/-- The end of a turn: the message is handed on as the flags say. -/
def handOff (t : Turn) : List ZigBeeOut :=
  let m := if t.do_broadcast_to_serial then t.dataPtr.set 0 0xff else t.dataPtr
  (if t.freed then [.free t.dataPtr] else []) ++ (if t.do_broadcast_to_serial then [.broadcast Out2 m] else []) ++
    (if t.do_broadcast_to_upperlayers then [.broadcast Out1 m] else [])

/-- What it gives away. -/
theorem mem_handOff {t : Turn} {o : ZigBeeOut} : o ∈ handOff t ↔
    t.freed = true ∧ o = .free t.dataPtr ∨
      t.do_broadcast_to_serial = true ∧ o = .broadcast Out2 (t.dataPtr.set 0 0xff) ∨
      t.do_broadcast_to_upperlayers = true ∧
        o = .broadcast Out1 (if t.do_broadcast_to_serial then t.dataPtr.set 0 0xff else t.dataPtr) := by
  unfold handOff
  cases t.freed <;> cases t.do_broadcast_to_serial <;> cases t.do_broadcast_to_upperlayers <;> simp

/-- One turn of the loop of `ZigBeeTask`, on the input port of the message and the message. -/
def ZigBeeTask (z : ZigBee) (i : Nat × Msg) : Option (ZigBee × List ZigBeeOut) :=
  let t : Turn := { z := z, dataPtr := i.2, do_broadcast_to_serial := false, do_broadcast_to_upperlayers := false }
  (if i.1 = In1 then messageFromRadio { t with dataPtr := t.dataPtr.set 0 0x00 }
    else if i.1 = In2 then serviceUpperLayers t
    else some t).map fun t => (t.z, handOff t)

/-- A turn on a message from the upper layers. -/
theorem zigBeeTask_in2 (z : ZigBee) (m : Msg) :
    ZigBeeTask z (In2, m) = (serviceUpperLayers ⟨z, m, false, false, false⟩).map fun t => (t.z, handOff t) := rfl

/-- A turn, as a step of the task's state. -/
def ZigBee.step (z : ZigBee) (i : Nat × Msg) : Option ZigBee := (ZigBeeTask z i).map Prod.fst

/-- A message with a given body: VPS byte, length byte, payload, zeros behind it. -/
def message (vps : UInt8) (payload : List UInt8) : Msg := ⟨write zeroed 0 (vps :: UInt8.ofNat payload.length :: payload), 0⟩

end HomeBridge
