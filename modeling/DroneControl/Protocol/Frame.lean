import DroneControl.Fault

/-!
Transport frames. A frame has a payload kind, a buffer number and a sequence number that counts
within its buffer; acknowledgements of a buffer travel on the buffer 128 further round the ring of
256.
-/

namespace DroneControl

abbrev Bytes := List UInt8

namespace BufferId

def ping : UInt8 := 0

def pong : UInt8 := 1

def toDeviceNonAck : UInt8 := 10

def toDeviceAck : UInt8 := 11

def fromDeviceAck : UInt8 := 126

def fromDeviceNonAck : UInt8 := 127

def ackOffset : UInt8 := 128

def ackOf (id : UInt8) : UInt8 := id + ackOffset

end BufferId

/-- What a frame's payload is. -/
inductive FrameKind where
  | ack
  | data
  | lowLatency
  | dataWithAck
  deriving DecidableEq, Repr, Inhabited

namespace FrameKind

def code : FrameKind → UInt8
  | ack => 1
  | data => 2
  | lowLatency => 3
  | dataWithAck => 4

def name : FrameKind → String
  | ack => "Ack"
  | data => "Data"
  | lowLatency => "LowLatency"
  | dataWithAck => "DataWithAck"

def ofCode (code : UInt8) : Except Fault FrameKind :=
  match code with
  | 1 => .ok ack
  | 2 => .ok data
  | 3 => .ok lowLatency
  | 4 => .ok dataWithAck
  | other => .error (.protocol ("unknown frame data type: " ++ Text.Decimal.render other.toNat))

end FrameKind

structure FrameHeader where
  kind : FrameKind
  id : UInt8
  seq : UInt8
  deriving DecidableEq, Repr, Inhabited

namespace FrameHeader

def ofBlePacket (id : UInt8) (packet : Bytes) : Except Fault FrameHeader :=
  match packet with
  | code :: seq :: _ => do return ⟨← FrameKind.ofCode code, id, seq⟩
  | _ => .error (.protocol
      ("BLE packet too short: " ++ Text.Decimal.render packet.length ++ " bytes"))

def blePayload (packet : Bytes) : Bytes := packet.drop 2

def acknowledges (h : FrameHeader) (id : UInt8) : Bool :=
  h.kind = .ack && h.id = BufferId.ackOf id

def inspect (h : FrameHeader) : String :=
  Text.outline "FrameHeader"
    [("data_type", h.kind.name), ("id", Text.Decimal.render h.id.toNat),
      ("seq", Text.Decimal.render h.seq.toNat)]

end FrameHeader

/-- A frame as it travels: header, payload and, for some transports, a header of their own. -/
structure Frame where
  header : FrameHeader
  payload : Bytes
  extra : Option Bytes := none
  deriving DecidableEq, Repr, Inhabited

end DroneControl
