import DroneControl.Device.Handshake
import DroneControl.Json.Diagnosis

/-!
Reading a device's reply to a handshake, with a complaint about one that cannot be read.
-/

namespace DroneControl.HandshakeReply

def shape : Json.NumberShape where
  name := "HandshakeReply"
  fields :=
    [⟨"status", "i32", -2147483648, 2147483647, true⟩, ⟨"c2d_port", "u16", 0, 65535, false⟩,
      ⟨"proto_v", "u32", 0, 4294967295, false⟩]

def read (bytes : Bytes) : Except String HandshakeReply :=
  match ofBytes? bytes with
  | some reply => .ok reply
  | none => .error ((Json.complaint? shape bytes).getD "")

end DroneControl.HandshakeReply
