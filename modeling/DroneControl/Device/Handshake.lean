import DroneControl.Device.Info
import DroneControl.Json.Reader
import DroneControl.Options

/-!
The negotiation with a device on the network: the request that announces the controller, and the
device's reply.
-/

namespace DroneControl

def highestProtocolVersion : UInt32 := 1

def defaultListenPort : UInt16 := 43210

structure HandshakeRequest where
  controllerType : String
  controllerName : String
  /-- The port that the controller listens on. -/
  listenPort : UInt16
  protocolVersion : UInt32
  deviceId : String
  streamSupported : Bool
  deriving DecidableEq, Repr, Inhabited

namespace HandshakeRequest

def build (agent : Agent) (listenPort : UInt16) (info : DeviceInfo) : HandshakeRequest where
  controllerType := agent.type
  controllerName := agent.name
  listenPort := listenPort
  protocolVersion := highestProtocolVersion
  deviceId := info.id
  streamSupported := true

def toJson (r : HandshakeRequest) : Json :=
  .object
    [("controller_type", .string r.controllerType), ("controller_name", .string r.controllerName),
      ("d2c_port", .nat r.listenPort.toNat), ("proto_v", .nat r.protocolVersion.toNat),
      ("device_id", .string r.deviceId), ("stream_supported", .bool r.streamSupported)]

def ofJson? (v : Json) : Option HandshakeRequest := do
  let names := ["controller_type", "controller_name", "d2c_port", "proto_v", "device_id",
    "stream_supported"]
  match ← v.fields? names with
  | [type, name, port, version, device, stream] =>
    return ⟨← (← type).text?, ← (← name).text?, ← (← port).uint16?, ← (← version).uint32?,
      ← (← device).text?, ← (← stream).bool?⟩
  | _ => none

end HandshakeRequest

structure HandshakeReply where
  /-- Zero if the device accepts. -/
  status : Int
  /-- The port that the device listens on. -/
  devicePort : UInt16
  protocolVersion : UInt32
  deriving DecidableEq, Repr, Inhabited

namespace HandshakeReply

def toJson (r : HandshakeReply) : Json :=
  .object
    [("status", .whole r.status), ("c2d_port", .nat r.devicePort.toNat),
      ("proto_v", .nat r.protocolVersion.toNat)]

def ofJson? (v : Json) : Option HandshakeReply := do
  match ← v.fields? ["status", "c2d_port", "proto_v"] with
  | [status, port, version] =>
    return ⟨← (← status).int32?, ← Json.fieldOr 0 Json.uint16? port,
      ← Json.fieldOr highestProtocolVersion Json.uint32? version⟩
  | _ => none

def ofBytes? (bytes : Bytes) : Option HandshakeReply := Json.read bytes >>= ofJson?

end HandshakeReply

end DroneControl
