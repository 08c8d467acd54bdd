import DroneControl.Text.Decimal

/-!
Identifiers. A device handle is a 16-bit number with one reserved value. Every other thing is known
by a counter value, tagged with what it counts so that identifiers of different things do not mix.
-/

namespace DroneControl

/-- The handle of a discovered device. -/
structure DeviceHandle where
  raw : UInt16
  deriving DecidableEq, Repr, Inhabited

def DeviceHandle.invalidRaw : UInt16 := 0xFFFF

def DeviceHandle.ofRaw? (raw : UInt16) : Option DeviceHandle :=
  if raw = invalidRaw then none else some ⟨raw⟩

def DeviceHandle.label (h : DeviceHandle) : String := Text.Decimal.render h.raw.toNat

def DeviceHandle.inspect (h : DeviceHandle) : String := "DeviceHandle(" ++ h.label ++ ")"

/-- What an identifier can name: things of the library, then things that its users supply. -/
inductive Entity where
  | backend | connection | discovery | proxy
  | registry | pipe | commandInterface | controller | stream | timer | traceCell | uplink
  | listener | link | channel | session | connector | bleHost | opener
  deriving DecidableEq, Repr

/-- The identifier of one thing of a kind. -/
structure Id (e : Entity) where
  number : Nat
  deriving DecidableEq, Repr, Inhabited

abbrev BackendId := Id .backend
abbrev ConnectionId := Id .connection
abbrev DiscoveryId := Id .discovery
abbrev ProxyId := Id .proxy
abbrev RegistryId := Id .registry
abbrev PipeId := Id .pipe
abbrev InterfaceId := Id .commandInterface
abbrev ControllerId := Id .controller
abbrev StreamId := Id .stream
abbrev TimerId := Id .timer
abbrev TraceCellId := Id .traceCell
abbrev UplinkId := Id .uplink
abbrev ListenerId := Id .listener
abbrev LinkId := Id .link
abbrev ChannelId := Id .channel
abbrev SessionId := Id .session
abbrev ConnectorId := Id .connector
abbrev BleHostId := Id .bleHost
abbrev OpenerId := Id .opener

def Entity.word : Entity → String
  | .backend => "backend"
  | .connection => "conn"
  | .discovery => "discovery"
  | .proxy => "proxy"
  | _ => "id"

def Id.label {e : Entity} (i : Id e) : String := e.word ++ "-" ++ Text.Decimal.render i.number

def Entity.typeName : Entity → String
  | .backend => "BackendId"
  | .connection => "ConnectionId"
  | .discovery => "DiscoveryId"
  | .proxy => "ProxyId"
  | _ => "Id"

def Id.inspect {e : Entity} (i : Id e) : String :=
  e.typeName ++ "(" ++ Text.Decimal.render i.number ++ ")"

end DroneControl
