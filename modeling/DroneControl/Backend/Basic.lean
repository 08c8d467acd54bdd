import DroneControl.Connection.Basic

/-!
Transport backends. A backend starts and stops connections and knows which of them are live. There
are three kinds: the network, Bluetooth sessions owned by a host, and one multiplexed channel.
-/

namespace DroneControl

structure NetPart where
  connector : ConnectorId
  /-- The port that is announced in handshakes. -/
  listenPort : UInt16
  token : Option Token
  /-- The capability to report for each connection that is being negotiated. -/
  apis : List (ConnectionId × DeviceApi) := []
  deriving DecidableEq, Repr, Inhabited

structure BlePart where
  host : BleHostId
  token : Option Token
  deriving DecidableEq, Repr, Inhabited

/-- What a multiplexed channel and its backend share: the backend once it exists, which the channel
does not keep alive, and the upper layer's token until the channel is released. -/
structure Uplink where
  backend : Option BackendId := none
  token : Option Token
  /-- The channel was released. -/
  released : Bool := false
  deriving DecidableEq, Repr, Inhabited

structure MuxPart where
  /-- Not kept alive. -/
  registry : RegistryId
  channel : ChannelId
  uplink : UplinkId
  discovery : Option DiscoveryId := none
  eofListener : Option ListenerId := none
  deriving DecidableEq, Repr, Inhabited

inductive BackendPart where
  | net (part : NetPart)
  | ble (part : BlePart)
  | mux (part : MuxPart)
  deriving DecidableEq, Repr

instance : Inhabited BackendPart := ⟨.net default⟩

structure Backend where
  /-- How many more than one keep the backend. -/
  sharers : Nat := 0
  /-- The connections that are not closed. -/
  live : List ConnectionId := []
  part : BackendPart
  /-- Every connection it ever made. -/
  made : List ConnectionId := []
  deriving DecidableEq, Repr, Inhabited

namespace Backend

def kind (b : Backend) : BackendKind :=
  match b.part with
  | .net _ => .net
  | .ble _ => .ble
  | .mux _ => .mux

def channel? (b : Backend) : Option ChannelId :=
  match b.part with
  | .mux part => some part.channel
  | _ => none

def uplink? (b : Backend) : Option UplinkId :=
  match b.part with
  | .mux part => some part.uplink
  | _ => none

def noteMade (b : Backend) (c : ConnectionId) : Backend := { b with made := b.made ++ [c] }

def track (b : Backend) (c : ConnectionId) : Backend := { b with live := b.live ++ [c] }

def untrack (b : Backend) (c : ConnectionId) : Backend := { b with live := b.live.filter (· ≠ c) }

def noteApi (b : Backend) (c : ConnectionId) (api : DeviceApi) : Backend :=
  match b.part with
  | .net part => { b with part := .net { part with apis := (c, api) :: part.apis } }
  | _ => b

def forgetApi (b : Backend) (c : ConnectionId) : Backend :=
  match b.part with
  | .net part => { b with part := .net { part with apis := part.apis.filter (·.1 ≠ c) } }
  | _ => b

def api? (b : Backend) (c : ConnectionId) : Option DeviceApi :=
  match b.part with
  | .net part => part.apis.lookup c
  | _ => none

def withMux (b : Backend) (f : MuxPart → MuxPart) : Backend :=
  match b.part with
  | .mux part => { b with part := .mux (f part) }
  | _ => b

def inspect (id : BackendId) (b : Backend) : String :=
  let live := ("live_connections", Text.Decimal.render b.live.length)
  match b.part with
  | .net part =>
    Text.outlineOpen "NetBackend"
      [("id", id.inspect), ("d2c_port", Text.Decimal.render part.listenPort.toNat), live]
  | .ble _ => Text.outlineOpen "BleBackend" [("id", id.inspect), live]
  | .mux _ => Text.outlineOpen "MuxBackend" [("id", id.inspect), live]

end Backend

end DroneControl
