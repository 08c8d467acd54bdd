import DroneControl.Device.Info

/-!
TCP proxies through a device. The transport reports once whether a proxy could be opened; what comes
later changes the state but is told to nobody.
-/

namespace DroneControl

/-- Where an open proxy listens. -/
structure Endpoint where
  address : Option String
  port : UInt16
  deriving DecidableEq, Repr, Inhabited

inductive ProxyState where
  | opening
  | opened (endpoint : Endpoint)
  | failed
  | closed
  deriving DecidableEq, Repr, Inhabited

namespace ProxyState

def endpoint? : ProxyState → Option Endpoint
  | opened e => some e
  | _ => none

def inspect : ProxyState → String
  | opening => "Opening"
  | opened e =>
    let address := Text.outlineOption (e.address.map Text.Quoted.quote)
    let port := Text.Decimal.render e.port.toNat
    Text.outlineUnit "Open" (Text.outline "ProxyEndpoint" [("address", address), ("port", port)])
  | failed => "Failed"
  | closed => "Closed"

end ProxyState

/-- Who is told the outcome: a media session that goes on to open its stream, or a listener. -/
inductive ProxySink where
  | stream (session : SessionId) (channel : ChannelId) (path : String)
  | listener (listener : ListenerId)
  deriving DecidableEq, Repr

instance : Inhabited ProxySink := ⟨.listener ⟨0⟩⟩

/-- What a proxy is told by its transport and by its owner. -/
inductive ProxyStep where
  | reportOpen (result : Except Fault Endpoint)
  | reportClosed
  | close
  deriving Repr

structure Proxy where
  device : DeviceHandle
  /-- The type of the device that serves the remote port. -/
  deviceType : DeviceType
  remotePort : UInt16
  sink : ProxySink
  state : ProxyState := .opening
  /-- The steps so far, each with the state that it left the proxy in. -/
  past : List (ProxyStep × ProxyState) := []
  /-- What the sink was told. -/
  told : List (Except Fault Endpoint) := []
  deriving Repr, Inhabited

def Proxy.leftBy (x : Proxy) (step : ProxyStep) (state : ProxyState) : Proxy :=
  { x with state, past := x.past ++ [(step, state)] }

def Proxy.noteTold (x : Proxy) (result : Except Fault Endpoint) : Proxy :=
  { x with told := x.told ++ [result] }

def Proxy.inspect (id : ProxyId) (p : Proxy) : String :=
  Text.outlineOpen "TcpProxy"
    [("id", id.inspect), ("device", p.device.inspect),
      ("remote_port", Text.Decimal.render p.remotePort.toNat), ("state", p.state.inspect)]

end DroneControl
