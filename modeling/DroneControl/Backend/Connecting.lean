import DroneControl.Connection.Inbound
import DroneControl.Device.Reply
import DroneControl.Proxy.Report

/-!
How backends start and stop connections. The network has a handshake carried to the device; Bluetooth
has a host open a session and claim the connection; a multiplexed channel holds one connection, which
is established by the loop.
-/

namespace DroneControl.Backend

variable {σ : Type}

def trackLive (b : BackendId) (c : ConnectionId) : Act σ Unit := do
  modify (·.updateBackend b (·.track c))
  Connection.onClosed c (.untrack b)

def make (b : BackendId) (h : DeviceHandle) (address : String) (sink : Sink) :
    Act σ ConnectionId := do
  let c ← Connection.create h b address sink
  modify (·.updateBackend b (·.noteMade c))
  trackLive b c
  return c

def trackApi (b : BackendId) (c : ConnectionId) (api : DeviceApi) : Act σ Unit := do
  modify (·.updateBackend b (·.noteApi c api))
  Connection.onClosed c (.forgetApi b)

def handshake (part : NetPart) (agent : Agent) (info : DeviceInfo) : HandshakeRequest :=
  .build agent part.listenPort info

def opening {α : Type} (c : ConnectionId) (sink : Sink) (request : Act σ α) : Act σ α := do
  mark (.opening c sink)
  let a ← request
  mark (.opened c)
  return a

def withdraw (env : Env σ) (b : BackendId) (c : ConnectionId) : Act σ Unit := do
  modify (·.updateBackend b fun x => (x.untrack c).forgetApi c)
  Connection.giveUp env c

def startNet (env : Env σ) (b : BackendId) (part : NetPart) (h : DeviceHandle)
    (info : DeviceInfo) (agent : Agent) (sink : Sink) : Try σ ConnectionId := do
  let request := (handshake part agent info).toJson.render
  let c ← act (make b h info.address sink)
  act (trackApi b c info.api.effective)
  let asking := opening c sink (env.ask (.openNet part.connector c info.port request)).run
  onFailure (ExceptT.mk asking) fun f => do
    log .warn "Failed to open network connection" [("device", h.label), ("error", f.message)]
    withdraw env b c
  act (log .debug "Network connection started" [("device", h.label), ("conn", c.label)])
  return c

def reject (env : Env σ) (b : BackendId) (c : ConnectionId) : Act σ Unit := do
  modify (·.updateBackend b (·.untrack c))
  if ((← get).connection c).attached.isSome then
    log .warn "Dropping host handle of rejected BLE connection" [("conn", c.label)]
  Connection.giveUp env c

def startBle (env : Env σ) (b : BackendId) (part : BlePart) (h : DeviceHandle)
    (info : DeviceInfo) (sink : Sink) : Try σ ConnectionId := do
  let c ← act (make b h info.address sink)
  act (log .debug "BLE connection created" [("conn", c.label), ("address", info.address)])
  let device := [("device", h.label), ("address", info.address)]
  let taken ← act (opening c sink (env.openSession part.host info.address c))
  unless taken do
    act (log .warn "BLE session open failed" device)
    act (reject env b c)
    throw (.transport ("failed to open BLE session to " ++ info.address))
  if ((← get).connection c).attached.isNone then
    act (log .error "BLE connection not claimed by host" device)
    act (reject env b c)
    throw (.protocol "BLE connection not attached by host")
  return c

def startMux (b : BackendId) (part : MuxPart) (h : DeviceHandle) (info : DeviceInfo)
    (sink : Sink) : Try σ ConnectionId := do
  unless ((← get).backend b).live.isEmpty do
    throw (.busy "MUX backend already has a connection")
  let c ← act (make b h info.address sink)
  act (defer (.establish c part.channel info.api.effective))
  return c

def start (env : Env σ) (b : BackendId) (h : DeviceHandle) (info : DeviceInfo) (agent : Agent)
    (sink : Sink) : Try σ ConnectionId := do
  match ((← get).backend b).part with
  | .net part => startNet env b part h info agent sink
  | .ble part => startBle env b part h info sink
  | .mux part => startMux b part h info sink

def establish (env : Env σ) (c : ConnectionId) (channel : ChannelId) (api : DeviceApi) :
    Act σ Unit := do
  match ← outcome (Connection.connecting env c) with
  | .error _ => log .debug "MUX connection closed before start" [("conn", c.label)]
  | .ok () =>
    recover (Connection.connected env c (.channel channel) api) fun f =>
      log .warn "MUX connection failed" [("conn", c.label), ("error", f.message)]

def stopNet (env : Env σ) (part : NetPart) (h : DeviceHandle) (c : ConnectionId) :
    Try σ Unit := do
  let previous ← act (Connection.beginClose c)
  act (env.order (.closeNet part.connector c))
  if ((← get).connection c).state = .closed then return
  act (log .debug "Closing network connection"
    [("device", h.label), ("conn", c.label), ("previous", previous.name)])
  if previous.isEstablished then Connection.disconnected env c
  else if previous.isPending then Connection.cancel env c .local
  else throw (.protocol "connection already closed")

def stopBle (env : Env σ) (part : BlePart) (h : DeviceHandle) (c : ConnectionId) :
    Act σ Unit := do
  log .debug "Requesting BLE session close" [("device", h.label), ("conn", c.label)]
  discard (Connection.beginClose c)
  env.order (.closeBle part.host ((← get).connection c).address)

def stopMux (env : Env σ) (h : DeviceHandle) (c : ConnectionId) : Try σ Unit := do
  act (log .debug "Closing MUX connection" [("device", h.label), ("conn", c.label)])
  let previous ← act (Connection.beginClose c)
  if previous.isEstablished then Connection.disconnected env c
  else if previous.isPending then Connection.cancel env c .local

def stop (env : Env σ) (b : BackendId) (h : DeviceHandle) (c : ConnectionId) : Try σ Unit := do
  match ((← get).backend b).part with
  | .net part => stopNet env part h c
  | .ble part => act (stopBle env part h c)
  | .mux _ => stopMux env h c

def token? (w : World σ) (b : BackendId) : Option Token :=
  match (w.backend b).part with
  | .net part => part.token
  | .ble part => part.token
  | .mux part => (w.uplink part.uplink).token

/-- Opens a TCP proxy through a device. -/
def openProxy (env : Env σ) (b : BackendId) (h : DeviceHandle) (t : DeviceType) (port : UInt16)
    (sink : ProxySink) : Try σ ProxyId := do
  let x := (← get).backend b
  match x.part with
  | .mux part =>
    let p ← act (Proxy.create h t port sink)
    env.ask (.openProxy part.channel p)
    act (log .debug "MUX proxy opening"
      [("proxy", p.label), ("device_type", t.label),
        ("remote_port", Text.Decimal.render port.toNat)])
    return p
  | _ =>
    throw (.notImplemented (x.kind.tag ++ " backend cannot proxy to " ++ t.label))

def refuse (env : Env σ) (c : ConnectionId) : Act σ Unit := do
  if ((← get).connection c).state ≠ .closed then
    recover (Connection.cancel env c .rejected) fun f =>
      log .warn "Failed to cancel rejected connection" [("conn", c.label), ("error", f.message)]

/-- Completes the negotiation of a connection with the device's reply. -/
def completeHandshake (env : Env σ) (b : BackendId) (c : ConnectionId) (reply : Bytes)
    (link : Link) : Try σ HandshakeReply := do
  match HandshakeReply.read reply with
  | .error complaint =>
    act (log .warn "Malformed handshake reply" [("conn", c.label), ("error", complaint)])
    act (refuse env c)
    throw .json
  | .ok reply =>
    let version := Text.Decimal.render reply.protocolVersion.toNat
    let status := Text.Decimal.renderInt reply.status
    if reply.status ≠ 0 then
      act (log .warn "Connection rejected by device" [("conn", c.label), ("status", status)])
      act (refuse env c)
      throw (.protocol ("connection rejected with status " ++ status))
    if highestProtocolVersion < reply.protocolVersion then
      act (log .warn "Unsupported protocol version" [("conn", c.label), ("proto_v", version)])
      act (refuse env c)
      throw (.protocol ("unsupported protocol version " ++ version))
    Connection.connected env c link ((((← get).backend b).api? c).getD .full)
    act (log .debug "Handshake complete"
      [("conn", c.label), ("c2d_port", Text.Decimal.render reply.devicePort.toNat)])
    return reply

end DroneControl.Backend
