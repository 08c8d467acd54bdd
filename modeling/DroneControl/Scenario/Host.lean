import DroneControl.Connection.Transitions
import DroneControl.Scenario.Stage

/-!
The host of a scenario: what it records, and then does, wherever the library calls on it.
-/

namespace DroneControl.Scenario

def frameData (f : Frame) : List Datum :=
  [.nat f.header.kind.code.toNat, .nat f.header.id.toNat, .nat f.header.seq.toNat,
    .text (Text.Hex.encode f.payload), .option (f.extra.map Text.Hex.encode)]

def commandData (c : Command) : List Datum :=
  [.text (Text.Hex.encode c.data), .text c.inspect]

def endpointDatum (e : Endpoint) : Datum := .list [.option e.address, .nat e.port.toNat]

def deviceWord : DeviceEvent → String
  | .connecting => "connecting"
  | .connected _ => "connected"
  | .disconnected _ => "disconnected"
  | .canceled _ _ => "canceled"
  | .link _ => "link"
  | .command _ => "command"
  | .tick => "tick"

def deviceData : DeviceEvent → List Datum
  | .connecting | .tick => []
  | .connected api => [.text api.name]
  | .disconnected removing => [.bool removing]
  | .canceled reason removing => [.text reason.name, .bool removing]
  | .link status => [.text status.name]
  | .command c => commandData c

def connectionWord : ConnectionEvent → String
  | .connecting => "connecting"
  | .connected _ _ => "connected"
  | .disconnected => "disconnected"
  | .canceled _ => "canceled"
  | .link _ => "link"

def connectionData (w : World Stage) : ConnectionEvent → List Datum
  | .connecting | .disconnected => []
  | .connected p api => [.text (w.pipe p).state.name, .text api.name]
  | .canceled reason => [.text reason.name]
  | .link status => [.text status.name]

def eventWord : Event → String
  | .deviceAdded _ _ => "added"
  | .deviceRemoved _ => "removed"
  | .received _ => "recv"
  | .connection _ event => connectionWord event
  | .device event => deviceWord event
  | .command _ => "command"
  | .quality _ _ _ => "quality"
  | .proxyOpened _ _ => "opened"
  | .endOfFile _ => "eof"
  | .fired => "fire"

def eventData (w : World Stage) : Event → List Datum
  | .deviceAdded h info => [.nat h.raw.toNat, .text info.toJson.render]
  | .deviceRemoved h => [.nat h.raw.toNat]
  | .received frame => frameData frame
  | .connection c event => .text c.label :: connectionData w event
  | .device event => deviceData event
  | .command c => commandData c
  | .quality sent received useful => [.int sent, .int received, .int useful]
  | .proxyOpened p result => [.text p.label, .ofResult endpointDatum result]
  | .endOfFile b => [.nat (w.backend b).live.length]
  | .fired => []

def isOptional : Event → Bool
  | .device .connecting | .device (.link _) | .device .tick | .quality _ _ _ => true
  | _ => false

def seeEvent : Event → Scene Unit
  | .connection c _ => seeConnection c
  | .proxyOpened p _ => seeProxy p
  | _ => return

def hear (run : Step → Scene Datum) (l : ListenerId) (event : Event) : Scene Unit := do
  let w ← get
  let audience := w.host.audiences.get l
  unless audience.muted || (audience.bare && isOptional event) do
    seeEvent event
    record run audience.source (eventWord event) (eventData w event)

def transport (message : String) : Fault := .transport message

def changeLink (l : LinkId) (f : LinkMode → LinkMode) : Scene Unit :=
  changeStage fun s =>
    { s with links := s.links.update l fun role => { role with mode := f role.mode } }

def sendOver (run : Step → Scene Datum) (l : LinkId) (frame : Frame) : Try Stage Unit := do
  let role := (← get).host.links.get l
  if role.mode.rejects = 0 then
    act (record run role.source "frame" (frameData frame))
  else
    act (changeLink l fun mode => { mode with rejects := mode.rejects - 1 })
    act (record run role.source "reject" (frameData frame))
    throw (transport "link busy")

def sendThrough (run : Step → Scene Datum) (c : ChannelId) (frame : Frame) :
    Try Stage Unit := do
  let role := (← get).host.channels.get c
  if role.mode.frames then
    act (record run role.source "reject" (frameData frame))
    throw (transport "MUX channel down")
  act (record run role.source "frame" (frameData frame))

def openNet (run : Step → Scene Datum) (k : ConnectorId) (c : ConnectionId) (port : UInt16)
    (request : String) : Try Stage Unit := do
  act (seeConnection c)
  let w ← get
  act (record run (w.host.connectors.get k).source "open"
    [.text c.label, .text (w.connection c).address, .nat port.toNat, .text request])
  if ((← get).host.connectors.get k).mode then
    act (changeStage fun s =>
      { s with connectors := s.connectors.update k fun role => { role with mode := false } })
    throw (transport "connection refused")

def openUrl (run : Step → Scene Datum) (s : SessionId) (kind url : String) :
    Try Stage Unit := do
  let role := (← get).host.sessions.get s
  act (record run role.source kind [.text url])
  if role.mode then throw (transport "session refused")

def openProxyThrough (run : Step → Scene Datum) (c : ChannelId) (p : ProxyId) :
    Try Stage Unit := do
  act (seeProxy p)
  let w ← get
  let proxy := w.proxy p
  act (record run (w.host.channels.get c).source "proxy"
    [.text p.label, .nat proxy.device.raw.toNat, .text proxy.deviceType.label,
      .nat proxy.remotePort.toNat])
  if ((← get).host.channels.get c).mode.proxies then throw (transport "proxy refused")

def respond (run : Step → Scene Datum) (request : Request) : Try Stage Unit := do
  match request with
  | .startLink l =>
    act (record run ((← get).host.links.get l).source "start" [])
    if ((← get).host.links.get l).mode.failsStart then
      throw (transport "link refused to start")
  | .stopLink l =>
    act (record run ((← get).host.links.get l).source "stop" [])
    if ((← get).host.links.get l).mode.failsStop then
      throw (transport "link refused to stop")
  | .sendFrame (.supplied l) frame => sendOver run l frame
  | .sendFrame (.channel c) frame => sendThrough run c frame
  | .openNet k c port text => openNet run k c port text
  | .openProxy c p => openProxyThrough run c p
  | .openUrl s url => openUrl run s "url" url
  | .openMuxUrl s url _ => openUrl run s "mux_url" url

def obey (run : Step → Scene Datum) (order : Order) : Scene Unit := do
  let host := (← get).host
  match order with
  | .closeNet k c =>
    seeConnection c
    record run (host.connectors.get k).source "close" [.text c.label]
  | .closeBle h address => record run (host.bleHosts.get h).source "close" [.text address]
  | .shutChannel c => record run (host.channels.get c).source "shutdown" []
  | .streamFailed s f => record run (host.sessions.get s).source "failed" [.fault f true]

def openSession (run : Step → Scene Datum) (h : BleHostId) (address : String)
    (c : ConnectionId) : Scene Bool := do
  seeConnection c
  see ("ble-" ++ Text.Decimal.render c.number) (.bleConnection c)
  let role := (← get).host.bleHosts.get h
  if role.mode.attaches then discard (outcome (Connection.attach c address))
  record run role.source "open" [.text address, .text c.label]
  return !((← get).host.bleHosts.get h).mode.refuses

/-- Opens a channel. Its end takes the place of an older one only if the opening does not fail. -/
def openChannel (run : Step → Scene Datum) (o : OpenerId) (descriptor : Int)
    (uplink : UplinkId) : Try Stage ChannelId := do
  let role := (← get).host.openers.get o
  act (record run role.source "open" [.int descriptor, .text (Text.outlineOpen "MuxOps" [])])
  if role.mode then
    throw (transport ("cannot open MUX on fd " ++ Text.Decimal.renderInt descriptor))
  act (onStage fun s =>
    let (c, channels) := s.channels.add { source := role.source, mode := {} }
    (c, { s with channels, channelEnds := s.channelEnds.insert role.source { uplink } }))

end DroneControl.Scenario
