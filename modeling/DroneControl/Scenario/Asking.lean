import DroneControl.Backend.Lifecycle
import DroneControl.Scenario.View

/-!
What the steps of a scenario ask of registries, backends and discovery sources, and how they are
answered.
-/

namespace DroneControl.Scenario

def unknown : Scene Datum := return .text "unknown"

def answer {α : Type} (encode : α → Datum) (action : Try Stage α) : Scene Datum :=
  return .ofResult encode (← outcome action)

def done (action : Try Stage Unit) : Scene Datum := answer (fun _ => .done) action

def plain (action : Scene Unit) : Scene Datum := do
  action
  return .done

def tokenDatum (token : Option Token) : Datum := .option token

def handleDatum (h : DeviceHandle) : Datum := .nat h.raw.toNat

def infoDatum (info : DeviceInfo) : Datum := .text info.toJson.render

def backendNamed? (name : String) : Scene (Option BackendId) := do
  if name = "?" then
    modifyGet fun w => let (b, backends) := w.backends.reserve; (some b, { w with backends })
  else
    match ← find? name with
    | some (.backend b) => return some b
    | _ => return none

def withBackend (name : String) (action : BackendId → Scene Datum) : Scene Datum := do
  match ← backendNamed? name with
  | some b => action b
  | none => unknown

def withLink (name : String) (action : Link → Scene Datum) : Scene Datum := do
  match ← find? name with
  | some (.link l) => action (.supplied l)
  | _ => unknown

def withConnection (name : String) (action : ConnectionId → Scene Datum) : Scene Datum := do
  match ← find? name with
  | some (.connection c) | some (.bleConnection c) => action c
  | _ => unknown

def answerProxy (opening : Try Stage ProxyId) : Scene Datum := do
  match ← outcome opening with
  | .ok p =>
    seeProxy p
    return .text p.label
  | .error f => return .fault f true

def mute (l : ListenerId) (muted : Bool) : Scene Unit :=
  changeStage fun s => { s with audiences := s.audiences.update l fun a => { a with muted } }

def addMany (env : Env Stage) (r : RegistryId) (b : BackendId) (info : DeviceInfo)
    (removing : Bool) : Nat → Datum → Scene Datum
  | 0, last => return last
  | count + 1, _ => do
    match ← outcome (Registry.addDevice env r info b) with
    | .error f => return .fault f true
    | .ok h =>
      if removing then discard (outcome (Registry.removeDevice env r h))
      addMany env r b info removing count (handleDatum h)

def destroyRegistry (env : Env Stage) (r : RegistryId) : Scene Datum := do
  let engaged := ((← get).registry r).devices.values.filter (·.state ≠ .idle)
  match ← outcome (Registry.destroy env r) with
  | .ok token => return tokenDatum token
  | .error f => return .fault f (!f.isBusy || engaged.length ≤ 1)

def discoveryNamed (env : Env Stage) (name' : String) : Scene DiscoveryId := do
  match ← find? name' with
  | some (.discovery d) | some (.discoveryId d) => return d
  | _ =>
    let d ← modifyGet fun w =>
      let (d, discoveries) := w.discoveries.reserve
      (d, { w with discoveries })
    name env name' (.discoveryId d)
    return d

def askRegistry (env : Env Stage) (r : RegistryId) (call : RegistryCall) : Scene Datum := do
  let x := (← get).registry r
  match call with
  | .destroy => destroyRegistry env r
  | .devices => return .list (x.handles.map handleDatum)
  | .info h => answer (infoDatum ·.info) (Registry.device r h)
  | .state h => answer (fun d => .text d.state.tag) (Registry.device r h)
  | .add b info => withBackend b fun b => answer handleDatum (Registry.addDevice env r info b)
  | .addMany b info count removing =>
    withBackend b fun b => do
      mute x.listener true
      let last ← addMany env r b info removing count .null
      mute x.listener false
      return last
  | .remove h => done (Registry.removeDevice env r h)
  | .disconnect h => done (Registry.disconnectDevice env r h)
  | .agent => return .list [.text x.agent.type, .text x.agent.name]
  | .setAgent agent => plain (Registry.setAgent r agent)
  | .video => return .bool x.videoDecoding
  | .setVideo enabled => plain (Registry.setVideoDecoding r enabled)
  | .traceLevel => return .text ((← get).traceLevel x.traceCell).tag
  | .setTraceLevel level => plain (Registry.setTraceLevel r level)
  | .createInterface h as => do
    let l ← addAudience as false
    match ← outcome (Registry.createInterface r h (.listener l)) with
    | .ok i => plain (name env as (.interface i))
    | .error f => return .fault f true
  | .interface h as => do
    match ← outcome (Registry.interfaceOf r h) with
    | .ok i =>
      retain (.interface i)
      plain (name env as (.interface i))
    | .error f => return .fault f true
  | .openProxy h t port listener => do
    let l ← addAudience listener false
    answerProxy (Registry.openProxy env r h t port (.listener l))
  | .channel h => answer (fun _ => .done) (Registry.channelOf r h)
  | .token h => answer tokenDatum (Registry.tokenOf r h)
  | .registerBackend b => withBackend b fun b => done (Registry.registerBackend r b)
  | .unregisterBackend b => withBackend b fun b => done (Registry.unregisterBackend env r b)
  | .backendKind b =>
    withBackend b fun b => do
      return .option ((Registry.backendKind? (← get) r b).map (·.tag))
  | .registerDiscovery as => do
    let d ← discoveryNamed env as
    answer (fun _ => .text d.inspect) (Registry.registerDiscovery r d)
  | .unregisterDiscovery as => do
    let d ← discoveryNamed env as
    plain (Registry.unregisterDiscovery r d)
  | .liveness _ => unknown

def askLiveness (env : Env Stage) (as : String) (r : RegistryId) (drop : Bool) : Scene Datum := do
  let before := (← get).isKept (.registry r)
  if drop then forget env (← unname as)
  let after := (← get).isKept (.registry r)
  return .list [.bool before, .bool after,
    .text (Text.outline "WeakRegistry" [("alive", Text.outlineBool after)])]

def replyDatum (reply : HandshakeReply) : Datum :=
  .list [.int reply.status, .nat reply.devicePort.toNat, .nat reply.protocolVersion.toNat]

def changeBleHost (h : BleHostId) (mode : BleMode) : Scene Unit :=
  changeStage fun s =>
    { s with bleHosts := s.bleHosts.update h fun role => { role with mode } }

def changeChannel (c : ChannelId) (mode : ChannelMode) : Scene Unit :=
  changeStage fun s =>
    { s with channels := s.channels.update c fun role => { role with mode } }

def failNext (k : ConnectorId) : Scene Unit :=
  changeStage fun s =>
    { s with connectors := s.connectors.update k fun role => { role with mode := true } }

def askNet (env : Env Stage) (b : BackendId) (part : NetPart) (call : BackendCall) :
    Scene Datum := do
  match call with
  | .failNext => plain (failNext part.connector)
  | .listenPort => return .nat part.listenPort.toNat
  | .handshake info agent => return .text (Backend.handshake part agent info).toJson.render
  | .completeHandshake c link reply =>
    withConnection c fun c =>
      withLink link fun link => answer replyDatum (Backend.completeHandshake env b c reply link)
  | _ => unknown

def askMux (env : Env Stage) (as : String) (b : BackendId) (part : MuxPart)
    (call : BackendCall) : Scene Datum := do
  let source (f : DiscoveryId → Try Stage Unit) : Scene Datum :=
    done do f (← Backend.discoveryOf b)
  match call with
  | .setChannelMode mode => plain (changeChannel part.channel mode)
  | .startDiscovery => source fun d => act (Discovery.start d)
  | .stopDiscovery => source fun d => act (Discovery.stop env d)
  | .addDevice s => answer handleDatum do Discovery.addDevice env (← Backend.discoveryOf b) s
  | .removeDevice name t => source fun d => Discovery.removeDevice env d name t
  | .setTypes types => source fun d => act (Discovery.setTypes d types)
  | .inspectDiscovery =>
    answer Datum.text do
      let d ← Backend.discoveryOf b
      return ((← get).discovery d).inspect d
  | .receive frame => done (Backend.receive env b frame)
  | .endOfFile => plain (Backend.endOfFile env b)
  | .listenForEnd => plain do Backend.setEofListener b (← addAudience as false)
  | .destroy => done (Backend.destroyMux env b)
  | _ => unknown

def startOn (env : Env Stage) (b : BackendId) (h : DeviceHandle) (info : DeviceInfo)
    (agent : Agent) (sink : String) : Scene Datum := do
  let l ← addAudience sink false
  match ← outcome (Backend.start env b h info agent (.listener l)) with
  | .ok c =>
    seeConnection c
    return .text c.label
  | .error f => return .fault f true

def askBackend (env : Env Stage) (as : String) (b : BackendId) (call : BackendCall) :
    Scene Datum := do
  let w ← get
  let x := w.backend b
  match call with
  | .id => return .list [.nat b.number, .text b.label, .text b.inspect]
  | .kind => return .list [.text x.kind.tag, .text x.kind.tag]
  | .token => return tokenDatum (Backend.token? w b)
  | .live => return .nat x.live.length
  | .hasChannel => return .bool x.channel?.isSome
  | .start h info agent sink => startOn env b h info agent sink
  | .stop h c => withConnection c fun c => done (Backend.stop env b h c)
  | .openProxy h t port listener => do
    let l ← addAudience listener false
    answerProxy (Backend.openProxy env b h t port (.listener l))
  | call =>
    match x.part, call with
    | .net part, call => askNet env b part call
    | .ble part, .setBleMode mode => plain (changeBleHost part.host mode)
    | .mux part, call => askMux env as b part call
    | _, _ => unknown

def askDiscovery (env : Env Stage) (d : DiscoveryId) (call : DiscoveryCall) : Scene Datum := do
  match call with
  | .id => return .list [.nat d.number, .text d.label, .text ((← get).discovery d).name]
  | .start => plain (Discovery.start d)
  | .stop => plain (Discovery.stop env d)
  | .setTypes types => plain (Discovery.setTypes d types)
  | .addDevice s => answer handleDatum (Discovery.addDevice env d s)
  | .removeDevice name t => done (Discovery.removeDevice env d name t)

end DroneControl.Scenario
