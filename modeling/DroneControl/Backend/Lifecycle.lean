import DroneControl.Discovery.Source

/-!
How backends come and go. A network or Bluetooth backend is registered as it is created. A multiplexed
one opens its channel first and gets a discovery source of its own; a step that fails takes back those
before it.
-/

namespace DroneControl.Backend

variable {σ : Type}

def add (part : BackendPart) : Act σ BackendId :=
  modifyGet fun w => let (b, backends) := w.backends.add { part }; (b, { w with backends })

def enroll (env : Env σ) (r : RegistryId) (b : BackendId) : Try σ Unit :=
  onFailure (Registry.registerBackend r b) fun _ => release env (.backend b)

def createNet (env : Env σ) (r : RegistryId) (connector : ConnectorId) (listenPort : UInt16)
    (token : Option Token) : Try σ BackendId := do
  let b ← act (add (.net { connector, listenPort, token }))
  enroll env r b
  act (log .debug "Network backend created"
    [("backend", b.label), ("d2c_port", Text.Decimal.render listenPort.toNat)])
  return b

def createBle (env : Env σ) (r : RegistryId) (host : BleHostId) (token : Option Token) :
    Try σ BackendId := do
  let b ← act (add (.ble { host, token }))
  enroll env r b
  act (log .debug "BLE backend created" [("backend", b.label)])
  return b

def equip (env : Env σ) (r : RegistryId) (b : BackendId) (channel : ChannelId) :
    Try σ DiscoveryId := do
  onFailure (Registry.registerBackend r b) fun f => do
    log .warn "Failed to register MUX backend" [("error", f.message)]
    env.order (.shutChannel channel)
  onFailure (Discovery.create r "mux" b) fun f => do
    log .warn "Failed to create MUX discovery" [("error", f.message)]
    recover (Registry.unregisterBackend env r b) fun f =>
      log .warn "Failed to unregister MUX backend" [("error", f.message)]
    env.order (.shutChannel channel)

def createMux (env : Env σ) (r : RegistryId) (opener : OpenerId) (fd : Int)
    (uplink : UplinkId) : Try σ BackendId := do
  let descriptor := ("fd", Text.Decimal.renderInt fd)
  let channel ← onFailure (env.openChannel opener fd uplink) fun f =>
    log .warn "Failed to open MUX channel" [descriptor, ("error", f.message)]
  let b ← act (add (.mux { registry := r, channel, uplink }))
  act (modify (·.updateUplink uplink fun x => { x with backend := some b }))
  let d ← onFailure (equip env r b channel) fun _ => release env (.backend b)
  act (modify (·.updateBackend b (·.withMux fun part => { part with discovery := some d })))
  act (log .debug "MUX backend created" [("backend", b.label), descriptor])
  return b

def openMux (env : Env σ) (r : RegistryId) (opener : OpenerId) (fd : Int)
    (token : Option Token) : Try σ BackendId := do
  let uplink ← act (modifyGet fun w =>
    let (u, uplinks) := w.uplinks.add { token }
    (u, { w with uplinks }))
  createMux env r opener fd uplink

def discoveryOf (b : BackendId) : Try σ DiscoveryId := do
  match ((← get).backend b).part with
  | .mux { discovery := some d, .. } => return d
  | _ => throw (.notFound "MUX discovery")

def receive (env : Env σ) (b : BackendId) (frame : Frame) : Try σ Unit := do
  let w ← get
  match (w.backend b).live.find? fun c => (w.connection c).state = .connected with
  | some c => Connection.receive env c frame
  | none => throw (.notFound "connected MUX device")

def cutOff (env : Env σ) (c : ConnectionId) : Try σ Unit := do
  let state := ((← get).connection c).state
  if state.isEstablished then
    Connection.reportLink env c .down
    Connection.disconnected env c
  else if state.isPending then Connection.cancel env c .linkLost

def setEofListener (b : BackendId) (l : ListenerId) : Act σ Unit :=
  modify (·.updateBackend b (·.withMux fun part => { part with eofListener := some l }))

def endOfFile (env : Env σ) (b : BackendId) : Act σ Unit := do
  log .warn "MUX end of file" [("backend", b.label)]
  ((← get).backend b).live.forM fun c =>
    recover (cutOff env c) fun f =>
      log .warn "Failed to close connection on EOF" [("conn", c.label), ("error", f.message)]
  match ((← get).backend b).part with
  | .mux { eofListener := some l, .. } => env.tell l (.endOfFile b)
  | _ => return

/-- Destroys a multiplexed backend without live connections: its source goes, it is no longer
registered, and its channel is shut down. -/
def destroyMux (env : Env σ) (b : BackendId) : Try σ Unit := do
  let x := (← get).backend b
  unless x.live.isEmpty do throw (.busy "MUX backend has live connections")
  match x.part with
  | .mux part =>
    act (modify (·.updateBackend b (·.withMux fun part => { part with discovery := none })))
    act (release? env (part.discovery.map .discovery))
    act (ifKept env (.registry part.registry) ()
      (recover (Registry.unregisterBackend env part.registry b) fun f =>
        log .warn "Failed to unregister MUX backend"
          [("backend", b.label), ("error", f.message)]))
    act (env.order (.shutChannel part.channel))
    act (log .debug "MUX backend destroyed" [("backend", b.label)])
  | _ => return

end DroneControl.Backend

namespace DroneControl.Uplink

variable {σ : Type}

def endOfFile (env : Env σ) (u : UplinkId) : Act σ Unit := do
  match ((← get).uplink u).backend with
  | some b => ifKept env (.backend b) () (Backend.endOfFile env b)
  | none => return

def releaseToken (u : UplinkId) : Act σ Unit :=
  modify (·.updateUplink u fun x => { x with token := none, released := true })

end DroneControl.Uplink
