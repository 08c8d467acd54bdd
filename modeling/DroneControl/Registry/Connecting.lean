import DroneControl.Backend.Connecting

/-!
Connecting, disconnecting and removing the devices of a registry, and the end of the registry itself.
-/

namespace DroneControl.Registry

variable {σ : Type}

def updateEntry (r : RegistryId) (h : DeviceHandle) (f : Device → Device) : Act σ Unit :=
  modify (·.updateRegistry r (·.updateDevice h f))

/-- Notes in the entry of a device how the start of its connection went. -/
def settleStart (r : RegistryId) (h : DeviceHandle) (started : Except Fault ConnectionId) :
    Try σ Unit := do
  let w ← get
  match (w.registry r).device? h, started with
  | none, .ok _ => return
  | none, .error f => throw f
  | some d, .ok c =>
    if d.connection.isNone && d.state ≠ .idle && (w.connection c).state ≠ .closed then
      act (updateEntry r h fun d => { d with connection := some c })
  | some d, .error f =>
    act (log .warn "Failed to start connection" [("device", h.label), ("error", f.message)])
    if d.connection.isNone then
      act (updateEntry r h fun d => { d with state := .idle, observer := none })
    throw f

/-- Starts to connect an idle device on behalf of a controller. -/
def connectDevice (env : Env σ) (r : RegistryId) (h : DeviceHandle) (observer : ControllerId) :
    Try σ Unit := do
  let d ← device r h
  if d.state ≠ .idle then throw (.busy ("device " ++ h.label ++ " is " ++ d.state.name))
  let b ← backendOf r d
  let w ← get
  act (updateEntry r h fun d => { d with state := .connecting, observer := some observer })
  act (log .debug "Connecting device"
    [("device", h.label), ("backend", b.label), ("kind", (w.backend b).kind.tag)])
  keepingTry env (.backend b) do
    settleStart r h
      (← attempt (Backend.start env b h d.info (w.registry r).agent (.entry r h)))

def disconnectDevice (env : Env σ) (r : RegistryId) (h : DeviceHandle) : Try σ Unit := do
  let d ← device r h
  match d.connection with
  | none => throw (.connectionNotFound h)
  | some c =>
    let b ← backendOf r d
    act (log .debug "Disconnecting device" [("device", h.label), ("conn", c.label)])
    keepingTry env (.backend b) (Backend.stop env b h c)

/-- Removes a device; one with a connection once that has closed. -/
def removeDevice (env : Env σ) (r : RegistryId) (h : DeviceHandle) : Try σ Unit := do
  let d ← device r h
  if d.state = .removing then
    act (log .debug "Device removal already in progress" [("device", h.label)])
  else
    match d.connection with
    | none => act (finishRemoval env r h)
    | some c =>
      let b ← backendOf r d
      act (updateEntry r h fun d => { d with state := .removing })
      act (mark (.leaving r h c d.observer))
      act (log .debug "Closing connection of removed device"
        [("device", h.label), ("conn", c.label)])
      keepingTry env (.backend b) do
        match ← attempt (Backend.stop env b h c) with
        | .ok () => return
        | .error f =>
          act (log .warn "Failed to close connection of removed device"
            [("device", h.label), ("error", f.message)])
          act (finishRemoval env r h)

def openProxy (env : Env σ) (r : RegistryId) (h : DeviceHandle) (t : DeviceType) (port : UInt16)
    (sink : ProxySink) : Try σ ProxyId := do
  let d ← device r h
  if d.state ≠ .connected then
    throw (.protocol ("device " ++ h.label ++ " is not connected"))
  let b ← backendOf r d
  keepingTry env (.backend b) (Backend.openProxy env b h t port sink)

def channelOf (r : RegistryId) (h : DeviceHandle) : Try σ ChannelId := do
  let b ← backendOf r (← device r h)
  let x := (← get).backend b
  match x.channel? with
  | some channel => return channel
  | none => throw (.notImplemented (x.kind.tag ++ " backend has no MUX channel"))

def tokenOf (r : RegistryId) (h : DeviceHandle) : Try σ (Option Token) := do
  let b ← backendOf r (← device r h)
  return Backend.token? (← get) b

def busyDevices (x : Registry) : List DeviceHandle :=
  x.handles.filter fun h => (x.device? h).any (·.connection.isSome)

def busyDevice? (x : Registry) : Option DeviceHandle :=
  ((busyDevices x).find? (1 < ·.raw)).or (busyDevices x).head?

def letGo (env : Env σ) (x : Registry) : Act σ Unit := do
  x.devices.values.forM fun d => release? env (d.interface.map .interface)
  x.backends.forM fun b => release env (.backend b)

def noteEnd (r : RegistryId) (token : Option Token) : Act σ Unit := do
  if (← get).isKept (.registry r) then mark (.dissolved r token)

/-- Destroys a registry without connected devices, and gives back what it was created with. -/
def destroy (env : Env σ) (r : RegistryId) : Try σ (Option Token) := do
  let x := (← get).registry r
  match busyDevice? x with
  | some h =>
    act (log .warn "Registry destroyed while a device is connected" [("device", h.label)])
    throw (.busy ("device " ++ h.label ++ " still connected"))
  | none =>
    act (modify (·.updateRegistry r fun x =>
      { x with closed := true, discoveries := [], token := none, backends := [], devices := {} }))
    act (noteEnd r x.token)
    act (letGo env x)
    act (log .info "Registry destroyed" [])
    return x.token

end DroneControl.Registry
