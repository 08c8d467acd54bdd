import DroneControl.Interface.Outbound

/-!
The device table of a registry: devices come, are looked up and go, and each change is told to the
registry's listener. Backends and discovery sources are registered by their identifiers.
-/

namespace DroneControl.Registry

variable {σ : Type}

def create (options : RegistryOptions) (listener : ListenerId) (token : Option Token) :
    Act σ RegistryId := do
  log .info "Registry created"
    [("controller_type", options.agent.type), ("controller_name", options.agent.name)]
  let traceCell ← modifyGet fun w =>
    let (cell, traceCells) := w.traceCells.add options.traceLevel
    (cell, { w with traceCells })
  let r ← modifyGet fun w =>
    let (r, registries) := w.registries.add
      { listener, traceCell, token, agent := options.agent
        videoDecoding := options.videoDecoding }
    (r, { w with registries })
  mark (.founded r token)
  return r

def setAgent (r : RegistryId) (agent : Agent) : Act σ Unit := do
  log .debug "User agent set"
    [("controller_type", agent.type), ("controller_name", agent.name)]
  modify (·.updateRegistry r fun x => { x with agent })

def setVideoDecoding (r : RegistryId) (enabled : Bool) : Act σ Unit :=
  modify (·.updateRegistry r fun x => { x with videoDecoding := enabled })

def setTraceLevel (r : RegistryId) (level : TraceLevel) : Act σ Unit :=
  modify fun w => { w with traceCells := w.traceCells.set (w.registry r).traceCell level }

def device (r : RegistryId) (h : DeviceHandle) : Try σ Device := do
  match ((← get).registry r).device? h with
  | some d => return d
  | none => throw (.deviceNotFound h)

def unknownBackend (b : BackendId) : Fault := .notFound ("backend " ++ b.label)

def backendOf (r : RegistryId) (d : Device) : Try σ BackendId := do
  if d.backend ∈ ((← get).registry r).backends then return d.backend
  else throw (unknownBackend d.backend)

def closedFault : Fault := .notFound "registry"

/-- Adds a device of a registered backend. -/
def addDevice (env : Env σ) (r : RegistryId) (info : DeviceInfo) (backend : BackendId) :
    Try σ DeviceHandle := do
  let x := (← get).registry r
  if x.closed then throw closedFault
  if backend ∉ x.backends then throw (unknownBackend backend)
  match x.allocate with
  | none => throw (.resourceExhausted "no free device handle")
  | some (h, x) =>
    act (modify (·.updateRegistry r fun _ => x.setDevice h { info, backend }))
    act (log .info "Device added"
      [("device", h.label), ("id", info.id), ("name", info.name),
        ("device_type", info.deviceType.label)])
    act (mark (.announced r h true))
    act (env.tell x.listener (.deviceAdded h info))
    return h

/-- Takes a device off the table, unless it is off already. -/
def finishRemoval (env : Env σ) (r : RegistryId) (h : DeviceHandle) : Act σ Unit := do
  let x := (← get).registry r
  match x.device? h with
  | none => return
  | some d =>
    modify (·.updateRegistry r (·.eraseDevice h))
    mark (.removed r h)
    log .info "Device removed" [("device", h.label), ("id", d.info.id)]
    release? env (d.interface.map .interface)
    mark (.announced r h false)
    env.tell x.listener (.deviceRemoved h)

/-- Creates the command interface of a connected device. -/
def createInterface (r : RegistryId) (h : DeviceHandle) (sink : CommandSink) :
    Try σ InterfaceId := do
  let d ← device r h
  if d.interface.isSome then
    throw (.busy ("device " ++ h.label ++ " already has a command interface"))
  match d.pipe with
  | none => throw (.protocol ("device " ++ h.label ++ " is not connected"))
  | some pipe =>
    let i ← act (Interface.create h pipe sink ((← get).registry r).traceCell)
    act (modify (·.updateRegistry r (·.updateDevice h fun d => { d with interface := some i })))
    act (retain (.interface i))
    return i

def interfaceOf (r : RegistryId) (h : DeviceHandle) : Try σ InterfaceId := do
  match (← device r h).interface with
  | some i => return i
  | none => throw (.noCommandInterface h)

def registerBackend (r : RegistryId) (b : BackendId) : Try σ Unit := do
  let w ← get
  let x := w.registry r
  if x.closed then throw closedFault
  if b ∈ x.backends then throw (.busy ("backend " ++ b.label ++ " already registered"))
  act (log .debug "Backend registered" [("backend", b.label), ("kind", (w.backend b).kind.tag)])
  act (modify (·.updateRegistry r fun x => { x with backends := x.backends ++ [b] }))
  act (retain (.backend b))

/-- Takes a backend without live connections off the registry. -/
def unregisterBackend (env : Env σ) (r : RegistryId) (b : BackendId) : Try σ Unit := do
  let w ← get
  if b ∉ (w.registry r).backends then throw (unknownBackend b)
  let live := Text.Decimal.render (w.backend b).live.length
  unless (w.backend b).live.isEmpty do
    act (log .warn "Backend unregistered with live connections"
      [("backend", b.label), ("live", live)])
    throw (.busy ("backend " ++ b.label ++ " has " ++ live ++ " live connections"))
  act (modify (·.updateRegistry r fun x => { x with backends := x.backends.filter (· ≠ b) }))
  act (release env (.backend b))
  act (log .debug "Backend unregistered" [("backend", b.label)])

def backendKind? (w : World σ) (r : RegistryId) (b : BackendId) : Option BackendKind :=
  if b ∈ (w.registry r).backends then some (w.backend b).kind else none

def registerDiscovery (r : RegistryId) (d : DiscoveryId) : Try σ Unit := do
  let x := (← get).registry r
  if x.closed then throw closedFault
  if d ∈ x.discoveries then throw (.busy ("discovery " ++ d.label ++ " already registered"))
  act (modify (·.updateRegistry r fun x => { x with discoveries := x.discoveries ++ [d] }))

def unregisterDiscovery (r : RegistryId) (d : DiscoveryId) : Act σ Unit :=
  modify (·.updateRegistry r fun x => { x with discoveries := x.discoveries.filter (· ≠ d) })

end DroneControl.Registry
