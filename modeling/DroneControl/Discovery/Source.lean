import DroneControl.Registry.Connecting

/-!
What a discovery source does. It adds what it finds while it is running, and removes what it added when
it stops or is gone.
-/

namespace DroneControl.Discovery

variable {σ : Type}

/-- A source for a registered backend. -/
def create (r : RegistryId) (name : String) (backend : BackendId) : Try σ DiscoveryId := do
  match Registry.backendKind? (← get) r backend with
  | none => throw (Registry.unknownBackend backend)
  | some backendKind =>
    let d ← act (modifyGet fun w =>
      let (d, discoveries) := w.discoveries.reserve
      (d, { w with discoveries }))
    Registry.registerDiscovery r d
    act (log .debug "Discovery created"
      [("discovery", d.label), ("name", name), ("backend", backend.label)])
    act (modify fun w =>
      { w with discoveries := w.discoveries.set d { name, backend, backendKind, registry := r } })
    return d

def setTypes (d : DiscoveryId) (types : Option (List DeviceType)) : Act σ Unit :=
  modify (·.updateDiscovery d fun x => { x with types })

def start (d : DiscoveryId) : Act σ Unit := do
  unless ((← get).discovery d).running do
    modify (·.updateDiscovery d fun x => { x with running := true })
    log .debug "Discovery started" [("discovery", d.label)]

def refusal? : Except Fault Unit → Option Fault
  | .ok () => none
  | .error f => some f

def dismiss (env : Env σ) (d : DiscoveryId) (r : RegistryId) (h : DeviceHandle) : Try σ Unit := do
  let w ← get
  let result ← attempt (Registry.removeDevice env r h)
  act (mark (.dropped d r h w.history.length (refusal? result)))
  ExceptT.mk (pure result)

def evict (env : Env σ) (d : DiscoveryId) (r : RegistryId) (device : DeviceKey × DeviceHandle) :
    Act σ Unit :=
  recover (dismiss env d r device.2) fun f =>
    log .warn "Failed to remove device"
      [("discovery", d.label), ("name", device.1.1), ("handle", device.2.label),
        ("error", f.message)]

def removeAll (env : Env σ) (d : DiscoveryId) (r : RegistryId)
    (devices : List (DeviceKey × DeviceHandle)) : Act σ Unit := do
  let w ← get
  if w.isKept (.registry r) && !(w.registry r).closed then
    keeping env (.registry r) (devices.forM (evict env d r))
  else
    devices.forM fun device =>
      mark (.dropped d r device.2 w.history.length (some Registry.closedFault))

def stop (env : Env σ) (d : DiscoveryId) : Act σ Unit := do
  let x := (← get).discovery d
  if x.running then
    modify (·.updateDiscovery d fun x => { x with running := false, devices := [] })
    mark (.halted d)
    removeAll env d x.registry x.devices
    log .debug "Discovery stopped" [("discovery", d.label)]

def withRegistry {α : Type} (env : Env σ) (d : DiscoveryId) (action : RegistryId → Try σ α) :
    Try σ α := do
  let w ← get
  let r := (w.discovery d).registry
  if w.isKept (.registry r) then keepingTry env (.registry r) (action r)
  else throw Registry.closedFault

/-- Adds what was sighted; a device that is known by name and type keeps its handle. -/
def addDevice (env : Env σ) (d : DiscoveryId) (s : Sighting) : Try σ DeviceHandle :=
  withRegistry env d fun r => do
    let w ← get
    let x := w.discovery d
    let key := (s.name, s.deviceType)
    if !x.running then throw (.protocol ("discovery " ++ d.label ++ " not started"))
    if !x.admits s.deviceType then
      throw (.invalidArgument
        ("device type " ++ s.deviceType.label ++ " filtered by discovery " ++ d.label))
    match x.handle? key with
    | some h =>
      act (log .debug "Device already known"
        [("discovery", d.label), ("name", s.name), ("handle", h.label)])
      return h
    | none =>
      let adding := Registry.addDevice env r (s.info x.backendKind) x.backend
      let h ← onFailure adding fun f =>
        log .warn "Failed to add discovered device"
          [("discovery", d.label), ("error", f.message)]
      act (modify (·.updateDiscovery d (·.remember key h w.history.length)))
      act (mark (.adopted d h w.history.length))
      return h

def isGone : Except Fault Unit → Bool
  | .ok () | .error (.deviceNotFound _) => true
  | .error _ => false

/-- Removes a device that this source added. -/
def removeDevice (env : Env σ) (d : DiscoveryId) (name : String) (t : DeviceType) : Try σ Unit :=
  withRegistry env d fun r => do
    match ((← get).discovery d).handle? (name, t) with
    | none => throw (.notFound ("device " ++ name ++ " (" ++ t.label ++ ")"))
    | some h =>
      let result ← attempt (dismiss env d r h)
      if isGone result && ((← get).discovery d).handle? (name, t) = some h then
        act (modify (·.updateDiscovery d (·.forget (name, t))))
      match result with
      | .ok () => return
      | .error f =>
        act (log .warn "Failed to remove discovered device"
          [("discovery", d.label), ("handle", h.label), ("error", f.message)])
        throw f

end DroneControl.Discovery
