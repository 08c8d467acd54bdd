import DroneControl.Controller.Notice

/-!
How the entry of a device follows its connection. An event from a connection that is not the entry's
own, and could not become it, is left out.
-/

namespace DroneControl.Entry

variable {σ : Type}

def openInterface? (w : World σ) (d : Device) : Option InterfaceId :=
  d.interface.filter fun i => !(w.interface i).closed

/-- Makes the connection the entry's own, and gives the entry. The text is what is said of the event of
any other connection. -/
def claim (complaint : String) (r : RegistryId) (h : DeviceHandle) (c : ConnectionId)
    (event : ConnectionEvent) : Act σ (Option Device) := do
  match ((← get).registry r).device? h with
  | none =>
    mark (.ignored r h c event)
    return none
  | some d =>
    match d.claim c with
    | some d =>
      modify (·.updateRegistry r (·.setDevice h d))
      mark (.heeded r h c event d.observer (openInterface? (← get) d))
      return some d
    | none =>
      mark (.ignored r h c event)
      log .warn complaint [("device", h.label), ("conn", c.label)]
      return none

def pass (env : Env σ) (r : RegistryId) (h : DeviceHandle) (c : ConnectionId)
    (event : ConnectionEvent) (passed : DeviceEvent) : Act σ Unit := do
  let d ← ifKept env (.registry r) none (claim "Event from a stale connection ignored" r h c event)
  Controller.notify? env (d.bind (·.observer)) c passed

def established (d : Device) (pipe : PipeId) (api : DeviceApi) : Device :=
  { d with
    state := if d.state = .removing then .removing else .connected
    info := { d.info with api }
    pipe := some pipe }

def establish (env : Env σ) (r : RegistryId) (h : DeviceHandle) (c : ConnectionId) (pipe : PipeId)
    (api : DeviceApi) (d : Device) : Act σ Unit := do
  modify (·.updateRegistry r (·.setDevice h (established d pipe api)))
  log .debug "Device connected" [("device", h.label), ("api", api.name)]
  Controller.notify? env d.observer c (.connected api)

def connected (env : Env σ) (r : RegistryId) (h : DeviceHandle) (c : ConnectionId) (pipe : PipeId)
    (api : DeviceApi) : Act σ Unit :=
  ifKept env (.registry r) () do
    match ← claim "Connected from a stale connection ignored" r h c (.connected pipe api) with
    | none => return
    | some d => establish env r h c pipe api d

def dropInterface (env : Env σ) (d : Device) : Act σ Unit := do
  match d.interface with
  | none => pure ()
  | some i =>
    Interface.close i
    release env (.interface i)

def clear (env : Env σ) (r : RegistryId) (h : DeviceHandle) (c : ConnectionId)
    (passed : Bool → DeviceEvent) (d : Device) : Act σ Unit := do
  let removing := d.state = .removing
  modify (·.updateRegistry r (·.setDevice h d.cleared))
  dropInterface env d
  Controller.notify? env d.observer c (passed removing)
  if removing then Registry.finishRemoval env r h

def noteMissing (r : RegistryId) (h : DeviceHandle) : Act σ Unit := do
  if (((← get).registry r).device? h).isNone then
    log .debug "Connection closed for a removed device" [("device", h.label)]

def closed (env : Env σ) (r : RegistryId) (h : DeviceHandle) (c : ConnectionId)
    (event : ConnectionEvent) (passed : Bool → DeviceEvent) : Act σ Unit :=
  ifKept env (.registry r) () do
    noteMissing r h
    match ← claim "Close of a stale connection ignored" r h c event with
    | none => return
    | some d => clear env r h c passed d

/-- Follows one event of a connection. -/
def follow (env : Env σ) (r : RegistryId) (h : DeviceHandle) (c : ConnectionId)
    (event : ConnectionEvent) : Act σ Unit := do
  match event with
  | .connecting => pass env r h c .connecting .connecting
  | .connected pipe api => connected env r h c pipe api
  | .disconnected =>
    log .debug "Device disconnected" [("device", h.label)]
    closed env r h c .disconnected .disconnected
  | .canceled reason =>
    log .debug "Device connection canceled" [("device", h.label), ("reason", reason.name)]
    closed env r h c (.canceled reason) (.canceled reason)
  | .link status => pass env r h c (.link status) (.link status)

end DroneControl.Entry
