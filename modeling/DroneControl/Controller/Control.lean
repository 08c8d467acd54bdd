import DroneControl.Registry.Connecting

/-!
What the upper layer asks of a device controller. Commands go through the interface that the device has
at that moment; the timer is started and stopped on its own.
-/

namespace DroneControl.Controller

variable {σ : Type}

def create (r : RegistryId) (h : DeviceHandle) (listener : ListenerId) (token : Option Token) :
    Try σ ControllerId := do
  discard (Registry.device r h)
  act (log .debug "Device controller created" [("device", h.label)])
  let c ← act (modifyGet fun w =>
    let (c, controllers) := w.controllers.add { device := h, registry := r, listener, token }
    (c, { w with controllers }))
  act (mark (.appointed c r h))
  act (retain (.registry r))
  return c

def connect (env : Env σ) (c : ControllerId) : Try σ Unit := do
  let x := (← get).controller c
  onFailure (Registry.connectDevice env x.registry x.device c) fun f =>
    log .warn "Connect failed" [("device", x.device.label), ("error", f.message)]

def send (env : Env σ) (c : ControllerId) (command : Command) : Try σ Unit := do
  let x := (← get).controller c
  let i ← Registry.interfaceOf x.registry x.device
  act (mark (.commanded c))
  keepingTry env (.interface i) (Interface.send env i command)

/-- Starts the timer for best-effort commands, unless it runs already. -/
def startTimer (c : ControllerId) (period : UInt32) : Try σ Unit := do
  let x := (← get).controller c
  if period = 0 then throw (.invalidArgument "non-ack timer period must be non-zero")
  if x.timer.isSome then
    act (log .warn "Non-ack timer already running" [("device", x.device.label)])
    throw (.busy "non-ack timer already running")
  let t ← act (schedulePeriodic period.toNat (.tick c))
  act (modify (·.updateController c fun x => { x with timer := some t, starts := x.starts + 1 }))
  act (mark (.wound c))
  act (log .debug "Non-ack timer started"
    [("device", x.device.label), ("period_ms", Text.Decimal.render period.toNat)])

def haltTimer (c : ControllerId) : Try σ Unit := do
  unless ← act (stopTimer c) do throw (.notFound "non-ack timer")

def disconnect (env : Env σ) (c : ControllerId) : Try σ Unit := do
  discard <| act (stopTimer c)
  let x := (← get).controller c
  Registry.disconnectDevice env x.registry x.device

def isEngaged : DeviceState → Bool
  | .connecting | .connected => true
  | _ => false

/-- Destroys a controller, disconnecting its device, and gives back what it was created with. -/
def destroy (env : Env σ) (c : ControllerId) : Try σ (Option Token) := do
  discard <| act (stopTimer c)
  let w ← get
  let x := w.controller c
  match (w.registry x.registry).device? x.device with
  | some d =>
    if isEngaged d.state then
      act (log .warn "Device controller destroyed while connected"
        [("device", x.device.label), ("state", d.state.name)])
      Registry.disconnectDevice env x.registry x.device
  | none => pure ()
  act (log .debug "Device controller destroyed" [("device", x.device.label)])
  let token := ((← get).controller c).token
  act (modify (·.updateController c fun x => { x with token := none }))
  return token

def tick (env : Env σ) (c : ControllerId) : Act σ Unit :=
  ifKept env (.controller c) () do
    modify (·.updateController c (·.noteTick))
    mark (.ticked c)
    env.tell ((← get).controller c).listener (.device .tick)

end DroneControl.Controller
