import DroneControl.Registry.Devices

/-!
What a device controller passes on to its listener. It stops its timer before it tells of an end or of
a link that went down, and creates the command interface before it tells of a connection.
-/

namespace DroneControl.Controller

variable {σ : Type}

def stopTimer (c : ControllerId) : Act σ Bool := do
  mark (.stilled c)
  let x := (← get).controller c
  match x.timer with
  | none => return false
  | some t =>
    modify (·.updateController c fun x => { x with timer := none })
    cancelTimer t
    log .debug "Non-ack timer stopped" [("device", x.device.label)]
    return true

def openInterface (env : Env σ) (c : ControllerId) : Act σ Unit := do
  let x := (← get).controller c
  let creating : Try σ Unit := do
    let i ← Registry.createInterface x.registry x.device (.controller c)
    act (release env (.interface i))
  recover creating fun f =>
    log .error "Failed to create command interface"
      [("device", x.device.label), ("error", f.message)]

def endsSending : DeviceEvent → Bool
  | .disconnected _ | .canceled _ _ | .link .down => true
  | _ => false

def prepare (env : Env σ) (c : ControllerId) (event : DeviceEvent) : Act σ Unit := do
  match event with
  | .connected _ => openInterface env c
  | _ => if endsSending event then discard (stopTimer c)

def isReady (w : World σ) (c : ControllerId) : Bool :=
  let x := w.controller c
  match ((w.registry x.registry).device? x.device).bind (·.interface) with
  | some i => !(w.interface i).closed
  | none => false

def notify (env : Env σ) (c : ControllerId) (connection : ConnectionId) (event : DeviceEvent) :
    Act σ Unit :=
  ifKept env (.controller c) () do
    prepare env c event
    mark (.noticed c connection event (isReady (← get) c))
    env.tell ((← get).controller c).listener (.device event)

def notify? (env : Env σ) (c : Option ControllerId) (connection : ConnectionId)
    (event : DeviceEvent) : Act σ Unit :=
  match c with
  | some c => notify env c connection event
  | none => pure ()

end DroneControl.Controller
