import DroneControl.Pipe.Flow
import DroneControl.Registry.Entry

/-!
The transitions of a connection. The first of them announces the attempt to the sink; the one that
closes the connection tells the sink how it ended, stops its pipe and runs what was noted to be done.
-/

namespace DroneControl.Connection

variable {σ : Type}

def create (device : DeviceHandle) (backend : BackendId) (address : String) (sink : Sink) :
    Act σ ConnectionId := do
  let c ← modifyGet fun w =>
    let (c, connections) := w.connections.add { device, backend, address, sink }
    (c, { w with connections })
  log .debug "Connection created"
    [("conn", c.label), ("device", device.label), ("backend", backend.label),
      ("address", address)]
  return c

def tell (env : Env σ) (c : ConnectionId) (event : ConnectionEvent) : Act σ Unit := do
  mark (.told c event)
  match ((← get).connection c).sink with
  | .entry r h => Entry.follow env r h c event
  | .listener l => env.tell l (.connection c event)

def refusal (operation : String) (state : ConnectionState) : Fault :=
  .protocol (operation ++ "() in state " ++ state.name)

def check (c : ConnectionId) (operation : String) (allowed : List ConnectionState) :
    Try σ Unit := do
  let state := ((← get).connection c).state
  if state ∉ allowed then
    act (log .warn "Operation not allowed in current state"
      [("conn", c.label), ("op", operation), ("state", state.name)])
    throw (refusal operation state)

def fields (w : World σ) (c : ConnectionId) : List (String × String) :=
  [("conn", c.label), ("device", (w.connection c).device.label)]

def announce (env : Env σ) (c : ConnectionId) : Act σ Bool := do
  let w ← get
  if (w.connection c).announced then return false
  modify (·.updateConnection c fun x => { x with announced := true })
  log .debug "Connecting" (fields w c)
  tell env c .connecting
  return true

def connecting (env : Env σ) (c : ConnectionId) : Try σ Unit := do
  check c "connecting" [.connecting]
  unless ← act (announce env c) do
    act (log .debug "Connecting already announced" [("conn", c.label)])

def runHook (c : ConnectionId) (hook : CloseHook) : Act σ Unit := do
  modify (·.updateConnection c fun x => { x with done := x.done ++ [hook] })
  match hook with
  | .untrack b => modify (·.updateBackend b (·.untrack c))
  | .forgetApi b => modify (·.updateBackend b (·.forgetApi c))

def runHooks (c : ConnectionId) : Act σ Unit := do
  let hooks := ((← get).connection c).hooks
  modify (·.updateConnection c fun x => { x with hooks := [] })
  hooks.forM (runHook c)

def tearDown (env : Env σ) (c : ConnectionId) (pipe : Option PipeId) : Act σ Unit := do
  match pipe with
  | none => pure ()
  | some p =>
    recover (Pipe.stop env p) fun f =>
      log .warn "Failed to stop frame pipe" [("conn", c.label), ("error", f.message)]
    Pipe.dispose env p
  runHooks c

def abandon (env : Env σ) (c : ConnectionId) (reason : CancelReason) : Act σ Unit := do
  let w ← get
  let x := w.connection c
  modify (·.updateConnection c fun x => { x.closed with announced := true })
  unless x.announced do tell env c .connecting
  log .debug "Canceled" (fields w c ++ [("reason", reason.name)])
  tell env c (.canceled reason)
  tearDown env c x.pipe

def cancel (env : Env σ) (c : ConnectionId) (reason : CancelReason) : Try σ Unit := do
  let state := ((← get).connection c).state
  if state = .closed then
    act (log .warn "cancel() on a closed connection"
      [("conn", c.label), ("reason", reason.name)])
    throw (refusal "cancel" state)
  act (abandon env c reason)

/-- Starts the pipe over which a connection goes on. -/
def establish (env : Env σ) (c : ConnectionId) (link : Link) (api : DeviceApi) : Try σ Unit := do
  let pipe ← act (Pipe.create link)
  act (modify (·.updateConnection c (·.enter .connected (some pipe))))
  match ← attempt (Pipe.start env pipe) with
  | .error f =>
    act (log .error "Failed to start frame pipe" [("conn", c.label), ("error", f.message)])
    cancel env c .local
    throw f
  | .ok () =>
    act (log .debug "Connected" (fields (← get) c ++ [("api", api.name)]))
    act (tell env c (.connected pipe api))

def connected (env : Env σ) (c : ConnectionId) (link : Link) (api : DeviceApi) : Try σ Unit := do
  check c "connected" [.connecting]
  discard <| act (announce env c)
  let state := ((← get).connection c).state
  if state ≠ .connecting then
    act (log .warn "Connected after close request, ignoring"
      [("conn", c.label), ("state", state.name)])
    throw (refusal "connected" state)
  establish env c link api

def conclude (env : Env σ) (c : ConnectionId) : Act σ Unit := do
  let w ← get
  modify (·.updateConnection c Connection.closed)
  log .debug "Disconnected" (fields w c)
  tell env c .disconnected
  tearDown env c (w.connection c).pipe

def disconnected (env : Env σ) (c : ConnectionId) : Try σ Unit := do
  let state := ((← get).connection c).state
  if state.isPending then
    act (log .debug "Disconnected before connected, canceling" [("conn", c.label)])
    cancel env c .local
  else if state.isEstablished then act (conclude env c)
  else
    act (log .error "disconnected() on a connection that is not connected"
      [("conn", c.label), ("state", state.name)])
    throw (refusal "disconnected" state)

def failed (env : Env σ) (c : ConnectionId) : Try σ Unit := do
  check c "failed" [.connecting, .canceling]
  cancel env c .local

def beginClose (c : ConnectionId) : Act σ ConnectionState := do
  let x := (← get).connection c
  modify (·.updateConnection c closeRequested)
  return x.state

def reportLink (env : Env σ) (c : ConnectionId) (status : LinkStatus) : Try σ Unit := do
  check c "link_status_changed" [.connected, .disconnecting]
  act (log .debug "Link status changed" [("conn", c.label), ("status", status.name)])
  act (tell env c (.link status))

def attach (c : ConnectionId) (token : Token) : Try σ Unit := do
  if ((← get).connection c).attached.isSome then throw (.busy "connection already attached")
  act (modify (·.updateConnection c (·.attaching token)))

def detach (c : ConnectionId) : Try σ Token := do
  match ((← get).connection c).attached with
  | none => throw (.notFound "attached connection handle")
  | some token =>
    act (modify (·.updateConnection c detaching))
    return token

/-- Ends a connection that nothing is attached to. -/
def dispose (env : Env σ) (c : ConnectionId) : Try σ Unit := do
  let w ← get
  let x := w.connection c
  if x.attached.isSome then
    act (log .error "Destroying connection while upper-layer handle is still attached"
      (fields w c))
    throw (.busy "connection still attached")
  if x.state ≠ .closed then
    act (log .debug "Disposing connection that is not closed"
      [("conn", c.label), ("state", x.state.name)])
    cancel env c .local
  match ((← get).connection c).pipe with
  | none => pure ()
  | some p =>
    act (modify (·.updateConnection c fun x => { x with pipe := none }))
    act (Pipe.dispose env p)
  act (log .debug "Connection disposed" [("conn", c.label)])

def discarded (w : World σ) (c : ConnectionId) : World σ :=
  match w.connections.find? c with
  | some x =>
    World.mark { w with connections := w.connections.set c { x.closed with attached := none } }
      (.discarded c)
  | none => w

def giveUp (env : Env σ) (c : ConnectionId) : Act σ Unit := do
  let x := (← get).connection c
  modify (discarded · c)
  match x.pipe with
  | none => pure ()
  | some p => Pipe.dispose env p
  modify (·.updateConnection c fun x => { x with hooks := [] })
  log .debug "Connection discarded" [("conn", c.label)]

def onClosed (c : ConnectionId) (hook : CloseHook) : Act σ Unit := do
  modify (·.updateConnection c fun x => { x with noted := x.noted ++ [hook] })
  if ((← get).connection c).state = .closed then runHook c hook
  else modify (·.updateConnection c fun x => { x with hooks := x.hooks ++ [hook] })

end DroneControl.Connection
