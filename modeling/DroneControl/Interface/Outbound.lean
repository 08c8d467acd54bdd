import DroneControl.Pipe.Flow
import DroneControl.World.Keeping

/-!
Sending over a command interface. Of the commands to be acknowledged one is in flight at a time, sent
again at every expiry of its timer; it gives way to the next of the queue when it is acknowledged or
given up.
-/

namespace DroneControl.Interface

variable {σ : Type}

def create (device : DeviceHandle) (pipe : PipeId) (sink : CommandSink) (traceCell : TraceCellId) :
    Act σ InterfaceId := do
  let i ← modifyGet fun w =>
    let (i, interfaces) := w.interfaces.add { device, pipe, sink, traceCell }
    (i, { w with interfaces })
  Pipe.setReceiver pipe (.interface i)
  log .debug "Command interface created" [("device", device.label)]
  return i

def trace (i : InterfaceId) (direction : Direction) (c : Command) : Act σ Unit := do
  let w ← get
  let x := w.interface i
  if (w.traceLevel x.traceCell).admits c then
    let text := logText "command"
      [("dir", direction.word), ("device", x.device.label), ("feature", c.feature.label),
        ("cmd", Text.Decimal.render c.number.toNat), ("name", c.name?.getD "unknown"),
        ("len", Text.Decimal.render c.data.length)]
    modify (·.note "log" Severity.info.name [.text text])

def warnFailure (i : InterfaceId) (message : String) (f : Fault) : Act σ Unit := do
  let x := (← get).interface i
  log .warn message [("device", x.device.label), ("error", f.message)]

def setTimer (i : InterfaceId) (timer : Option TimerId) : Act σ Unit := do
  let x := (← get).interface i
  cancelTimer? x.retryTimer
  modify (·.updateInterface i fun x => { x with retryTimer := timer })

def clearFlight (i : InterfaceId) : Act σ Unit := do
  modify (·.updateInterface i fun x => { x with inFlight := none })
  setTimer i none

def drawSeq (i : InterfaceId) (buffer : UInt8) : Act σ UInt8 :=
  modifyGet fun w =>
    let (seq, x) := (w.interface i).takeSeq buffer
    (seq, w.updateInterface i fun _ => x)

def offer (env : Env σ) (i : InterfaceId) (p : PipeId) (frame : Frame) : Try σ Unit := do
  let place := (← get).history.length
  act (mark (.offered i frame))
  onFailure (Pipe.send env p frame) fun _ => mark (.refused i place)

def ackFrame (seq : UInt8) (data : Bytes) : Frame :=
  { header := ⟨.dataWithAck, BufferId.toDeviceAck, seq⟩, payload := data }

def launch (i : InterfaceId) (f : InFlight) : Act σ Unit := do
  modify (·.updateInterface i fun x => { x with inFlight := some f })
  let timer ← schedule retryDelay (.retry i)
  setTimer i (some timer)

/-- Sends the head of the queue, if nothing is in flight. A command that the transport refuses at once
is dropped. -/
def pump (env : Env σ) (i : InterfaceId) : Try σ Unit := do
  let x := (← get).interface i
  if x.closed || x.inFlight.isSome then return
  match x.queue with
  | [] => return
  | data :: queue =>
    act (modify (·.updateInterface i fun x => { x with queue }))
    let seq ← act (drawSeq i BufferId.toDeviceAck)
    act (launch i ⟨seq, data, 0⟩)
    onFailure (offer env i x.pipe (ackFrame seq data)) fun f => do
      if ((← get).interface i).awaits seq then
        clearFlight i
        log .warn "Ack command rejected by transport, dropping"
          [("device", x.device.label), ("seq", Text.Decimal.render seq.toNat),
            ("error", f.message)]

def closedFault : Fault := .protocol "command interface closed"

/-- Sends a command: at once, or in its turn if it is to be acknowledged. -/
def send (env : Env σ) (i : InterfaceId) (c : Command) : Try σ Unit := do
  let x := (← get).interface i
  match c.delivery with
  | .nonAck =>
    if x.closed then throw closedFault
    let seq ← act (drawSeq i BufferId.toDeviceNonAck)
    act (trace i .sent c)
    offer env i x.pipe
      { header := ⟨.data, BufferId.toDeviceNonAck, seq⟩, payload := c.data }
  | .ack =>
    if x.closed then throw closedFault
    act (modify (·.updateInterface i fun x => { x with queue := x.queue ++ [c.data] }))
    act (mark (.queued i c.data))
    act (trace i .sent c)
    if x.inFlight.isNone then pump env i
  | .invalid =>
    throw (.invalidArgument
      ("command " ++ c.feature.label ++ "/" ++ Text.Decimal.render c.number.toNat ++
        " has no buffer class"))

/-- Sends the command in flight again, or gives it up and goes on with the queue. -/
def retry (env : Env σ) (i : InterfaceId) : Act σ Unit := do
  let x := (← get).interface i
  if x.closed then return
  match x.inFlight with
  | none => return
  | some f =>
    if f.retries < maxRetries then
      launch i { f with retries := f.retries + 1 }
      recover (offer env i x.pipe (ackFrame f.seq f.data))
        (warnFailure i "Failed to send ack command")
    else
      log .warn "Ack command not acknowledged, dropping"
        [("device", x.device.label), ("seq", Text.Decimal.render f.seq.toNat),
          ("retries", Text.Decimal.render f.retries)]
      clearFlight i
      recover (pump env i) (warnFailure i "Failed to send ack command")

def acknowledged (env : Env σ) (i : InterfaceId) (seq : UInt8) : Act σ Unit := do
  let x := (← get).interface i
  if x.awaits seq then
    clearFlight i
    recover (pump env i) (warnFailure i "Failed to send ack command")
  else
    log .debug "Stale acknowledgement ignored"
      [("device", x.device.label), ("seq", Text.Decimal.render seq.toNat)]

def close (i : InterfaceId) : Act σ Unit := do
  let x := (← get).interface i
  unless x.closed do
    modify (·.updateInterface i fun x => { x with closed := true, queue := [] })
    clearFlight i
    mark (.closed i)
    Pipe.clearReceiver x.pipe
    log .debug "Command interface closed" [("device", x.device.label)]

end DroneControl.Interface
