import DroneControl.Interface.Outbound

/-!
Receiving. A pipe hands inbound frames to its receiver; a command interface acknowledges what asks for
it, answers pings, and delivers every command once.
-/

namespace DroneControl

variable {σ : Type}

namespace Interface

def hand (env : Env σ) (i : InterfaceId) (c : Command) : Act σ Unit := do
  mark (.delivered i c)
  match ((← get).interface i).sink with
  | .listener l => env.tell l (.command c)
  | .controller k =>
    ifKept env (.controller k) () do
      env.tell ((← get).controller k).listener (.device (.command c))

def deliver (env : Env σ) (i : InterfaceId) (payload : Bytes) : Act σ Unit := do
  match Command.decode payload with
  | .ok c =>
    trace i .received c
    hand env i c
  | .error f => warnFailure i "Undecodable command" f

def answer (env : Env σ) (i : InterfaceId) (frame : Frame) (complaint : String) : Act σ Unit := do
  recover (offer env i ((← get).interface i).pipe frame) (warnFailure i complaint)

/-- Handles a frame. One that repeats the number of the frame before it on its buffer is acknowledged
again but not delivered. -/
def receive (env : Env σ) (i : InterfaceId) (frame : Frame) : Act σ Unit := do
  let w ← get
  let x := w.interface i
  if x.closed then return
  mark (.arrived i frame)
  let header := frame.header
  match header.kind with
  | .ack =>
    match frame.payload with
    | seq :: _ => if header.acknowledges BufferId.toDeviceAck then acknowledged env i seq
    | [] => return
  | .dataWithAck =>
    let buffer := BufferId.ackOf header.id
    let seq ← drawSeq i buffer
    answer env i { header := ⟨.ack, buffer, seq⟩, payload := [header.seq] }
      "Failed to acknowledge frame"
    mark (.answered i w.history.length)
    let repeated ← modifyGet fun w =>
      let (repeated, x) := (w.interface i).noteReceived header.id header.seq
      (repeated, w.updateInterface i fun _ => x)
    if repeated then
      log .debug "Duplicate frame"
        [("device", x.device.label), ("id", Text.Decimal.render header.id.toNat),
          ("seq", Text.Decimal.render header.seq.toNat)]
    else deliver env i frame.payload
  | .data | .lowLatency =>
    if header.id = BufferId.ping then
      answer env i { header := ⟨.data, BufferId.pong, header.seq⟩, payload := frame.payload }
        "Failed to answer ping"
    else if header.id ≠ BufferId.pong then deliver env i frame.payload

def reportQuality (env : Env σ) (i : InterfaceId) (sent received useful : Int) : Act σ Unit := do
  let x := (← get).interface i
  log .debug "Link quality"
    [("device", x.device.label), ("tx", Text.Decimal.renderInt sent),
      ("rx", Text.Decimal.renderInt received), ("rx_useful", Text.Decimal.renderInt useful)]
  match x.sink with
  | .listener l => env.tell l (.quality sent received useful)
  | .controller _ => return

end Interface

/-- Hands an inbound frame to the receiver of a started pipe. -/
def Pipe.receive (env : Env σ) (p : PipeId) (frame : Frame) : Try σ Unit := do
  let pipe := (← get).pipe p
  if pipe.state ≠ .started then throw (refusal "receive on" pipe.state)
  match pipe.receiver with
  | none => throw (.notFound "frame receiver")
  | some receiver =>
    act (log .trace "Frame in" (frameFields frame))
    match receiver with
    | .listener l => act (env.tell l (.received frame))
    | .interface i => act (ifKept env (.interface i) () (Interface.receive env i frame))

end DroneControl
