import DroneControl.World.Basic

/-!
What a frame pipe does: it starts, stops and sends through its link, and refuses what its state does
not allow.
-/

namespace DroneControl.Pipe

variable {σ : Type}

def create (link : Link) : Act σ PipeId :=
  modifyGet fun w => let (p, pipes) := w.pipes.add { link }; (p, { w with pipes })

def setReceiver (p : PipeId) (receiver : Receiver) : Act σ Unit :=
  modify (·.updatePipe p fun pipe => { pipe with receiver := some receiver })

def clearReceiver (p : PipeId) : Act σ Unit :=
  modify (·.updatePipe p fun pipe => { pipe with receiver := none })

def refusal (doing : String) (state : PipeState) : Fault :=
  .protocol ("cannot " ++ doing ++ " pipe in state " ++ state.name)

def startLink (env : Env σ) : Link → Try σ Unit
  | .supplied link => env.ask (.startLink link)
  | .channel _ => return

def stopLink (env : Env σ) (p : PipeId) (state : PipeState) : Link → Try σ Unit
  | .supplied link => do
    act (modify (·.updatePipe p (·.severed state)))
    env.ask (.stopLink link)
  | .channel _ => act (modify (·.updatePipe p (·.halted state)))

def start (env : Env σ) (p : PipeId) : Try σ Unit := do
  let pipe := (← get).pipe p
  if pipe.state ≠ .created then throw (refusal "start" pipe.state)
  startLink env pipe.link
  act (modify (·.updatePipe p begun))
  act (log .debug "Frame pipe started" [])

def stop (env : Env σ) (p : PipeId) : Try σ Unit := do
  let pipe := (← get).pipe p
  if pipe.state ≠ .started then throw (refusal "stop" pipe.state)
  stopLink env p .stopped pipe.link
  act (log .debug "Frame pipe stopped" [])

def dispose (env : Env σ) (p : PipeId) : Act σ Unit := do
  let pipe := (← get).pipe p
  if pipe.state = .started then
    recover (stopLink env p .disposed pipe.link) fun f =>
      log .debug "Link stop failed during dispose" [("error", f.message)]
  else modify (·.updatePipe p dropped)

def frameFields (f : Frame) : List (String × String) :=
  [("id", Text.Decimal.render f.header.id.toNat), ("seq", Text.Decimal.render f.header.seq.toNat),
    ("len", Text.Decimal.render f.payload.length)]

def send (env : Env σ) (p : PipeId) (frame : Frame) : Try σ Unit := do
  let pipe := (← get).pipe p
  if pipe.state ≠ .started then throw (refusal "send on" pipe.state)
  act (log .trace "Frame out" (frameFields frame))
  env.ask (.sendFrame pipe.link frame)

end DroneControl.Pipe
