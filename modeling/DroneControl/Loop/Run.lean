import DroneControl.Controller.Control
import DroneControl.World.Reaping

/-!
Running the loop. Work is done in order of arrival, and work that it puts in the queue after it; time
moves only when the queue is empty.
-/

namespace DroneControl.Loop

variable {σ : Type}

def perform (env : Env σ) (job : Job) : Act σ Unit :=
  match job with
  | .establish c channel api => Backend.establish env c channel api
  | .retry i => ifKept env (.interface i) () (Interface.retry env i)
  | .tick c => Controller.tick env c
  | .call l => env.tell l .fired

def beat (env : Env σ) (job : Job) (turn period now deadline : Nat) : Nat → Act σ Nat
  | 0 => return deadline
  | fuel + 1 =>
    if deadline ≤ now then do
      mark (.beats turn)
      perform env job
      beat env job turn period now (nextDeadline deadline now period) fuel
    else return deadline

/-- The timer's turn; it may have been cancelled. -/
def wake (env : Env σ) (t : TimerId) : Act σ Unit := do
  let w ← get
  match w.loop.timers.find? t with
  | none => return
  | some timer =>
    match timer.period with
    | none =>
      cancelTimer t
      perform env timer.job
    | some period =>
      let now := w.loop.clock
      let turn := w.history.length
      let deadline ← beat env timer.job turn period now timer.deadline (now + 1 - timer.deadline)
      modify fun w => { w with loop := w.loop.restart t deadline }

def runTask (env : Env σ) : Task → Act σ Unit
  | .run job => perform env job
  | .wake t => wake env t

def takeTask : Act σ (Option Task) :=
  modifyGet fun w => let (task, loop) := w.loop.take; (task, { w with loop })

def drain (env : Env σ) : Nat → Act σ Unit
  | 0 => return
  | fuel + 1 => do
    match ← takeTask with
    | none => return
    | some task =>
      runTask env task
      drain env fuel

def settle (env : Env σ) (extra : Nat) : Act σ Unit := do
  drain env ((← get).loop.queue.length + extra)

def pass (env : Env σ) (extra ms : Nat) : Act σ Unit := do
  modify fun w => { w with loop := w.loop.forward ms }
  settle env extra

def jump (env : Env σ) (extra ms : Nat) : Act σ Unit := do
  settle env extra
  pass env extra ms

def passEach (env : Env σ) (extra : Nat) : Nat → Act σ Unit
  | 0 => return
  | ms + 1 => do
    pass env extra 1
    passEach env extra ms

def advance (env : Env σ) (extra ms : Nat) : Act σ Unit := do
  settle env extra
  passEach env extra ms

end DroneControl.Loop
