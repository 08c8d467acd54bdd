import DroneControl.Device.Info
import DroneControl.World.Table

/-!
The event loop: a clock in milliseconds, work waiting in order of arrival, and timers. A one-shot timer
is gone once it fires; a periodic one has its next deadline set after its ticks. Cancelling a timer
takes its row away, and work that was waiting for it then does nothing.
-/

namespace DroneControl

/-- Work that the loop does later. -/
inductive Job where
  /-- Connects an attempt over a channel, unless it was closed meanwhile. -/
  | establish (connection : ConnectionId) (channel : ChannelId) (api : DeviceApi)
  /-- Sends the command in flight again, or gives it up. -/
  | retry (interface : InterfaceId)
  /-- Tells a controller's listener to send what is best effort. -/
  | tick (controller : ControllerId)
  /-- Runs what a user of the loop handed in. -/
  | call (listener : ListenerId)
  deriving DecidableEq, Repr

structure Timer where
  deadline : Nat
  /-- `none` for a one-shot. -/
  period : Option Nat
  job : Job
  deriving DecidableEq, Repr

/-- Work that waits for its turn. -/
inductive Task where
  | run (job : Job)
  | wake (timer : TimerId)
  deriving DecidableEq, Repr

structure Loop where
  clock : Nat := 0
  queue : List Task := []
  timers : Table .timer Timer := {}

namespace Loop

def defer (l : Loop) (job : Job) : Loop := { l with queue := l.queue ++ [.run job] }

def after (l : Loop) (delay : Nat) (job : Job) : TimerId × Loop :=
  let (t, timers) := l.timers.add ⟨l.clock + delay, none, job⟩
  let queue := if delay = 0 then l.queue ++ [.wake t] else l.queue
  (t, { l with timers, queue })

def periodic (l : Loop) (period : Nat) (job : Job) : TimerId × Loop :=
  let (t, timers) := l.timers.add ⟨l.clock + period, some period, job⟩
  (t, { l with timers })

def cancel (l : Loop) (t : TimerId) : Loop := { l with timers := l.timers.erase t }

def cancel? (l : Loop) : Option TimerId → Loop
  | none => l
  | some t => l.cancel t

def cancelCall (l : Loop) (t : TimerId) : Loop :=
  match (l.timers.find? t).map Timer.job with
  | some (.call _) => l.cancel t
  | _ => l

def take (l : Loop) : Option Task × Loop :=
  match l.queue with
  | [] => (none, l)
  | task :: queue => (some task, { l with queue })

def due (l : Loop) : List TimerId :=
  let ripe := l.timers.toList.filter fun row => row.2.deadline ≤ l.clock
  (ripe.mergeSort fun a b => a.2.deadline ≤ b.2.deadline).map (·.1)

def forward (l : Loop) (ms : Nat) : Loop :=
  let l := { l with clock := l.clock + ms }
  { l with queue := l.queue ++ l.due.map .wake }

def restart (l : Loop) (t : TimerId) (deadline : Nat) : Loop :=
  { l with timers := l.timers.update t fun timer => { timer with deadline } }

def nextDeadline (deadline now period : Nat) : Nat :=
  if now - deadline ≤ 5 then deadline + period else now + period

end Loop

end DroneControl
