import DroneControl.Protocol.Trace

/-!
Command interfaces. One sits on the pipe of an established connection. Commands without
acknowledgement go out at once; the others wait in a queue, one of them in flight and sent again
until it is acknowledged or given up. Sequence numbers count within each buffer.
-/

namespace DroneControl

def retryDelay : Nat := 150

def maxRetries : Nat := 5

/-- The command that waits for its acknowledgement. -/
structure InFlight where
  seq : UInt8
  data : Bytes
  retries : Nat
  deriving DecidableEq, Repr, Inhabited

/-- Who gets decoded commands: a device controller, which is not kept alive by it, or a listener. -/
inductive CommandSink where
  | controller (controller : ControllerId)
  | listener (listener : ListenerId)
  deriving DecidableEq, Repr

instance : Inhabited CommandSink := ⟨.listener ⟨0⟩⟩

structure Interface where
  /-- How many more than one keep the interface. -/
  sharers : Nat := 0
  device : DeviceHandle
  pipe : PipeId
  sink : CommandSink
  traceCell : TraceCellId
  closed : Bool := false
  /-- The last number sent on each buffer; the first number to be sent is zero. -/
  lastSent : UInt8 → UInt8 := fun _ => 255
  /-- The last number received on each buffer. -/
  lastReceived : UInt8 → Option UInt8 := fun _ => none
  queue : List Bytes := []
  inFlight : Option InFlight := none
  retryTimer : Option TimerId := none

instance : Inhabited Interface :=
  ⟨{ device := default, pipe := default, sink := default, traceCell := default, closed := true }⟩

namespace Interface

def takeSeq (i : Interface) (buffer : UInt8) : UInt8 × Interface :=
  let seq := i.lastSent buffer + 1
  (seq, { i with lastSent := fun b => if b = buffer then seq else i.lastSent b })

def noteReceived (i : Interface) (buffer seq : UInt8) : Bool × Interface :=
  (i.lastReceived buffer = some seq,
    { i with lastReceived := fun b => if b = buffer then some seq else i.lastReceived b })

def awaits (i : Interface) (seq : UInt8) : Bool :=
  match i.inFlight with
  | some f => f.seq = seq
  | none => false

def pending (i : Interface) : Nat := i.queue.length + (if i.inFlight.isSome then 1 else 0)

def inspect (i : Interface) : String :=
  Text.outlineOpen "CommandInterface"
    [("device", i.device.inspect), ("closed", Text.outlineBool i.closed)]

end Interface

end DroneControl
