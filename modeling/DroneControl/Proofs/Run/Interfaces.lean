import DroneControl.Interface.Inbound
import DroneControl.Proofs.Run.Ground
import DroneControl.Proofs.Run.Steps

/-!
# Closed properties of command interfaces

What is done to one interface leaves the others alone.  A property that does not look into an
interface holds of every operation on it; one that does look has operations of its own to answer for,
and the rest of the library is then built on `InterfaceCalls`.
-/

set_option synthInstance.maxSize 2048

namespace DroneControl

variable {σ : Type}

theorem Interface.pump_idles {w : World σ} {i : InterfaceId} (env : Env σ)
    (rests : (w.interface i).closed = true ∨ (w.interface i).inFlight.isSome ∨
      (w.interface i).queue = []) : (pump env i).run.run w = (.ok (), w) := by
  unfold pump
  rw [run_lookThen]
  dsimp only
  split
  · rfl
  · next ready =>
    simp only [Bool.or_eq_true, not_or] at ready
    rw [(rests.resolve_left ready.1).resolve_left ready.2]
    rfl

/-- The interface is kept by as many as before, has the same in flight and the same timer, and does not
open again. -/
structure Interface.Stays (x x' : Interface) : Prop where
  sharers : x'.sharers = x.sharers
  retryTimer : x'.retryTimer = x.retryTimer
  inFlight : x'.inFlight = x.inFlight
  closed : x.closed → x'.closed

class InterfaceSteps (Q : (α : Type) → Act σ α → Prop) (i : InterfaceId) : Prop where
  row : ∀ {α : Type} (f : World σ → α) (g : World σ → Interface → Interface),
    (∀ (w : World σ) (x : Interface), w.interfaces.find? i = some x → x.Stays (g w x)) →
    Q α (modifyGet fun w => (f w, w.updateInterface i (g w)))
  launch : ∀ f : InFlight, Holds Q (Interface.launch i f : Act σ Unit)
  clearFlight : Holds Q (Interface.clearFlight i : Act σ Unit)
  mark : ∀ o : Occurrence, o.concerns i → Q Unit (mark o)

class Overlooks (Q : (α : Type) → Act σ α → Prop) (i : InterfaceId) : Prop where
  row : ∀ {α : Type} (f : World σ → α) (g : World σ → Interface → Interface),
    Q α (modifyGet fun w => (f w, w.updateInterface i (g w)))
  retry : ∀ delay : Nat, Q TimerId (schedule delay (.retry i))
  cancel : ∀ t : TimerId, Q Unit (cancelTimer t)
  mark : ∀ o : Occurrence, o.concerns i → Q Unit (mark o)

class InterfaceLives (Q : (α : Type) → Act σ α → Prop) : Prop where
  createInterface : ∀ (h : DeviceHandle) (p : PipeId) (sink : CommandSink) (cell : TraceCellId),
    Holds Q (Interface.create h p sink cell : Act σ InterfaceId)
  closeInterface : ∀ i : InterfaceId, Holds Q (Interface.close i : Act σ Unit)

class InterfaceCalls (Q : (α : Type) → Act σ α → Prop) (env : Env σ) : Prop where
  send : ∀ (i : InterfaceId) (c : Command), Holds Q (Interface.send env i c).run
  receive : ∀ (i : InterfaceId) (frame : Frame), Holds Q (Interface.receive env i frame)

class InterfaceRetries (Q : (α : Type) → Act σ α → Prop) (env : Env σ) : Prop where
  retry : ∀ i : InterfaceId, Holds Q (Interface.retry env i)

attribute [instance] InterfaceSteps.launch InterfaceSteps.clearFlight InterfaceLives.createInterface
  InterfaceLives.closeInterface InterfaceCalls.send InterfaceCalls.receive InterfaceRetries.retry

namespace Interface

variable {Q : (α : Type) → Act σ α → Prop} {env : Env σ} {i : InterfaceId}

instance steps_overlooked [Closed Q] [o : Overlooks Q i] : InterfaceSteps Q i := by
  have updated : ∀ f, Holds Q (modify (·.updateInterface i f) : Act σ Unit) :=
    fun f => ⟨o.row (fun _ => ()) fun _ => f⟩
  have scheduled : ∀ delay, Holds Q (schedule delay (.retry i) : Act σ TimerId) :=
    fun delay => ⟨o.retry delay⟩
  have canceled : ∀ t, Holds Q (cancelTimer? t : Act σ Unit) := by
    intro t
    cases t with
    | none => exact Holds.pure ()
    | some t => exact ⟨o.cancel t⟩
  have timed : ∀ timer, Holds Q (setTimer i timer : Act σ Unit) := by
    intro timer
    unfold setTimer
    infer_instance
  refine ⟨fun f g _ => o.row f g, fun f => ?_, ?_, o.mark⟩
  · unfold launch
    infer_instance
  · unfold clearFlight
    infer_instance

instance trace_holds [Footing Q] (direction : Direction) (c : Command) :
    Holds Q (trace i direction c : Act σ Unit) := by
  unfold trace
  infer_instance

instance warnFailure_holds [Footing Q] (message : String) (f : Fault) :
    Holds Q (warnFailure i message f : Act σ Unit) := by
  unfold warnFailure
  infer_instance

section Steps

variable [steps : InterfaceSteps Q i]

theorem update_holds {f : Interface → Interface}
    (same : ∀ x : Interface, x.Stays (f x)) : Holds Q (modify (·.updateInterface i f) : Act σ Unit) :=
  ⟨steps.row (fun _ => ()) (fun _ => f) fun _ x _ => same x⟩

instance drawSeq_holds (buffer : UInt8) : Holds Q (drawSeq i buffer : Act σ UInt8) :=
  ⟨steps.row (fun w => ((w.interface i).takeSeq buffer).1)
    (fun w _ => ((w.interface i).takeSeq buffer).2) fun w x found => by
      rw [World.interface_of_find? found]
      exact ⟨rfl, rfl, rfl, id⟩⟩

instance noteReceived_holds (buffer seq : UInt8) :
    Holds Q (modifyGet fun w =>
      let (repeated, x) := (w.interface i).noteReceived buffer seq
      (repeated, w.updateInterface i fun _ => x) : Act σ Bool) :=
  ⟨steps.row (fun w => ((w.interface i).noteReceived buffer seq).1)
    (fun w _ => ((w.interface i).noteReceived buffer seq).2) fun w x found => by
      rw [World.interface_of_find? found]
      exact ⟨rfl, rfl, rfl, id⟩⟩

variable [g : Footing Q]

theorem close_of_steps : Holds Q (close i : Act σ Unit) := by
  have shut : Holds Q (modify (·.updateInterface i fun x =>
      { x with closed := true, queue := [] }) : Act σ Unit) := update_holds fun _ => ⟨rfl, rfl, rfl, fun _ => rfl⟩
  have closed : Holds Q (mark (.closed i) : Act σ Unit) := ⟨steps.mark _ rfl⟩
  unfold close
  infer_instance

variable [Served Q env]

instance offer_holds (p : PipeId) (frame : Frame) : Holds Q (offer env i p frame).run := by
  have offered : Holds Q (mark (.offered i frame) : Act σ Unit) := ⟨steps.mark _ rfl⟩
  have refused : ∀ place, Holds Q (mark (.refused i place) : Act σ Unit) :=
    fun _ => ⟨steps.mark _ rfl⟩
  unfold offer
  infer_instance

instance pump_holds : Holds Q (pump env i).run := by
  have taken : ∀ queue, Holds Q (modify (·.updateInterface i fun x => { x with queue }) : Act σ Unit) :=
    fun _ => update_holds fun _ => ⟨rfl, rfl, rfl, id⟩
  unfold pump
  refine Holds.tryBind (h := fun w => ?_)
  dsimp only
  split
  · infer_instance
  · cases (w.interface i).queue with
    | nil => infer_instance
    | cons data queue => exact Holds.tryBind (h := fun _ => inferInstance)

instance acknowledged_holds (seq : UInt8) : Holds Q (acknowledged env i seq) := by
  unfold acknowledged
  infer_instance

instance answer_holds (frame : Frame) (complaint : String) :
    Holds Q (answer env i frame complaint) := by
  unfold answer
  infer_instance

theorem send_of_steps (c : Command) : Holds Q (send env i c).run := by
  have queued : Holds Q (mark (.queued i c.data) : Act σ Unit) := ⟨steps.mark _ rfl⟩
  have waits : Holds Q (modify (·.updateInterface i fun x =>
      { x with queue := x.queue ++ [c.data] }) : Act σ Unit) := update_holds fun _ => ⟨rfl, rfl, rfl, id⟩
  unfold send
  refine Holds.tryBind (h := fun w => ?_)
  dsimp only
  cases c.delivery <;> infer_instance

theorem retry_of_steps : Holds Q (retry env i) := by
  unfold retry
  refine Holds.bind (h := fun w => ?_)
  dsimp only
  cases (w.interface i).inFlight <;> infer_instance

end Steps

variable [g : Base Q]

section Receiving

variable [steps : InterfaceSteps Q i] [Upheld Q env]

instance hand_holds (c : Command) : Holds Q (hand env i c) := by
  have delivered : Holds Q (mark (.delivered i c) : Act σ Unit) := ⟨steps.mark _ rfl⟩
  unfold hand
  refine Holds.bind (h := fun _ => Holds.bind (h := fun w => ?_))
  cases (w.interface i).sink <;> infer_instance

instance deliver_holds (payload : Bytes) : Holds Q (deliver env i payload) := by
  unfold deliver
  split <;> infer_instance

theorem receive_of_steps (frame : Frame) : Holds Q (receive env i frame) := by
  have arrived : Holds Q (mark (.arrived i frame) : Act σ Unit) := ⟨steps.mark _ rfl⟩
  have answered : ∀ place, Holds Q (mark (.answered i place) : Act σ Unit) :=
    fun _ => ⟨steps.mark _ rfl⟩
  unfold receive
  refine Holds.bind (h := fun w => ?_)
  dsimp only
  cases frame.header.kind with
  | ack => cases frame.payload <;> infer_instance
  | dataWithAck => infer_instance
  | data => infer_instance
  | lowLatency => infer_instance

end Receiving

theorem lives_of_steps [∀ i, InterfaceSteps Q i]
    (add : ∀ device pipe sink traceCell, Q InterfaceId (modifyGet fun w =>
      let (i, interfaces) := w.interfaces.add { device, pipe, sink, traceCell }
      (i, { w with interfaces }))) : InterfaceLives Q where
  createInterface h p sink cell := by
    have added := Holds.mk (add h p sink cell)
    unfold create
    infer_instance
  closeInterface _ := close_of_steps

theorem calls_of_steps [Upheld Q env] [∀ i, InterfaceSteps Q i] : InterfaceCalls Q env where
  send _ c := send_of_steps c
  receive _ frame := receive_of_steps frame

theorem retries_of_steps [Upheld Q env] [∀ i, InterfaceSteps Q i] : InterfaceRetries Q env where
  retry _ := retry_of_steps

variable [Upheld Q env]

instance reportQuality_holds (sent received useful : Int) :
    Holds Q (reportQuality env i sent received useful) := by
  unfold reportQuality
  refine Holds.bind (h := fun w => Holds.bind (h := fun _ => ?_))
  cases (w.interface i).sink <;> infer_instance

end Interface

instance Pipe.receive_holds {Q : (α : Type) → Act σ α → Prop} {env : Env σ} [Base Q]
    [Upheld Q env] [InterfaceCalls Q env] (p : PipeId) (frame : Frame) :
    Holds Q (Pipe.receive env p frame).run := by
  unfold Pipe.receive
  refine Holds.tryBind (h := fun w => ?_)
  dsimp only
  cases (w.pipe p).receiver with
  | none => infer_instance
  | some receiver => cases receiver <;> infer_instance

end DroneControl
