import DroneControl.Proofs.Interface.Sending
import DroneControl.Proofs.Interface.Silence

/-!
# What an interface does about the frames that come in

As long as its collaborators do not call back, an interface deals with one frame after another.
What it does about a frame follows from the frame and from those before it: the memory of its row is
the number of the last frame that asked to be acknowledged on each buffer.  Whatever else is done in
between, and whatever the pipe says to the answers, leaves no trace in these dealings.
-/

set_option synthInstance.maxSize 2048

namespace DroneControl

variable {σ α : Type} {i : InterfaceId} {w w' : World σ} {env : Env σ} {x : Interface}

/-! ## Collaborators that do not call back -/

/-- Whatever it is told or asked, the host only thinks. -/
inductive Mute : Env σ → Prop where
  | innermost {env : Env σ} (reacts : Reacts (Program Thought) env)
      (reaps : ∀ item, Program Thought _ (env.reap item)) : Mute env
  | around {inner env : Env σ} (mute : Mute inner) (reacts : Reacts (Program Thought) env)
      (reaps : env.reap = reap inner) : Mute env

namespace Mute

theorem reacts (mute : Mute env) : Reacts (Program Thought) env := by
  cases mute <;> assumption

theorem upheld {Q : (α : Type) → Act σ α → Prop} [Alone Q]
    (answers : ∀ env : Env σ, Mute env → Upheld Q env → Together Q env) (mute : Mute env) :
    Upheld Q env := by
  induction mute with
  | innermost reacts reaps =>
    exact reacts.upholds Thought.program_holds fun item => Thought.program_holds (reaps item)
  | @around inner env mute reacts reaps ih =>
    have := answers inner mute ih
    refine reacts.upholds Thought.program_holds fun item => ?_
    rw [reaps]
    exact (reap_holds item).holds

theorem run_tell (mute : Mute env) (l : ListenerId) (event : Event) (w : World σ) :
    ∃ host journal, ((env.tell l event).run w).2 = { w with host, journal } :=
  Thought.program_quiet (mute.reacts.tell l event) w

theorem run_sendFrame (mute : Mute env) (link : Link) (frame : Frame) (w : World σ) :
    ∃ host journal, ((env.ask (.sendFrame link frame)).run.run w).2 = { w with host, journal } :=
  Thought.program_quiet (mute.reacts.ask (.sendFrame link frame) fun _ => nofun) w

end Mute

/-! ## What is to be done about a frame -/

namespace Frame

def carriesCommand (f : Frame) : Bool :=
  f.isCommand || f.header.kind = .data && f.header.id = BufferId.toDeviceNonAck

/-- The number of the last of the frames that asks to be acknowledged on the buffer. -/
def lastNumber (before : List Frame) (buffer : UInt8) : Option UInt8 :=
  (before.filter fun f => f.header.kind = .dataWithAck && f.header.id = buffer).getLast?.map
    (·.header.seq)

/-- What a frame is answered with. An acknowledgement has a number of its own. -/
def answers (f : Frame) (number : UInt8) : List Frame :=
  match f.header.kind with
  | .dataWithAck =>
    [{ header := ⟨.ack, f.header.id + 128, number⟩, payload := [f.header.seq] }]
  | .data | .lowLatency =>
    if f.header.id = 0 then [{ header := ⟨.data, 1, f.header.seq⟩, payload := f.payload }] else []
  | .ack => []

/-- The command to be handed over, given the numbers that came in last. -/
def command? (f : Frame) (last : UInt8 → Option UInt8) : Option Command :=
  match f.header.kind with
  | .dataWithAck =>
    if last f.header.id = some f.header.seq then none else (Command.decode f.payload).toOption
  | .data | .lowLatency =>
    if f.header.id = 0 ∨ f.header.id = 1 then none else (Command.decode f.payload).toOption
  | .ack => none

/-- What an interface is to do about a frame: it answers, and then it hands over the command. -/
def dealings (f : Frame) (i : InterfaceId) (last : UInt8 → Option UInt8) (number : UInt8) :
    List Occurrence :=
  .arrived i f :: ((f.answers number).map (.offered i) ++
    (f.command? last).toList.map (.delivered i))

end Frame

/-- What an interface does about a frame that comes in after others. It hands over what came in. -/
structure Deals (i : InterfaceId) (before : List Frame) (f : Frame) (now : List Occurrence) :
    Prop where
  course : ∃ number, now = f.dealings i (Frame.lastNumber before) number
  bytes : ∀ c, .delivered i c ∈ now → c.data = f.payload

/-- One frame after another is dealt with. -/
inductive DealsInTurn (i : InterfaceId) : List Frame → List Occurrence → Prop where
  | none : DealsInTurn i [] []
  | next {before : List Frame} {past now : List Occurrence} {f : Frame}
      (earlier : DealsInTurn i before past) (deals : Deals i before f now) :
      DealsInTurn i (before ++ [f]) (past ++ now)

namespace Occurrence

def arrived? (i : InterfaceId) : Occurrence → Option Frame
  | .arrived i' frame => if i' = i then some frame else none
  | _ => none

/-- The interface gets a frame, offers one that carries none of its commands, or hands over a
command. -/
def deals (i : InterfaceId) : Occurrence → Bool
  | .arrived i' _ | .delivered i' _ => i' = i
  | .offered i' frame => i' = i && !frame.carriesCommand
  | _ => false

end Occurrence

namespace World

def arrivals (w : World σ) (i : InterfaceId) : List Frame :=
  w.chronicle.filterMap (·.what.arrived? i)

/-- What the interface did about them, in order. -/
def dealings (w : World σ) (i : InterfaceId) : List Occurrence :=
  (w.chronicle.map (·.what)).filter (·.deals i)

end World

/-! ## What concerns incoming frames -/

/-- What an interface is to know of the frames that came in. -/
structure Inlet where
  closed : Bool
  last : UInt8 → Option UInt8

def Interface.inlet (x : Interface) : Inlet := ⟨x.closed, x.lastReceived⟩

def Inlet.after (x : Inlet) (f : Frame) : Inlet :=
  if f.header.kind = .dataWithAck then
    { x with last := fun b => if b = f.header.id then some f.header.seq else x.last b }
  else x

/-- The part of a world that matters for what an interface does about frames. -/
structure Intake where
  known : Nat
  inlet : Option Inlet
  arrivals : List Frame
  dealings : List Occurrence

def World.intake (w : World σ) (i : InterfaceId) : Intake where
  known := w.interfaces.next
  inlet := (w.interfaces.find? i).map (·.inlet)
  arrivals := w.arrivals i
  dealings := w.dealings i

def Intake.note (y : Intake) (i : InterfaceId) (o : Occurrence) : Intake :=
  { y with
    arrivals := y.arrivals ++ (o.arrived? i).toList
    dealings := y.dealings ++ [o].filter (·.deals i) }

def Intake.dealt (y : Intake) (now : List Occurrence) : Intake :=
  { y with dealings := y.dealings ++ now }

/-- The interface takes a frame, with what it knows of the frames before. -/
def Intake.take (y : Intake) (i : InterfaceId) (f : Frame) (inlet : Inlet) (number : UInt8) :
    Intake where
  known := y.known
  inlet := some (inlet.after f)
  arrivals := y.arrivals ++ [f]
  dealings := y.dealings ++ f.dealings i inlet.last number

@[simp] theorem Intake.dealt_nil (y : Intake) : y.dealt [] = y := by simp [dealt]

namespace World

theorem intake_mark (w : World σ) (o : Occurrence) :
    (w.mark o).intake i = (w.intake i).note i o := by
  have frames : (w.mark o).arrivals i = w.arrivals i ++ (o.arrived? i).toList := by
    cases arrived : o.arrived? i <;>
      simp [arrivals, chronicle_mark, List.filterMap_append, arrived]
  have dealt : (w.mark o).dealings i = w.dealings i ++ [o].filter (·.deals i) := by
    simp [dealings]
  simp only [intake, Intake.note, frames, dealt]
  rfl

theorem intake_log (w : World σ) (s : Severity) (message : String)
    (fields : List (String × String)) : (w.log s message fields).intake i = w.intake i := by
  unfold log
  split <;> rfl

theorem intake_update (w : World σ) (f : Interface → Interface) :
    (w.updateInterface i f).intake i =
      { w.intake i with inlet := (w.interfaces.find? i).map fun x => (f x).inlet } := by
  simp only [intake, updateInterface, Table.find?_update, Table.next_update, if_true,
    Option.map_map]
  rfl

theorem intake_update_same (w : World σ) {f : Interface → Interface}
    (same : ∀ x, (f x).inlet = x.inlet) : (w.updateInterface i f).intake i = w.intake i := by
  simp only [intake_update, same]
  rfl

theorem find?_of_open {w : World σ} (opened : (w.interface i).closed = false) :
    ∃ x, w.interfaces.find? i = some x ∧ x.closed = false := by
  unfold interface Table.get at opened
  cases found : w.interfaces.find? i with
  | none => simp [found, default] at opened
  | some x => exact ⟨x, rfl, by simpa [found] using opened⟩

end World

theorem Spares.intake (spares : Spares i w w') :
    w'.arrivals i = w.arrivals i ∧ w'.dealings i = w.dealings i := by
  obtain ⟨more, grown, aside⟩ := spares.history
  have unarrived : more.filterMap (·.what.arrived? i) = [] := by
    rw [List.filterMap_eq_nil_iff]
    rintro ⟨t, o⟩ among
    have := aside _ among
    cases o <;> simp_all [Occurrence.concerns, Occurrence.arrived?]
  have undealt : ∀ y ∈ more, y.what.deals i = false := by
    rintro ⟨t, o⟩ among
    have := aside _ among
    cases o <;> simp_all [Occurrence.concerns, Occurrence.deals]
  constructor
  · simp [World.arrivals, World.chronicle, grown, List.filterMap_reverse, unarrived]
  · simpa [World.dealings, World.chronicle, grown] using undealt

def Undealt (i : InterfaceId) (w w' : World σ) : Prop := w'.intake i = w.intake i

namespace Undealt

instance closed : Closed (Keeps (σ := σ) (Undealt i)) :=
  Keeps.closed (fun _ => rfl) fun h h' => h'.trans h

instance log_still (s : Severity) (message : String) (fields : List (String × String)) :
    Holds (Keeps (Undealt i)) (log s message fields : Act σ Unit) :=
  ⟨fun w => w.intake_log s message fields⟩

instance cancelTimer?_still (t : Option TimerId) :
    Holds (Keeps (Undealt i)) (cancelTimer? t : Act σ Unit) :=
  ⟨fun w => by rw [run_cancelTimer?]; rfl⟩

instance schedule_still (delay : Nat) (job : Job) :
    Holds (Keeps (Undealt i)) (schedule delay job : Act σ TimerId) :=
  ⟨fun _ => rfl⟩

theorem update_still {f : Interface → Interface} (same : ∀ x, (f x).inlet = x.inlet) :
    Holds (Keeps (Undealt i)) (modify (·.updateInterface i f) : Act σ Unit) :=
  ⟨fun w => w.intake_update_same same⟩

theorem mark_still {o : Occurrence} (aside : o.deals i = false) (waits : o.arrived? i = none) :
    Holds (Keeps (Undealt i)) (mark o : Act σ Unit) := by
  refine ⟨fun w => ?_⟩
  rw [run_mark]
  simp [Undealt, World.intake_mark, Intake.note, aside, waits]

end Undealt

namespace Interface

open Undealt

instance trace_still (direction : Direction) (c : Command) :
    Holds (Keeps (Undealt i)) (trace i direction c : Act σ Unit) := by
  have noted (text : String) : Holds (Keeps (Undealt i))
      (modify (·.note "log" Severity.info.name [.text text]) : Act σ Unit) :=
    ⟨fun _ => rfl⟩
  unfold trace
  infer_instance

instance warnFailure_still (message : String) (f : Fault) :
    Holds (Keeps (Undealt i)) (warnFailure i message f : Act σ Unit) := by
  unfold warnFailure
  infer_instance

instance setTimer_still (timer : Option TimerId) :
    Holds (Keeps (Undealt i)) (setTimer i timer : Act σ Unit) := by
  have placed : Holds (Keeps (Undealt i))
      (modify (·.updateInterface i fun x => { x with retryTimer := timer }) : Act σ Unit) :=
    update_still fun _ => rfl
  unfold setTimer
  infer_instance

instance clearFlight_still : Holds (Keeps (Undealt i)) (clearFlight i : Act σ Unit) := by
  have cleared : Holds (Keeps (Undealt i))
      (modify (·.updateInterface i fun x => { x with inFlight := none }) : Act σ Unit) :=
    update_still fun _ => rfl
  unfold clearFlight
  infer_instance

instance launch_still (f : InFlight) : Holds (Keeps (Undealt i)) (launch i f : Act σ Unit) := by
  have placed : Holds (Keeps (Undealt i))
      (modify (·.updateInterface i fun x => { x with inFlight := some f }) : Act σ Unit) :=
    update_still fun _ => rfl
  unfold launch
  infer_instance

instance drawSeq_still (buffer : UInt8) :
    Holds (Keeps (Undealt i)) (drawSeq i buffer : Act σ UInt8) := by
  refine ⟨fun w => ?_⟩
  unfold drawSeq
  rw [run_modifyGet]
  rw [Undealt, World.intake_update]
  cases found : w.interfaces.find? i <;>
    simp [World.intake, World.interface, Table.get, found, takeSeq, inlet]

/-! ## Sending, and sending again -/

theorem offer_intake (mute : Mute env) (p : PipeId) (frame : Frame) (w : World σ) :
    ((offer env i p frame).run.run w).2.intake i = (w.intake i).note i (.offered i frame) := by
  have asked (link : Link) :
      Holds (Keeps (Undealt i)) (env.ask (.sendFrame link frame)).run := by
    refine ⟨fun w => ?_⟩
    obtain ⟨host, journal, same⟩ := mute.run_sendFrame link frame w
    rw [same]
    rfl
  have refused (place : Nat) : Holds (Keeps (σ := σ) (Undealt i)) (mark (.refused i place)) :=
    mark_still rfl rfl
  have sent : Holds (Keeps (Undealt i)) (Pipe.send env p frame).run := by
    unfold Pipe.send
    dsimp only
    infer_instance
  have rest : Holds (Keeps (Undealt i))
      (onFailure (Pipe.send env p frame) fun _ => mark (.refused i w.history.length)).run :=
    inferInstance
  unfold offer
  rw [run_lookThen, run_actThen, run_mark]
  exact (rest.holds _).trans (w.intake_mark _)

theorem offer_still (mute : Mute env) (p : PipeId) {frame : Frame}
    (carries : frame.carriesCommand) : Holds (Keeps (Undealt i)) (offer env i p frame).run := by
  refine ⟨fun w => ?_⟩
  rw [Undealt, offer_intake mute]
  simp [Intake.note, Occurrence.arrived?, Occurrence.deals, carries]

theorem pump_still (mute : Mute env) : Holds (Keeps (Undealt i)) (pump env i).run := by
  have offered (p : PipeId) (seq : UInt8) (data : Bytes) :
      Holds (Keeps (Undealt i)) (offer env i p (ackFrame seq data)).run :=
    offer_still mute p rfl
  have queued (queue : List Bytes) : Holds (Keeps (Undealt i))
      (modify (·.updateInterface i fun x => { x with queue }) : Act σ Unit) :=
    update_still fun _ => rfl
  unfold pump
  refine Holds.tryBind (h := fun w => ?_)
  dsimp only
  split
  · infer_instance
  · cases (w.interface i).queue with
    | nil => infer_instance
    | cons data queue => exact Holds.tryBind (h := fun _ => inferInstance)

theorem acknowledged_still (mute : Mute env) (seq : UInt8) :
    Holds (Keeps (Undealt i)) (acknowledged env i seq) := by
  have := pump_still (i := i) mute
  unfold acknowledged
  infer_instance

theorem send_still (mute : Mute env) (c : Command) :
    Holds (Keeps (Undealt i)) (send env i c).run := by
  have := pump_still (i := i) mute
  have offered (p : PipeId) (seq : UInt8) : Holds (Keeps (Undealt i)) (offer env i p
      { header := ⟨.data, BufferId.toDeviceNonAck, seq⟩, payload := c.data }).run :=
    offer_still mute p rfl
  have queued : Holds (Keeps (Undealt i)) (modify (·.updateInterface i fun x =>
      { x with queue := x.queue ++ [c.data] }) : Act σ Unit) :=
    update_still fun _ => rfl
  have marked : Holds (Keeps (σ := σ) (Undealt i)) (mark (.queued i c.data)) := mark_still rfl rfl
  unfold send
  refine Holds.tryBind (h := fun w => ?_)
  dsimp only
  cases c.delivery <;> infer_instance

theorem retry_still (mute : Mute env) : Holds (Keeps (Undealt i)) (retry env i) := by
  have := pump_still (i := i) mute
  have offered (p : PipeId) (seq : UInt8) (data : Bytes) :
      Holds (Keeps (Undealt i)) (offer env i p (ackFrame seq data)).run :=
    offer_still mute p rfl
  unfold retry
  refine Holds.bind (h := fun w => ?_)
  dsimp only
  cases (w.interface i).inFlight <;> infer_instance

/-! ## Receiving -/

theorem answer_intake (mute : Mute env) {frame : Frame} (complaint : String)
    (plain : frame.carriesCommand = false) (w : World σ) :
    ((answer env i frame complaint).run w).2.intake i = (w.intake i).dealt [.offered i frame] := by
  have offered := offer_intake (i := i) mute (w.interface i).pipe frame w
  have warned (f : Fault) (w : World σ) := (warnFailure_still (i := i) complaint f).holds w
  unfold answer
  rw [run_bind, run_get, run_recover]
  generalize (offer env i (w.interface i).pipe frame).run.run w = taken at offered ⊢
  obtain ⟨result, w'⟩ := taken
  have noted : w'.intake i = (w.intake i).dealt [.offered i frame] := by
    rw [offered]
    simp [Intake.note, Intake.dealt, Occurrence.arrived?, Occurrence.deals, plain]
  cases result with
  | ok _ => exact noted
  | error f => exact (warned f w').trans noted

theorem hand_intake (mute : Mute env) (c : Command) (w : World σ) :
    ((hand env i c).run w).2.intake i = (w.intake i).dealt [.delivered i c] := by
  have marked : (w.mark (.delivered i c)).intake i = (w.intake i).dealt [.delivered i c] := by
    rw [World.intake_mark]
    simp [Intake.note, Intake.dealt, Occurrence.arrived?, Occurrence.deals]
  unfold hand
  rw [run_bind, run_mark, run_bind, run_get, ← marked]
  generalize w.mark (.delivered i c) = w₁
  dsimp only
  cases (w₁.interface i).sink with
  | listener l =>
    obtain ⟨host, journal, same⟩ := mute.run_tell l (.command c) w₁
    dsimp only
    rw [same]
    rfl
  | controller k =>
    dsimp only
    rw [run_ifKept]
    split
    · next kept =>
      obtain ⟨y, there⟩ := Option.isSome_iff_exists.mp
        (by simpa [World.isKept, World.item?] using kept : (w₁.controllers.find? k).isSome)
      let w₂ := w₁.reshare (· + 1) (.controller k)
      obtain ⟨host, journal, same⟩ :=
        mute.run_tell (w₂.controller k).listener (.device (.command c)) w₂
      have item : World.item? { w₂ with host, journal } (.controller k) =
          some (.controller { y with sharers := y.sharers + 1 }) := by
        simp [w₂, World.item?, World.reshare, World.updateController, Table.find?_update, there]
      rw [run_keeping, run_bind, run_get]
      dsimp only
      rw [same, run_release item (Nat.succ_ne_zero _)]
      rfl
    · rfl

theorem deliver_intake (mute : Mute env) (payload : Bytes) (w : World σ) :
    ((deliver env i payload).run w).2.intake i =
      (w.intake i).dealt ((Command.decode payload).toOption.toList.map (.delivered i)) := by
  unfold deliver
  cases Command.decode payload with
  | ok c =>
    have traced : ((trace i .received c).run w).2.intake i = w.intake i :=
      (trace_still .received c).holds w
    dsimp only
    rw [run_bind, hand_intake mute, traced]
    rfl
  | error f =>
    have warned : ((warnFailure i "Undecodable command" f).run w).2.intake i = w.intake i :=
      (warnFailure_still _ f).holds w
    dsimp only
    rw [warned]
    exact (Intake.dealt_nil _).symm

theorem noteReceived_intake {y : Inlet} {f : Frame} (asks : f.header.kind = .dataWithAck)
    (there : (w.intake i).inlet = some y) :
    let noted : Bool × World σ := (modifyGet fun w =>
      let (repeated, x) := (w.interface i).noteReceived f.header.id f.header.seq
      (repeated, w.updateInterface i fun _ => x) : Act σ Bool).run w
    noted.1 = decide (y.last f.header.id = some f.header.seq) ∧
      noted.2.intake i = { w.intake i with inlet := some (y.after f) } := by
  obtain ⟨x, found, rfl⟩ := Option.map_eq_some_iff.mp there
  rw [run_modifyGet, World.interface_of_find? found]
  refine ⟨rfl, ?_⟩
  dsimp only
  rw [World.intake_update, found, Inlet.after, if_pos asks]
  rfl

theorem receive_intake (mute : Mute env) (found : w.interfaces.find? i = some x)
    (opened : x.closed = false) (f : Frame) :
    ∃ number, ((receive env i f).run w).2.intake i = (w.intake i).take i f x.inlet number := by
  have came := w.intake_mark (i := i) (.arrived i f)
  have there : (w.intake i).inlet = some x.inlet := by simp [World.intake, found]
  simp only [Intake.note, Occurrence.arrived?, Occurrence.deals, if_true, Option.toList_some,
    decide_true, List.filter_cons_of_pos, List.filter_nil] at came
  unfold receive
  rw [run_bind, run_get]
  dsimp only
  rw [World.interface_of_find? found, opened, if_neg Bool.false_ne_true, run_bind, run_mark]
  generalize w.mark (.arrived i f) = w₁ at came ⊢
  generalize w.intake i = y at came there ⊢
  obtain ⟨known, _, arrivals, dealings⟩ := y
  obtain rfl : _ = some x.inlet := there
  dsimp only
  cases kind : f.header.kind with
  | ack =>
    refine ⟨0, .trans (b := w₁.intake i) ?_ ?_⟩
    · cases f.payload with
      | nil => rfl
      | cons seq rest =>
        dsimp only
        split
        · exact (acknowledged_still mute seq).holds w₁
        · rfl
    · rw [came]
      simp [Intake.take, Frame.dealings, Frame.answers, Frame.command?, Inlet.after, kind]
  | dataWithAck =>
    have drawn := (drawSeq_still (i := i) (BufferId.ackOf f.header.id)).holds w₁
    dsimp only
    rw [run_bind]
    generalize (drawSeq i (BufferId.ackOf f.header.id)).run w₁ = numbered at drawn ⊢
    obtain ⟨number, w₂⟩ := numbered
    let reply : Frame :=
      { header := ⟨.ack, BufferId.ackOf f.header.id, number⟩, payload := [f.header.seq] }
    have answered : ((answer env i reply "Failed to acknowledge frame").run w₂).2.intake i =
        (w₂.intake i).dealt [.offered i reply] := answer_intake mute _ rfl w₂
    rw [show w₂.intake i = w₁.intake i from drawn, came] at answered
    dsimp only
    rw [run_bind]
    generalize ((answer env i _ "Failed to acknowledge frame").run w₂).2 = w₃ at answered ⊢
    have marked : (w₃.mark (.answered i w.history.length)).intake i = w₃.intake i := by
      simp [World.intake_mark, Intake.note, Occurrence.deals, Occurrence.arrived?]
    rw [run_bind, run_mark]
    rw [← marked] at answered
    generalize w₃.mark (.answered i w.history.length) = w₃ at answered ⊢
    obtain ⟨repeated, noted⟩ := noteReceived_intake (w := w₃) (y := x.inlet) kind
      (by rw [answered]; rfl)
    rw [answered] at noted
    rw [run_bind]
    generalize (modifyGet (m := Act σ) _).run w₃ = compared at repeated noted ⊢
    refine ⟨number, ?_⟩
    by_cases again : x.inlet.last f.header.id = some f.header.seq
    · rw [repeated, if_pos (by simpa using again), run_log, World.intake_log, noted]
      simp [Intake.take, Frame.dealings, Frame.answers, Frame.command?, kind, again, Intake.dealt,
        reply, BufferId.ackOf, BufferId.ackOffset]
    · rw [repeated, if_neg (by simpa using again), deliver_intake mute, noted]
      simp [Intake.take, Frame.dealings, Frame.answers, Frame.command?, kind, again, Intake.dealt,
        reply, BufferId.ackOf, BufferId.ackOffset]
  | data | lowLatency =>
    refine ⟨0, ?_⟩
    dsimp only
    split
    · next ping =>
      rw [answer_intake mute _ rfl, came]
      simp [Intake.take, Frame.dealings, Frame.answers, Frame.command?, Inlet.after, kind, ping,
        Intake.dealt, BufferId.ping, BufferId.pong]
    · next other =>
      split
      · next plain =>
        rw [deliver_intake mute, came]
        simp_all [Intake.take, Frame.dealings, Frame.answers, Frame.command?, Inlet.after,
          Intake.dealt, BufferId.ping, BufferId.pong]
      · next pong =>
        rw [run_pure, came]
        simp_all [Intake.take, Frame.dealings, Frame.answers, Frame.command?, Inlet.after,
          BufferId.ping, BufferId.pong]

end Interface

/-! ## Runs -/

namespace Frame

theorem lastNumber_append (before : List Frame) (f : Frame) (b : UInt8) :
    lastNumber (before ++ [f]) b =
      if f.header.kind = .dataWithAck ∧ f.header.id = b then some f.header.seq
      else lastNumber before b := by
  by_cases asks : f.header.kind = .dataWithAck ∧ f.header.id = b
  · simp [lastNumber, List.filter_append, asks]
  · rw [if_neg asks]
    simp [lastNumber, List.filter_append, asks]

theorem command?_data {f : Frame} {last : UInt8 → Option UInt8} {c : Command}
    (handed : f.command? last = some c) : c.data = f.payload := by
  have decoded : (Command.decode f.payload).toOption = some c := by
    unfold command? at handed
    split at handed <;> simp_all
  unfold Command.decode at decoded
  split at decoded
  · cases decoded
    rfl
  · cases decoded

theorem deals (i : InterfaceId) (before : List Frame) (f : Frame) (number : UInt8) :
    Deals i before f (f.dealings i (lastNumber before) number) where
  course := ⟨number, rfl⟩
  bytes c handed := by
    simp [dealings] at handed
    exact command?_data handed

end Frame

/-- The interface has dealt with what came in, and knows what it has to. -/
structure Intake.Orderly (i : InterfaceId) (y : Intake) : Prop where
  inTurn : DealsInTurn i y.arrivals y.dealings
  unmade : y.known ≤ i.number → y.arrivals = []
  memory : ∀ x, y.inlet = some x → x.closed = false → x.last = Frame.lastNumber y.arrivals

theorem Intake.Orderly.take {y : Intake} (orderly : y.Orderly i) {inlet : Inlet}
    (there : y.inlet = some inlet) (opened : inlet.closed = false) (made : i.number < y.known)
    (f : Frame) (number : UInt8) : (y.take i f inlet number).Orderly i where
  inTurn := by
    rw [Intake.take, orderly.memory inlet there opened]
    exact .next orderly.inTurn (f.deals i y.arrivals number)
  unmade unmade := absurd unmade (Nat.not_le_of_lt made)
  memory := by
    rintro _ ⟨⟩ -
    funext b
    simp only [Intake.take, Frame.lastNumber_append, ← orderly.memory inlet there opened]
    unfold Inlet.after
    by_cases asks : f.header.kind = .dataWithAck
    · simp [asks, eq_comm]
    · simp [asks]

def Minds (i : InterfaceId) (w w' : World σ) : Prop :=
  (w.intake i).Orderly i → (w'.intake i).Orderly i

namespace Minds

instance watches : Watches (σ := σ) i (Minds i) where
  spares {w w'} spares orderly := by
    obtain ⟨arrivals, dealings⟩ := spares.intake
    refine ⟨?_, fun unmade => ?_, fun inlet there opened => ?_⟩
    · simpa only [World.intake, arrivals, dealings] using orderly.inTurn
    · exact arrivals.trans (orderly.unmade (spares.known.trans unmade))
    · obtain ⟨x', found, rfl⟩ := Option.map_eq_some_iff.mp there
      obtain ⟨x, before, same⟩ := spares.row x' found
      rw [same] at opened ⊢
      refine (orderly.memory x.inlet ?_ opened).trans (congrArg _ arrivals.symm)
      exact Option.map_eq_some_iff.mpr ⟨x, before, rfl⟩
  trans h h' orderly := h' (h orderly)

theorem of_still {a : Act σ α} (still : Holds (Keeps (Undealt i)) a) : Holds (Keeps (Minds i)) a :=
  ⟨fun w orderly => by rwa [still.holds w]⟩

instance overlooksLoop : OverlooksLoop (Keeps (σ := σ) (Minds i)) where
  change _ _ orderly := orderly
  beats _ w := Heeds.mark w _ (by simp [Occurrence.topic])

theorem add (device : DeviceHandle) (pipe : PipeId) (sink : CommandSink)
    (traceCell : TraceCellId) : Keeps (σ := σ) (Minds i) InterfaceId (modifyGet fun w =>
      let (i, interfaces) := w.interfaces.add { device, pipe, sink, traceCell }
      (i, { w with interfaces })) := by
  intro w orderly
  by_cases new : w.interfaces.next = i.number
  · have none : w.arrivals i = [] := orderly.unmade (Nat.le_of_eq new)
    have row : (w.interfaces.add { device, pipe, sink, traceCell }).2.find? i =
        some { device, pipe, sink, traceCell } := by
      rw [Table.find?_add, if_pos (by rw [new])]
    rw [run_modifyGet]
    refine ⟨orderly.inTurn, fun _ => none, fun inlet there _ => ?_⟩
    obtain rfl : _ = inlet := Option.some.inj ((congrArg (Option.map _) row).symm.trans there)
    exact (congrArg Frame.lastNumber none).symm
  · exact watches.spares (.add w _ (Ne.symm new)) orderly

theorem close : Holds (Keeps (σ := σ) (Minds i)) (Interface.close i) := by
  refine ⟨fun w orderly => ?_⟩
  unfold Interface.close
  rw [run_bind, run_get]
  dsimp only
  split
  · exact orderly
  · have shut : (((w.updateInterface i fun x => { x with closed := true, queue := [] })).intake
        i).Orderly i := by
      rw [World.intake_update]
      refine ⟨orderly.inTurn, orderly.unmade, fun inlet there opened => ?_⟩
      obtain ⟨x, -, rfl⟩ := Option.map_eq_some_iff.mp there
      cases opened
    have rest : Holds (Keeps (σ := σ) (Minds i)) (do
        Interface.clearFlight i
        mark (.closed i)
        Pipe.clearReceiver (w.interface i).pipe
        log .debug "Command interface closed" [("device", (w.interface i).device.label)]) := by
      have closed := of_still (σ := σ) (Undealt.mark_still (i := i) (o := .closed i) rfl rfl)
      have := of_still (σ := σ) (Interface.clearFlight_still (i := i))
      infer_instance
    exact rest.holds _ shut

instance interfaceLives : InterfaceLives (Keeps (σ := σ) (Minds i)) :=
  Watches.interfaceLives add close

theorem receive (mute : Mute env) (f : Frame) :
    Holds (Keeps (Minds i)) (Interface.receive env i f) := by
  refine ⟨fun w orderly => ?_⟩
  by_cases closed : (w.interface i).closed = true
  · rwa [Interface.receive_closed f w closed]
  · obtain ⟨x, found, opened⟩ := World.find?_of_open (Bool.eq_false_iff.mpr closed)
    obtain ⟨number, taken⟩ := Interface.receive_intake mute found opened f
    rw [taken]
    exact orderly.take (by simp [World.intake, found]) opened (Table.lt_next found) f number

theorem together (mute : Mute env) (_ : Upheld (Keeps (Minds i)) env) :
    Together (Keeps (Minds i)) env := by
  have : InterfaceCalls (Keeps (Minds i)) env :=
    Watches.interfaceCalls (fun c => of_still (Interface.send_still mute c)) (receive mute)
  have : InterfaceRetries (Keeps (Minds i)) env :=
    ⟨Watches.of_own (of_still (Interface.retry_still mute)) fun _ _ => Interface.retry_of_steps⟩
  have : LoopCalls (Keeps (Minds i)) env := Loop.calls_of_steps
  exact Watches.together

theorem empty (host : σ) (verbosity : Option Severity) :
    (({ host, verbosity } : World σ).intake i).Orderly i where
  inTurn := .none
  unmade _ := rfl
  memory x there := by simp [World.intake, World.find?_empty] at there

end Minds

def ReachedWith (env : Env σ) (w : World σ) : Prop :=
  ∃ (host : σ) (verbosity : Option Severity) (α : Type) (a : Act σ α),
    Reaction env α a ∧ (a.run { host, verbosity }).2 = w

namespace Mute

theorem orderly (mute : Mute env) (reached : ReachedWith env w) : (w.intake i).Orderly i := by
  obtain ⟨host, verbosity, α, a, calls, rfl⟩ := reached
  have : Together (Keeps (Minds i)) env :=
    Minds.together mute (mute.upheld fun _ => Minds.together)
  exact (Reaction.holds calls : Keeps (Minds i) α a) _ (Minds.empty host verbosity)

theorem receives_each (mute : Mute env) (fs : List Frame) (orderly : (w.intake i).Orderly i)
    (opened : (w.interface i).closed = false) :
    let w' := ((fs.forM (Interface.receive env i)).run w).2
    (w'.interface i).closed = false ∧ w'.arrivals i = w.arrivals i ++ fs ∧
      (w'.intake i).Orderly i := by
  induction fs generalizing w with
  | nil => exact ⟨opened, (List.append_nil _).symm, orderly⟩
  | cons f fs ih =>
    obtain ⟨x, found, open'⟩ := World.find?_of_open opened
    obtain ⟨number, taken⟩ := Interface.receive_intake mute found open' f
    have cons : ((f :: fs).forM (Interface.receive env i)).run w =
        (fs.forM (Interface.receive env i)).run ((Interface.receive env i f).run w).2 := rfl
    rw [cons]
    have next := (Minds.receive mute f).holds w orderly
    generalize ((Interface.receive env i f).run w).2 = w₁ at taken next ⊢
    obtain ⟨x', found', same⟩ := Option.map_eq_some_iff.mp (congrArg Intake.inlet taken)
    have still : (w₁.interface i).closed = false := by
      rw [World.interface_of_find? found']
      refine (congrArg Inlet.closed same).trans ?_
      unfold Inlet.after
      split <;> exact open'
    obtain ⟨opened', arrivals, orderly'⟩ := ih next still
    refine ⟨opened', ?_, orderly'⟩
    have came : w₁.arrivals i = w.arrivals i ++ [f] := congrArg Intake.arrivals taken
    rw [arrivals, came, List.append_assoc, List.singleton_append]

/-- Whatever an interface was used for before, and whatever frames come in while it is open: it has
dealt with each of them in turn. -/
theorem deals_in_turn (mute : Mute env) (reached : ReachedWith env w)
    (opened : (w.interface i).closed = false) (fs : List Frame) :
    let w' := ((fs.forM (Interface.receive env i)).run w).2
    (w'.interface i).closed = false ∧ w'.arrivals i = w.arrivals i ++ fs ∧
      DealsInTurn i (w'.arrivals i) (w'.dealings i) := by
  obtain ⟨opened', arrivals, orderly'⟩ := mute.receives_each fs (mute.orderly reached) opened
  exact ⟨opened', arrivals, orderly'.inTurn⟩

end Mute

theorem silentHost_mute : Mute silentHost := by
  refine .innermost ⟨?_, ?_, ?_, ?_, ?_, ?_⟩ ?_
  all_goals intros; exact .pure _

def outpost : Act Unit (Except Fault Unit) := do
  let p ← Pipe.create (.supplied ⟨1⟩)
  let _ ← (Pipe.start silentHost p).run
  let i ← Interface.create ⟨1⟩ p (.listener ⟨1⟩) ⟨1⟩
  (Interface.send silentHost i ((Command.encode default 0 []).withDelivery .ack)).run

theorem outpost_reached : ReachedWith silentHost (outpost.run { host := () }).2 := by
  refine ⟨(), none, _, outpost, ?_, rfl⟩
  refine .bind (.basic (.inr (.createPipe _))) fun p => ?_
  refine .bind (.basic (.inr (.startPipe _))) fun _ => ?_
  refine .bind (.basic (.inr (.createInterface _ _ _ _))) fun i => ?_
  exact .basic (.inr (.sendCommand _ _))

/-- A command and the same again, one that does not decode and the first once more with its number,
two pings, a pong, a command that is not to be acknowledged, and two acknowledgements. -/
def traffic : List Frame :=
  [⟨⟨.dataWithAck, 139, 7⟩, [1, 4, 1, 0], none⟩, ⟨⟨.dataWithAck, 139, 7⟩, [1, 4, 1, 0], none⟩,
    ⟨⟨.dataWithAck, 139, 8⟩, [], none⟩, ⟨⟨.dataWithAck, 139, 7⟩, [1, 4, 1, 0], none⟩,
    ⟨⟨.data, 0, 3⟩, [5], none⟩, ⟨⟨.lowLatency, 0, 4⟩, [], none⟩, ⟨⟨.data, 1, 9⟩, [], none⟩,
    ⟨⟨.data, 127, 0⟩, [1, 4, 4, 0], none⟩, ⟨⟨.ack, 139, 0⟩, [0], none⟩, ⟨⟨.ack, 0, 0⟩, [], none⟩]

theorem outpost_deals_in_turn :
    let w := (outpost.run { host := () }).2
    let w' := ((traffic.forM (Interface.receive silentHost ⟨1⟩)).run w).2
    ((w'.interface ⟨1⟩).closed = false ∧
      w'.arrivals ⟨1⟩ = w.arrivals ⟨1⟩ ++ traffic ∧
      DealsInTurn ⟨1⟩ (w'.arrivals ⟨1⟩) (w'.dealings ⟨1⟩)) ∧
    (w'.deliveries ⟨1⟩).map (·.data) = [[1, 4, 1, 0], [1, 4, 1, 0], [1, 4, 4, 0]] ∧
    (w'.dealings ⟨1⟩).length = 19 :=
  ⟨silentHost_mute.deals_in_turn outpost_reached (by decide +kernel) traffic, by decide +kernel,
    by decide +kernel⟩

end DroneControl
