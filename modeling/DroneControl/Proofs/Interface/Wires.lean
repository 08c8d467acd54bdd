import DroneControl.Interface.Inbound
import DroneControl.Proofs.Interface.Exchange
import DroneControl.Proofs.Interface.Ledger
import DroneControl.Proofs.Run.Interfaces
import DroneControl.Proofs.Run.Steps

/-!
# Two command interfaces and the wires between them

The links of two interfaces put the frames they take on wires, one for each direction.  A frame travels
with the number of the command it is about, which none of the interfaces sees.  Nobody calls back while
an interface is at work, so that every operation can be followed to its end.
-/

namespace DroneControl

open Exchange

namespace World

variable {σ : Type} (w : World σ) (i : InterfaceId)

/-- The commands that an interface has taken, in order. -/
def accepted : List Bytes := w.chronicle.filterMap (·.what.queued? i)

def launched : Nat := (w.accepted i).length - (w.interface i).queue.length

def settled : Nat :=
  if (w.interface i).inFlight.isSome then w.launched i - 1 else w.launched i

end World

/-- A frame on its way, with the number of the command it is about. -/
structure Parcel where
  number : Nat
  frame : Frame
  deriving DecidableEq

structure Wires where
  there : List Parcel := []
  back : List Parcel := []
  /-- What the links say to the next frames. They take all others. -/
  verdicts : List Bool := []
  /-- The number of the last command that came to the receiver. -/
  last : Option Nat := none
  /-- The commands that the listener of the receiver heard, with their numbers. -/
  heard : List (Nat × Command) := []

namespace Wires

variable (x : Wires)

def takes : Bool := x.verdicts.headD true

def carryThere (p : Parcel) : Wires :=
  { x with there := pass x.there p x.takes, verdicts := x.verdicts.tail }

def carryBack (frame : Frame) : Wires :=
  { x with back := pass x.back ⟨x.last.getD 0, frame⟩ x.takes, verdicts := x.verdicts.tail }

def hear (c : Command) : Wires := { x with heard := x.heard ++ [(x.last.getD 0, c)] }

def arrive (p : Parcel) (rest : List Parcel) : Wires :=
  { x with there := rest, last := some p.number }

end Wires

def World.rewire (w : World Wires) (wires : Wires) : World Wires := { w with host := wires }

/-- The sender is open, and sends over its pipe. -/
structure Ends where
  sender : InterfaceId
  receiver : InterfaceId
  nearPipe : PipeId
  farPipe : PipeId
  nearLink : LinkId
  farLink : LinkId
  listener : ListenerId
  apart : sender ≠ receiver
  unlinked : nearLink ≠ farLink

namespace Ends

variable (e : Ends)

/-- Puts a frame on the wire of its link, unless the link refuses. -/
def carry (l : LinkId) (frame : Frame) : Try Wires Unit := do
  let w ← get
  if l = e.nearLink then
    act (modify fun w => w.rewire (w.host.carryThere ⟨w.launched e.sender - 1, frame⟩))
  if l = e.farLink then
    act (modify fun w => w.rewire (w.host.carryBack frame))
  unless w.host.takes do throw (.transport "link busy")

def host : Env Wires where
  tell l event :=
    match event with
    | .command c => modify fun w => if l = e.listener then w.rewire (w.host.hear c) else w
    | _ => pure ()
  ask request :=
    match request with
    | .sendFrame (.supplied l) frame => e.carry l frame
    | _ => pure ()
  order _ := pure ()
  openSession _ _ _ := pure true
  openChannel _ _ _ := pure ⟨1⟩
  reap _ := pure ()

end Ends

/-- How an interface stands that sends commands to be acknowledged. -/
structure Outbox where
  sharers : Nat
  queue : List Bytes
  inFlight : Option InFlight
  sent : UInt8

/-- How an interface stands that receives them. -/
structure Inbox where
  sharers : Nat
  received : Option UInt8

def Interface.outbox (x : Interface) : Outbox where
  sharers := x.sharers
  queue := x.queue
  inFlight := x.inFlight
  sent := x.lastSent BufferId.toDeviceAck

def Interface.inbox (x : Interface) : Inbox where
  sharers := x.sharers
  received := x.lastReceived BufferId.toDeviceAck

/-- The sender is open, and sends over its pipe. -/
structure Ends.Sends (e : Ends) (x : Interface) : Prop where
  closed : x.closed = false
  pipe : x.pipe = e.nearPipe

/-- The receiver is open, answers over its pipe and delivers to the listener. -/
structure Ends.Receives (e : Ends) (x : Interface) : Prop where
  closed : x.closed = false
  pipe : x.pipe = e.farPipe
  sink : x.sink = .listener e.listener

/-- How both ends and the wires stand. -/
structure Ends.At (e : Ends) (w : World Wires) (box : Outbox) (inbox : Inbox)
    (wires : Wires) (accepted : List Bytes) : Prop where
  sender : ∃ x, w.interfaces.find? e.sender = some x ∧ e.Sends x ∧ x.outbox = box
  receiver : ∃ x, w.interfaces.find? e.receiver = some x ∧ e.Receives x ∧ x.inbox = inbox
  nearPipe : w.pipes.find? e.nearPipe = some
    { link := .supplied e.nearLink, state := .started, receiver := some (.interface e.sender)
      starts := 1 }
  farPipe : w.pipes.find? e.farPipe = some
    { link := .supplied e.farLink, state := .started, receiver := some (.interface e.receiver)
      starts := 1 }
  host : w.host = wires
  accepted : w.accepted e.sender = accepted

variable {e : Ends} {w w' : World Wires} {box : Outbox} {inbox : Inbox} {wires : Wires}
  {accepted : List Bytes}

namespace Ends.At

theorem sends (at_ : e.At w box inbox wires accepted) : e.Sends (w.interface e.sender) := by
  obtain ⟨x, found, sends, -⟩ := at_.sender
  rwa [World.interface_of_find? found]

theorem outbox (at_ : e.At w box inbox wires accepted) :
    (w.interface e.sender).outbox = box := by
  obtain ⟨x, found, -, outbox⟩ := at_.sender
  rwa [World.interface_of_find? found]

theorem receives (at_ : e.At w box inbox wires accepted) :
    e.Receives (w.interface e.receiver) := by
  obtain ⟨x, found, receives, -⟩ := at_.receiver
  rwa [World.interface_of_find? found]

theorem inbox_eq (at_ : e.At w box inbox wires accepted) :
    (w.interface e.receiver).inbox = inbox := by
  obtain ⟨x, found, -, inbox⟩ := at_.receiver
  rwa [World.interface_of_find? found]

theorem launched (at_ : e.At w box inbox wires accepted) :
    w.launched e.sender = accepted.length - box.queue.length := by
  obtain rfl := at_.outbox
  rw [World.launched, at_.accepted]
  rfl

theorem congr (at_ : e.At w box inbox wires accepted)
    (interfaces : w'.interfaces = w.interfaces) (pipes : w'.pipes = w.pipes)
    (host : w'.host = w.host) (history : w'.history = w.history) :
    e.At w' box inbox wires accepted := by
  obtain ⟨sender, receiver, nearPipe, farPipe, rfl, rfl⟩ := at_
  refine ⟨interfaces ▸ sender, interfaces ▸ receiver, pipes ▸ nearPipe, pipes ▸ farPipe, host, ?_⟩
  simp [World.accepted, World.chronicle, history]

theorem mark (at_ : e.At w box inbox wires accepted) (o : Occurrence) :
    e.At (w.mark o) box inbox wires (accepted ++ (o.queued? e.sender).toList) := by
  obtain ⟨sender, receiver, nearPipe, farPipe, host, rfl⟩ := at_
  refine ⟨sender, receiver, nearPipe, farPipe, host, ?_⟩
  simp only [World.accepted, World.chronicle_mark, List.filterMap_append]
  cases queued : o.queued? e.sender <;> simp [queued]

theorem mark_aside (at_ : e.At w box inbox wires accepted) {o : Occurrence}
    (aside : o.queued? e.sender = none) : e.At (w.mark o) box inbox wires accepted := by
  simpa [aside] using at_.mark o

theorem log (at_ : e.At w box inbox wires accepted) (s : Severity) (message : String)
    (fields : List (String × String)) : e.At (w.log s message fields) box inbox wires accepted := by
  unfold World.log
  split
  · exact at_.congr rfl rfl rfl rfl
  · exact at_

theorem rewire (at_ : e.At w box inbox wires accepted) (wires' : Wires) :
    e.At (w.rewire wires') box inbox wires' accepted :=
  { at_ with host := rfl }

theorem updateSender (at_ : e.At w box inbox wires accepted) {f : Interface → Interface}
    {box' : Outbox} (sends : e.Sends (f (w.interface e.sender)))
    (outbox : (f (w.interface e.sender)).outbox = box') :
    e.At (w.updateInterface e.sender f) box' inbox wires accepted := by
  obtain ⟨x, found, -⟩ := at_.sender
  rw [World.interface_of_find? found] at sends outbox
  refine { at_ with sender := ⟨f x, ?_, sends, outbox⟩, receiver := ?_ }
  · simp [World.updateInterface, Table.find?_update, found]
  · simpa [World.updateInterface, Table.find?_update, e.apart] using at_.receiver

theorem updateReceiver (at_ : e.At w box inbox wires accepted) {f : Interface → Interface}
    {inbox' : Inbox} (receives : e.Receives (f (w.interface e.receiver)))
    (inbox_eq : (f (w.interface e.receiver)).inbox = inbox') :
    e.At (w.updateInterface e.receiver f) box inbox' wires accepted := by
  obtain ⟨x, found, -⟩ := at_.receiver
  rw [World.interface_of_find? found] at receives inbox_eq
  refine { at_ with sender := ?_, receiver := ⟨f x, ?_, receives, inbox_eq⟩ }
  · simpa [World.updateInterface, Table.find?_update, e.apart.symm] using at_.sender
  · simp [World.updateInterface, Table.find?_update, found]

end Ends.At

end DroneControl
