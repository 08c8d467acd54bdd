import DroneControl.Protocol.Frame

/-!
Frame pipes. A pipe belongs to one connection; it passes frames to a link on the backend's side and
to one receiver on the other. It is started once, and a stopped or disposed pipe stays so.
-/

namespace DroneControl

inductive PipeState where
  | created
  | started
  | stopped
  | disposed
  deriving DecidableEq, Repr, Inhabited

def PipeState.name : PipeState → String
  | created => "Created"
  | started => "Started"
  | stopped => "Stopped"
  | disposed => "Disposed"

/-- What moves frames to the device: a link supplied for the connection, or a shared channel, which
needs neither start nor stop. -/
inductive Link where
  | supplied (link : LinkId)
  | channel (channel : ChannelId)
  deriving DecidableEq, Repr

instance : Inhabited Link := ⟨.supplied ⟨0⟩⟩

def Link.isChannel : Link → Bool
  | supplied _ => false
  | channel _ => true

/-- Who gets inbound frames. A command interface is not kept alive by being a receiver. -/
inductive Receiver where
  | interface (interface : InterfaceId)
  | listener (listener : ListenerId)
  deriving DecidableEq, Repr

structure Pipe where
  link : Link
  state : PipeState := .created
  receiver : Option Receiver := none
  /-- How often it has started, and how often a link that was supplied was asked to stop for it. -/
  starts : Nat := 0
  stops : Nat := 0
  deriving DecidableEq, Repr

instance : Inhabited Pipe := ⟨{ link := default, state := .disposed }⟩

namespace Pipe

def begun (p : Pipe) : Pipe :=
  if p.state = .created then { p with state := .started, starts := p.starts + 1 } else p

def severed (p : Pipe) (state : PipeState) : Pipe :=
  if p.state = .started ∧ !p.link.isChannel then
    { p with state, receiver := none, stops := p.stops + 1 }
  else p

def halted (p : Pipe) (state : PipeState) : Pipe :=
  if p.state = .started ∧ p.link.isChannel then { p with state, receiver := none } else p

def dropped (p : Pipe) : Pipe :=
  if p.state = .started then p else { p with state := .disposed, receiver := none }

def inspect (p : Pipe) : String := Text.outlineOpen "FramePipe" [("state", p.state.name)]

end Pipe

end DroneControl
