import DroneControl.Interface.Inbound
import DroneControl.Proofs.Run.Ground
import DroneControl.Proofs.Run.Steps

/-!
# What a host sees of a pipe

A host that is behind a pipe, as its link and as its receiver, may keep a record of every contact with
the pipe and of the state that the pipe is in at that moment.  Besides that it does what it likes: it
accepts or refuses, and makes any call on the pipe while the pipe calls on it, to any depth.  Only the
start of the link does not call back.
-/

namespace DroneControl

variable {σ α : Type}

inductive Contact where
  | started (link : Link)
  | refused (link : Link)
  | stopping (link : Link)
  | sent (link : Link) (frame : Frame)
  | received (listener : ListenerId) (frame : Frame)
  deriving DecidableEq, Repr

namespace Contact

/-- A frame is passed on. -/
def passes : Contact → Bool
  | sent _ _ | received _ _ => true
  | _ => false

def turns : Contact → Bool
  | started _ | stopping _ => true
  | _ => false

def link? : Contact → Option Link
  | started link | refused link | stopping link | sent link _ => some link
  | received _ _ => none

end Contact

structure Sight where
  contact : Contact
  state : PipeState
  deriving DecidableEq, Repr

/-- What a host has in mind, and what it has seen of a pipe, in order. -/
structure Watch (σ : Type) where
  mind : σ
  seen : List Sight := []

def World.saw (w : World (Watch σ)) (p : PipeId) (contact : Contact) : World (Watch σ) :=
  { w with host := { w.host with seen := w.host.seen ++ [⟨contact, (w.pipe p).state⟩] } }

/-- The host keeps a record of its contacts with the pipe. -/
def Env.watched (env : Env (Watch σ)) (p : PipeId) : Env (Watch σ) :=
  { env with
    tell := fun l event => do
      match event with
      | .received frame => modify (·.saw p (.received l frame))
      | _ => pure ()
      env.tell l event
    ask := fun request => do
      match request with
      | .startLink link =>
        onFailure (env.ask request) fun _ => modify (·.saw p (.refused (.supplied link)))
        act (modify (·.saw p (.started (.supplied link))))
      | .stopLink link =>
        act (modify (·.saw p (.stopping (.supplied link))))
        env.ask request
      | .sendFrame link frame =>
        act (modify (·.saw p (.sent link frame)))
        env.ask request
      | _ => env.ask request }

inductive Musing : (α : Type) → Act (Watch σ) α → Prop where
  | muse {α : Type} (f : World (Watch σ) → α × σ × List Note) :
      Musing α (modifyGet fun w =>
        ((f w).1, { w with host := { w.host with mind := (f w).2.1 }, journal := (f w).2.2 }))

inductive PipeCall (env : Env (Watch σ)) (p : PipeId) : (α : Type) → Act (Watch σ) α → Prop where
  | start : PipeCall env p _ (Pipe.start env p).run
  | stop : PipeCall env p _ (Pipe.stop env p).run
  | dispose : PipeCall env p _ (Pipe.dispose env p)
  | send (frame) : PipeCall env p _ (Pipe.send env p frame).run
  | receive (frame) : PipeCall env p _ (Pipe.receive env p frame).run
  | setReceiver (l) : PipeCall env p _ (Pipe.setReceiver p (.listener l))
  | clearReceiver : PipeCall env p _ (Pipe.clearReceiver p)

def Handling (env : Env (Watch σ)) (p : PipeId) : (α : Type) → Act (Watch σ) α → Prop :=
  Program fun α a => Musing α a ∨ PipeCall env p α a

/-- When it is called on, the host does what may be done. The start of a link does not call back. -/
structure Engages (allowed : (α : Type) → Act (Watch σ) α → Prop) (env : Env (Watch σ)) : Prop where
  tell : ∀ l event, allowed _ (env.tell l event)
  ask : ∀ request, (∀ l, request ≠ .startLink l) → allowed _ (env.ask request).run
  startLink : ∀ l, Program Musing _ (env.ask (.startLink l)).run

/-- A host behind a pipe, with its record, that calls back to any depth. -/
inductive Watched (p : PipeId) : Env (Watch σ) → Prop where
  | innermost {env : Env (Watch σ)} (engages : Engages (Program Musing) env) :
      Watched p (env.watched p)
  | around {inner env : Env (Watch σ)} (watched : Watched p inner)
      (engages : Engages (Handling inner p) env) : Watched p (env.watched p)

/-! ## What the record tells -/

def PipeState.rank : PipeState → Nat
  | created => 0
  | started => 1
  | stopped => 2
  | disposed => 3

theorem PipeState.rank_le_disposed (state : PipeState) : state.rank ≤ disposed.rank := by
  cases state <;> decide

def turnsOf (seen : List Sight) : List Contact := (seen.map (·.contact)).filter Contact.turns

/-- What the link has seen of starts and stops, with the pipe in some state.  It was started once at
most and stopped once at most after that, and stopped if it was started once the pipe relays no
longer. A channel is left alone. -/
def Link.Turned (link : Link) (state : PipeState) (turns : List Contact) : Prop :=
  match link, state with
  | .channel _, _ => turns = []
  | .supplied _, .created => turns = []
  | .supplied _, .started => turns = [.started link]
  | .supplied _, .stopped => turns = [.started link, .stopping link]
  | .supplied _, .disposed => turns = [] ∨ turns = [.started link, .stopping link]

def Pipe.Plain (x : Pipe) : Prop := ∀ i, x.receiver ≠ some (.interface i)

/-- What is to be seen when the link is turned to; a channel is left alone. -/
def Link.sights (link : Link) (contact : Link → Contact) (state : PipeState) : List Sight :=
  match link with
  | .supplied _ => [⟨contact link, state⟩]
  | .channel _ => []

/-- The record and the pipe fit. -/
structure Pipe.Seen (x : Pipe) (seen : List Sight) : Prop where
  turned : x.link.Turned x.state (turnsOf seen)
  passes : ∀ sight ∈ seen, sight.contact.passes → sight.state = .started
  links : ∀ sight ∈ seen, ∀ link ∈ sight.contact.link?, link = x.link
  onward : (seen.map (·.state.rank) ++ [x.state.rank]).Pairwise (· ≤ ·)

/-- As many starts and stops as the pipe counts have been asked of its link; a refused start is none. -/
def Pipe.Tallies (x : Pipe) (seen : List Sight) : Prop :=
  ∀ l, x.link = .supplied l → (turnsOf seen).count (.started x.link) = x.starts ∧
    (turnsOf seen).count (.stopping x.link) = x.stops

end DroneControl
