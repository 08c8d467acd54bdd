import DroneControl.Scenario.Step
import DroneControl.World.Keeping

/-!
The stage of a scenario: what its names stand for, how the host behaves where the library calls on it,
and the reactions that are laid down. Every call on the host is recorded in the journal before anything
else comes of it.
-/

namespace DroneControl.Scenario

/-- What a name stands for. -/
inductive Thing where
  | registry (registry : RegistryId)
  | backend (backend : BackendId)
  | discovery (discovery : DiscoveryId)
  | discoveryId (discovery : DiscoveryId)
  | controller (controller : ControllerId)
  | connection (connection : ConnectionId)
  | bleConnection (connection : ConnectionId)
  | pipe (pipe : PipeId)
  | interface (interface : InterfaceId)
  | proxy (proxy : ProxyId)
  | stream (stream : StreamId)
  | link (link : LinkId)
  | oneShot (timer : TimerId)
  | periodic (timer : TimerId) (period : Nat)
  deriving DecidableEq, Repr

def Thing.kept? : Thing → Option Kept
  | registry r => some (.registry r)
  | backend b => some (.backend b)
  | discovery d => some (.discovery d)
  | controller c => some (.controller c)
  | interface i => some (.interface i)
  | stream s => some (.stream s)
  | _ => none

/-- A listener, by the name under which it records what it is told. -/
structure Audience where
  source : String
  /-- It does not listen to what a listener may leave out. -/
  bare : Bool := false
  /-- It records nothing. -/
  muted : Bool := false
  deriving DecidableEq, Repr, Inhabited

/-- One that is called on, by the name under which it records, and how it behaves. -/
structure Role (μ : Type) where
  source : String
  mode : μ
  deriving DecidableEq, Repr, Inhabited

/-- What is left of a channel when its backend is gone. -/
structure ChannelEnd where
  uplink : UplinkId
  released : Bool := false
  deriving DecidableEq, Repr

structure Reaction where
  source : String
  kind : String
  times : Nat
  steps : List (String × Step)

structure Stage where
  /-- How many steps can be taken at all, those of reactions included. -/
  budget : Nat := 0
  names : Std.TreeMap String Thing := {}
  /-- The texts of the named things as last shown. -/
  shown : Std.TreeMap String String := {}
  reactions : List Reaction := []
  audiences : Table .listener Audience := {}
  links : Table .link (Role LinkMode) := {}
  channels : Table .channel (Role ChannelMode) := {}
  /-- Whether the next opening fails. -/
  connectors : Table .connector (Role Bool) := {}
  bleHosts : Table .bleHost (Role BleMode) := {}
  /-- Whether the opening fails. -/
  openers : Table .opener (Role Bool) := {}
  /-- Whether every address is refused. -/
  sessions : Table .session (Role Bool) := {}
  channelEnds : Std.TreeMap String ChannelEnd := {}

abbrev Scene := Act Stage

def onStage {α : Type} (f : Stage → α × Stage) : Scene α :=
  modifyGet fun w => let (a, host) := f w.host; (a, { w with host })

def changeStage (f : Stage → Stage) : Scene Unit := modify fun w => { w with host := f w.host }

def find? (name : String) : Scene (Option Thing) := return (← get).host.names[name]?

def see (name : String) (thing : Thing) : Scene Unit :=
  changeStage fun s => { s with names := s.names.insert name thing }

def seeConnection (c : ConnectionId) : Scene Unit := see c.label (.connection c)

def seeProxy (p : ProxyId) : Scene Unit := see p.label (.proxy p)

def forget (env : Env Stage) (thing : Option Thing) : Scene Unit := do
  match thing with
  | none => return
  | some (.oneShot t) | some (.periodic t _) => cancelCall t
  | some thing => release? env thing.kept?

def name (env : Env Stage) (name : String) (thing : Thing) : Scene Unit := do
  let old ← find? name
  see name thing
  forget env old

def unname (name : String) : Scene (Option Thing) := do
  let old ← find? name
  changeStage fun s => { s with names := s.names.erase name }
  return old

def addAudience (source : String) (bare : Bool) : Scene ListenerId :=
  onStage fun s =>
    let (l, audiences) := s.audiences.add { source, bare }
    (l, { s with audiences })

def takeReactions (source kind : String) : Scene (List Reaction) :=
  onStage fun s =>
    let answers (r : Reaction) : Bool := r.source == source && r.kind == kind && 0 < r.times
    let reactions := s.reactions.map fun r => if answers r then { r with times := r.times - 1 } else r
    (s.reactions.filter answers, { s with reactions := reactions.filter (0 < ·.times) })

def react (run : Step → Scene Datum) (reaction : Reaction) : Scene Unit :=
  reaction.steps.forM fun (word, step) => do
    let result ← run step
    modify (·.note "react" word [result])

def record (run : Step → Scene Datum) (source kind : String) (args : List Datum) :
    Scene Unit := do
  modify (·.note source kind args)
  (← takeReactions source kind).forM (react run)

end DroneControl.Scenario
