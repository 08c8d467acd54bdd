import DroneControl.Backend.Basic
import DroneControl.Controller.Basic
import DroneControl.Discovery.Basic
import DroneControl.Interface.Basic
import DroneControl.Loop.Basic
import DroneControl.Pipe.Basic
import DroneControl.Proxy.Basic
import DroneControl.Registry.Basic
import DroneControl.Stream.Basic
import DroneControl.World.History
import DroneControl.World.Journal

/-!
The world that operations act on: the loop, the journal, every thing of the library by its
identifier, and the state of the host, which is whoever uses the library.

What the host does when it is called back is a parameter of every operation, the `Env`. A callback
may act on the world like anyone else, so an operation has put the world in order before it makes one,
and looks at it anew afterwards.
-/

namespace DroneControl

/-- What a listener is told. -/
inductive Event where
  | deviceAdded (device : DeviceHandle) (info : DeviceInfo)
  | deviceRemoved (device : DeviceHandle)
  | received (frame : Frame)
  | connection (connection : ConnectionId) (event : ConnectionEvent)
  | device (event : DeviceEvent)
  | command (command : Command)
  | quality (sent received useful : Int)
  | proxyOpened (proxy : ProxyId) (outcome : Except Fault Endpoint)
  | endOfFile (backend : BackendId)
  | fired

/-- What the host is asked to do, and may fail at. -/
inductive Request where
  | startLink (link : LinkId)
  | stopLink (link : LinkId)
  | sendFrame (link : Link) (frame : Frame)
  /-- Carries a handshake to the device. -/
  | openNet (connector : ConnectorId) (connection : ConnectionId) (port : UInt16)
      (handshake : String)
  | openProxy (channel : ChannelId) (proxy : ProxyId)
  | openUrl (session : SessionId) (url : String)
  | openMuxUrl (session : SessionId) (url : String) (channel : ChannelId)
  deriving DecidableEq, Repr

/-- What the host is told to do. -/
inductive Order where
  | closeNet (connector : ConnectorId) (connection : ConnectionId)
  | closeBle (host : BleHostId) (address : String)
  | shutChannel (channel : ChannelId)
  | streamFailed (session : SessionId) (fault : Fault)
  deriving DecidableEq, Repr

/-- A thing that is there for as long as somebody keeps it. All others are there for good. -/
inductive Kept where
  | interface (interface : InterfaceId)
  | backend (backend : BackendId)
  | registry (registry : RegistryId)
  | discovery (discovery : DiscoveryId)
  | controller (controller : ControllerId)
  | stream (stream : StreamId)
  deriving DecidableEq, Repr

/-- A thing that can be kept, as it stands. -/
inductive Item where
  | interface (rest : Interface)
  | backend (rest : Backend)
  | registry (rest : Registry)
  | discovery (discovery : DiscoveryId) (rest : Discovery)
  | controller (rest : Controller)
  | stream (rest : Stream)

def Item.sharers : Item → Nat
  | interface x => x.sharers
  | backend x => x.sharers
  | registry x => x.sharers
  | discovery _ x => x.sharers
  | controller x => x.sharers
  | stream x => x.sharers

def Item.timer? : Item → Option TimerId
  | interface x => x.retryTimer
  | controller x => x.timer
  | _ => none

structure World (σ : Type) where
  loop : Loop := {}
  /-- The gravest-first level down to which log records are kept. -/
  verbosity : Option Severity := none
  /-- What was seen, the latest first. -/
  journal : List Note := []
  /-- What happened, the latest first. -/
  history : List Happening := []
  traceCells : Table .traceCell TraceLevel := {}
  pipes : Table .pipe Pipe := {}
  connections : Table .connection Connection := {}
  interfaces : Table .commandInterface Interface := {}
  proxies : Table .proxy Proxy := {}
  backends : Table .backend Backend := {}
  uplinks : Table .uplink Uplink := {}
  registries : Table .registry Registry := {}
  discoveries : Table .discovery Discovery := {}
  controllers : Table .controller Controller := {}
  streams : Table .stream Stream := {}
  host : σ

variable {σ : Type}

abbrev Act (σ : Type) := StateM (World σ)

abbrev Try (σ : Type) := ExceptT Fault (Act σ)

/-- The host: what it does when it is called back. The last field is the library's own, and does what
is left to do for a thing that nobody keeps any longer. -/
structure Env (σ : Type) where
  tell : ListenerId → Event → Act σ Unit
  ask : Request → Try σ Unit
  order : Order → Act σ Unit
  /-- Opens a Bluetooth session to an address for a connection. -/
  openSession : BleHostId → String → ConnectionId → Act σ Bool
  /-- Opens a multiplexed channel over a file descriptor. -/
  openChannel : OpenerId → Int → UplinkId → Try σ ChannelId
  reap : Item → Act σ Unit

namespace World

def traceLevel (w : World σ) (t : TraceCellId) : TraceLevel := w.traceCells.get t

def pipe (w : World σ) (p : PipeId) : Pipe := w.pipes.get p

def connection (w : World σ) (c : ConnectionId) : Connection := w.connections.get c

def interface (w : World σ) (i : InterfaceId) : Interface := w.interfaces.get i

def proxy (w : World σ) (p : ProxyId) : Proxy := w.proxies.get p

def backend (w : World σ) (b : BackendId) : Backend := w.backends.get b

def uplink (w : World σ) (u : UplinkId) : Uplink := w.uplinks.get u

def registry (w : World σ) (r : RegistryId) : Registry := w.registries.get r

def discovery (w : World σ) (d : DiscoveryId) : Discovery := w.discoveries.get d

def controller (w : World σ) (c : ControllerId) : Controller := w.controllers.get c

def stream (w : World σ) (s : StreamId) : Stream := w.streams.get s

section Look

variable {w : World σ}

theorem pipe_of_find? {p : PipeId} {x : Pipe} (found : w.pipes.find? p = some x) : w.pipe p = x :=
  Table.get_of_find? found

theorem connection_of_find? {c : ConnectionId} {x : Connection} (found : w.connections.find? c = some x) : w.connection c = x :=
  Table.get_of_find? found

theorem interface_of_find? {i : InterfaceId} {x : Interface} (found : w.interfaces.find? i = some x) : w.interface i = x :=
  Table.get_of_find? found

theorem proxy_of_find? {p : ProxyId} {x : Proxy} (found : w.proxies.find? p = some x) : w.proxy p = x :=
  Table.get_of_find? found

theorem backend_of_find? {b : BackendId} {x : Backend} (found : w.backends.find? b = some x) : w.backend b = x :=
  Table.get_of_find? found

theorem uplink_of_find? {u : UplinkId} {x : Uplink} (found : w.uplinks.find? u = some x) : w.uplink u = x :=
  Table.get_of_find? found

theorem registry_of_find? {r : RegistryId} {x : Registry} (found : w.registries.find? r = some x) : w.registry r = x :=
  Table.get_of_find? found

theorem controller_of_find? {k : ControllerId} {x : Controller} (found : w.controllers.find? k = some x) : w.controller k = x :=
  Table.get_of_find? found

theorem stream_of_find? {s : StreamId} {x : Stream} (found : w.streams.find? s = some x) : w.stream s = x :=
  Table.get_of_find? found

end Look

def updatePipe (w : World σ) (p : PipeId) (f : Pipe → Pipe) : World σ :=
  { w with pipes := w.pipes.update p f }

def updateConnection (w : World σ) (c : ConnectionId) (f : Connection → Connection) : World σ :=
  { w with connections := w.connections.update c f }

def updateInterface (w : World σ) (i : InterfaceId) (f : Interface → Interface) : World σ :=
  { w with interfaces := w.interfaces.update i f }

def updateProxy (w : World σ) (p : ProxyId) (f : Proxy → Proxy) : World σ :=
  { w with proxies := w.proxies.update p f }

def updateBackend (w : World σ) (b : BackendId) (f : Backend → Backend) : World σ :=
  { w with backends := w.backends.update b f }

def updateUplink (w : World σ) (u : UplinkId) (f : Uplink → Uplink) : World σ :=
  { w with uplinks := w.uplinks.update u f }

def updateRegistry (w : World σ) (r : RegistryId) (f : Registry → Registry) : World σ :=
  { w with registries := w.registries.update r f }

def updateDiscovery (w : World σ) (d : DiscoveryId) (f : Discovery → Discovery) : World σ :=
  { w with discoveries := w.discoveries.update d f }

def updateController (w : World σ) (c : ControllerId) (f : Controller → Controller) : World σ :=
  { w with controllers := w.controllers.update c f }

def updateStream (w : World σ) (s : StreamId) (f : Stream → Stream) : World σ :=
  { w with streams := w.streams.update s f }

def note (w : World σ) (source kind : String) (args : List Datum) : World σ :=
  { w with journal := ⟨w.loop.clock, source, kind, args⟩ :: w.journal }

def mark (w : World σ) (o : Occurrence) : World σ :=
  { w with history := ⟨w.loop.clock, o⟩ :: w.history }

def chronicle (w : World σ) : List Happening := w.history.reverse

def log (w : World σ) (s : Severity) (message : String) (fields : List (String × String)) :
    World σ :=
  if s.admits w.verbosity then w.note "log" s.name [.text (logText message fields)] else w

end World

def log (s : Severity) (message : String) (fields : List (String × String)) : Act σ Unit :=
  modify (·.log s message fields)

def mark (o : Occurrence) : Act σ Unit := modify (·.mark o)

def act {α : Type} (action : Act σ α) : Try σ α := ExceptT.lift action

def outcome {α : Type} (action : Try σ α) : Act σ (Except Fault α) := action.run

def attempt {α : Type} (action : Try σ α) : Try σ (Except Fault α) := ExceptT.lift action.run

def onFailure {α : Type} (action : Try σ α) (react : Fault → Act σ Unit) : Try σ α := do
  match ← attempt action with
  | .ok a => return a
  | .error f =>
    act (react f)
    throw f

def recover {α : Type} (action : Try σ α) (react : Fault → Act σ α) : Act σ α := do
  match ← outcome action with
  | .ok a => return a
  | .error f => react f

def schedule (delay : Nat) (job : Job) : Act σ TimerId :=
  modifyGet fun w => let (t, loop) := w.loop.after delay job; (t, { w with loop })

def schedulePeriodic (period : Nat) (job : Job) : Act σ TimerId :=
  modifyGet fun w => let (t, loop) := w.loop.periodic period job; (t, { w with loop })

def cancelTimer (t : TimerId) : Act σ Unit :=
  modify fun w => { w with loop := w.loop.cancel t }

def cancelTimer? (t : Option TimerId) : Act σ Unit :=
  match t with
  | some t => cancelTimer t
  | none => pure ()

def cancelCall (t : TimerId) : Act σ Unit :=
  modify fun w => { w with loop := w.loop.cancelCall t }

def defer (job : Job) : Act σ Unit :=
  modify fun w => { w with loop := w.loop.defer job }

end DroneControl
