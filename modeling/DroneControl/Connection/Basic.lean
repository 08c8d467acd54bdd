import DroneControl.Device.Info
import DroneControl.Protocol.Frame

/-!
Device connections. One stands for one attempt to reach a device; it tells a sink how the attempt
goes. It ends closed, from whatever state.
-/

namespace DroneControl

abbrev Token := String

inductive ConnectionState where
  | connecting
  | connected
  | disconnecting
  | canceling
  | closed
  deriving DecidableEq, Repr, Inhabited

def ConnectionState.name : ConnectionState → String
  | connecting => "Connecting"
  | connected => "Connected"
  | disconnecting => "Disconnecting"
  | canceling => "Canceling"
  | closed => "Closed"

def ConnectionState.isEstablished : ConnectionState → Bool
  | connected | disconnecting => true
  | _ => false

def ConnectionState.isPending : ConnectionState → Bool
  | connecting | canceling => true
  | _ => false

/-- What a connection tells its sink. -/
inductive ConnectionEvent where
  | connecting
  | connected (pipe : PipeId) (api : DeviceApi)
  | disconnected
  | canceled (reason : CancelReason)
  | link (status : LinkStatus)
  deriving DecidableEq, Repr

/-- Who is told: the entry of a device in a registry, which it does not keep alive, or a listener. -/
inductive Sink where
  | entry (registry : RegistryId) (device : DeviceHandle)
  | listener (listener : ListenerId)
  deriving DecidableEq, Repr

instance : Inhabited Sink := ⟨.listener ⟨0⟩⟩

/-- What is done once when a connection closes. -/
inductive CloseHook where
  /-- Takes the connection off its backend's live connections. -/
  | untrack (backend : BackendId)
  /-- Drops the capability that its backend noted for it. -/
  | forgetApi (backend : BackendId)
  deriving DecidableEq, Repr

/-- What became of a handle of the upper layer. -/
inductive Handover where
  | attached (token : Token)
  | detached (token : Token)
  deriving DecidableEq, Repr

structure Connection where
  device : DeviceHandle
  backend : BackendId
  address : String
  sink : Sink
  state : ConnectionState := .connecting
  /-- The sink has been told that the attempt started. -/
  announced : Bool := false
  pipe : Option PipeId := none
  attached : Option Token := none
  hooks : List CloseHook := []
  /-- The states it was in before, each with the pipe it had then. -/
  past : List (ConnectionState × Option PipeId) := []
  /-- What was ever noted to be done when it closes, and what of that has been done. -/
  noted : List CloseHook := []
  done : List CloseHook := []
  /-- Which handles were attached and detached, in order. -/
  handovers : List Handover := []
  deriving DecidableEq, Repr

instance : Inhabited Connection :=
  ⟨{ device := default, backend := default, address := "", sink := default, state := .closed,
     announced := true }⟩

namespace Connection

def enter (c : Connection) (state : ConnectionState) (pipe : Option PipeId) : Connection :=
  { c with
    state
    pipe
    past := if c.state = state then c.past else c.past ++ [(c.state, c.pipe)] }

section Enter

variable (c : Connection) (state : ConnectionState) (pipe : Option PipeId)

@[simp] theorem enter_state : (c.enter state pipe).state = state := rfl

@[simp] theorem enter_pipe : (c.enter state pipe).pipe = pipe := rfl

@[simp] theorem enter_announced : (c.enter state pipe).announced = c.announced := rfl

@[simp] theorem enter_sink : (c.enter state pipe).sink = c.sink := rfl

end Enter

def closeRequested (c : Connection) : Connection :=
  match c.state with
  | .connecting => c.enter .canceling c.pipe
  | .connected => c.enter .disconnecting c.pipe
  | _ => c

def closed (c : Connection) : Connection := c.enter .closed none

def attaching (c : Connection) (token : Token) : Connection :=
  { c with
    attached := c.attached.or (some token)
    handovers := c.handovers ++ if c.attached.isNone then [.attached token] else [] }

def detaching (c : Connection) : Connection :=
  { c with
    attached := none
    handovers := c.handovers ++ c.attached.toList.map .detached }

def inspect (id : ConnectionId) (c : Connection) : String :=
  Text.outlineOpen "DeviceConnection"
    [("id", id.inspect), ("device", c.device.inspect), ("address", Text.Quoted.quote c.address),
      ("state", c.state.name)]

end Connection

end DroneControl
