import DroneControl.Device.Handshake
import DroneControl.Discovery.Basic
import DroneControl.Proxy.Basic

/-!
The steps of a scenario. A step creates a thing under a name, asks something of a named thing, lets
time pass, or lays down how the host reacts when it is told something.
-/

namespace DroneControl.Scenario

/-- How a host takes a request to open a Bluetooth session. -/
structure BleMode where
  /-- It claims the connection. -/
  attaches : Bool := false
  /-- It says that the session could not be opened. -/
  refuses : Bool := false
  deriving DecidableEq, Repr, Inhabited

/-- Whether a supplied link fails to start or stop, and how many frames it will refuse. -/
structure LinkMode where
  failsStart : Bool := false
  failsStop : Bool := false
  rejects : Nat := 0
  deriving DecidableEq, Repr, Inhabited

/-- What a channel refuses. -/
structure ChannelMode where
  frames : Bool := false
  proxies : Bool := false
  deriving DecidableEq, Repr, Inhabited

inductive RegistryCall where
  | destroy
  | devices
  | info (device : DeviceHandle)
  | state (device : DeviceHandle)
  | add (backend : String) (info : DeviceInfo)
  /-- Adds a device again and again without a record of it, and may remove it at once. -/
  | addMany (backend : String) (info : DeviceInfo) (count : Nat) (removing : Bool)
  | remove (device : DeviceHandle)
  | disconnect (device : DeviceHandle)
  | agent
  | setAgent (agent : Agent)
  | video
  | setVideo (enabled : Bool)
  | traceLevel
  | setTraceLevel (level : TraceLevel)
  | createInterface (device : DeviceHandle) (name : String)
  | interface (device : DeviceHandle) (name : String)
  | openProxy (device : DeviceHandle) (type : DeviceType) (port : UInt16) (listener : String)
  | channel (device : DeviceHandle)
  | token (device : DeviceHandle)
  | registerBackend (backend : String)
  | unregisterBackend (backend : String)
  | backendKind (backend : String)
  | registerDiscovery (name : String)
  | unregisterDiscovery (name : String)
  /-- Looks whether the registry is there, before and after its name is dropped. -/
  | liveness (drop : Bool)
  deriving Repr

inductive BackendCall where
  | id
  | kind
  | token
  | live
  | hasChannel
  | start (device : DeviceHandle) (info : DeviceInfo) (agent : Agent) (sink : String)
  | stop (device : DeviceHandle) (connection : String)
  | openProxy (device : DeviceHandle) (type : DeviceType) (port : UInt16) (listener : String)
  | failNext
  | listenPort
  | handshake (info : DeviceInfo) (agent : Agent)
  | completeHandshake (connection link : String) (reply : Bytes)
  | setBleMode (mode : BleMode)
  | setChannelMode (mode : ChannelMode)
  | startDiscovery
  | stopDiscovery
  | addDevice (sighting : Sighting)
  | removeDevice (name : String) (type : DeviceType)
  | setTypes (types : Option (List DeviceType))
  | inspectDiscovery
  | receive (frame : Frame)
  | endOfFile
  | listenForEnd
  | destroy
  deriving Repr

inductive DiscoveryCall where
  | id
  | start
  | stop
  | setTypes (types : Option (List DeviceType))
  | addDevice (sighting : Sighting)
  | removeDevice (name : String) (type : DeviceType)
  deriving Repr

inductive ControllerCall where
  | connect
  | send (command : Command)
  | startTimer (period : UInt32)
  | stopTimer
  | disconnect
  | device
  | info
  | token
  | destroy
  deriving Repr

inductive ConnectionCall where
  | connecting
  | connected (link : String) (api : DeviceApi)
  | disconnected
  | failed
  | cancel (reason : CancelReason)
  | beginClose
  | reportLink (status : LinkStatus)
  | receive (frame : Frame)
  | receivePacket (characteristic : UInt8) (packet : Bytes)
  | attach (token : String)
  | detach
  | dispose
  | describe
  | same (other : String)
  | namePipe (name : String)
  deriving Repr

inductive PipeCall where
  | start
  | stop
  | dispose
  | send (frame : Frame)
  | receive (frame : Frame)
  | setReceiver (name : String)
  | clearReceiver
  deriving Repr

inductive InterfaceCall where
  | send (command : Command)
  | close
  | quality (sent received useful : Int)
  | device
  | setTraceLevel (level : TraceLevel)
  deriving Repr

inductive ProxyCall where
  | reportOpen (result : Except Fault Endpoint)
  | reportClosed
  | close
  | describe

inductive StreamCall where
  | openOn (session : String) (fails : Bool)
  | close
  | url
  deriving Repr

inductive TimerCall where
  | clear
  | period
  deriving Repr

/-- What is put under a name. -/
inductive Creation where
  /-- A registry with default options on the loop. -/
  | registry (agent : Option Agent) (video : Option Bool) (level : Option TraceLevel)
      (options : Option String) (hasListener : Bool) (token : Option String)
  | net (registry : String) (listenPort : UInt16) (token : Option String)
  | ble (registry : String) (mode : BleMode) (token : Option String)
  | mux (registry : String) (descriptor : Int) (token : Option String) (fails : Bool)
  | discovery (registry name backend : String)
  | controller (registry : String) (device : DeviceHandle) (token : Option String) (bare : Bool)
  | link (mode : LinkMode)
  | pipe (link : String)
  | interface (device : DeviceHandle) (pipe : String) (level : TraceLevel) (bare : Bool)
  | stream (registry : String) (device : DeviceHandle) (url : String)
  | deferred
  | oneShot (delay : Nat)
  | periodic (period : Nat)
  deriving Repr

inductive Step where
  /-- The next so many times that the source tells of something of this kind, takes steps right
  there. Each comes with the word for it in the journal. -/
  | react (source kind : String) (times : Nat) (steps : List (String × Step))
  | drop (name : String)
  | inspect (name : String)
  | settle
  | advance (ms : Nat)
  | jump (ms : Nat)
  | create (name : String) (what : Creation)
  | newConnection (device : DeviceHandle) (address sink : String)
  | newProxy (device : DeviceHandle) (type : DeviceType) (port : UInt16) (listener : String)
  | setLink (name : String) (mode : LinkMode)
  /-- The channel of a name reports its end, whatever became of the backend. -/
  | channelEnd (name : String)
  /-- The channel of a name is released. -/
  | channelRelease (name : String)
  | inspectLoop
  | registry (name : String) (call : RegistryCall)
  | backend (name : String) (call : BackendCall)
  | discovery (name : String) (call : DiscoveryCall)
  | controller (name : String) (call : ControllerCall)
  | connection (name : String) (call : ConnectionCall)
  | pipe (name : String) (call : PipeCall)
  | interface (name : String) (call : InterfaceCall)
  | proxy (name : String) (call : ProxyCall)
  | stream (name : String) (call : StreamCall)
  | timer (name : String) (call : TimerCall)
  /-- A step with an argument that does not stand for anything. -/
  | refused (fault : Fault)

instance : Inhabited Step := ⟨.settle⟩

mutual

def Step.weight : Step → Nat
  | .react _ _ times steps => 1 + times * weights steps
  | _ => 1

def weights : List (String × Step) → Nat
  | [] => 0
  | (_, step) :: rest => step.weight + weights rest

end

end DroneControl.Scenario
