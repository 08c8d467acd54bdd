import DroneControl.Controller.Basic
import DroneControl.Interface.Basic

/-!
The history of a world: what the things in it told and offered one another, in order. Nothing is
decided by it; it is what statements about whole runs are about.
-/

namespace DroneControl

inductive Occurrence where
  /-- A connection tells its sink. -/
  | told (connection : ConnectionId) (event : ConnectionEvent)
  /-- A backend asks its host to open a connection for a device of a registry or a listener. -/
  | opening (connection : ConnectionId) (sink : Sink)
  /-- The host is done with opening. -/
  | opened (connection : ConnectionId)
  /-- A backend gives up a connection without telling its sink. -/
  | discarded (connection : ConnectionId)
  /-- A controller is made for a device of a registry. -/
  | appointed (controller : ControllerId) (registry : RegistryId) (device : DeviceHandle)
  /-- A controller tells its listener what became of a connection, while the device has an open
  command interface or none. -/
  | noticed (controller : ControllerId) (connection : ConnectionId) (event : DeviceEvent)
    (ready : Bool)
  /-- An entry takes what a connection told for its own, and finds that it has this observer and this
  open command interface. -/
  | heeded (registry : RegistryId) (device : DeviceHandle) (connection : ConnectionId)
    (event : ConnectionEvent) (observer : Option ControllerId) (interface : Option InterfaceId)
  /-- A device is not there, or has another connection than the one that told. -/
  | ignored (registry : RegistryId) (device : DeviceHandle) (connection : ConnectionId)
    (event : ConnectionEvent)
  /-- A controller finds a command interface to send by. -/
  | commanded (controller : ControllerId)
  /-- A controller starts its timer. -/
  | wound (controller : ControllerId)
  /-- A controller stops its timer, or has none to stop. -/
  | stilled (controller : ControllerId)
  /-- A controller tells its listener of a beat. -/
  | ticked (controller : ControllerId)
  /-- A timer beats, in a turn that began when so much had happened. -/
  | beats (turn : Nat)
  /-- A device with a connection is to be removed, and whoever observes it is to hear of the end. -/
  | leaving (registry : RegistryId) (device : DeviceHandle) (connection : ConnectionId)
    (observer : Option ControllerId)
  /-- A device goes off the table. -/
  | removed (registry : RegistryId) (device : DeviceHandle)
  /-- A registry comes to be, and keeps something for whoever is going to destroy it. -/
  | founded (registry : RegistryId) (token : Option Token)
  /-- A registry is destroyed, and gives back what it still kept. -/
  | dissolved (registry : RegistryId) (token : Option Token)
  /-- A registry tells its listener that a device is there now, or is there no longer. -/
  | announced (registry : RegistryId) (device : DeviceHandle) (there : Bool)
  /-- A discovery source that was running is told to stop. -/
  | halted (source : DiscoveryId)
  /-- A source remembers a device that it sighted when so much had happened. -/
  | adopted (source : DiscoveryId) (device : DeviceHandle) (place : Nat)
  /-- A source is done with having a device removed, which it began when so much had happened.  The
  registry may have refused. -/
  | dropped (source : DiscoveryId) (registry : RegistryId) (device : DeviceHandle) (since : Nat)
    (refusal : Option Fault)
  /-- A command takes its place in the queue of an interface. -/
  | queued (interface : InterfaceId) (data : Bytes)
  /-- An interface offers a frame to its pipe. -/
  | offered (interface : InterfaceId) (frame : Frame)
  /-- The pipe did not take the frame that was offered at a place of the history. -/
  | refused (interface : InterfaceId) (place : Nat)
  /-- An open interface gets a frame. -/
  | arrived (interface : InterfaceId) (frame : Frame)
  /-- An interface is done with acknowledging the frame that came in at a place of the history. -/
  | answered (interface : InterfaceId) (place : Nat)
  /-- An interface hands over a command it received. -/
  | delivered (interface : InterfaceId) (command : Command)
  /-- An open interface closes. -/
  | closed (interface : InterfaceId)
  deriving DecidableEq, Repr

/-- An occurrence and its time. -/
structure Happening where
  time : Nat
  what : Occurrence
  deriving DecidableEq, Repr

end DroneControl
