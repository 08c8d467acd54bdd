import DroneControl.Connection.Basic
import DroneControl.Protocol.Command

/-!
Device controllers: the upper layer's hold on one device, with a timer for best-effort commands.
-/

namespace DroneControl

/-- What a controller tells its listener. -/
inductive DeviceEvent where
  | connecting
  | connected (api : DeviceApi)
  | disconnected (removing : Bool)
  | canceled (reason : CancelReason) (removing : Bool)
  | link (status : LinkStatus)
  | command (command : Command)
  | tick
  deriving DecidableEq, Repr

structure Controller where
  /-- How many more than one keep the controller. -/
  sharers : Nat := 0
  device : DeviceHandle
  /-- Kept alive by the controller. -/
  registry : RegistryId
  listener : ListenerId
  token : Option Token
  timer : Option TimerId := none
  /-- How often the timer was started, and how often the listener was told of a beat. -/
  starts : Nat := 0
  ticks : Nat := 0
  deriving DecidableEq, Repr

instance : Inhabited Controller :=
  ⟨{ device := default, registry := default, listener := default, token := none
     timer := some default }⟩

def Controller.noteTick (c : Controller) : Controller := { c with ticks := c.ticks + 1 }

def Controller.inspect (c : Controller) : String :=
  Text.outlineOpen "DeviceController"
    [("handle", c.device.inspect), ("timer_running", Text.outlineBool c.timer.isSome)]

end DroneControl
