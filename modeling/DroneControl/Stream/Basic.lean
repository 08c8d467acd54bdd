import DroneControl.Device.Info

/-!
Stream sources: where the media stream of a device is found, by the kind of its backend and its type.
-/

namespace DroneControl

def rtspPort : UInt16 := 554

structure Stream where
  /-- How many more than one keep the source. -/
  sharers : Nat := 0
  /-- Kept alive by the source. -/
  registry : RegistryId
  device : DeviceHandle
  url : String
  proxy : Option ProxyId := none
  deriving DecidableEq, Repr, Inhabited

namespace Stream

def path (s : Stream) : String := String.ofList (s.url.toList.dropWhile (· = '/'))

def servesDirectly (t : DeviceType) : Bool :=
  t ∈ [DeviceType.anafi4k, .anafiThermal, .anafiUa, .anafiUsa]

def behind? (remote : DeviceType) : Option DeviceType :=
  [(DeviceType.skyController3, DeviceType.anafi4k),
    (.skyControllerUa, .anafiUa)].lookup remote

def unsupported (info : DeviceInfo) : Fault :=
  .notImplemented
    ("no stream for " ++ info.backendKind.tag ++ " device " ++ info.deviceType.label)

def inspect (s : Stream) : String :=
  Text.outlineOpen "StreamSource"
    [("handle", s.device.inspect), ("url", Text.Quoted.quote s.url)]

end Stream

end DroneControl
