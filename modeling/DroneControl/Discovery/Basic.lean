import DroneControl.Device.Info

/-!
Discovery sources. A source feeds a registry with devices of one backend, each known to the source by
its name and type.
-/

namespace DroneControl

/-- What a source tells of a device it found. -/
structure Sighting where
  name : String
  deviceType : DeviceType
  address : String
  port : UInt16
  id : String
  deriving DecidableEq, Repr, Inhabited

abbrev DeviceKey := String × DeviceType

structure Discovery where
  /-- How many more than one keep the source. -/
  sharers : Nat := 0
  name : String
  backend : BackendId
  backendKind : BackendKind
  /-- Not kept alive. -/
  registry : RegistryId
  running : Bool := false
  /-- The types that are let in, `none` for all. -/
  types : Option (List DeviceType) := none
  devices : List (DeviceKey × DeviceHandle) := []
  /-- Every device it ever added, with the place in the history where the registry told of it. -/
  added : List (DeviceKey × DeviceHandle × Nat) := []
  deriving DecidableEq, Repr, Inhabited

namespace Discovery

def handle? (d : Discovery) (key : DeviceKey) : Option DeviceHandle := d.devices.lookup key

def forget (d : Discovery) (key : DeviceKey) : Discovery :=
  { d with devices := d.devices.filter (·.1 ≠ key) }

def remember (d : Discovery) (key : DeviceKey) (h : DeviceHandle) (place : Nat) : Discovery :=
  let d := d.forget key
  { d with devices := d.devices ++ [(key, h)], added := d.added ++ [(key, h, place)] }

def admits (d : Discovery) (t : DeviceType) : Bool :=
  match d.types with
  | some types => t ∈ types
  | none => true

def inspect (id : DiscoveryId) (d : Discovery) : String :=
  Text.outlineOpen "Discovery"
    [("id", id.inspect), ("name", Text.Quoted.quote d.name), ("backend", d.backend.inspect),
      ("running", Text.outlineBool d.running)]

end Discovery

def Sighting.info (s : Sighting) (kind : BackendKind) : DeviceInfo where
  id := s.id
  name := s.name
  deviceType := s.deviceType
  backendKind := kind
  address := s.address
  port := s.port
  api := .unknown

end DroneControl
