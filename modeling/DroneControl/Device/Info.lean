import DroneControl.Fault
import DroneControl.Json.Decode
import DroneControl.Text.Hex

/-!
What is known about a discovered device, and the conditions a device, its connection and its link can
be in.
-/

namespace DroneControl

/-- The numeric type of a device. Types without a name are kept as they are. -/
structure DeviceType where
  code : UInt32
  deriving DecidableEq, Repr, Inhabited

namespace DeviceType

def anafi4k : DeviceType := ⟨0x0914⟩
def skyController3 : DeviceType := ⟨0x0918⟩
def anafiThermal : DeviceType := ⟨0x0919⟩
def anafi2 : DeviceType := ⟨0x091A⟩
def anafiUa : DeviceType := ⟨0x091B⟩
def skyControllerUa : DeviceType := ⟨0x091C⟩
def anafiUsa : DeviceType := ⟨0x091E⟩
def skyController4 : DeviceType := ⟨0x091F⟩

def names : List (DeviceType × String) :=
  [(anafi4k, "ANAFI_4K"), (skyController3, "SKYCTRL_3"), (anafiThermal, "ANAFI_THERMAL"),
    (anafi2, "ANAFI_2"), (anafiUa, "ANAFI_UA"), (skyControllerUa, "SKYCTRL_UA"),
    (anafiUsa, "ANAFI_USA"), (skyController4, "SKYCTRL_4")]

def name? (t : DeviceType) : Option String := names.lookup t

def label (t : DeviceType) : String := t.name?.getD (Text.Hex.render t.code.toNat)

def inspect (t : DeviceType) : String := "DeviceType(" ++ Text.Decimal.render t.code.toNat ++ ")"

end DeviceType

/-- The transport that a device is reached by. -/
inductive BackendKind where
  | net
  | ble
  | mux
  deriving DecidableEq, Repr, Inhabited

def BackendKind.tag : BackendKind → String
  | net => "net"
  | ble => "ble"
  | mux => "mux"

def BackendKind.ofTag? (tag : String) : Option BackendKind :=
  [net, ble, mux].find? (·.tag == tag)

/-- What a connected device can do. -/
inductive DeviceApi where
  | unknown
  | full
  | updateOnly
  deriving DecidableEq, Repr, Inhabited

namespace DeviceApi

def all : List DeviceApi := [unknown, full, updateOnly]

def name : DeviceApi → String
  | unknown => "Unknown"
  | full => "Full"
  | updateOnly => "UpdateOnly"

def tag : DeviceApi → String
  | unknown => "unknown"
  | full => "full"
  | updateOnly => "update_only"

def ofTag? (tag : String) : Option DeviceApi := all.find? (·.tag == tag)

def effective : DeviceApi → DeviceApi
  | unknown => full
  | api => api

end DeviceApi

/-- Why a connection attempt ended. -/
inductive CancelReason where
  | local
  | remote
  | rejected
  | linkLost
  deriving DecidableEq, Repr, Inhabited

namespace CancelReason

def all : List CancelReason := [.local, remote, rejected, linkLost]

def name : CancelReason → String
  | .local => "Local"
  | remote => "Remote"
  | rejected => "Rejected"
  | linkLost => "LinkLost"

def tag : CancelReason → String
  | .local => "local"
  | remote => "remote"
  | rejected => "rejected"
  | linkLost => "link_lost"

def ofTag? (tag : String) : Option CancelReason := all.find? (·.tag == tag)

end CancelReason

inductive LinkStatus where
  | up
  | down
  deriving DecidableEq, Repr, Inhabited

namespace LinkStatus

def name : LinkStatus → String
  | up => "Up"
  | down => "Down"

def tag : LinkStatus → String
  | up => "up"
  | down => "down"

def ofTag? (tag : String) : Option LinkStatus := [up, down].find? (·.tag == tag)

end LinkStatus

/-- The condition of a device in the registry. -/
inductive DeviceState where
  | idle
  | connecting
  | connected
  | removing
  deriving DecidableEq, Repr, Inhabited

namespace DeviceState

def all : List DeviceState := [idle, connecting, connected, removing]

def name : DeviceState → String
  | idle => "Idle"
  | connecting => "Connecting"
  | connected => "Connected"
  | removing => "Removing"

def tag : DeviceState → String
  | idle => "idle"
  | connecting => "connecting"
  | connected => "connected"
  | removing => "removing"

def ofTag? (tag : String) : Option DeviceState := all.find? (·.tag == tag)

end DeviceState

structure DeviceInfo where
  /-- The serial number. -/
  id : String
  name : String
  deviceType : DeviceType
  backendKind : BackendKind
  address : String
  port : UInt16
  api : DeviceApi
  deriving DecidableEq, Repr, Inhabited

namespace DeviceInfo

def toJson (info : DeviceInfo) : Json :=
  .object
    [("id", .string info.id), ("name", .string info.name),
      ("device_type", .nat info.deviceType.code.toNat),
      ("backend_kind", .string info.backendKind.tag), ("address", .string info.address),
      ("port", .nat info.port.toNat), ("api", .string info.api.tag)]

/-- A capability that is missing is not known. -/
def ofJson? (v : Json) : Option DeviceInfo := do
  let names := ["id", "name", "device_type", "backend_kind", "address", "port", "api"]
  match ← v.fields? names with
  | [id, name, deviceType, kind, address, port, api] =>
    let kind ← BackendKind.ofTag? (← (← kind).tag?)
    let api ← Json.fieldOr .unknown (fun v => v.tag? >>= DeviceApi.ofTag?) api
    return ⟨← (← id).text?, ← (← name).text?, ⟨← (← deviceType).uint32?⟩, kind,
      ← (← address).text?, ← (← port).uint16?, api⟩
  | _ => none

end DeviceInfo

end DroneControl
