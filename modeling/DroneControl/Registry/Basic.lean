import DroneControl.Device.Info
import DroneControl.Options
import Std.Data.TreeMap

/-!
The registry's own records: the entry of a device, and the table of entries with its allocation of
handles.
-/

namespace DroneControl

/-- The entry of a device. -/
structure Device where
  info : DeviceInfo
  backend : BackendId
  state : DeviceState := .idle
  connection : Option ConnectionId := none
  pipe : Option PipeId := none
  interface : Option InterfaceId := none
  /-- Who asked to connect, and is told how it goes. Not kept alive. -/
  observer : Option ControllerId := none
  deriving DecidableEq, Repr, Inhabited

namespace Device

def claim (d : Device) (c : ConnectionId) : Option Device :=
  match d.connection with
  | none => some { d with connection := some c }
  | some own => if own = c then some d else none

def cleared (d : Device) : Device :=
  { d with
    state := if d.state = .removing then .removing else .idle
    connection := none
    pipe := none
    interface := none
    observer := none }

end Device

structure Registry where
  /-- How many more than one keep the registry. -/
  sharers : Nat := 0
  listener : ListenerId
  traceCell : TraceCellId
  closed : Bool := false
  token : Option String := none
  agent : Agent := {}
  videoDecoding : Bool := false
  /-- Where the search for a free handle starts. -/
  cursor : UInt16 := 1
  devices : Std.TreeMap Nat Device := {}
  backends : List BackendId := []
  discoveries : List DiscoveryId := []

instance : Inhabited Registry := ⟨{ listener := ⟨0⟩, traceCell := ⟨0⟩ }⟩

namespace Registry

def device? (r : Registry) (h : DeviceHandle) : Option Device := r.devices[h.raw.toNat]?

def setDevice (r : Registry) (h : DeviceHandle) (d : Device) : Registry :=
  { r with devices := r.devices.insert h.raw.toNat d }

def updateDevice (r : Registry) (h : DeviceHandle) (f : Device → Device) : Registry :=
  match r.device? h with
  | some d => r.setDevice h (f d)
  | none => r

def eraseDevice (r : Registry) (h : DeviceHandle) : Registry :=
  { r with devices := r.devices.erase h.raw.toNat }

section Look

variable (r : Registry) (h h' : DeviceHandle) (d : Device)

private theorem key_eq_iff : h.raw.toNat = h'.raw.toNat ↔ h = h' := by
  cases h
  cases h'
  simp [UInt16.toNat_inj]

theorem device?_setDevice :
    (r.setDevice h d).device? h' = if h = h' then some d else r.device? h' := by
  simp only [device?, setDevice, Std.TreeMap.getElem?_insert, Std.compare_eq_iff_eq, key_eq_iff]

theorem device?_eraseDevice :
    (r.eraseDevice h).device? h' = if h = h' then none else r.device? h' := by
  simp only [device?, eraseDevice, Std.TreeMap.getElem?_erase, Std.compare_eq_iff_eq, key_eq_iff]

theorem device?_updateDevice (f : Device → Device) :
    (r.updateDevice h f).device? h' = if h = h' then (r.device? h).map f else r.device? h' := by
  unfold updateDevice
  split
  · next d hd => rw [device?_setDevice, hd]; rfl
  · next hd =>
    split
    · next same => rw [← same, hd]; rfl
    · rfl

end Look

def handles (r : Registry) : List DeviceHandle :=
  r.devices.keys.map fun n => ⟨UInt16.ofNat n⟩

def following (raw : UInt16) : UInt16 := if raw + 1 = 0 then 1 else raw + 1

def isFree (r : Registry) (raw : UInt16) : Bool :=
  raw ≠ DeviceHandle.invalidRaw && (r.device? ⟨raw⟩).isNone

def searchFree (r : Registry) : Nat → UInt16 → Option UInt16
  | 0, _ => none
  | steps + 1, raw => if r.isFree raw then some raw else r.searchFree steps (following raw)

def allocate (r : Registry) : Option (DeviceHandle × Registry) :=
  (r.searchFree 65535 r.cursor).map fun raw => (⟨raw⟩, { r with cursor := following raw })

def inspect (r : Registry) : String :=
  let count (n : Nat) := Text.Decimal.render n
  Text.outlineOpen "Registry"
    [("devices", count r.devices.size), ("backends", count r.backends.length),
      ("discoveries", count r.discoveries.length), ("closed", Text.outlineBool r.closed)]

end Registry

end DroneControl
