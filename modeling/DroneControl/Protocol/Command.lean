import DroneControl.Protocol.Frame
import DroneControl.Text.Hex

/-!
Commands. A command is a byte buffer: project, class, and the command number in two bytes, least
significant first, followed by arguments that stay opaque here. A table of known commands gives their
names, their class of delivery and whether they are frequent telemetry.
-/

namespace DroneControl

/-- A project and a class within it, packed into 16 bits. -/
structure FeatureId where
  raw : UInt16
  deriving DecidableEq, Repr, Inhabited

namespace FeatureId

def ofParts (project classId : UInt8) : FeatureId := ⟨project.toUInt16 <<< 8 ||| classId.toUInt16⟩

def project (f : FeatureId) : UInt8 := (f.raw >>> 8).toUInt8

def classId (f : FeatureId) : UInt8 := (f.raw &&& 0xFF).toUInt8

theorem ofParts_parts (f : FeatureId) : ofParts f.project f.classId = f := by
  obtain ⟨raw⟩ := f
  have bound : raw.toNat < 65536 := raw.toNat_lt
  have low (n : Nat) : n &&& 255 = n % 256 := Nat.and_two_pow_sub_one_eq_mod n 8
  have high : raw.toNat >>> 8 = raw.toNat / 256 := Nat.shiftRight_eq_div_pow raw.toNat 8
  have joined := Nat.shiftLeft_add_eq_or_of_lt (show raw.toNat % 256 < 2 ^ 8 by omega)
    (raw.toNat / 256 % 256)
  rw [Nat.shiftLeft_eq] at joined
  simp only [ofParts, project, classId, mk.injEq]
  apply UInt16.toNat.inj
  simp only [UInt16.toNat_or, UInt16.toNat_shiftLeft, UInt16.toNat_shiftRight, UInt16.toNat_and,
    UInt8.toNat_toUInt16, UInt16.toNat_toUInt8]
  simp [high, Nat.shiftLeft_eq, low]
  rw [Nat.mod_eq_of_lt, ← joined] <;> omega

def label (f : FeatureId) : String := Text.Hex.render f.raw.toNat

def inspect (f : FeatureId) : String := "FeatureId(" ++ Text.Decimal.render f.raw.toNat ++ ")"

end FeatureId

/-- How a command is delivered: repeated until acknowledged, sent once, or not at all because
nothing is known about it. -/
inductive Delivery where
  | ack
  | nonAck
  | invalid
  deriving DecidableEq, Repr, Inhabited

def Delivery.name : Delivery → String
  | .ack => "Ack"
  | .nonAck => "NonAck"
  | .invalid => "Invalid"

/-- What is known about a command. -/
structure CommandInfo where
  project : UInt8
  classId : UInt8
  command : UInt8
  name : String
  delivery : Delivery
  frequent : Bool
  deriving DecidableEq, Repr

namespace CommandInfo

def keyOf (project classId command : UInt8) : Nat :=
  (project.toNat * 256 + classId.toNat) * 256 + command.toNat

def key (info : CommandInfo) : Nat := keyOf info.project info.classId info.command

/-- The known commands, in ascending order of their keys. -/
def table : Array CommandInfo := #[
  ⟨0, 2, 0, "common.Settings.AllSettings", .ack, false⟩,
  ⟨0, 2, 2, "common.Settings.ProductName", .ack, false⟩,
  ⟨0, 3, 0, "common.SettingsState.AllSettingsChanged", .ack, false⟩,
  ⟨0, 4, 0, "common.Common.AllStates", .ack, false⟩,
  ⟨0, 4, 1, "common.Common.CurrentDate", .ack, false⟩,
  ⟨0, 4, 2, "common.Common.CurrentTime", .ack, false⟩,
  ⟨0, 5, 0, "common.CommonState.AllStatesChanged", .ack, false⟩,
  ⟨0, 5, 1, "common.CommonState.BatteryStateChanged", .ack, false⟩,
  ⟨0, 5, 4, "common.CommonState.MassStorageInfoRemainingListChanged", .ack, true⟩,
  ⟨0, 5, 7, "common.CommonState.WifiSignalChanged", .ack, true⟩,
  ⟨0, 5, 8, "common.CommonState.SensorsStatesListChanged", .ack, false⟩,
  ⟨0, 24, 0, "common.HeadlightsState.intensityChanged", .ack, false⟩,
  ⟨1, 0, 0, "ardrone3.Piloting.FlatTrim", .ack, false⟩,
  ⟨1, 0, 1, "ardrone3.Piloting.TakeOff", .ack, false⟩,
  ⟨1, 0, 2, "ardrone3.Piloting.PCMD", .nonAck, false⟩,
  ⟨1, 0, 3, "ardrone3.Piloting.Landing", .ack, false⟩,
  ⟨1, 0, 4, "ardrone3.Piloting.Emergency", .ack, false⟩,
  ⟨1, 4, 1, "ardrone3.PilotingState.FlyingStateChanged", .ack, false⟩,
  ⟨1, 4, 4, "ardrone3.PilotingState.PositionChanged", .nonAck, true⟩,
  ⟨1, 4, 5, "ardrone3.PilotingState.SpeedChanged", .nonAck, true⟩,
  ⟨1, 4, 6, "ardrone3.PilotingState.AttitudeChanged", .nonAck, true⟩,
  ⟨1, 4, 8, "ardrone3.PilotingState.AltitudeChanged", .nonAck, true⟩,
  ⟨1, 31, 2, "ardrone3.GPSSettingsState.NumberOfSatelliteChanged", .ack, true⟩]

/-- Halves the stretch of the table from `low` up to `high` until it holds the key or nothing. -/
def search (entries : Array CommandInfo) (key low high : Nat) : Option CommandInfo :=
  if low < high then
    let middle := low + (high - low) / 2
    match entries[middle]? with
    | none => none
    | some info =>
      if info.key = key then some info
      else if info.key < key then search entries key (middle + 1) high
      else search entries key low middle
  else none
termination_by high - low

def describe (feature : FeatureId) (command : UInt16) : Option CommandInfo :=
  if command.toNat < 256 then
    search table (keyOf feature.project feature.classId command.toUInt8) 0 table.size
  else none

def scan (feature : FeatureId) (command : UInt16) : Option CommandInfo :=
  table.toList.find? fun info =>
    info.project = feature.project && info.classId = feature.classId &&
      info.command.toNat = command.toNat

end CommandInfo

def Command.decodeHeader (data : Bytes) : Except Fault (FeatureId × UInt8) :=
  match data with
  | project :: classId :: low :: high :: _ =>
    let raw := low.toNat + 256 * high.toNat
    if raw < 256 then .ok (FeatureId.ofParts project classId, low)
    else .error (.invalidArgument ("command id out of range: " ++ Text.Decimal.render raw))
  | _ => .error (.invalidArgument
      ("command buffer too short: " ++ Text.Decimal.render data.length ++ " bytes"))

/-- An encoded command with its decoded header and its class of delivery. -/
structure Command where
  feature : FeatureId
  number : UInt8
  delivery : Delivery
  data : Bytes
  header : Command.decodeHeader data = .ok (feature, number)
  deriving DecidableEq, Repr

namespace Command

def headerLength : Nat := 4

def info? (feature : FeatureId) (number : UInt8) : Option CommandInfo :=
  CommandInfo.describe feature number.toUInt16

def deliveryOf (feature : FeatureId) (number : UInt8) : Delivery :=
  ((info? feature number).map (·.delivery)).getD .invalid

theorem decodeHeader_encoded (feature : FeatureId) (number : UInt8) (args : Bytes) :
    decodeHeader (feature.project :: feature.classId :: number :: 0 :: args) =
      .ok (feature, number) := by
  have bound : number.toNat < 256 := number.toNat_lt
  simp [decodeHeader, bound, FeatureId.ofParts_parts]

def encode (feature : FeatureId) (number : UInt8) (args : Bytes) : Command where
  feature := feature
  number := number
  delivery := deliveryOf feature number
  data := feature.project :: feature.classId :: number :: 0 :: args
  header := decodeHeader_encoded feature number args

instance : Inhabited Command := ⟨encode default default []⟩

def decode (data : Bytes) : Except Fault Command :=
  match header : decodeHeader data with
  | .ok (feature, number) =>
    .ok { feature, number, delivery := deliveryOf feature number, data, header }
  | .error f => .error f

def withDelivery (c : Command) (delivery : Delivery) : Command := { c with delivery }

def overwrite (c : Command) (data : Bytes) : Except Fault Unit × Command :=
  match header : decodeHeader data with
  | .ok (feature, number) =>
    (.ok (), { c with feature, number, delivery := deliveryOf feature number, data, header })
  | .error f => (.error f, c)

def setData (c : Command) (data : Bytes) : Except Fault Command :=
  let (result, c) := c.overwrite data
  result.map fun _ => c

def args (c : Command) : Bytes := c.data.drop headerLength

def name? (c : Command) : Option String := (info? c.feature c.number).map (·.name)

def isFrequent (c : Command) : Bool := ((info? c.feature c.number).map (·.frequent)).getD false

def same (a b : Command) : Bool := a.data = b.data

def inspect (c : Command) : String :=
  Text.outline "Command"
    [("feature", c.feature.inspect), ("command_id", Text.Decimal.render c.number.toNat),
      ("name", Text.outlineOption (c.name?.map Text.Quoted.quote)),
      ("buffer_type", c.delivery.name), ("len", Text.Decimal.render c.data.length)]

end Command

end DroneControl
