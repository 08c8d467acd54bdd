import DroneControl.Fault
import DroneControl.Json.Decode
import DroneControl.Text.Numeral

/-!
Firmware versions: `1.2.3`, or `1.2.3-rc4` on the channels before a release. Three zeros without a
channel are a development build. Versions are ordered by channel first.
-/

namespace DroneControl

inductive Channel where
  | dev
  | alpha
  | beta
  | rc
  | release
  deriving DecidableEq, Repr, Inhabited

namespace Channel

def all : List Channel := [dev, alpha, beta, rc, release]

def name : Channel → String
  | dev => "Dev"
  | alpha => "Alpha"
  | beta => "Beta"
  | rc => "Rc"
  | release => "Release"

def tag : Channel → String
  | dev => "dev"
  | alpha => "alpha"
  | beta => "beta"
  | rc => "rc"
  | release => "release"

def ofTag? (tag : String) : Option Channel := all.find? (·.tag == tag)

def rank : Channel → Nat
  | dev => 0
  | alpha => 1
  | beta => 2
  | rc => 3
  | release => 4

def named : List Channel := [alpha, beta, rc]

end Channel

structure Firmware where
  channel : Channel
  major : UInt32
  minor : UInt32
  patch : UInt32
  build : UInt32
  deriving DecidableEq, Repr, Inhabited

namespace Firmware

open Text

def render (v : Firmware) : String :=
  let number (n : UInt32) := Decimal.render n.toNat
  let base := number v.major ++ "." ++ number v.minor ++ "." ++ number v.patch
  if v.channel ∈ Channel.named then base ++ "-" ++ v.channel.tag ++ number v.build else base

/-- The parts of a version's text: three numbers, and a channel with a fourth number. -/
structure Parts where
  major : List Char
  minor : List Char
  patch : List Char
  suffix : Option (Channel × List Char)
  deriving DecidableEq, Repr

def splitNumber (cs : List Char) : Option (List Char × List Char) :=
  let run := cs.takeWhile isNumeral
  if run.isEmpty then none else some (run, cs.dropWhile isNumeral)

def dropPoint : List Char → Option (List Char)
  | '.' :: rest => some rest
  | _ => none

def splitSuffix (cs : List Char) : Option (Channel × List Char) :=
  Channel.named.findSome? fun channel =>
    let word := channel.tag.toList
    if word.isPrefixOf cs then
      match splitNumber (cs.drop word.length) with
      | some (run, []) => some (channel, run)
      | _ => none
    else none

def split (cs : List Char) : Option Parts := do
  let (major, rest) ← splitNumber cs
  let (minor, rest) ← splitNumber (← dropPoint rest)
  let (patch, rest) ← splitNumber (← dropPoint rest)
  match rest with
  | [] => return ⟨major, minor, patch, none⟩
  | '-' :: rest => return ⟨major, minor, patch, some (← splitSuffix rest)⟩
  | _ => none

def number? (run : List Char) : Option UInt32 :=
  if run.all Decimal.isDigit && Decimal.value run < Nat.pow 2 32 then
    some (UInt32.ofNat (Decimal.value run))
  else none

def ofParts? (parts : Parts) : Option Firmware := do
  let major ← number? parts.major
  let minor ← number? parts.minor
  let patch ← number? parts.patch
  match parts.suffix with
  | some (channel, run) => return ⟨channel, major, minor, patch, ← number? run⟩
  | none =>
    let channel := if major = 0 ∧ minor = 0 ∧ patch = 0 then Channel.dev else .release
    return ⟨channel, major, minor, patch, 0⟩

def parse (s : String) : Except Fault Firmware :=
  match split (trim s.toList) with
  | none => .error (.invalidArgument ("malformed firmware version: " ++ Quoted.quote s))
  | some parts =>
    match ofParts? parts with
    | none =>
      .error (.invalidArgument ("firmware version number out of range: " ++ Quoted.quote s))
    | some version => .ok version

def order (a b : Firmware) : Ordering :=
  (compare a.channel.rank b.channel.rank).then <|
    (compare a.major b.major).then <|
      (compare a.minor b.minor).then <|
        (compare a.patch b.patch).then (compare a.build b.build)

def sort (versions : List Firmware) : List Firmware :=
  versions.mergeSort fun a b => order a b != .gt

def toJson (v : Firmware) : Json :=
  .object
    [("firmware_type", .string v.channel.tag), ("major", .nat v.major.toNat),
      ("minor", .nat v.minor.toNat), ("patch", .nat v.patch.toNat), ("build", .nat v.build.toNat)]

def ofJson? (v : Json) : Option Firmware := do
  match ← v.fields? ["firmware_type", "major", "minor", "patch", "build"] with
  | [channel, major, minor, patch, build] =>
    let channel ← Channel.ofTag? (← (← channel).tag?)
    return ⟨channel, ← (← major).uint32?, ← (← minor).uint32?, ← (← patch).uint32?,
      ← (← build).uint32?⟩
  | _ => none

end Firmware

end DroneControl
