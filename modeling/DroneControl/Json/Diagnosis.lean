import DroneControl.Json.Scan
import DroneControl.Text.Binary64
import DroneControl.Text.Quoted

/-!
What is wrong with a text that should hold a structure of whole numbers: the first complaint, with its
line and column.
-/

namespace DroneControl.Json

/-- A field that holds a whole number between two bounds. -/
structure NumberField where
  name : String
  /-- What the bounds are called. -/
  type : String
  least : Int
  greatest : Int
  required : Bool
  deriving DecidableEq, Repr

structure NumberShape where
  name : String
  fields : List NumberField
  deriving DecidableEq, Repr

/-- A number as it is read: a whole one that fits 64 bits, or a floating one. -/
inductive ScannedNumber where
  | whole (n : Int)
  | floating (negative : Bool) (x : Text.Binary64)
  deriving DecidableEq, Repr

namespace Scan

open Text

def accumulate (n : Nat) : List UInt8 → Nat × List UInt8
  | [] => (n, [])
  | d :: rest =>
    let next := 10 * n + (d.toNat - 0x30)
    if next < Nat.pow 2 64 then accumulate next rest else (n, d :: rest)

def outOfRange {α : Type} : Scan α := here "number out of range"

def powerOfTen (n : Nat) : Binary64 := (Binary64.round? (Nat.pow 10 n) 1).getD ⟨0, 0⟩

def shift (x : Binary64) (power : Int) : Nat → Option Binary64
  | 0 => some x
  | fuel + 1 =>
    if power.natAbs ≤ 308 then
      let ten := powerOfTen power.natAbs
      if 0 ≤ power then x.mul? ten else x.div? ten
    else if x.isZero then some x
    else if 0 ≤ power then none
    else (x.div? (powerOfTen 308)).bind fun x => shift x (power + 308) fuel

def floating (negative : Bool) (significand : Nat) (power : Int) : Scan ScannedNumber := do
  match (Binary64.round? significand 1).bind fun x => shift x power (power.natAbs / 308 + 1) with
  | some x => return .floating negative x
  | none => outOfRange

/-- The digits of an exponent as long as they fit 31 bits. -/
def exponentDigits (n : Nat) : Nat → Scan (Option Nat)
  | 0 => return some n
  | fuel + 1 => do
    match ← peek? with
    | some c =>
      if c.isDigit then
        eat
        let next := 10 * n + (c.toNat - 0x30)
        if next < Nat.pow 2 31 then exponentDigits next fuel else return none
      else return some n
    | none => return some n

/-- The exponent of a number after its mark. -/
def exponent (negative : Bool) (significand : Nat) (power : Int) : Scan ScannedNumber := do
  let sign ← peek?
  if sign = some '+' || sign = some '-' then eat
  match ← next? with
  | none => here eofInValue
  | some c =>
    if !c.isDigit then here invalidNumber
    match ← exponentDigits (c.toNat - 0x30) (← turns) with
    | some e => floating negative significand (if sign = some '-' then power - e else power + e)
    | none =>
      if significand ≠ 0 && sign ≠ some '-' then outOfRange
      discard digits
      return .floating negative ⟨0, 0⟩

def exponent? (negative : Bool) (significand : Nat) (power : Int) : Scan ScannedNumber := do
  match ← peek? with
  | some 'e' | some 'E' =>
    eat
    exponent negative significand power
  | _ => floating negative significand power

def fraction (negative : Bool) (significand : Nat) (power : Int) : Scan ScannedNumber := do
  let places ← digits
  if places.isEmpty then
    match ← peek? with
    | some _ => ahead invalidNumber
    | none => ahead eofInValue
  let (significand, rest) := accumulate significand places
  exponent? negative significand (power - (places.length - rest.length : Nat))

/-- A number that is wanted, after its sign. -/
def number (negative : Bool) : Scan ScannedNumber := do
  let first ← next?
  match first with
  | none => here eofInValue
  | some c => if !c.isDigit then here invalidNumber
  let more ← if first = some '0' then pure [] else digits
  let next ← peek?
  if first = some '0' && next.any (·.isDigit) then ahead invalidNumber
  let start := first.elim 0 (·.toNat - 0x30)
  let (significand, rest) := accumulate start more
  match next with
  | some '.' =>
    eat
    fraction negative significand rest.length
  | some 'e' | some 'E' =>
    eat
    exponent negative significand rest.length
  | _ =>
    if !rest.isEmpty then floating negative significand rest.length
    else if !negative then return .whole significand
    else if significand = 0 || Nat.pow 2 63 < significand then floating true significand 0
    else return .whole (-(significand : Int))

def describe : ScannedNumber → String
  | .whole n => "integer `" ++ Decimal.renderInt n ++ "`"
  | .floating negative x =>
    "floating point `" ++ (if negative then "-" else "") ++ x.render ++ "`"

def invalidType {α : Type} (found wanted : String) : Scan α :=
  unplaced ("invalid type: " ++ found ++ ", expected " ++ wanted)

/-- A value ahead that is not of the kind that is wanted. -/
def otherType {α : Type} (wanted : String) : Scan α := placed do
  match ← peek? with
  | some 'n' => eat; word "ull".toList; invalidType "null" wanted
  | some 't' => eat; word "rue".toList; invalidType "boolean `true`" wanted
  | some 'f' => eat; word "alse".toList; invalidType "boolean `false`" wanted
  | some '-' => eat; invalidType (describe (← number true)) wanted
  | some '"' => eat; invalidType ("string " ++ Quoted.quote (← string)) wanted
  | some '[' => invalidType "sequence" wanted
  | some '\x7b' => invalidType "map" wanted
  | some c =>
    if c.isDigit then invalidType (describe (← number false)) wanted else ahead wantedValue
  | none => ahead wantedValue

def fits (field : NumberField) (n : ScannedNumber) : Scan Unit := do
  match n with
  | .whole value =>
    unless field.least ≤ value ∧ value ≤ field.greatest do
      unplaced ("invalid value: " ++ describe n ++ ", expected " ++ field.type)
  | .floating _ _ => invalidType (describe n) field.type

def fieldValue (field : NumberField) : Scan Unit := placed do
  match ← peekAfterBlanks? with
  | none => ahead eofInValue
  | some '-' =>
    eat
    fits field (← number true)
  | some c => if c.isDigit then fits field (← number false) else otherType field.type

def colon : Scan Unit := do
  match ← peekAfterBlanks? with
  | some ':' => eat
  | some _ => ahead wantedColon
  | none => ahead eofInObject

/-- Goes up to the name of the next field of a record, and tells whether there is one. -/
def nextName (first : Bool) : Scan Bool := do
  let opening ← peekAfterBlanks?
  if opening = some '\x7d' then return false
  let start ←
    if opening = some ',' && !first then
      eat
      peekAfterBlanks?
    else if opening.isNone then ahead eofInObject
    else if first then pure opening
    else ahead wantedFieldEnd
  match start with
  | some '"' => return true
  | some '\x7d' => ahead trailingComma
  | some _ => ahead "key must be a string"
  | none => ahead eofInValue

/-- The fields of a record; each may come once and some must come. -/
def recordFields (shape : NumberShape) (seen : List String) (first : Bool) : Nat → Scan Unit
  | 0 => return
  | fuel + 1 => do
    if ← nextName first then
      eat
      let name ← string
      match shape.fields.find? (·.name == name) with
      | some field =>
        if name ∈ seen then unplaced ("duplicate field `" ++ name ++ "`")
        colon
        fieldValue field
      | none =>
        colon
        skipValue (2 * (← turns))
      recordFields shape (name :: seen) false fuel
    else
      match shape.fields.find? fun field => field.required && field.name ∉ seen with
      | some field => unplaced ("missing field `" ++ field.name ++ "`")
      | none => return

/-- Goes up to the next item of a list, and tells whether there is one. -/
def nextItem (first : Bool) : Scan Bool := do
  match ← peekAfterBlanks? with
  | none => ahead eofInList
  | some ']' => return false
  | some c =>
    if first then return true
    else if c = ',' then
      eat
      match ← peekAfterBlanks? with
      | some ']' => ahead trailingComma
      | some _ => return true
      | none => ahead eofInValue
    else ahead wantedItemEnd

def listFields (shape : NumberShape) (index : Nat) : List NumberField → Scan Unit
  | [] => return
  | field :: rest => do
    if ← nextItem (index = 0) then fieldValue field
    else if field.required then
      unplaced ("invalid length " ++ Decimal.render index ++ ", expected struct " ++ shape.name ++
        " with " ++ Decimal.render shape.fields.length ++ " elements")
    listFields shape (index + 1) rest

def recordEnd : Scan Unit := do
  match ← peekAfterBlanks? with
  | some '\x7d' => eat
  | some ',' => ahead trailingComma
  | some _ => ahead trailingCharacters
  | none => ahead eofInObject

def listEnd : Scan Unit := do
  match ← peekAfterBlanks? with
  | some ']' => eat
  | some ',' =>
    eat
    match ← peekAfterBlanks? with
    | some ']' => ahead trailingComma
    | _ => ahead trailingCharacters
  | some _ => ahead trailingCharacters
  | none => ahead eofInList

/-- A structure, as a record or as the list of its fields, and nothing after it. -/
def wholeStructure (shape : NumberShape) : Scan Unit := do
  match ← peekAfterBlanks? with
  | none => ahead eofInValue
  | some '[' =>
    placed do
      eat
      thenAlways (listFields shape 0 shape.fields) listEnd
  | some '\x7b' =>
    placed do
      eat
      thenAlways (recordFields shape [] true (← turns)) recordEnd
  | some _ => otherType ("struct " ++ shape.name)
  if (← peekAfterBlanks?).isSome then ahead trailingCharacters

end Scan

def placeText (passed : List UInt8) : String :=
  let line := 1 + passed.count 0x0A
  let column := (passed.takeWhile (· ≠ 0x0A)).length
  " at line " ++ Text.Decimal.render line ++ " column " ++ Text.Decimal.render column

def complaint? (shape : NumberShape) (bytes : List UInt8) : Option String :=
  match ((Scan.wholeStructure shape).run { ahead := bytes }).1 with
  | .ok () => none
  | .error complaint => some (complaint.text ++ complaint.place.elim "" placeText)

end DroneControl.Json
