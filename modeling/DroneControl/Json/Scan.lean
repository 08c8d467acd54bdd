import DroneControl.Json.Reader

/-!
Scanning JSON text for what is wrong with it. A scan goes through the bytes once and stops at the first
thing it cannot take, with a complaint. A complaint is placed where the scan stands, or at the byte it
looks at next; one about a value that was read is placed when the value is left.
-/

namespace DroneControl.Json

/-- What is wrong, and the bytes up to the place, the last one first, once there is a place. -/
structure Complaint where
  text : String
  place : Option (List UInt8) := none
  deriving Repr

/-- The bytes that were passed, the last one first, and those ahead. -/
structure Cursor where
  passed : List UInt8 := []
  ahead : List UInt8
  deriving Repr

abbrev Scan := ExceptT Complaint (StateM Cursor)

namespace Scan

def here {α : Type} (text : String) : Scan α := do
  throw { text, place := some (← get).passed }

def ahead {α : Type} (text : String) : Scan α := do
  let cursor ← get
  throw { text, place := some ((cursor.ahead.take 1) ++ cursor.passed) }

def back {α : Type} (bytes : Nat) (text : String) : Scan α := do
  throw { text, place := some ((← get).passed.drop bytes) }

def unplaced {α : Type} (text : String) : Scan α := throw { text }

def placed {α : Type} (scan : Scan α) : Scan α :=
  ExceptT.mk do
    match ← scan.run with
    | .ok a => return .ok a
    | .error complaint =>
      let passed := (← get).passed
      return .error { complaint with place := some (complaint.place.getD passed) }

def thenAlways {α : Type} (first : Scan α) (second : Scan Unit) : Scan α :=
  ExceptT.mk do
    let a ← first.run
    let b ← second.run
    match a, b with
    | .ok a, .ok () => return .ok a
    | .error complaint, _ => return .error complaint
    | .ok _, .error complaint => return .error complaint

def peek? : Scan (Option Char) := return (← get).ahead.head?.map fun b => Char.ofNat b.toNat

def eat : Scan Unit :=
  modify fun cursor =>
    match cursor.ahead with
    | b :: ahead => { passed := b :: cursor.passed, ahead }
    | [] => cursor

def next? : Scan (Option Char) := do
  let c ← peek?
  eat
  return c

def eatWhile (p : UInt8 → Bool) : Scan (List UInt8) :=
  modifyGet fun cursor =>
    let taken := cursor.ahead.takeWhile p
    (taken, { passed := taken.reverse ++ cursor.passed, ahead := cursor.ahead.dropWhile p })

def peekAfterBlanks? : Scan (Option Char) := do
  discard (eatWhile isBlankByte)
  peek?

def eofInList : String := "EOF while parsing a list"
def eofInObject : String := "EOF while parsing an object"
def eofInString : String := "EOF while parsing a string"
def eofInValue : String := "EOF while parsing a value"
def trailingComma : String := "trailing comma"
def trailingCharacters : String := "trailing characters"
def wantedValue : String := "expected value"
def wantedColon : String := "expected `:`"
def wantedItemEnd : String := "expected `,` or `]`"
def wantedFieldEnd : String := "expected `,` or `\x7d`"
def invalidEscape : String := "invalid escape"
def invalidNumber : String := "invalid number"
def loneSurrogate : String := "lone leading surrogate in hex escape"
def brokenEscape : String := "unexpected end of hex escape"
def controlCharacter : String :=
  "control character (\\u0000-\\u001F) found while parsing a string"

def word : List Char → Scan Unit
  | [] => return
  | c :: rest => do
    match ← next? with
    | none => here eofInValue
    | some next => if next = c then word rest else here "expected ident"

def hexEscape : Scan Nat := do
  let cursor ← get
  let digits := cursor.ahead.take 4
  set { cursor with
    passed := digits.reverse ++ cursor.passed, ahead := cursor.ahead.drop 4 : Cursor }
  if digits.length < 4 then here eofInString
  else
    match readUnit digits with
    | some (code, _) => return code
    | none => here invalidEscape

def pairByte (c : Char) : Scan Unit := do
  match ← peek? with
  | none => here eofInString
  | some next =>
    eat
    if next ≠ c then here brokenEscape

def unitEscape : Scan Unit := do
  let code ← hexEscape
  if isLowSurrogate code then here loneSurrogate
  if isHighSurrogate code then
    pairByte '\\'
    pairByte 'u'
    unless isLowSurrogate (← hexEscape) do here loneSurrogate

def escape (isWanted : Bool) : Scan Unit := do
  match ← next? with
  | none => here eofInString
  | some 'u' => if isWanted then unitEscape else discard hexEscape
  | some c =>
    if (escapeLetter? (UInt8.ofNat c.toNat)).isNone then here invalidEscape

def isPlain (b : UInt8) : Bool := b ≠ 0x22 && b ≠ 0x5C && 0x20 ≤ b

/-- The inside of a string and its closing quote. -/
def stringRest (isWanted : Bool) : Nat → Scan Unit
  | 0 => here eofInString
  | fuel + 1 => do
    discard (eatWhile isPlain)
    match ← peek? with
    | none => here eofInString
    | some '"' => eat
    | some '\\' =>
      eat
      escape isWanted
      stringRest isWanted fuel
    | some _ =>
      if isWanted then eat
      here controlCharacter

def turns : Scan Nat := return (← get).ahead.length + 1

/-- A string that is wanted, after its opening quote. If bytes in it are no UTF-8, the complaint is placed
back from the end of the string by as many bytes as there are from the first broken one on. These are the
bytes that the string stands for, so an escape counts for less than it takes up. -/
def string : Scan String := do
  let inside := (← get).ahead
  stringRest true (← turns)
  let pieces := (readPieces inside).elim [] (·.1)
  match joinPieces pieces with
  | some cs => return String.ofList cs
  | none =>
    let left := pieces.dropWhile (!·.isBroken)
    back (left.foldl (fun n piece => n + piece.size) 0) "invalid unicode code point"

def digits : Scan (List UInt8) := eatWhile isDigitByte

def skipWhole : Scan Unit := do
  match ← next? with
  | some '0' =>
    match ← peek? with
    | some c => if c.isDigit then ahead invalidNumber
    | none => return
  | some c => if c.isDigit then discard digits else here invalidNumber
  | none => here invalidNumber

def skipExponent : Scan Unit := do
  match ← peek? with
  | some 'e' | some 'E' =>
    eat
    match ← peek? with
    | some '+' | some '-' => eat
    | _ => pure ()
    match ← next? with
    | some c => if c.isDigit then discard digits else here invalidNumber
    | none => here invalidNumber
  | _ => return

def skipNumber : Scan Unit := do
  skipWhole
  match ← peek? with
  | some '.' =>
    eat
    if (← digits).isEmpty then ahead invalidNumber
    skipExponent
  | _ => skipExponent

/-- The name of a field and the colon after it. -/
def skipName : Scan Unit := do
  match ← peekAfterBlanks? with
  | some '"' => eat
  | some _ => ahead "key must be a string"
  | none => ahead eofInObject
  stringRest false (← turns)
  match ← peekAfterBlanks? with
  | some ':' => eat
  | some _ => ahead wantedColon
  | none => ahead eofInObject

mutual

/-- A value that is not wanted. -/
def skipValue : Nat → Scan Unit
  | 0 => ahead eofInValue
  | fuel + 1 => do
    match ← peekAfterBlanks? with
    | none => ahead eofInValue
    | some 'n' => eat; word "ull".toList
    | some 't' => eat; word "rue".toList
    | some 'f' => eat; word "alse".toList
    | some '-' => eat; skipNumber
    | some '"' => eat; stringRest false (← turns)
    | some '[' =>
      eat
      match ← peekAfterBlanks? with
      | none => ahead eofInList
      | some ']' => eat
      | some _ => skipItems fuel
    | some '\x7b' =>
      eat
      match ← peekAfterBlanks? with
      | none => ahead eofInObject
      | some '\x7d' => eat
      | some _ => skipFields fuel
    | some c => if c.isDigit then skipNumber else ahead wantedValue

def skipItems : Nat → Scan Unit
  | 0 => ahead eofInList
  | fuel + 1 => do
    skipValue fuel
    match ← peekAfterBlanks? with
    | some ',' => eat; skipItems fuel
    | some ']' => eat
    | some _ => ahead wantedItemEnd
    | none => ahead eofInList

/-- The fields of a record, at least one, and its end. -/
def skipFields : Nat → Scan Unit
  | 0 => ahead eofInObject
  | fuel + 1 => do
    skipName
    skipValue fuel
    match ← peekAfterBlanks? with
    | some ',' => eat; skipFields fuel
    | some '\x7d' => eat
    | some _ => ahead wantedFieldEnd
    | none => ahead eofInObject

end

end Scan

end DroneControl.Json
