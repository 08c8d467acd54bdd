import DroneControl.Json.Basic
import DroneControl.Text.Utf8

/-!
Reading JSON text from bytes. The grammar is that of RFC 8259, with nothing after the value but
blanks. A string is first cut into pieces: characters, UTF-16 units from escapes, and bytes that are
no UTF-8. Only the pieces decide whether the string stands for a text.
-/

namespace DroneControl.Json

open Text

/-- What a string literal is made of. -/
inductive Piece where
  | char (c : Char)
  | unit (code : Nat)
  | broken
  deriving Repr

namespace Piece

def isBroken : Piece → Bool
  | broken => true
  | _ => false

def size : Piece → Nat
  | char c => (Utf8.encodeChar c).length
  | unit code =>
    if code < 0x80 then 1
    else if code < 0x800 || (0xD800 ≤ code && code < 0xE000) then 2
    else 3
  | broken => 1

end Piece

def readUnit : List UInt8 → Option (Nat × List UInt8)
  | a :: b :: c :: d :: rest => do
    let digit (x : UInt8) := Hex.digitValue? (Char.ofNat x.toNat)
    let w ← digit a
    let x ← digit b
    let y ← digit c
    let z ← digit d
    return (((w * 16 + x) * 16 + y) * 16 + z, rest)
  | _ => none

/-- The character that a letter stands for after a backslash. -/
def escapeLetter? (letter : UInt8) : Option Char :=
  match letter.toNat with
  | 0x22 => some '"'
  | 0x5C => some '\\'
  | 0x2F => some '/'
  | 0x62 => some '\x08'
  | 0x66 => some '\x0c'
  | 0x6E => some '\n'
  | 0x72 => some '\r'
  | 0x74 => some '\t'
  | _ => none

/-- The first piece of a string's inside. The inside ends at a quote, which is no piece, and a raw
control character is refused. -/
def readPiece (bytes : List UInt8) : Option (Piece × List UInt8) :=
  match bytes with
  | [] => none
  | b :: rest =>
    if b.toNat = 0x5C then
      match rest with
      | [] => none
      | letter :: rest =>
        if letter.toNat = 0x75 then (readUnit rest).map fun (code, rest) => (.unit code, rest)
        else (escapeLetter? letter).map fun c => (.char c, rest)
    else if b.toNat < 0x20 then none
    else
      match Utf8.next? bytes with
      | some (c, rest) => some (.char c, rest)
      | none => some (.broken, rest)

theorem readUnit_length {bytes rest : List UInt8} {code : Nat}
    (h : readUnit bytes = some (code, rest)) : rest.length < bytes.length := by
  unfold readUnit at h
  split at h
  · simp only [bind, Option.bind_eq_some_iff, pure, Option.some.injEq, Prod.mk.injEq] at h
    grind
  · cases h

theorem readPiece_length {bytes rest : List UInt8} {piece : Piece}
    (h : readPiece bytes = some (piece, rest)) : rest.length < bytes.length := by
  unfold readPiece at h
  split at h
  · cases h
  · next b tail =>
    split at h
    · split at h
      · cases h
      · next letter tail =>
        split at h
        · simp only [Option.map_eq_some_iff, Prod.mk.injEq, Prod.exists] at h
          obtain ⟨code, rest', hu, _, rfl⟩ := h
          have := readUnit_length hu
          simp only [List.length_cons]
          omega
        · simp only [Option.map_eq_some_iff, Prod.mk.injEq] at h
          obtain ⟨_, _, _, rfl⟩ := h
          simp only [List.length_cons]
          omega
    · split at h
      · cases h
      · split at h
        · next hn =>
          cases h
          exact Utf8.next?_length hn
        · cases h
          simp

/-- The pieces up to the closing quote, and what follows the quote. -/
def readPieces : List UInt8 → Option (List Piece × List UInt8)
  | [] => none
  | b :: tail =>
    if b.toNat = 0x22 then some ([], tail)
    else
      match _read : readPiece (b :: tail) with
      | none => none
      | some (piece, rest) =>
        (readPieces rest).map fun (pieces, rest) => (piece :: pieces, rest)
termination_by bytes => bytes.length
decreasing_by exact readPiece_length _read

def isHighSurrogate (code : Nat) : Bool := 0xD800 ≤ code && code < 0xDC00

def isLowSurrogate (code : Nat) : Bool := 0xDC00 ≤ code && code < 0xE000

/-- The text that the pieces stand for: a high and a low surrogate together are one character, a lone
one is none. -/
def joinPieces : List Piece → Option (List Char)
  | [] => some []
  | .broken :: _ => none
  | .char c :: pieces => (joinPieces pieces).map (c :: ·)
  | .unit high :: .unit low :: pieces =>
    if isHighSurrogate high && isLowSurrogate low then
      (joinPieces pieces).map (Char.ofNat (0x10000 + (high - 0xD800) * 0x400 + (low - 0xDC00)) :: ·)
    else if isHighSurrogate high || isLowSurrogate high then none
    else (joinPieces (.unit low :: pieces)).map (Char.ofNat high :: ·)
  | .unit code :: pieces =>
    if isHighSurrogate code || isLowSurrogate code then none
    else (joinPieces pieces).map (Char.ofNat code :: ·)

def readText (bytes : List UInt8) : Option (Option String × List UInt8) :=
  (readPieces bytes).map fun (pieces, rest) => ((joinPieces pieces).map String.ofList, rest)

def isDigitByte (b : UInt8) : Bool := 0x30 ≤ b.toNat && b.toNat ≤ 0x39

def readDigits (bytes : List UInt8) : Option (List UInt8 × List UInt8) :=
  let digits := bytes.takeWhile isDigitByte
  if digits.isEmpty then none else some (digits, bytes.dropWhile isDigitByte)

def readMagnitude (bytes : List UInt8) : Option (Nat × List UInt8) := do
  let (digits, rest) ← readDigits bytes
  if digits.length > 1 && digits.head? = some 0x30 then none
  else return (digits.foldl (fun n d => 10 * n + (d.toNat - 0x30)) 0, rest)

def skipFraction (bytes : List UInt8) : Option (Bool × List UInt8) :=
  match bytes with
  | 0x2E :: rest => (readDigits rest).map fun (_, rest) => (true, rest)
  | _ => some (false, bytes)

def skipExponent (bytes : List UInt8) : Option (Bool × List UInt8) :=
  match bytes with
  | 0x65 :: rest | 0x45 :: rest =>
    let rest := match rest with
      | 0x2B :: rest | 0x2D :: rest => rest
      | _ => rest
    (readDigits rest).map fun (_, rest) => (true, rest)
  | _ => some (false, bytes)

def readNumber (negative : Bool) (bytes : List UInt8) : Option (Json × List UInt8) := do
  let (n, rest) ← readMagnitude bytes
  let (point, rest) ← skipFraction rest
  let (exponent, rest) ← skipExponent rest
  if point || exponent || (negative && n = 0) then return (.fraction, rest)
  else return (.whole (if negative then -(n : Int) else n), rest)

def isBlankByte (b : UInt8) : Bool := b = 0x20 || b = 0x0A || b = 0x09 || b = 0x0D

def skipBlanks (bytes : List UInt8) : List UInt8 := bytes.dropWhile isBlankByte

def readWord (word : String) (value : Json) (bytes : List UInt8) : Option (Json × List UInt8) :=
  let spelled := Utf8.encode word
  if bytes.take spelled.length = spelled then some (value, bytes.drop spelled.length) else none

mutual

/-- One value, after blanks. Every step takes from the fuel. -/
def readValue (fuel : Nat) (bytes : List UInt8) : Option (Json × List UInt8) :=
  match fuel, skipBlanks bytes with
  | fuel + 1, b :: rest =>
    match b.toNat with
    | 0x22 => (readText rest).map fun (s, rest) => (.text s, rest)
    | 0x5B =>
      match skipBlanks rest with
      | 0x5D :: rest => some (.list [], rest)
      | rest => (readItems fuel rest).map fun (items, rest) => (.list items, rest)
    | 0x7B =>
      match skipBlanks rest with
      | 0x7D :: rest => some (.record [], rest)
      | rest => (readFields fuel rest).map fun (fields, rest) => (.record fields, rest)
    | 0x2D => readNumber true rest
    | 0x6E => readWord "null" .null (b :: rest)
    | 0x74 => readWord "true" (.bool true) (b :: rest)
    | 0x66 => readWord "false" (.bool false) (b :: rest)
    | _ => readNumber false (b :: rest)
  | _, _ => none

/-- The items of a list up to its closing bracket. -/
def readItems (fuel : Nat) (bytes : List UInt8) : Option (List Json × List UInt8) :=
  match fuel with
  | 0 => none
  | fuel + 1 => do
    let (item, rest) ← readValue fuel bytes
    match skipBlanks rest with
    | 0x2C :: rest =>
      let (items, rest) ← readItems fuel rest
      return (item :: items, rest)
    | 0x5D :: rest => return ([item], rest)
    | _ => none

/-- The fields of a record up to its closing brace. -/
def readFields (fuel : Nat) (bytes : List UInt8) :
    Option (List (Option String × Json) × List UInt8) :=
  match fuel, skipBlanks bytes with
  | fuel + 1, 0x22 :: rest => do
    let (name, rest) ← readText rest
    match skipBlanks rest with
    | 0x3A :: rest =>
      let (value, rest) ← readValue fuel rest
      match skipBlanks rest with
      | 0x2C :: rest =>
        let (fields, rest) ← readFields fuel rest
        return ((name, value) :: fields, rest)
      | 0x7D :: rest => return ([(name, value)], rest)
      | _ => none
    | _ => none
  | _, _ => none

end

def read (bytes : List UInt8) : Option Json := do
  let (value, rest) ← readValue (2 * bytes.length + 2) bytes
  if (skipBlanks rest).isEmpty then return value else none

end DroneControl.Json
