/-!
Hexadecimal text in lower case: numbers of a least width, and bytes as two digits each. `decode_encode`
says that reading bytes undoes writing them.
-/

namespace DroneControl.Text.Hex

def digit (d : Nat) : Char := if d < 10 then Char.ofNat (48 + d) else Char.ofNat (87 + d)

def digitValue? (c : Char) : Option Nat :=
  if '0' ≤ c ∧ c ≤ '9' then some (c.toNat - 48)
  else if 'a' ≤ c ∧ c ≤ 'f' then some (c.toNat - 87)
  else if 'A' ≤ c ∧ c ≤ 'F' then some (c.toNat - 55)
  else none

def digits (n : Nat) : List Char :=
  if n < 16 then [digit n] else digits (n / 16) ++ [digit (n % 16)]

def render (n : Nat) : String :=
  let ds := digits n
  "0x" ++ String.ofList (List.replicate (4 - ds.length) '0' ++ ds)

def encodeChars (bytes : List UInt8) : List Char :=
  bytes.flatMap fun b => [digit (b.toNat / 16), digit (b.toNat % 16)]

def encode (bytes : List UInt8) : String := String.ofList (encodeChars bytes)

def decodeChars : List Char → Option (List UInt8)
  | high :: low :: rest => do
    let h ← digitValue? high
    let l ← digitValue? low
    let bytes ← decodeChars rest
    return UInt8.ofNat (16 * h + l) :: bytes
  | _ => some []

def decode (s : String) : Option (List UInt8) := decodeChars s.toList

theorem digitValue?_digit {d : Nat} (h : d < 16) : digitValue? (digit d) = some d := by
  have : ∀ d : Fin 16, digitValue? (digit d.val) = some d.val := by decide
  exact this ⟨d, h⟩

theorem decodeChars_encodeChars (bytes : List UInt8) :
    decodeChars (encodeChars bytes) = some bytes := by
  induction bytes with
  | nil => rfl
  | cons b bytes ih =>
    have hb := b.toNat_lt
    have h : encodeChars (b :: bytes) =
        digit (b.toNat / 16) :: digit (b.toNat % 16) :: encodeChars bytes := rfl
    have hv : 16 * (b.toNat / 16) + b.toNat % 16 = b.toNat := by omega
    rw [h, decodeChars, digitValue?_digit (by omega), digitValue?_digit (by omega), ih]
    change some (UInt8.ofNat (16 * (b.toNat / 16) + b.toNat % 16) :: bytes) = some (b :: bytes)
    rw [hv, UInt8.ofNat_toNat]

theorem decode_encode (bytes : List UInt8) : decode (encode bytes) = some bytes := by
  simp [decode, encode, decodeChars_encodeChars]

end DroneControl.Text.Hex
