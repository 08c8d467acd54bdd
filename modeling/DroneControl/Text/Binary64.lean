import DroneControl.Text.Decimal

/-!
Floating point numbers of 64 bits, without their sign: rounding a quotient to the nearest of them, and
the fewest digits that read back as one.
-/

namespace DroneControl.Text

/-- The number `significand * 2 ^ exponent`. -/
structure Binary64 where
  significand : Nat
  exponent : Int
  deriving DecidableEq, Repr, Inhabited

namespace Binary64

def roundHalfEven (num den : Nat) : Nat :=
  let q := num / den
  let twice := 2 * (num % den)
  if twice < den then q
  else if twice = den then q + q % 2
  else q + 1

def scale (num den : Nat) (power : Int) : Nat × Nat :=
  if 0 ≤ power then (num * Nat.pow 2 power.toNat, den)
  else (num, den * Nat.pow 2 (-power).toNat)

def magnitude (num den : Nat) : Int :=
  let guess : Int := (Nat.log2 num : Int) - Nat.log2 den
  let (n, d) := scale num den (-guess)
  if d ≤ n then guess else guess - 1

def round? (num den : Nat) : Option Binary64 :=
  if num = 0 then some ⟨0, 0⟩
  else
    let exponent := max (magnitude num den - 52) (-1074)
    let (n, d) := scale num den (-exponent)
    let significand := roundHalfEven n d
    let (significand, exponent) :=
      if significand = Nat.pow 2 53 then (Nat.pow 2 52, exponent + 1) else (significand, exponent)
    if 971 < exponent then none else some ⟨significand, exponent⟩

def quotient (x : Binary64) : Nat × Nat := scale x.significand 1 x.exponent

def isZero (x : Binary64) : Bool := x.significand = 0

def mul? (x y : Binary64) : Option Binary64 :=
  let (a, b) := x.quotient
  let (c, d) := y.quotient
  round? (a * c) (b * d)

def div? (x y : Binary64) : Option Binary64 :=
  let (a, b) := x.quotient
  let (c, d) := y.quotient
  round? (a * d) (b * c)

def decimal (digits : Nat) (power : Int) : Nat × Nat :=
  if 0 ≤ power then (digits * Nat.pow 10 power.toNat, 1)
  else (digits, Nat.pow 10 (-power).toNat)

def leading (num den : Nat) : Int :=
  let guess : Int := ((digitCount num : Nat) : Int) - digitCount den
  let (n, d) := decimal den guess
  if n ≤ num * d then guess else guess - 1
where
  digitCount (n : Nat) : Nat := (Decimal.digits n).length

def distance (x : Binary64) (digits : Nat) (power : Int) : Nat :=
  let (a, b) := x.quotient
  let (c, d) := decimal digits power
  max (a * d) (c * b) - min (a * d) (c * b)

/-- The decimal of so many digits that is nearest to the number among those that read back as it. Of two
that are equally near, it is the one with the even last digit. -/
def ofWidth? (x : Binary64) (width : Nat) : Option (Nat × Int) :=
  let (num, den) := x.quotient
  let power := leading num den - (width - 1 : Nat)
  let (c, d) := decimal 1 power
  let below := num * d / (den * c)
  let readsBack (digits : Nat) : Bool :=
    let (n, d) := decimal digits power
    round? n d = some x
  match readsBack below, readsBack (below + 1) with
  | true, true =>
    let low := distance x below power
    let high := distance x (below + 1) power
    let isBelow := low < high || low = high && below % 2 = 0
    some (if isBelow then below else below + 1, power)
  | true, false => some (below, power)
  | false, true => some (below + 1, power)
  | false, false => none

def shortest (x : Binary64) : Nat × Int :=
  ((List.range 17).findSome? fun n => ofWidth? x (n + 1)).getD (0, 0)

def strip : Nat → Nat × Int → Nat × Int
  | 0, d => d
  | fuel + 1, (digits, power) =>
    if digits ≠ 0 && digits % 10 = 0 then strip fuel (digits / 10, power + 1)
    else (digits, power)

def signed (n : Int) : List Char :=
  (if n < 0 then '-' else '+') :: Decimal.digits n.natAbs

/-- Lays digits out: plainly from a hundred-thousandth up to sixteen digits before the point, and with an
exponent otherwise. -/
def layOut (digits : List Char) (power : Int) : List Char :=
  let point := digits.length + power
  let zeros (n : Int) : List Char := List.replicate n.toNat '0'
  if 0 ≤ power ∧ point ≤ 16 then digits ++ zeros power ++ ['.', '0']
  else if 0 < point ∧ point ≤ 16 then
    digits.take point.toNat ++ '.' :: digits.drop point.toNat
  else if -5 < point ∧ point ≤ 0 then ['0', '.'] ++ zeros (-point) ++ digits
  else
    let tail := digits.drop 1
    digits.take 1 ++ (if tail.isEmpty then [] else '.' :: tail) ++
      'e' :: signed (point - 1)

def render (x : Binary64) : String :=
  if x.isZero then "0.0"
  else
    let (digits, power) := strip 17 (shortest x)
    String.ofList (layOut (Decimal.digits digits) power)

end Binary64

end DroneControl.Text
