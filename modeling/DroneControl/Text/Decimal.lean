/-!
Natural numbers in decimal: `digits` writes one without leading zeros, `value` reads any run of
digits back, and `value_digits` says that reading undoes writing.
-/

namespace DroneControl.Text.Decimal

def digit (d : Nat) : Char := Char.ofNat (48 + d)

def digits (n : Nat) : List Char :=
  if n < 10 then [digit n] else digits (n / 10) ++ [digit (n % 10)]

def render (n : Nat) : String := String.ofList (digits n)

def renderInt (i : Int) : String :=
  match i with
  | .ofNat n => render n
  | .negSucc n => "-" ++ render (n + 1)

def isDigit (c : Char) : Bool := 48 ≤ c.toNat && c.toNat ≤ 57

def value (cs : List Char) : Nat :=
  cs.foldl (fun n c => 10 * n + (c.toNat - 48)) 0

theorem toNat_digit {d : Nat} (h : d < 10) : (digit d).toNat = 48 + d := by
  have : ∀ d : Fin 10, (digit d.val).toNat = 48 + d.val := by decide
  exact this ⟨d, h⟩

theorem isDigit_digit {d : Nat} (h : d < 10) : isDigit (digit d) = true := by
  simp only [isDigit, toNat_digit h, Bool.and_eq_true, decide_eq_true_eq]
  omega

theorem value_digits (n : Nat) : value (digits n) = n := by
  rw [digits]
  split
  · next h => simp [value, toNat_digit h]
  · have ih := value_digits (n / 10)
    simp only [value, List.foldl_append, List.foldl_cons, List.foldl_nil] at ih ⊢
    rw [ih, toNat_digit (by omega)]
    omega
termination_by n

end DroneControl.Text.Decimal
