import DroneControl.Text.Utf8

/-!
# Characters written as UTF-8

The bytes of a character are read back as the character whatever follows them.
-/

namespace DroneControl.Text.Utf8

theorem toNat_lt (c : Char) : c.toNat < 0x110000 := by
  have valid := c.valid
  simp only [UInt32.isValidChar, Nat.isValidChar] at valid
  change c.val.toNat < _
  omega

theorem scalar?_toNat {c : Char} {least : Nat} (shortest : least ≤ c.toNat) :
    scalar? least c.toNat = some c := by
  have valid : c.toNat.isValidChar := c.valid
  rw [scalar?, dif_pos valid, if_pos shortest]
  exact congrArg some (Char.ext (UInt32.toNat_inj.mp rfl))

theorem tail?_ofNat {n : Nat} (small : n < 64) : tail? (UInt8.ofNat (0x80 + n)) = some n := by
  have byte : (UInt8.ofNat (0x80 + n)).toNat = 0x80 + n :=
    UInt8.toNat_ofNat_of_lt' (show 0x80 + n < 256 by omega)
  rw [tail?, byte, if_pos (by omega)]
  simp

theorem next?_encodeChar (c : Char) (rest : List UInt8) :
    next? (encodeChar c ++ rest) = some (c, rest) := by
  have bound := toNat_lt c
  have low (n : Nat) : tail? (UInt8.ofNat (0x80 + n % 64)) = some (n % 64) :=
    tail?_ofNat (Nat.mod_lt n (by decide))
  unfold encodeChar
  dsimp only
  split
  · next h =>
    have lead : (UInt8.ofNat c.toNat).toNat = c.toNat :=
      UInt8.toNat_ofNat_of_lt' (show c.toNat < 256 by omega)
    simp only [List.cons_append, List.nil_append, next?, lead, if_pos h,
      scalar?_toNat (Nat.zero_le _), Option.map_some]
  split
  · next h h' =>
    have code : (0xC0 + c.toNat / 64 - 0xC0) * 64 + c.toNat % 64 = c.toNat := by omega
    have lead : (UInt8.ofNat (0xC0 + c.toNat / 64)).toNat = 0xC0 + c.toNat / 64 :=
      UInt8.toNat_ofNat_of_lt' (show 0xC0 + c.toNat / 64 < 256 by omega)
    simp only [List.cons_append, List.nil_append, next?, lead]
    rw [if_neg (by omega), if_neg (by omega), if_pos (by omega)]
    simp only [low, bind, Option.bind_some, code, scalar?_toNat (show 0x80 ≤ c.toNat by omega)]
    rfl
  split
  · next h h' h'' =>
    have code : ((0xE0 + c.toNat / 4096 - 0xE0) * 64 + c.toNat / 64 % 64) * 64 + c.toNat % 64 =
        c.toNat := by omega
    have lead : (UInt8.ofNat (0xE0 + c.toNat / 4096)).toNat = 0xE0 + c.toNat / 4096 :=
      UInt8.toNat_ofNat_of_lt' (show 0xE0 + c.toNat / 4096 < 256 by omega)
    simp only [List.cons_append, List.nil_append, next?, lead]
    rw [if_neg (by omega), if_neg (by omega), if_neg (by omega), if_pos (by omega)]
    simp only [low, bind, Option.bind_some, code, scalar?_toNat (show 0x800 ≤ c.toNat by omega)]
    rfl
  · next h h' h'' =>
    have code : (((0xF0 + c.toNat / 262144 - 0xF0) * 64 + c.toNat / 4096 % 64) * 64 +
        c.toNat / 64 % 64) * 64 + c.toNat % 64 = c.toNat := by omega
    have lead : (UInt8.ofNat (0xF0 + c.toNat / 262144)).toNat = 0xF0 + c.toNat / 262144 :=
      UInt8.toNat_ofNat_of_lt' (show 0xF0 + c.toNat / 262144 < 256 by omega)
    simp only [List.cons_append, List.nil_append, next?, lead]
    rw [if_neg (by omega), if_neg (by omega), if_neg (by omega), if_neg (by omega),
      if_pos (by omega)]
    simp only [low, bind, Option.bind_some, code, scalar?_toNat (show 0x10000 ≤ c.toNat by omega)]
    rfl

def encodeChars (cs : List Char) : List UInt8 := cs.flatMap encodeChar

@[simp] theorem encodeChars_nil : encodeChars [] = [] := rfl

@[simp] theorem encodeChars_cons (c : Char) (cs : List Char) :
    encodeChars (c :: cs) = encodeChar c ++ encodeChars cs := rfl

@[simp] theorem encodeChars_append (cs ds : List Char) :
    encodeChars (cs ++ ds) = encodeChars cs ++ encodeChars ds := List.flatMap_append

theorem encodeChar_ascii {c : Char} (ascii : c.toNat < 0x80) :
    encodeChar c = [UInt8.ofNat c.toNat] := by
  simp [encodeChar, ascii]

theorem toNat_ascii {c : Char} (ascii : c.toNat < 0x80) :
    (UInt8.ofNat c.toNat).toNat = c.toNat :=
  UInt8.toNat_ofNat_of_lt' (show c.toNat < 256 by omega)

theorem exists_encodeChar {c : Char} (wide : 0x80 ≤ c.toNat) :
    ∃ b tail, encodeChar c = b :: tail ∧ 0x80 ≤ b.toNat := by
  have bound := toNat_lt c
  unfold encodeChar
  dsimp only
  rw [if_neg (by omega)]
  split
  · refine ⟨_, _, rfl, ?_⟩
    rw [UInt8.toNat_ofNat_of_lt' (show 0xC0 + c.toNat / 64 < 256 by omega)]
    omega
  split
  · refine ⟨_, _, rfl, ?_⟩
    rw [UInt8.toNat_ofNat_of_lt' (show 0xE0 + c.toNat / 4096 < 256 by omega)]
    omega
  · refine ⟨_, _, rfl, ?_⟩
    rw [UInt8.toNat_ofNat_of_lt' (show 0xF0 + c.toNat / 262144 < 256 by omega)]
    omega

theorem encode_ofList (cs : List Char) : encode (String.ofList cs) = encodeChars cs := by
  simp [encode, encodeChars]

end DroneControl.Text.Utf8
