import DroneControl.Json.Decode
import DroneControl.Json.Reader
import DroneControl.Proofs.Text.Encoding
import DroneControl.Proofs.Text.Runs
import Mathlib.Data.List.Basic

/-!
# JSON text that was written is read back

The compact text of a value is read as that value, if all that it holds stands for something. A
string's escapes are undone piece by piece, a number ends where no digit follows, and a value inside
a list or a record is followed by a comma or by what closes it.
-/

namespace DroneControl.Json

open Text Utf8

/-! ## Strings -/

def pieceOf (c : Char) : Piece :=
  if (escape c)[1]? = some 'u' then .unit c.toNat else .char c

theorem readPieces_cons {b : UInt8} {tail rest : List UInt8} {piece : Piece}
    (inside : b.toNat ≠ 0x22) (reads : readPiece (b :: tail) = some (piece, rest)) :
    readPieces (b :: tail) =
      (readPieces rest).map fun (pieces, rest) => (piece :: pieces, rest) := by
  rw [readPieces, if_neg inside]
  split
  · next fails => cases reads.symm.trans fails
  · next given =>
    cases reads.symm.trans given
    rfl

theorem encodeChar_digit {d : Nat} (h : d < 16) :
    ∃ b, encodeChar (Hex.digit d) = [b] ∧ Hex.digitValue? (Char.ofNat b.toNat) = some d := by
  have each : ∀ d : Fin 16,
      encodeChar (Hex.digit d.val) = [UInt8.ofNat (Hex.digit d.val).toNat] ∧
        Hex.digitValue? (Char.ofNat (UInt8.ofNat (Hex.digit d.val).toNat).toNat) = some d.val := by
    decide
  exact ⟨_, each ⟨d, h⟩⟩

theorem readPiece_control {n : Nat} (control : n < 0x20) (rest : List UInt8) :
    readPiece (encodeChars ['\\', 'u', '0', '0', Hex.digit (n / 16), Hex.digit (n % 16)] ++ rest) =
      some (.unit n, rest) := by
  obtain ⟨high, written, value⟩ := encodeChar_digit (show n / 16 < 16 by omega)
  obtain ⟨low, written', value'⟩ := encodeChar_digit (show n % 16 < 16 by omega)
  have joined : n / 16 * 16 + n % 16 = n := by omega
  have unit : readUnit (0x30 :: 0x30 :: high :: low :: rest) = some (n, rest) := by
    have zero : Hex.digitValue? (Char.ofNat 0x30) = some 0 := rfl
    simp [readUnit, zero, value, value', joined]
  simp only [encodeChars_cons, encodeChars_nil, written, written']
  change (readUnit (0x30 :: 0x30 :: high :: low :: rest)).map _ = _
  rw [unit]
  rfl

theorem readPieces_escape (c : Char) (rest : List UInt8) :
    readPieces (encodeChars (escape c) ++ rest) =
      (readPieces rest).map fun (pieces, rest) => (pieceOf c :: pieces, rest) := by
  unfold pieceOf escape
  split
  iterate 7 exact readPieces_cons (by decide) rfl
  next quote backslash _ _ _ _ _ =>
  split
  · next control => exact readPieces_cons (by decide) (readPiece_control control rest)
  · next visible =>
    have read := next?_encodeChar c rest
    rw [encodeChars_cons, encodeChars_nil, List.append_nil]
    obtain ⟨b, tail, written, first⟩ : ∃ b tail, encodeChar c = b :: tail ∧
        b.toNat ≠ 0x22 ∧ b.toNat ≠ 0x5C ∧ 0x20 ≤ b.toNat := by
      by_cases ascii : c.toNat < 0x80
      · refine ⟨_, _, encodeChar_ascii ascii, ?_⟩
        rw [toNat_ascii ascii]
        refine ⟨fun same => quote ?_, fun same => backslash ?_, by omega⟩
        · exact Char.toNat_inj.mp same
        · exact Char.toNat_inj.mp same
      · obtain ⟨b, tail, written, wide⟩ := exists_encodeChar (Nat.le_of_not_lt ascii)
        exact ⟨b, tail, written, by omega, by omega, by omega⟩
    rw [written] at read ⊢
    obtain ⟨noQuote, noBackslash, noControl⟩ := first
    refine readPieces_cons noQuote ?_
    unfold readPiece
    dsimp only [List.append_eq]
    rw [if_neg noBackslash, if_neg (Nat.not_lt.mpr noControl), ← List.cons_append, read]
    rfl

theorem joinPieces_unit {code : Nat} (below : code < 0xD800) (pieces : List Piece) :
    joinPieces (.unit code :: pieces) = (joinPieces pieces).map (Char.ofNat code :: ·) := by
  have high : isHighSurrogate code = false := by simp [isHighSurrogate]; omega
  have low : isLowSurrogate code = false := by simp [isLowSurrogate]; omega
  cases pieces with
  | nil => simp [joinPieces, high, low]
  | cons piece pieces => cases piece <;> simp [joinPieces, high, low]

theorem joinPieces_cons (c : Char) (pieces : List Piece) :
    joinPieces (pieceOf c :: pieces) = (joinPieces pieces).map (c :: ·) := by
  unfold pieceOf
  split
  · next written =>
    have control : c.toNat < 0x20 := by
      unfold escape at written
      split at written <;> try (cases written)
      split at written
      · assumption
      · cases written
    rw [joinPieces_unit (by omega), Char.ofNat_toNat]
  · rw [joinPieces]

theorem joinPieces_map (cs : List Char) : joinPieces (cs.map pieceOf) = some cs := by
  induction cs with
  | nil => rfl
  | cons c cs ih => rw [List.map_cons, joinPieces_cons, ih, Option.map_some]

theorem readPieces_renderText (cs : List Char) (rest : List UInt8) :
    readPieces (encodeChars (cs.flatMap escape) ++ 0x22 :: rest) = some (cs.map pieceOf, rest) := by
  induction cs with
  | nil => 
    rw [List.flatMap_nil, encodeChars_nil, List.nil_append, readPieces]
    rfl
  | cons c cs ih =>
    rw [List.flatMap_cons, encodeChars_append, List.append_assoc, readPieces_escape, ih]
    rfl

theorem readText_renderText (s : String) (rest : List UInt8) :
    readText (encodeChars (s.toList.flatMap escape) ++ 0x22 :: rest) = some (some s, rest) := by
  rw [readText, readPieces_renderText]
  simp [joinPieces_map]

/-! ## Numbers -/

theorem ascii_of_isDigit {c : Char} (digit : Decimal.isDigit c) : c.toNat < 0x80 := by
  simp only [Decimal.isDigit, Bool.and_eq_true, decide_eq_true_eq] at digit
  omega

theorem encodeChars_digits {run : List Char} (digits : ∀ c ∈ run, Decimal.isDigit c) :
    encodeChars run = run.map fun c => UInt8.ofNat c.toNat := by
  induction run with
  | nil => rfl
  | cons c run ih =>
    have ascii := ascii_of_isDigit (digits c List.mem_cons_self)
    rw [encodeChars_cons, encodeChar_ascii ascii, ih fun c among =>
      digits c (List.mem_cons_of_mem _ among)]
    rfl

/-- What may follow a value inside another. -/
def Ends (rest : List UInt8) : Prop := ∀ b ∈ rest.head?, b = 0x2C ∨ b = 0x5D ∨ b = 0x7D

theorem readMagnitude_digits (n : Nat) {rest : List UInt8} (ends : Ends rest) :
    readMagnitude (encodeChars (Decimal.digits n) ++ rest) = some (n, rest) := by
  have digits : ∀ c ∈ Decimal.digits n, Decimal.isDigit c :=
    fun _ => Decimal.isDigit_of_mem_digits
  have byte {c : Char} (among : c ∈ Decimal.digits n) : (UInt8.ofNat c.toNat).toNat = c.toNat :=
    toNat_ascii (ascii_of_isDigit (digits c among))
  rw [encodeChars_digits digits]
  generalize written : ((Decimal.digits n).map fun c => UInt8.ofNat c.toNat) = run
  have inside : ∀ b ∈ run, isDigitByte b := by
    rw [← written]
    intro b among
    obtain ⟨c, from_, rfl⟩ := List.mem_map.mp among
    simpa [isDigitByte, Decimal.isDigit, byte from_] using digits c from_
  have outside : ∀ b ∈ rest.head?, isDigitByte b = false := by
    intro b first
    rcases ends b first with rfl | rfl | rfl <;> rfl
  have read : readDigits (run ++ rest) = some (run, rest) := by
    rw [readDigits, takeWhile_run inside outside, dropWhile_run inside outside]
    simp [← written, Decimal.digits_ne_nil]
  have value : run.foldl (fun m d => 10 * m + (d.toNat - 0x30)) 0 = n := by
    rw [← written, List.foldl_map]
    refine Eq.trans ?_ (Decimal.value_digits n)
    refine List.foldl_ext _ _ _ fun m c among => ?_
    rw [byte among]
  have shortest : ¬(run.length > 1 ∧ run.head? = some 0x30) := by
    rintro ⟨long, zero⟩
    have positive : 0 < n := by
      refine Nat.pos_of_ne_zero ?_
      rintro rfl
      simp [← written, Decimal.digits] at long
    refine Decimal.head?_digits positive ?_
    rw [← written, List.head?_map] at zero
    obtain ⟨c, first, same⟩ := Option.map_eq_some_iff.mp zero
    rw [first]
    have code := congrArg UInt8.toNat same
    rw [byte (List.mem_of_mem_head? first)] at code
    exact congrArg some (Char.toNat_inj.mp code)
  unfold readMagnitude
  simp only [read, Option.bind_eq_bind, Option.bind_some]
  rw [if_neg (by simpa using shortest), value]
  rfl

theorem readNumber_digits (negative : Bool) (n : Nat) (nonzero : negative = true → n ≠ 0)
    {rest : List UInt8} (ends : Ends rest) :
    readNumber negative (encodeChars (Decimal.digits n) ++ rest) =
      some (.whole (if negative then -(n : Int) else n), rest) := by
  have noPoint : skipFraction rest = some (false, rest) := by
    unfold skipFraction
    split
    · exact absurd (ends _ rfl) (by decide)
    · rfl
  have noExponent : skipExponent rest = some (false, rest) := by
    unfold skipExponent
    split
    · exact absurd (ends _ rfl) (by decide)
    · exact absurd (ends _ rfl) (by decide)
    · rfl
  unfold readNumber
  simp only [readMagnitude_digits n ends, noPoint, noExponent, Option.bind_eq_bind,
    Option.bind_some]
  cases negative with
  | false => rfl
  | true => simp [nonzero]

/-! ## Values -/

/-- Whatever is written of the value stands for a value: every text and name was understood, and
every number is a whole one. -/
inductive Legible : Json → Prop where
  | null : Legible null
  | bool (b : Bool) : Legible (bool b)
  | whole (n : Int) : Legible (whole n)
  | string (s : String) : Legible (string s)
  | list {items : List Json} (each : ∀ item ∈ items, Legible item) : Legible (list items)
  | object {fields : List (String × Json)} (each : ∀ field ∈ fields, Legible field.2) :
      Legible (object fields)

def bytes (value : Json) : List UInt8 := encodeChars value.renderChars

/-- With enough fuel the value is read off the front of its text. -/
def Reads (value : Json) : Prop :=
  ∀ fuel rest, 2 * value.bytes.length ≤ fuel + 1 → Ends rest →
    readValue (fuel + 1) (value.bytes ++ rest) = some (value, rest)

/-- No text starts with a blank or with a bracket that closes. -/
def Opens (bytes : List UInt8) : Prop :=
  ∃ b tail, bytes = b :: tail ∧ isBlankByte b = false ∧ b ≠ 0x5D

theorem skipBlanks_of_opens {b : UInt8} (rest : List UInt8) (visible : isBlankByte b = false) :
    skipBlanks (b :: rest) = b :: rest := by
  simp [skipBlanks, visible]

theorem isBlankByte_digit {b : UInt8} (digit : isDigitByte b) : isBlankByte b = false := by
  simp only [isDigitByte, isBlankByte, Bool.and_eq_true, decide_eq_true_eq, Bool.or_eq_false_iff,
    decide_eq_false_iff_not] at digit ⊢
  refine ⟨⟨⟨?_, ?_⟩, ?_⟩, ?_⟩ <;> rintro rfl <;> exact absurd digit (by decide)

theorem readValue_number (fuel : Nat) {b : UInt8} (digit : isDigitByte b) (rest : List UInt8) :
    readValue (fuel + 1) (b :: rest) = readNumber false (b :: rest) := by
  unfold readValue
  rw [skipBlanks_of_opens rest (isBlankByte_digit digit)]
  simp only [isDigitByte, Bool.and_eq_true, decide_eq_true_eq] at digit
  dsimp only
  split
  iterate 7 next is => omega
  rfl

theorem exists_digits (n : Nat) :
    ∃ b tail, encodeChars (Decimal.digits n) = b :: tail ∧ isDigitByte b := by
  obtain ⟨c, run, written⟩ := List.exists_cons_of_ne_nil (Decimal.digits_ne_nil n)
  have digit : Decimal.isDigit c := Decimal.isDigit_of_mem_digits (written ▸ List.mem_cons_self)
  have ascii := ascii_of_isDigit digit
  refine ⟨_, _, by rw [written, encodeChars_cons, encodeChar_ascii ascii]; rfl, ?_⟩
  simpa [isDigitByte, Decimal.isDigit, toNat_ascii ascii] using digit

theorem null_reads : Reads null := fun _ _ _ _ => rfl

theorem bool_reads (b : Bool) : Reads (bool b) := by
  intro fuel rest _ _
  cases b with
  | false => rfl
  | true => rfl

theorem whole_reads (n : Int) : Reads (whole n) := by
  intro fuel rest _ ends
  cases n with
  | ofNat m =>
    change readValue (fuel + 1) (encodeChars (Decimal.digits m) ++ rest) = _
    obtain ⟨b, tail, written, digit⟩ := exists_digits m
    have read := readNumber_digits false m nofun ends
    rw [written] at read ⊢
    exact (readValue_number fuel digit _).trans read
  | negSucc m =>
    change readValue (fuel + 1) (0x2D :: (encodeChars (Decimal.digits (m + 1)) ++ rest)) = _
    unfold readValue
    rw [skipBlanks_of_opens _ rfl]
    exact readNumber_digits true (m + 1) (fun _ => Nat.succ_ne_zero m) ends

theorem bytes_string (s : String) :
    (string s).bytes = 0x22 :: (encodeChars (s.toList.flatMap escape) ++ [0x22]) := by
  simp only [bytes, string, renderChars, renderText, Option.getD_some, List.cons_append,
    encodeChars_cons, encodeChars_append]
  rfl

theorem string_reads (s : String) : Reads (string s) := by
  intro fuel rest _ _
  rw [bytes_string]
  unfold readValue
  rw [List.cons_append, skipBlanks_of_opens _ rfl]
  change (readText _).map _ = _
  rw [List.append_assoc]
  change (readText (_ ++ 0x22 :: rest)).map _ = _
  rw [readText_renderText]
  rfl

theorem Legible.opens {value : Json} (legible : Legible value) : Opens value.bytes := by
  cases legible with
  | null => exact ⟨0x6E, _, rfl, rfl, by decide⟩
  | bool b =>
    cases b with
    | false => exact ⟨0x66, _, rfl, rfl, by decide⟩
    | true => exact ⟨0x74, _, rfl, rfl, by decide⟩
  | whole n =>
    cases n with
    | ofNat m =>
      obtain ⟨b, tail, written, digit⟩ := exists_digits m
      refine ⟨b, tail, written, isBlankByte_digit digit, ?_⟩
      rintro rfl
      exact absurd digit (by decide)
    | negSucc m => exact ⟨0x2D, _, rfl, rfl, by decide⟩
  | string s => exact ⟨0x22, _, bytes_string s, rfl, by decide⟩
  | list each => exact ⟨0x5B, _, by rw [bytes, renderChars]; rfl, rfl, by decide⟩
  | object each =>
    exact ⟨0x7B, _, by simp only [Json.object, bytes, renderChars]; rfl, rfl, by decide⟩

theorem readItems_renderItems {items : List Json} (given : items ≠ [])
    (each : ∀ item ∈ items, Reads item) (fuel : Nat) (rest : List UInt8)
    (enough : 2 * (encodeChars (renderItems items)).length ≤ fuel + 1) :
    readItems (fuel + 2) (encodeChars (renderItems items) ++ 0x5D :: rest) =
      some (items, rest) := by
  induction items generalizing fuel with
  | nil => exact absurd rfl given
  | cons item items ih =>
    have head_reads := each item List.mem_cons_self fuel
    cases items with
    | nil =>
      have here := head_reads (0x5D :: rest) enough (by rintro _ ⟨⟩; decide)
      change readItems (fuel + 2) (item.bytes ++ 0x5D :: rest) = _
      rw [readItems, here]
      rfl
    | cons next items =>
      have written : encodeChars (renderItems (item :: next :: items)) =
          item.bytes ++ 0x2C :: encodeChars (renderItems (next :: items)) := by
        simp only [renderItems, encodeChars_append, encodeChars_cons, bytes]
        rfl
      simp only [written, List.length_append, List.length_cons] at enough
      have here := head_reads
        (0x2C :: (encodeChars (renderItems (next :: items)) ++ 0x5D :: rest)) (by omega)
        (by rintro _ ⟨⟩; decide)
      obtain ⟨fuel, rfl⟩ : ∃ fuel', fuel = fuel' + 1 := ⟨fuel - 1, by omega⟩
      have others := ih nofun (fun _ among => each _ (List.mem_cons_of_mem _ among)) fuel (by omega)
      rw [written, List.append_assoc, List.cons_append, readItems, here]
      change (readItems (fuel + 2) _).bind _ = _
      rw [others]
      rfl

theorem renderItems_opens {item : Json} (items : List Json) (opens : Opens item.bytes) :
    Opens (encodeChars (renderItems (item :: items))) := by
  obtain ⟨b, tail, first, plain⟩ := opens
  cases items with
  | nil => exact ⟨b, tail, first, plain⟩
  | cons next items =>
    refine ⟨b, tail ++ encodeChars (',' :: renderItems (next :: items)), ?_, plain⟩
    rw [renderItems, encodeChars_append]
    · exact congrArg (· ++ _) first
    · nofun

theorem list_reads {items : List Json} (each : ∀ item ∈ items, Reads item)
    (opens : ∀ item ∈ items, Opens item.bytes) : Reads (list items) := by
  intro fuel rest enough ends
  have written : (list items).bytes = 0x5B :: (encodeChars (renderItems items) ++ [0x5D]) := by
    simp only [bytes, renderChars, List.cons_append, encodeChars_append, encodeChars_cons]
    rfl
  simp only [written, List.length_cons, List.length_append, List.length_nil] at enough
  obtain ⟨fuel, rfl⟩ : ∃ fuel', fuel = fuel' + 2 := ⟨fuel - 2, by omega⟩
  rw [written, List.cons_append, List.append_assoc]
  change readValue (fuel + 3) (0x5B :: (_ ++ 0x5D :: rest)) = _
  unfold readValue
  rw [skipBlanks_of_opens _ rfl]
  cases items with
  | nil => rfl
  | cons item items =>
    have read := readItems_renderItems (List.cons_ne_nil item items) each fuel rest (by omega)
    obtain ⟨b, tail, first, visible, inside⟩ :=
      renderItems_opens items (opens item List.mem_cons_self)
    rw [first, List.cons_append] at read ⊢
    simp only [UInt8.reduceToNat]
    rw [skipBlanks_of_opens _ visible]
    split
    · next closes =>
      cases closes
      exact absurd rfl inside
    · rw [read]
      rfl

/-- The fields as a record holds them. -/
def named (fields : List (String × Json)) : List (Option String × Json) :=
  fields.map fun field => (some field.1, field.2)

def nameBytes (name : String) : List UInt8 := encodeChars (name.toList.flatMap escape)

theorem bytes_renderFields_cons (name : String) (value : Json) (fields : List (String × Json)) :
    encodeChars (renderFields (named ((name, value) :: fields))) =
      0x22 :: (nameBytes name ++ 0x22 :: 0x3A :: (value.bytes ++
        if fields = [] then [] else 0x2C :: encodeChars (renderFields (named fields)))) := by
  cases fields with
  | nil =>
    simp only [named, List.map_cons, List.map_nil, renderFields, renderText, Option.getD_some,
      List.cons_append, List.append_assoc, encodeChars_cons, encodeChars_append, if_pos]
    simp only [List.append_nil]
    rfl
  | cons next fields =>
    simp only [named, List.map_cons, renderFields, renderText, Option.getD_some,
      List.cons_append, List.append_assoc, encodeChars_cons, encodeChars_append, reduceCtorEq,
      if_false]
    rfl

theorem readFields_renderFields {fields : List (String × Json)} (given : fields ≠ [])
    (each : ∀ field ∈ fields, Reads field.2) (fuel : Nat) (rest : List UInt8)
    (enough : 2 * (encodeChars (renderFields (named fields))).length ≤ fuel + 1) :
    readFields (fuel + 2) (encodeChars (renderFields (named fields)) ++ 0x7D :: rest) =
      some (named fields, rest) := by
  induction fields generalizing fuel with
  | nil => exact absurd rfl given
  | cons field fields ih =>
    obtain ⟨name, value⟩ := field
    have value_reads : value.Reads := each (name, value) List.mem_cons_self
    simp only [bytes_renderFields_cons, List.length_append, List.length_cons] at enough
    rw [bytes_renderFields_cons]
    simp only [List.cons_append, List.append_assoc]
    unfold readFields
    rw [skipBlanks_of_opens _ rfl]
    change (readText (encodeChars (name.toList.flatMap escape) ++ 0x22 :: _)).bind _ = _
    rw [readText_renderText]
    change (readValue (fuel + 1) _).bind _ = _
    cases fields with
    | nil =>
      simp only [if_pos, List.nil_append] at enough ⊢
      have here := value_reads fuel (0x7D :: rest) (by omega) (by rintro _ ⟨⟩; decide)
      rw [here]
      rfl
    | cons next fields =>
      simp only [reduceCtorEq, if_false, List.cons_append, List.length_cons] at enough ⊢
      have here := value_reads fuel
        (0x2C :: (encodeChars (renderFields (named (next :: fields))) ++ 0x7D :: rest))
        (by omega) (by rintro _ ⟨⟩; decide)
      rw [here]
      obtain ⟨fuel, rfl⟩ : ∃ fuel', fuel = fuel' + 1 := ⟨fuel - 1, by omega⟩
      have others := ih nofun (fun _ among => each _ (List.mem_cons_of_mem _ among)) fuel (by omega)
      change (readFields (fuel + 2) _).bind _ = _
      rw [others]
      rfl

theorem object_reads {fields : List (String × Json)} (each : ∀ field ∈ fields, Reads field.2) :
    Reads (object fields) := by
  intro fuel rest enough ends
  have written : (object fields).bytes =
      0x7B :: (encodeChars (renderFields (named fields)) ++ [0x7D]) := by
    simp only [bytes, object, renderChars, List.cons_append, encodeChars_append, encodeChars_cons]
    rfl
  simp only [written, List.length_cons, List.length_append, List.length_nil] at enough
  obtain ⟨fuel, rfl⟩ : ∃ fuel', fuel = fuel' + 2 := ⟨fuel - 2, by omega⟩
  rw [written, List.cons_append, List.append_assoc]
  change readValue (fuel + 3) (0x7B :: (_ ++ 0x7D :: rest)) = _
  unfold readValue
  rw [skipBlanks_of_opens _ rfl]
  cases fields with
  | nil => rfl
  | cons field fields =>
    have read := readFields_renderFields (List.cons_ne_nil field fields) each fuel rest (by omega)
    rw [bytes_renderFields_cons, List.cons_append] at read ⊢
    dsimp only
    rw [skipBlanks_of_opens _ rfl]
    change (readFields (fuel + 2) _).map _ = _
    rw [read]
    rfl

theorem Legible.reads {value : Json} (legible : Legible value) : Reads value := by
  induction legible with
  | null => exact null_reads
  | bool b => exact bool_reads b
  | whole n => exact whole_reads n
  | string s => exact string_reads s
  | list each ih => exact list_reads ih fun item among => (each item among).opens
  | object each ih => exact object_reads ih

theorem read_render {value : Json} (legible : Legible value) :
    read (Utf8.encode value.render) = some value := by
  have text : Utf8.encode value.render = value.bytes := encode_ofList value.renderChars
  have reads := legible.reads (2 * value.bytes.length + 1) [] (by omega) nofun
  rw [List.append_nil] at reads
  rw [text, read, reads]
  rfl

/-! ## Fields and numbers -/

theorem mapM_each {α β : Type} {f : α → Option β} {g : α → β} {l : List α}
    (each : ∀ x ∈ l, f x = some (g x)) : l.mapM f = some (l.map g) := by
  induction l with
  | nil => rfl
  | cons x l ih =>
    rw [List.mapM_cons, each x List.mem_cons_self, ih fun y among =>
      each y (List.mem_cons_of_mem x among)]
    rfl

theorem filter_name {fields : List (String × Json)} (distinct : (fields.map Prod.fst).Nodup)
    {field : String × Json} (among : field ∈ fields) :
    fields.filter (·.1 == field.1) = [field] := by
  induction fields with
  | nil => cases among
  | cons first fields ih =>
    rw [List.map_cons, List.nodup_cons] at distinct
    obtain ⟨fresh, distinct⟩ := distinct
    cases among with
    | head =>
      rw [List.filter_cons_of_pos (by simp), List.filter_eq_nil_iff.mpr]
      intro other among same
      exact fresh (eq_of_beq same ▸ List.mem_map_of_mem among)
    | tail _ among =>
      rw [List.filter_cons_of_neg, ih distinct among]
      intro same
      exact fresh (eq_of_beq same ▸ List.mem_map_of_mem among)

theorem fields?_object {names : List String} {fields : List (String × Json)}
    (called : fields.map Prod.fst = names) (distinct : names.Nodup) :
    (object fields).fields? names = some (fields.map fun field => some field.2) := by
  subst called
  have heard : (named fields).mapM (fun field => field.1.map (·, field.2)) = some fields := by
    rw [named, List.mapM_map]
    exact (mapM_each fun _ _ => rfl).trans (by rw [List.map_id'])
  change wanted _ (named fields) = _
  rw [wanted, heard]
  change (fields.map Prod.fst).mapM _ = _
  rw [List.mapM_map]
  refine mapM_each fun field among => ?_
  simp only [Function.comp_apply, filter_name distinct among]

section Taking

variable {α β : Type} {a : α} {f : α → Option β} {b : β}

theorem bind_read {o : Option α} (read : o = some a) (rest : f a = some b) : (o >>= f) = some b := by
  rw [read]
  exact rest

theorem bind_field {v : Json} {read : Json → Option α} (reads : read v = some a)
    (rest : f a = some b) : (some v >>= fun v => read v >>= f) = some b :=
  bind_read rfl (bind_read reads rest)

end Taking

theorem uint16?_nat (n : UInt16) : (nat n.toNat).uint16? = some n := by
  have bound := n.toNat_lt
  rw [nat, uint16?, whole?, if_pos (by omega)]
  simp

theorem uint32?_nat (n : UInt32) : (nat n.toNat).uint32? = some n := by
  have bound := n.toNat_lt
  rw [nat, uint32?, whole?, if_pos (by omega)]
  simp

@[simp] theorem legible_nat (n : Nat) : Legible (nat n) := .whole n

attribute [simp] Legible.bool Legible.whole Legible.string

theorem read_render_bind {α : Type} {value : Json} {v : α} {take : Json → Option α}
    (legible : Legible value) (taken : take value = some v) :
    (read (Utf8.encode value.render) >>= take) = some v :=
  bind_read (read_render legible) taken

end DroneControl.Json
