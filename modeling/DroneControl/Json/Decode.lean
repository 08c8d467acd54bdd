import DroneControl.Json.Basic

/-!
Taking typed values out of JSON. A structure is written as a record, in any order and with further
fields, or as the list of its fields in order; a tag is written as a text, or as a record whose only
field bears the tag and holds null.
-/

namespace DroneControl.Json

def text? : Json → Option String
  | text s => s
  | _ => none

def bool? : Json → Option Bool
  | bool b => some b
  | _ => none

def whole? (least greatest : Int) : Json → Option Int
  | whole n => if least ≤ n ∧ n ≤ greatest then some n else none
  | _ => none

def uint16? (v : Json) : Option UInt16 := (v.whole? 0 65535).map (UInt16.ofNat ·.toNat)

def uint32? (v : Json) : Option UInt32 := (v.whole? 0 4294967295).map (UInt32.ofNat ·.toNat)

def int32? (v : Json) : Option Int := v.whole? (-2147483648) 2147483647

def tag? : Json → Option String
  | text s => s
  | record [(name, null)] => name
  | _ => none

def wanted (names : List String) (fields : List (Option String × Json)) :
    Option (List (Option Json)) := do
  let named ← fields.mapM fun field => field.1.map (·, field.2)
  names.mapM fun name =>
    match named.filter (·.1 == name) with
    | [] => some none
    | [field] => some (some field.2)
    | _ => none

def fields? (names : List String) : Json → Option (List (Option Json))
  | record fields => wanted names fields
  | list items =>
    if items.length ≤ names.length then
      some (items.map some ++ List.replicate (names.length - items.length) none)
    else none
  | _ => none

def fieldOr {α : Type} (default : α) (read : Json → Option α) : Option Json → Option α
  | some v => read v
  | none => some default

end DroneControl.Json
