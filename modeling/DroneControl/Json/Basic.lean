import DroneControl.Text.Decimal
import DroneControl.Text.Hex

/-!
JSON values and their compact text. A text or a field name is `none` where the characters that were
read stand for no text: such a value may be skipped but not used.
-/

namespace DroneControl

inductive Json where
  | null
  | bool (b : Bool)
  /-- A number written with digits alone, other than minus zero. -/
  | whole (n : Int)
  /-- Any other number. -/
  | fraction
  | text (s : Option String)
  | list (items : List Json)
  | record (fields : List (Option String × Json))
  deriving Repr, Inhabited

namespace Json

def string (s : String) : Json := text (some s)

def nat (n : Nat) : Json := whole n

def object (fields : List (String × Json)) : Json :=
  record (fields.map fun field => (some field.1, field.2))

/-- Quotes, backslashes and controls are escaped, the common controls by a letter. -/
def escape (c : Char) : List Char :=
  match c with
  | '"' => ['\\', '"']
  | '\\' => ['\\', '\\']
  | '\x08' => ['\\', 'b']
  | '\t' => ['\\', 't']
  | '\n' => ['\\', 'n']
  | '\x0c' => ['\\', 'f']
  | '\r' => ['\\', 'r']
  | c =>
    if c.toNat < 0x20 then
      ['\\', 'u', '0', '0', Text.Hex.digit (c.toNat / 16), Text.Hex.digit (c.toNat % 16)]
    else [c]

def renderText (s : String) : List Char := '"' :: s.toList.flatMap escape ++ ['"']

def renderWhole (n : Int) : List Char :=
  match n with
  | .ofNat m => Text.Decimal.digits m
  | .negSucc m => '-' :: Text.Decimal.digits (m + 1)

mutual

def renderChars : Json → List Char
  | null => "null".toList
  | bool true => "true".toList
  | bool false => "false".toList
  | whole n => renderWhole n
  | fraction => "0.0".toList
  | text s => renderText (s.getD "")
  | list items => '[' :: renderItems items ++ [']']
  | record fields => '\x7b' :: renderFields fields ++ ['\x7d']

def renderItems : List Json → List Char
  | [] => []
  | [item] => renderChars item
  | item :: items => renderChars item ++ ',' :: renderItems items

def renderFields : List (Option String × Json) → List Char
  | [] => []
  | [(name, value)] => renderText (name.getD "") ++ ':' :: renderChars value
  | (name, value) :: fields =>
    renderText (name.getD "") ++ ':' :: renderChars value ++ ',' :: renderFields fields

end

def render (value : Json) : String := String.ofList (renderChars value)

end Json

end DroneControl
