import DroneControl.Text.Hidden
import DroneControl.Text.Hex

/-!
Quoted text, as diagnostics show it: a text between double quotes in which a quote, a backslash and
every character without a visible form are escaped.
-/

namespace DroneControl.Text.Quoted

def escape (c : Char) : List Char :=
  match c with
  | '\x00' => ['\\', '0']
  | '\t' => ['\\', 't']
  | '\n' => ['\\', 'n']
  | '\r' => ['\\', 'r']
  | '"' => ['\\', '"']
  | '\\' => ['\\', '\\']
  | c => if isHidden c then ['\\', 'u', '\x7b'] ++ Hex.digits c.toNat ++ ['\x7d'] else [c]

def quote (s : String) : String :=
  String.ofList ('"' :: s.toList.flatMap escape ++ ['"'])

end DroneControl.Text.Quoted
