import DroneControl.Fault
import DroneControl.Json.Basic

/-!
The journal: what was seen at the boundary, in order. A note has a time, a source, a kind and
arguments; a log record is a note of the source `log`.
-/

namespace DroneControl

/-- A value in a note or an answer. -/
inductive Datum where
  | null
  | bool (b : Bool)
  | int (n : Int)
  | text (s : String)
  | list (items : List Datum)
  /-- A fault, with or without its wording. -/
  | fault (f : Fault) (worded : Bool)
  deriving Repr, Inhabited

namespace Datum

def nat (n : Nat) : Datum := int n

def option (s : Option String) : Datum := s.elim null text

def done : Datum := text "ok"

def ofResult {α : Type} (ok : α → Datum) : Except Fault α → Datum
  | .ok a => ok a
  | .error f => fault f true

end Datum

/-- The datum in data; a fault is an object. -/
def Datum.toJson : Datum → Json
  | null => .null
  | bool b => .bool b
  | int n => .whole n
  | text s => .string s
  | list items => .list (toJsons items)
  | fault f worded =>
    let message := (f.message?.map fun m => [("message", Json.string m)]).getD []
    .object ([("errno", .whole f.errno.toInt), ("error", .string f.kind)] ++
      if worded then message else [])
where
  toJsons : List Datum → List Json
    | [] => []
    | d :: rest => d.toJson :: toJsons rest

structure Note where
  time : Nat
  source : String
  kind : String
  args : List Datum
  deriving Repr, Inhabited

namespace Note

def toJson (n : Note) : Json :=
  .list (.nat n.time :: .string n.source :: .string n.kind :: n.args.map Datum.toJson)

def sort (notes : List Note) : List Note :=
  let keyed := notes.map fun n => (n.toJson.render, n)
  (keyed.mergeSort fun a b => a.1 ≤ b.1).map (·.2)

end Note

/-- How grave a log record is, the gravest first. -/
inductive Severity where
  | error
  | warn
  | info
  | debug
  | trace
  deriving DecidableEq, Repr

namespace Severity

def rank : Severity → Nat
  | error => 0
  | warn => 1
  | info => 2
  | debug => 3
  | trace => 4

def name : Severity → String
  | error => "ERROR"
  | warn => "WARN"
  | info => "INFO"
  | debug => "DEBUG"
  | trace => "TRACE"

def admits (level : Option Severity) (s : Severity) : Bool :=
  match level with
  | some level => s.rank ≤ level.rank
  | none => false

end Severity

def logText (message : String) (fields : List (String × String)) : String :=
  " ".intercalate (message :: fields.map fun field => field.1 ++ "=" ++ field.2)

end DroneControl
