/-!
Outlines: a value shown as its type's name with named fields, `Frame { id: 3, seq: 0 }`. An open
outline ends in `..` and leaves fields out.
-/

namespace DroneControl.Text

def outlineFields (fields : List (String × String)) : String :=
  ", ".intercalate (fields.map fun field => field.1 ++ ": " ++ field.2)

def outline (name : String) (fields : List (String × String)) : String :=
  if fields.isEmpty then name else name ++ " \x7b " ++ outlineFields fields ++ " \x7d"

def outlineOpen (name : String) (fields : List (String × String)) : String :=
  let shown := fields.map (fun field => field.1 ++ ": " ++ field.2) ++ [".."]
  name ++ " \x7b " ++ ", ".intercalate shown ++ " \x7d"

def outlineUnit (name value : String) : String := name ++ "(" ++ value ++ ")"

def outlineOption (value : Option String) : String :=
  match value with
  | some v => outlineUnit "Some" v
  | none => "None"

def outlineBool (b : Bool) : String := if b then "true" else "false"

end DroneControl.Text
