import DroneControl.Protocol.Frame

/-!
Bundles of command state: blobs of a fixed number of bytes that are only copied and compared.
-/

namespace DroneControl

structure Bundle (size : Nat) where
  bytes : Bytes
  bytes_length : bytes.length = size
  deriving DecidableEq, Repr

namespace Bundle

variable {size : Nat}

def zeroed (size : Nat) : Bundle size := ⟨List.replicate size 0, List.length_replicate⟩

def ofBytes (size : Nat) (bytes : Bytes) : Except Fault (Bundle size) :=
  if h : bytes.length = size then .ok ⟨bytes, h⟩
  else .error (.invalidArgument
    ("multiset size mismatch: expected " ++ Text.Decimal.render size ++ ", got " ++
      Text.Decimal.render bytes.length))

def copyFrom (_b other : Bundle size) : Bundle size := other

def inspect (_b : Bundle size) : String :=
  Text.outlineOpen "Multiset" [("size", Text.Decimal.render size)]

end Bundle

end DroneControl
