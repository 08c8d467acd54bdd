import DroneControl.Protocol.Command

/-!
Command tracing: which commands are traced at which level, and what a trace says.
-/

namespace DroneControl

inductive TraceLevel where
  | silent
  | ackNoFrequent
  | ack
  | all
  deriving DecidableEq, Repr

instance : Inhabited TraceLevel := ⟨.ackNoFrequent⟩

namespace TraceLevel

def name : TraceLevel → String
  | silent => "None"
  | ackNoFrequent => "AckNoFrequent"
  | ack => "Ack"
  | all => "All"

def tag : TraceLevel → String
  | silent => "none"
  | ackNoFrequent => "ack_no_frequent"
  | ack => "ack"
  | all => "all"

def levels : List TraceLevel := [silent, ackNoFrequent, ack, all]

def ofCode (code : UInt8) : Except Fault TraceLevel :=
  match levels[code.toNat]? with
  | some level => .ok level
  | none => .error (.invalidArgument
      ("unknown command log level: " ++ Text.Decimal.render code.toNat))

def admits (level : TraceLevel) (c : Command) : Bool :=
  match level with
  | silent => false
  | all => true
  | ack => c.delivery = .ack
  | ackNoFrequent => c.delivery = .ack && !c.isFrequent

end TraceLevel

/-- Which way a traced command went. -/
inductive Direction where
  | sent
  | received
  deriving DecidableEq, Repr

def Direction.word : Direction → String
  | .sent => "tx"
  | .received => "rx"

end DroneControl
