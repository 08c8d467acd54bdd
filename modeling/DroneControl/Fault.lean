import DroneControl.Ident
import DroneControl.Text.Outline
import DroneControl.Text.Quoted

/-!
Faults: why an operation was refused or failed. Each has a text, a negative POSIX error number and
the classes a caller may ask about.
-/

namespace DroneControl

/-- The cause of an input or output fault. -/
inductive IoCause where
  /-- A number of the operating system, which may be of any sign. -/
  | osError (code : Int32)
  | broken (text : String)
  deriving DecidableEq, Repr

inductive Fault where
  | invalidArgument (message : String)
  | deviceNotFound (handle : DeviceHandle)
  | connectionNotFound (handle : DeviceHandle)
  | noCommandInterface (handle : DeviceHandle)
  | notFound (what : String)
  | resourceExhausted (message : String)
  | busy (message : String)
  | eventLoopUnavailable
  | protocol (message : String)
  | canceled
  | notImplemented (message : String)
  | transport (message : String)
  | io (cause : IoCause)
  | json
  deriving DecidableEq, Repr

namespace Fault

def kind : Fault → String
  | invalidArgument _ => "InvalidArgument"
  | deviceNotFound _ => "DeviceNotFound"
  | connectionNotFound _ => "ConnectionNotFound"
  | noCommandInterface _ => "NoCommandInterface"
  | notFound _ => "NotFound"
  | resourceExhausted _ => "ResourceExhausted"
  | busy _ => "Busy"
  | eventLoopUnavailable => "EventLoopUnavailable"
  | protocol _ => "Protocol"
  | canceled => "Canceled"
  | notImplemented _ => "NotImplemented"
  | transport _ => "Transport"
  | io _ => "Io"
  | json => "Json"

/-- The wording of a fault, where the wording is this library's own: the operating system words its
error codes, and the reader of JSON text words its complaints. -/
def message? : Fault → Option String
  | invalidArgument m => some ("Invalid argument: " ++ m)
  | deviceNotFound h => some ("Device not found: " ++ h.label)
  | connectionNotFound h => some ("No connection for device " ++ h.label)
  | noCommandInterface h => some ("No command interface for device " ++ h.label)
  | notFound what => some ("Not found: " ++ what)
  | resourceExhausted m => some ("Resource exhausted: " ++ m)
  | busy m => some ("Busy: " ++ m)
  | eventLoopUnavailable => some "Event loop unavailable"
  | protocol m => some ("Protocol error: " ++ m)
  | canceled => some "Canceled"
  | notImplemented m => some ("Not implemented: " ++ m)
  | transport m => some ("Transport error: " ++ m)
  | io (.broken text) => some ("IO error: " ++ text)
  | io (.osError _) => none
  | json => none

def message (f : Fault) : String := f.message?.getD f.kind

/-- The fault with its fields, where these are the library's own. -/
def inspect? (f : Fault) : Option String :=
  let text (name value : String) :=
    some (Text.outline f.kind [(name, Text.Quoted.quote value)])
  let device (h : DeviceHandle) := some (Text.outline f.kind [("handle", h.inspect)])
  match f with
  | invalidArgument m | resourceExhausted m | busy m | protocol m | notImplemented m
  | transport m => text "message" m
  | notFound what => text "what" what
  | deviceNotFound h | connectionNotFound h | noCommandInterface h => device h
  | eventLoopUnavailable | canceled => some f.kind
  | io _ | json => none

/-- The POSIX error number before its sign is turned. -/
def code : Fault → Int32
  | transport _ | io (.broken _) => 5
  | resourceExhausted _ => 12
  | busy _ => 16
  | deviceNotFound _ | connectionNotFound _ | noCommandInterface _ | notFound _
  | eventLoopUnavailable => 19
  | invalidArgument _ => 22
  | notImplemented _ => 38
  | protocol _ | json => 71
  | canceled => 125
  | io (.osError code) => code

def errno (f : Fault) : Int32 := - f.code

def isNotFound : Fault → Bool
  | deviceNotFound _ | connectionNotFound _ | noCommandInterface _ | notFound _ => true
  | _ => false

def isBusy : Fault → Bool
  | busy _ => true
  | _ => false

def isTransportError : Fault → Bool
  | transport _ | io _ => true
  | _ => false

def isRecoverable : Fault → Bool
  | busy _ | noCommandInterface _ | connectionNotFound _ | transport _ => true
  | _ => false

def ofKind? (kind text : String) : Option Fault :=
  [invalidArgument text, notFound text, resourceExhausted text, busy text, eventLoopUnavailable,
    protocol text, canceled, notImplemented text, transport text, io (.broken text),
    json].find? (·.kind == kind)

def ofDevice? (kind : String) (handle : DeviceHandle) : Option Fault :=
  [deviceNotFound handle, connectionNotFound handle, noCommandInterface handle].find?
    (·.kind == kind)

end Fault

end DroneControl
