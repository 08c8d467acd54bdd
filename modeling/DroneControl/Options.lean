import DroneControl.Json.Decode
import DroneControl.Protocol.Trace

/-!
Who the controller says it is, and how a registry is configured.
-/

namespace DroneControl

/-- The controller's identity, told to devices while a connection is negotiated. -/
structure Agent where
  type : String := "linux"
  name : String := "groundsdk"
  deriving DecidableEq, Repr, Inhabited

namespace Agent

def inspect (a : Agent) : String :=
  Text.outline "UserAgent"
    [("controller_type", Text.Quoted.quote a.type), ("controller_name", Text.Quoted.quote a.name)]

def toJson (a : Agent) : Json :=
  .object [("controller_type", .string a.type), ("controller_name", .string a.name)]

def ofJson? (v : Json) : Option Agent := do
  match ← v.fields? ["controller_type", "controller_name"] with
  | [type, name] => return ⟨← (← type).text?, ← (← name).text?⟩
  | _ => none

end Agent

def TraceLevel.ofTag? (tag : String) : Option TraceLevel := levels.find? (·.tag == tag)

structure RegistryOptions where
  agent : Agent := {}
  videoDecoding : Bool := false
  traceLevel : TraceLevel := .ackNoFrequent
  deriving DecidableEq, Repr, Inhabited

namespace RegistryOptions

def inspect (o : RegistryOptions) : String :=
  Text.outline "RegistryOptions"
    [("user_agent", o.agent.inspect), ("video_decoding", Text.outlineBool o.videoDecoding),
      ("command_log_level", o.traceLevel.name)]

def toJson (o : RegistryOptions) : Json :=
  .object
    [("user_agent", o.agent.toJson), ("video_decoding", .bool o.videoDecoding),
      ("command_log_level", .string o.traceLevel.tag)]

def ofJson? (v : Json) : Option RegistryOptions := do
  match ← v.fields? ["user_agent", "video_decoding", "command_log_level"] with
  | [agent, video, level] =>
    return ⟨← Json.fieldOr {} Agent.ofJson? agent, ← Json.fieldOr false Json.bool? video,
      ← Json.fieldOr .ackNoFrequent (fun v => v.tag? >>= TraceLevel.ofTag?) level⟩
  | _ => none

end RegistryOptions

/-- A registry about to be built: its options, and whether it was given an event loop and a
listener. -/
structure RegistrySetup where
  options : RegistryOptions := {}
  hasLoop : Bool := false
  hasListener : Bool := false
  deriving DecidableEq, Repr, Inhabited

def currentLoop (loopRunning : Bool) : Except Fault Unit :=
  if loopRunning then .ok () else .error .eventLoopUnavailable

namespace RegistrySetup

def loopOutline : String := Text.outline "EventLoop" [("runtime", "CurrentThread")]

def inspect (s : RegistrySetup) : String :=
  Text.outlineOpen "RegistryBuilder"
    [("options", s.options.inspect),
      ("event_loop", Text.outlineOption (if s.hasLoop then some loopOutline else none)),
      ("has_listener", Text.outlineBool s.hasListener)]

def check (s : RegistrySetup) (loopRunning : Bool) : Except Fault RegistryOptions :=
  if !s.hasListener then
    .error (.invalidArgument "Registry listener is required. Use .listener() to set it.")
  else (currentLoop (s.hasLoop || loopRunning)).map fun _ => s.options

end RegistrySetup

end DroneControl
