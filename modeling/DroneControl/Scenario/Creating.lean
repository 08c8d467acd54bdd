import DroneControl.Controller.Control
import DroneControl.Scenario.Asking
import DroneControl.Stream.Opening

/-!
The steps of a scenario that put something new under a name. A name keeps what it stood for if the new
thing cannot be had.
-/

namespace DroneControl.Scenario

def put {α : Type} (env : Env Stage) (as : String) (thing : α → Thing)
    (creation : Try Stage α) : Scene Datum := do
  match ← outcome creation with
  | .ok a => plain (name env as (thing a))
  | .error f => return .fault f true

def withRegistry (env : Env Stage) (name : String) (action : RegistryId → Scene Datum) :
    Scene Datum := do
  match ← find? name with
  | some (.registry r) => keeping env (.registry r) (action r)
  | _ => unknown

def optionsOf (text : Option String) : Except Fault RegistryOptions :=
  match text with
  | none => .ok {}
  | some text =>
    match Json.read (Text.Utf8.encode text) >>= RegistryOptions.ofJson? with
    | some options => .ok options
    | none => .error .json

def createRegistry (as : String) (agent : Option Agent) (video : Option Bool)
    (level : Option TraceLevel) (options : Option String) (hasListener : Bool)
    (token : Option Token) : Try Stage RegistryId := do
  let base ← liftExcept (optionsOf options)
  let setup : RegistrySetup :=
    { options :=
        { agent := agent.getD base.agent
          videoDecoding := video.getD base.videoDecoding
          traceLevel := level.getD base.traceLevel }
      hasListener }
  let options ← liftExcept (setup.check true)
  let l ← act (addAudience as false)
  act (Registry.create options l token)

def createNet (env : Env Stage) (as : String) (r : RegistryId) (port : UInt16)
    (token : Option Token) : Try Stage BackendId := do
  let k ← act (onStage fun s =>
    let (k, connectors) := s.connectors.add { source := as, mode := false }
    (k, { s with connectors }))
  Backend.createNet env r k port token

def createBle (env : Env Stage) (as : String) (r : RegistryId) (mode : BleMode)
    (token : Option Token) : Try Stage BackendId := do
  let h ← act (onStage fun s =>
    let (h, bleHosts) := s.bleHosts.add { source := as, mode }
    (h, { s with bleHosts }))
  Backend.createBle env r h token

def createMux (env : Env Stage) (as : String) (r : RegistryId) (descriptor : Int)
    (token : Option Token) (fails : Bool) : Try Stage BackendId := do
  let o ← act (onStage fun s =>
    let (o, openers) := s.openers.add { source := as, mode := fails }
    (o, { s with openers }))
  Backend.openMux env r o descriptor token

def createInterface (as : String) (h : DeviceHandle) (p : PipeId) (level : TraceLevel)
    (bare : Bool) : Scene InterfaceId := do
  let l ← addAudience as bare
  let cell ← modifyGet fun w =>
    let (cell, traceCells) := w.traceCells.add level
    (cell, { w with traceCells })
  Interface.create h p (.listener l) cell

def createPeriodic (as : String) (period : Nat) : Try Stage TimerId := do
  if period = 0 then throw (.invalidArgument "timer period must be non-zero")
  let l ← act (addAudience as false)
  act (schedulePeriodic period (.call l))

def create (env : Env Stage) (as : String) (what : Creation) : Scene Datum := do
  match what with
  | .registry agent video level options hasListener token =>
    put env as .registry (createRegistry as agent video level options hasListener token)
  | .net r port token =>
    withRegistry env r fun r => put env as .backend (createNet env as r port token)
  | .ble r mode token =>
    withRegistry env r fun r => put env as .backend (createBle env as r mode token)
  | .mux r descriptor token fails =>
    withRegistry env r fun r =>
      put env as .backend (createMux env as r descriptor token fails)
  | .discovery r label backend =>
    withRegistry env r fun r =>
      withBackend backend fun b => put env as .discovery (Discovery.create r label b)
  | .controller r h token bare =>
    withRegistry env r fun r => do
      let l ← addAudience as bare
      put env as .controller (Controller.create r h l token)
  | .link mode =>
    let l ← onStage fun s =>
      let (l, links) := s.links.add { source := as, mode }
      (l, { s with links })
    plain (name env as (.link l))
  | .pipe link =>
    withLink link fun link => do
      let p ← Pipe.create link
      plain (name env as (.pipe p))
  | .interface h pipe level bare =>
    match ← find? pipe with
    | some (.pipe p) =>
      let i ← createInterface as h p level bare
      plain (name env as (.interface i))
    | _ => unknown
  | .stream r h url =>
    withRegistry env r fun r => put env as .stream (Stream.create r h url)
  | .deferred =>
    let l ← addAudience as false
    plain (defer (.call l))
  | .oneShot delay =>
    let l ← addAudience as false
    let t ← schedule delay (.call l)
    plain (name env as (.oneShot t))
  | .periodic period => put env as (.periodic · period) (createPeriodic as period)

def newConnection (h : DeviceHandle) (address sink : String) : Scene Datum := do
  let l ← addAudience sink false
  let b ← modifyGet fun w => let (b, backends) := w.backends.reserve; (b, { w with backends })
  let c ← Connection.create h b address (.listener l)
  seeConnection c
  return .text c.label

def newProxy (h : DeviceHandle) (t : DeviceType) (port : UInt16) (listener : String) :
    Scene Datum := do
  let l ← addAudience listener false
  answerProxy (act (Proxy.create h t port (.listener l)))

end DroneControl.Scenario
