import DroneControl.Loop.Run
import DroneControl.Scenario.Creating
import DroneControl.Scenario.Driving
import DroneControl.Scenario.Host

/-!
Running a scenario. Steps are taken one after another; a reaction's steps are taken while the step that
brought it about is under way, with a host of their own one level deeper. The report of a step holds its
answer, what was noted while it was taken, and the things that look different after it.
-/

namespace DroneControl.Scenario

def askThing (env : Env Stage) (thing : Thing) (answer : Scene Datum) : Scene Datum :=
  match thing.kept? with
  | some k => keeping env k answer
  | none => answer

/-- Takes a step about a named thing. -/
def ask (env : Env Stage) (as : String) (thing : Thing) (step : Step) : Scene Datum := do
  match thing, step with
  | .registry r, .registry _ (.liveness drop) => askLiveness env as r drop
  | .controller c, .controller _ .destroy => destroyController env as c
  | thing, step =>
    askThing env thing <|
      match thing, step with
      | .registry r, .registry _ call => askRegistry env r call
      | .backend b, .backend _ call => askBackend env as b call
      | .discovery d, .discovery _ call => askDiscovery env d call
      | .controller c, .controller _ call => askController env c call
      | .connection c, .connection _ call | .bleConnection c, .connection _ call =>
        askConnection env c call
      | .pipe p, .pipe _ call => askPipe env p call
      | .interface i, .interface _ call => askInterface env i call
      | .proxy p, .proxy _ call => askProxy env p call
      | .stream s, .stream _ call => askStream env s call
      | .oneShot t, .timer _ call => askTimer t 0 call
      | .periodic t period, .timer _ call => askTimer t period call
      | _, _ => unknown

def askNamed (env : Env Stage) (as : String) (step : Step) : Scene Datum := do
  match ← find? as with
  | some thing => ask env as thing step
  | none => unknown

def withChannelEnd (as : String) (action : ChannelEnd → Scene Datum) : Scene Datum := do
  match (← get).host.channelEnds[as]? with
  | some e => action e
  | none => unknown

def releaseChannel (as : String) (e : ChannelEnd) : Scene Datum := do
  unless e.released do
    changeStage fun s =>
      { s with channelEnds := s.channelEnds.insert as { e with released := true } }
    Uplink.releaseToken e.uplink
  return .bool (!e.released)

def layDown (reaction : Reaction) : Scene Datum :=
  plain (changeStage fun s => { s with reactions := s.reactions ++ [reaction] })

/-- Takes a step. -/
def take (env : Env Stage) (step : Step) : Scene Datum := do
  let extra := (← get).host.budget
  match step with
  | .react source kind times steps => layDown { source, kind, times, steps }
  | .drop as => plain do forget env (← unname as)
  | .inspect as =>
    match ← find? as with
    | some thing => return .text (fullText (← get) thing)
    | none => unknown
  | .settle => plain (Loop.settle env extra)
  | .advance ms => plain (Loop.advance env extra ms)
  | .jump ms => plain (Loop.jump env extra ms)
  | .create as what => create env as what
  | .newConnection h address sink => newConnection h address sink
  | .newProxy h t port listener => newProxy h t port listener
  | .setLink as mode =>
    match ← find? as with
    | some (.link l) => plain (changeLink l fun _ => mode)
    | _ => unknown
  | .channelEnd as => withChannelEnd as fun e => plain (Uplink.endOfFile env e.uplink)
  | .channelRelease as => withChannelEnd as (releaseChannel as)
  | .inspectLoop =>
    return .list [.text RegistrySetup.loopOutline, .text RegistrySetup.loopOutline]
  | .refused fault => return .fault fault true
  | .registry as _ | .backend as _ | .discovery as _ | .controller as _ | .connection as _
  | .pipe as _ | .interface as _ | .proxy as _ | .stream as _ | .timer as _ =>
    askNamed env as step

def hostWith (run : Step → Scene Datum) (reap : Item → Scene Unit) : Env Stage where
  tell := hear run
  ask := respond run
  order := obey run
  openSession := openSession run
  openChannel := openChannel run
  reap := reap

def host : Nat → Env Stage
  | 0 => hostWith (fun _ => return .null) (fun _ => return)
  | depth + 1 => hostWith (fun step => take (host depth) step) (fun item => reap (host depth) item)

/-- What came of a step. -/
structure Report where
  answer : Datum
  events : List Note
  texts : List (String × Option String)

/-- How many devices a discovery source holds that a step is about to end. -/
def devicesEnded (w : World Stage) (step : Step) : Nat :=
  let held (d : DiscoveryId) : Nat := (w.discovery d).devices.length
  let ofBackend (as : String) : Nat :=
    match w.host.names[as]? with
    | some (.backend b) =>
      match (w.backend b).part with
      | .mux { discovery := some d, .. } => held d
      | _ => 0
    | _ => 0
  match step with
  | .discovery as .stop | .drop as =>
    match w.host.names[as]? with
    | some (.discovery d) => held d
    | _ => 0
  | .backend as .stopDiscovery | .backend as .destroy => ofBackend as
  | _ => 0

def report (env : Env Stage) (step : Step) : Scene Report := do
  let several := 1 < devicesEnded (← get) step
  let answer ← take env step
  let events := (← get).journal.reverse
  modify fun w => { w with journal := [] }
  let events := if several then Note.sort events else events
  return { answer, events, texts := ← news }

def levels (steps : Nat) : Nat := 8 * (steps + 1)

def run (verbosity : Option Severity) (steps : List (String × Step)) : List Report :=
  let budget := weights steps
  let start : World Stage := { verbosity, host := { budget } }
  (steps.mapM (fun step => report (host (levels budget)) step.2) |>.run start).1

end DroneControl.Scenario
