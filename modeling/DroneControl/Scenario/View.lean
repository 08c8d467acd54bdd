import DroneControl.Scenario.Stage

/-!
How the named things of a scenario are shown: in short after each step, and in full on request.
-/

namespace DroneControl.Scenario

def flagText (name : String) (b : Bool) : String := name ++ "=" ++ Text.outlineBool b

def countText (name : String) (n : Nat) : String := name ++ "=" ++ Text.Decimal.render n

def deviceText (row : Nat × Device) : String :=
  Text.Decimal.render row.1 ++ ":" ++ row.2.state.name

def devicesText (x : Registry) : String :=
  if 16 < x.devices.size then "#" ++ Text.Decimal.render x.devices.size
  else ",".intercalate (x.devices.toList.map deviceText)

def registryText (x : Registry) : String :=
  " ".intercalate
    [flagText "closed" x.closed, "devices=[" ++ devicesText x ++ "]",
      countText "backends" x.backends.length, countText "discoveries" x.discoveries.length]

def sourceText (w : World Stage) (d : Option DiscoveryId) : String :=
  match d with
  | none => "discovery=-"
  | some d =>
    let x := w.discovery d
    flagText "discovery" x.running ++ ":" ++ Text.Decimal.render x.devices.length

def backendText (w : World Stage) (x : Backend) : String :=
  let live := countText "live" x.live.length
  match x.part with
  | .mux part => live ++ " " ++ sourceText w part.discovery
  | _ => live

def connectionText (w : World Stage) (x : Connection) : String :=
  let pipe := x.pipe.elim "-" fun p => (w.pipe p).state.name
  " ".intercalate [x.state.name, flagText "attached" x.attached.isSome, "pipe=" ++ pipe]

def isActive (w : World Stage) (t : TimerId) : Bool := (w.loop.timers.find? t).isSome

/-- The short text of a thing, for those that have one. -/
def shortText? (w : World Stage) : Thing → Option String
  | .registry r => some (registryText (w.registry r))
  | .backend b => some (backendText w (w.backend b))
  | .discovery d =>
    let x := w.discovery d
    some (flagText "running" x.running ++ " " ++ countText "devices" x.devices.length)
  | .controller c => some (flagText "timer" (w.controller c).timer.isSome)
  | .connection c => some (connectionText w (w.connection c))
  | .pipe p => some (w.pipe p).state.name
  | .interface i =>
    let x := w.interface i
    some (flagText "closed" x.closed ++ " " ++ countText "pending" x.pending)
  | .proxy p => some (w.proxy p).state.inspect
  | .periodic t _ => some (flagText "active" (isActive w t))
  | .discoveryId _ | .bleConnection _ | .stream _ | .link _ | .oneShot _ => none

def durationText (ms : Nat) : String :=
  if ms < 1000 then Text.Decimal.render ms ++ "ms"
  else
    let digits := (Text.Decimal.digits (1000 + ms % 1000)).drop 1
    let fraction := (digits.reverse.dropWhile (· = '0')).reverse
    let point := if fraction.isEmpty then [] else '.' :: fraction
    Text.Decimal.render (ms / 1000) ++ String.ofList point ++ "s"

/-- The full text of a thing. -/
def fullText (w : World Stage) : Thing → String
  | .registry r => (w.registry r).inspect
  | .backend b => (w.backend b).inspect b
  | .discovery d => (w.discovery d).inspect d
  | .discoveryId d => d.inspect
  | .controller c => (w.controller c).inspect
  | .connection c => (w.connection c).inspect c
  | .bleConnection c =>
    Text.outline "BleConnection" [("conn", (w.connection c).inspect c)]
  | .pipe p => (w.pipe p).inspect
  | .interface i => (w.interface i).inspect
  | .proxy p => (w.proxy p).inspect p
  | .stream s => (w.stream s).inspect
  | .periodic t period =>
    Text.outline "PeriodicTimer"
      [("period", durationText period), ("active", Text.outlineBool (isActive w t))]
  | .oneShot _ => "OneShotTimer"
  | .link _ => "Link"

def texts (w : World Stage) : List (String × String) :=
  w.host.names.toList.filterMap fun row => (shortText? w row.2).map (row.1, ·)

def news : Scene (List (String × Option String)) := do
  let w ← get
  let shown := w.host.shown
  let now := Std.TreeMap.ofList (texts w)
  let gone := shown.keys.filter fun name => !now.contains name
  let changed := now.toList.filter fun row => shown[row.1]? ≠ some row.2
  changeStage fun s => { s with shown := now }
  return changed.map (fun row => (row.1, some row.2)) ++ gone.map (·, none)

end DroneControl.Scenario
