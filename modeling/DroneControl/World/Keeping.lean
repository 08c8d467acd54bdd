import DroneControl.World.Basic

/-!
Who keeps what. Users, tables and operations under way keep things; a thing that the last of them lets
go of is reaped. A thing that is known without being kept may be gone when it is looked for.
-/

namespace DroneControl

variable {σ α : Type}

namespace World

def item? (w : World σ) : Kept → Option Item
  | .interface i => (w.interfaces.find? i).map .interface
  | .backend b => (w.backends.find? b).map .backend
  | .registry r => (w.registries.find? r).map .registry
  | .discovery d => (w.discoveries.find? d).map (.discovery d)
  | .controller c => (w.controllers.find? c).map .controller
  | .stream s => (w.streams.find? s).map .stream

def reshare (w : World σ) (f : Nat → Nat) : Kept → World σ
  | .interface i => w.updateInterface i fun x => { x with sharers := f x.sharers }
  | .backend b => w.updateBackend b fun x => { x with sharers := f x.sharers }
  | .registry r => w.updateRegistry r fun x => { x with sharers := f x.sharers }
  | .discovery d => w.updateDiscovery d fun x => { x with sharers := f x.sharers }
  | .controller c => w.updateController c fun x => { x with sharers := f x.sharers }
  | .stream s => w.updateStream s fun x => { x with sharers := f x.sharers }

def erase (w : World σ) : Kept → World σ
  | .interface i => { w with interfaces := w.interfaces.erase i }
  | .backend b => { w with backends := w.backends.erase b }
  | .registry r => { w with registries := w.registries.erase r }
  | .discovery d => { w with discoveries := w.discoveries.erase d }
  | .controller c => { w with controllers := w.controllers.erase c }
  | .stream s => { w with streams := w.streams.erase s }

def hush (w : World σ) (k : Kept) : World σ :=
  { w with loop := w.loop.cancel? ((w.item? k).bind (·.timer?)) }

def retire (w : World σ) (k : Kept) : World σ := (w.hush k).erase k

def isKept (w : World σ) (k : Kept) : Bool := (w.item? k).isSome

end World

def retain (k : Kept) : Act σ Unit := modify (·.reshare (· + 1) k)

def release (env : Env σ) (k : Kept) : Act σ Unit := do
  match (← get).item? k with
  | none => pure ()
  | some item =>
    match item.sharers with
    | 0 =>
      modify (·.retire k)
      env.reap item
    | _ + 1 => modify (·.reshare (· - 1) k)

def release? (env : Env σ) (k : Option Kept) : Act σ Unit :=
  match k with
  | some k => release env k
  | none => pure ()

def keeping (env : Env σ) (k : Kept) (action : Act σ α) : Act σ α := do
  retain k
  let a ← action
  release env k
  return a

def keepingTry (env : Env σ) (k : Kept) (action : Try σ α) : Try σ α :=
  ExceptT.mk (keeping env k action.run)

def ifKept (env : Env σ) (k : Kept) (otherwise : α) (action : Act σ α) : Act σ α := do
  if (← get).isKept k then keeping env k action else return otherwise

end DroneControl
