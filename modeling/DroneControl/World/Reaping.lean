import DroneControl.Backend.Lifecycle
import DroneControl.Stream.Opening

/-!
What is left to do for a thing that nobody keeps any longer. What the thing itself kept is let go, and
the devices of a discovery source are removed.
-/

namespace DroneControl

variable {σ : Type}

def reapBackend (env : Env σ) (x : Backend) : Act σ Unit :=
  match x.part with
  | .mux part => release? env (part.discovery.map .discovery)
  | _ => return

def reapRegistry (env : Env σ) (x : Registry) : Act σ Unit := Registry.letGo env x

def reapDiscovery (env : Env σ) (d : DiscoveryId) (x : Discovery) : Act σ Unit := do
  Discovery.removeAll env d x.registry x.devices
  Registry.unregisterDiscovery x.registry d
  log .debug "Discovery destroyed" [("discovery", d.label)]

def reapController (env : Env σ) (x : Controller) : Act σ Unit := release env (.registry x.registry)

def reapStream (env : Env σ) (x : Stream) : Act σ Unit := do
  Stream.closeProxy x
  release env (.registry x.registry)

def reap (env : Env σ) : Item → Act σ Unit
  | .interface _ => return
  | .backend x => reapBackend env x
  | .registry x => reapRegistry env x
  | .discovery d x => reapDiscovery env d x
  | .controller x => reapController env x
  | .stream x => reapStream env x

end DroneControl
