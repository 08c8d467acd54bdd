import DroneControl.Proofs.Run.Scope

/-!
# What is no matter of channels

Some relations between worlds are about proxies and about what backends share with their channels, and
about nothing else.  For such a relation the whole library comes down to how these come to be and
change, and to what is reported of a proxy.
-/

set_option synthInstance.maxSize 2048

namespace DroneControl

variable {σ : Type} {w w' : World σ} {env : Env σ}

class MindsChannels (R : World σ → World σ → Prop) : Prop where
  trans : ∀ {w₁ w₂ w₃}, R w₁ w₂ → R w₂ w₃ → R w₁ w₃
  aside : ∀ {w w'}, w'.proxies = w.proxies → w'.uplinks = w.uplinks →
    w'.backends = w.backends → R w w'
  createProxy : ∀ (w) (x : Proxy), x.state = .opening → x.past = [] → x.told = [] →
    R w { w with proxies := (w.proxies.add x).2 }
  closeProxy : ∀ (w) (p : ProxyId), R w (w.updateProxy p (·.leftBy .close .closed))
  addUplink : ∀ (w) (x : Uplink), R w { w with uplinks := (w.uplinks.add x).2 }
  uplink : ∀ (w) (u : UplinkId) {f}, (∀ x : Uplink, x.GoesTo (f x)) → R w (w.updateUplink u f)
  addBackend : ∀ (w) (x : Backend), R w { w with backends := (w.backends.add x).2 }
  backend : ∀ (w) (b : BackendId) {f}, (∀ x : Backend, (f x).uplink? = x.uplink?) →
    R w (w.updateBackend b f)
  eraseBackend : ∀ (w) (b : BackendId), R w (w.erase (.backend b))

namespace MindsChannels

variable {R : World σ → World σ → Prop} [minds : MindsChannels R]

instance heeds : Heeds R ⟨[.proxies, .uplinks, .backends], []⟩ :=
  .of_silent minds.trans fun same =>
    minds.aside (same .proxies (by decide)) (same .uplinks (by decide)) (same .backends (by decide))

theorem share (w : World σ) (f : Nat → Nat) (k : Kept) : R w (w.reshare f k) := by
  cases k with
  | backend b => exact minds.backend w b fun _ => rfl
  | _ => exact minds.aside rfl rfl rfl

theorem erase (w : World σ) (k : Kept) : R w (w.erase k) := by
  cases k with
  | backend b => exact minds.eraseBackend w b
  | _ => exact minds.aside rfl rfl rfl

instance footing : Footing (Keeps R) where
  think _ _ := minds.aside rfl rfl rfl
  traceCells _ _ := minds.aside rfl rfl rfl
  streams _ _ := minds.aside rfl rfl rfl
  createPipe _ w := Heeds.of_pipes w (by decide) _
  pipe _ _ _ w := Heeds.of_pipes w (by decide) _
  createProxy _ _ _ _ w := minds.createProxy w _ rfl rfl rfl
  closeProxy p w := minds.closeProxy w p
  addUplink _ w := minds.addUplink w _
  uplink u _ goes w := minds.uplink w u goes
  registry _ _ _ w := Heeds.of_registries w (by decide) _

instance base : Base (Keeps R) := Heeds.base_of_kept share erase

instance ground : Ground (Keeps R) where
  addBackend _ w := minds.addBackend w _
  backend b _ keeps w := minds.backend w b keeps.same
  toOverlooksDiscoveries := Heeds.overlooksDiscoveries
  toOverlooksTimers := Heeds.overlooksTimers

instance overlooks (i : InterfaceId) : Overlooks (Keeps R) i := Heeds.overlooks i

instance interfaceLives : InterfaceLives (Keeps R) := Heeds.interfaceLives

instance overlooksDevices : OverlooksDevices (Keeps R) := Heeds.overlooksDevices

instance overlooksLoop : OverlooksLoop (Keeps R) := Heeds.overlooksLoop

instance overlooksConnection (c : ConnectionId) : OverlooksConnection (Keeps R) c :=
  Heeds.overlooksConnection c

instance connectionLives : ConnectionLives (Keeps R) := Heeds.connectionLives

instance connectionNotes : ConnectionNotes (Keeps R) := Connection.notes_of_overlooks

instance registryLives : RegistryLives (Keeps R) := Registry.lives_of_overlooks

instance alone : Alone (Keeps R) where

theorem together [Upheld (Keeps R) env] [ProxyCalls (Keeps R) env] : Together (Keeps R) env := by
  have : EntryCalls (Keeps R) env := Entry.calls_of_overlooks
  have : ConnectionCalls (Keeps R) env := Connection.calls_of_tells
  have : GivesUp (Keeps R) env := ⟨fun _ => Connection.giveUp_overlooked⟩
  have : InterfaceCalls (Keeps R) env := Interface.calls_of_steps
  have : InterfaceRetries (Keeps R) env := Interface.retries_of_steps
  have : RegistryCalls (Keeps R) env := Registry.calls_of_overlooks
  have : LoopCalls (Keeps R) env := Loop.calls_of_steps
  exact {}

end MindsChannels

end DroneControl
