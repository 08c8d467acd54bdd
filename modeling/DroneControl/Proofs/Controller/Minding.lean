import DroneControl.Proofs.Interface.Watching

/-!
# What minds nothing but controllers and the loop

A relation between worlds that holds wherever controllers and the loop are as they were is kept by whatever
concerns neither.  What it has to answer for besides is small: who keeps a controller, and timers that are
canceled or started for a retry.
-/

set_option synthInstance.maxSize 2048

namespace DroneControl

variable {σ : Type}

class MindsTimers (R : World σ → World σ → Prop) : Prop where
  aside : ∀ {w w'}, w'.controllers = w.controllers → w'.loop = w.loop → w'.history = w.history → R w w'
  mark : ∀ (w) (o : Occurrence), o.topic ∉ [Topic.control, .hearing, .notice] → R w (w.mark o)
  trans : ∀ {w₁ w₂ w₃}, R w₁ w₂ → R w₂ w₃ → R w₁ w₃
  shared : ∀ (k : ControllerId) (f : Nat → Nat) (w),
    R w (w.updateController k fun x => { x with sharers := f x.sharers })
  retired : ∀ (k : ControllerId) (w), R w (w.retire (.controller k))
  canceled : ∀ (t : TimerId) (w), R w { w with loop := w.loop.cancel t }
  retried : ∀ (delay : Nat) (i : InterfaceId) (w),
    R w { w with loop := (w.loop.after delay (.retry i)).2 }

namespace MindsTimers

variable {R : World σ → World σ → Prop} [minds : MindsTimers R]

instance heeds : Heeds R ⟨[.controllers, .loop, .history], [.control, .hearing, .notice]⟩ where
  trans := minds.trans
  aside same := minds.aside (same .controllers (by decide)) (same .loop (by decide))
    (same .history (by decide))
  mark := minds.mark

instance footing : Footing (Keeps R) := Heeds.footing

instance base : Base (Keeps R) where
  share f item w := by
    cases item with
    | controller k => exact minds.shared k f w
    | _ => exact minds.aside rfl rfl rfl
  retire item w := by
    have hushed : R w (w.hush item) := by
      unfold World.hush
      cases (w.item? item).bind (·.timer?) with
      | none => exact minds.aside rfl rfl rfl
      | some t => exact minds.canceled t w
    cases item with
    | controller k => exact minds.retired k w
    | _ => exact minds.trans hushed (minds.aside rfl rfl rfl)
  cancelCall t w := by
    change R w { w with loop := w.loop.cancelCall t }
    rcases w.loop.cancelCall_eq t with same | ⟨same, -⟩ <;> rw [same]
    · exact minds.aside rfl rfl rfl
    · exact minds.canceled t w

instance overlooksProxies : OverlooksProxies (Keeps R) := Heeds.overlooksProxies

instance overlooksBackends : OverlooksBackends (Keeps R) := Heeds.overlooksBackends

instance overlooksDiscoveries : OverlooksDiscoveries (Keeps R) := Heeds.overlooksDiscoveries

instance overlooks (i : InterfaceId) : Overlooks (Keeps R) i where
  row _ _ w := Heeds.of_interfaces w (by decide) _
  retry delay w := minds.retried delay i w
  cancel t w := minds.canceled t w
  mark o about w := Heeds.mark w o (by simp [Occurrence.topic_of_concerns about])

instance interfaceLives : InterfaceLives (Keeps R) := Heeds.interfaceLives

instance overlooksEntries : OverlooksEntries (Keeps R) := Heeds.overlooksEntries

instance overlooksConnection (c : ConnectionId) : OverlooksConnection (Keeps R) c :=
  Heeds.overlooksConnection c

instance connectionLives : ConnectionLives (Keeps R) := Heeds.connectionLives

instance connectionNotes : ConnectionNotes (Keeps R) := Connection.notes_of_overlooks

section

variable {env : Env σ} [Upheld (Keeps R) env] [TimerLives (Keeps R)]

instance interfaceCalls : InterfaceCalls (Keeps R) env := Interface.calls_of_steps

instance interfaceRetries : InterfaceRetries (Keeps R) env := Interface.retries_of_steps

instance connectionCalls [EntryCalls (Keeps R) env] : ConnectionCalls (Keeps R) env :=
  Connection.calls_of_tells

instance givesUp : GivesUp (Keeps R) env := ⟨fun _ => Connection.giveUp_overlooked⟩

instance registryCalls [EntryCalls (Keeps R) env] [RegistryLives (Keeps R)] :
    RegistryCalls (Keeps R) env :=
  Registry.calls_of_overlooks

end

end MindsTimers

end DroneControl
