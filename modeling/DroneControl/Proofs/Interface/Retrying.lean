import DroneControl.Proofs.Interface.Accounting

/-!
# Retry timers and the interfaces that name them

An interface names no timer but one of its own, which is for a retry of this interface and has a single
turn.  So whatever is done to an interface, nobody else's timer is stopped by it.
-/

set_option synthInstance.maxSize 2048

namespace DroneControl

variable {σ : Type} {i j : InterfaceId} {w w' : World σ} {env : Env σ}

/-- The loop has no timer of that name but one for a retry of the interface. -/
structure Loop.Retries (l : Loop) (i : InterfaceId) (t : TimerId) : Prop where
  named : t.number < l.timers.next
  own : ∀ timer, l.timers.find? t = some timer → timer.job = .retry i ∧ timer.period = none

/-- The interface names no timer but one of its own. -/
def World.NamesOwn (w : World σ) (i : InterfaceId) : Prop :=
  ∀ x t, w.interfaces.find? i = some x → x.retryTimer = some t → w.loop.Retries i t

theorem Loop.Retries.later {l l' : Loop} {t : TimerId} (retries : l.Retries i t) (goesOn : l.GoesOn l') :
    l'.Retries i t where
  named := Nat.lt_of_lt_of_le retries.named goesOn.named
  own timer' found := by
    obtain ⟨timer, there, job, period⟩ := goesOn.lasting t timer' retries.named found
    obtain ⟨job', period'⟩ := retries.own timer there
    exact ⟨job.trans job', period.trans period'⟩

theorem Loop.Retries.after (l : Loop) (i : InterfaceId) (delay : Nat) :
    (l.after delay (.retry i)).2.Retries i ⟨l.timers.next⟩ where
  named := by simp [Loop.after, Table.next_add]
  own timer found := by
    rw [Loop.after, Table.find?_add, if_pos rfl] at found
    rw [← Option.some.inj found]
    exact ⟨rfl, rfl⟩

namespace World.NamesOwn

theorem later (own : w.NamesOwn i)
    (row : ∀ x', w'.interfaces.find? i = some x' →
      ∃ x, w.interfaces.find? i = some x ∧ x'.retryTimer = x.retryTimer)
    (goesOn : w.loop.GoesOn w'.loop) : w'.NamesOwn i := by
  intro x' t here names
  obtain ⟨x, there, same⟩ := row x' here
  exact (own x t there (same ▸ names)).later goesOn

theorem aside (own : w.NamesOwn i) (interfaces : w'.interfaces = w.interfaces)
    (loop : w'.loop = w.loop) : w'.NamesOwn i :=
  own.later (fun x here => ⟨x, interfaces ▸ here, rfl⟩) (by rw [loop]; exact .refl w.loop)

theorem update (own : w.NamesOwn i) {f : Interface → Interface}
    (same : ∀ x, w.interfaces.find? j = some x → (f x).retryTimer = x.retryTimer) :
    (w.updateInterface j f).NamesOwn i := by
  refine own.later (fun x' here => ?_) (.refl w.loop)
  simp only [World.updateInterface, Table.find?_update] at here
  split at here
  · next own =>
    obtain ⟨x, there, rfl⟩ := Option.map_eq_some_iff.mp here
    exact ⟨x, own ▸ there, same x there⟩
  · exact ⟨x', here, rfl⟩

theorem setTimer (own : w.NamesOwn i) {timer : Option TimerId}
    (retries : ∀ t, timer = some t → w.loop.Retries j t) :
    ((Interface.setTimer j timer).run w).2.NamesOwn i := by
  unfold Interface.setTimer
  rw [run_bind, run_get, run_bind, run_cancelTimer?, run_modify]
  intro x' t here names
  have canceled : w.loop.GoesOn (w.loop.cancel? (w.interface j).retryTimer) := .cancel? _
  simp only [World.updateInterface, Table.find?_update] at here
  split at here
  · next same =>
    obtain ⟨x, -, rfl⟩ := Option.map_eq_some_iff.mp here
    exact same ▸ (retries t names).later canceled
  · exact (own x' t here names).later canceled

end World.NamesOwn

theorem InterfaceSteps.of_setTimer {R : World σ → World σ → Prop}
    (trans : ∀ {w₁ w₂ w₃}, R w₁ w₂ → R w₂ w₃ → R w₁ w₃)
    (row : ∀ w (f : Interface → Interface), (∀ x, w.interfaces.find? i = some x →
      (f x).sharers = x.sharers ∧ (f x).retryTimer = x.retryTimer) → R w (w.updateInterface i f))
    (after : ∀ w delay, R w { w with loop := (w.loop.after delay (.retry i)).2 })
    (setTimer : ∀ w timer, (∀ t, timer = some t → w.loop.Retries i t) →
      R w ((Interface.setTimer i timer).run w).2)
    (mark : ∀ w o, R w (w.mark o)) : InterfaceSteps (Keeps R) i where
  row _ g same w := row w (g w) fun x there => ⟨(same w x there).sharers, (same w x there).retryTimer⟩
  launch f := by
    refine ⟨fun w => ?_⟩
    unfold Interface.launch
    rw [run_bind, run_modify, run_bind, run_schedule]
    refine trans (row w (fun x => { x with inFlight := some f }) fun _ _ => ⟨rfl, rfl⟩) ?_
    refine trans (after _ retryDelay) (setTimer _ _ fun t same => ?_)
    obtain rfl := Option.some.inj same
    exact .after _ i retryDelay
  clearFlight := by
    refine ⟨fun w => ?_⟩
    unfold Interface.clearFlight
    rw [run_bind, run_modify]
    exact trans (row w (fun x => { x with inFlight := none }) fun _ _ => ⟨rfl, rfl⟩)
      (setTimer _ none nofun)
  mark o _ w := mark w o

end DroneControl
