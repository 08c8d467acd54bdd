import DroneControl.Proofs.Interface.Retrying

/-!
# Retry timers that are pending

Whoever stops a timer names it as its own: an interface a timer for its retries, a controller one for its
beats, and a user of the loop one for a call.  So the timer that an interface names for the command in flight
is there until it has its turn, and then the interface starts another one or has nothing in flight.
-/

set_option synthInstance.maxSize 2048

namespace DroneControl

variable {σ α : Type} {i j : InterfaceId} {k : ControllerId} {t : TimerId} {w w' w'' : World σ}
  {env : Env σ}

/-- The loop has no timer of that name but one for beats of the controller. -/
structure Loop.Ticks (l : Loop) (k : ControllerId) (t : TimerId) : Prop where
  named : t.number < l.timers.next
  own : ∀ timer, l.timers.find? t = some timer → timer.job = .tick k

theorem Loop.Ticks.later {l l' : Loop} (ticks : l.Ticks k t) (goesOn : l.GoesOn l') : l'.Ticks k t where
  named := Nat.lt_of_lt_of_le ticks.named goesOn.named
  own timer' found := by
    obtain ⟨timer, there, job, -⟩ := goesOn.lasting t timer' ticks.named found
    exact job.trans (ticks.own timer there)

theorem Interface.run_setTimer (i : InterfaceId) (timer : Option TimerId) (w : World σ) :
    ((setTimer i timer).run w).2 =
      { w.updateInterface i fun x => { x with retryTimer := timer } with
        loop := w.loop.cancel? (w.interface i).retryTimer } := by
  unfold setTimer
  rw [run_bind, run_get, run_bind, run_cancelTimer?, run_modify]
  rfl

/-- Interfaces and controllers name no timers but their own, and what stands for a controller that is not
there names none. -/
structure World.Owned (w : World σ) : Prop where
  retries : ∀ i, w.NamesOwn i
  ticks : ∀ k x t, w.controllers.find? k = some x → x.timer = some t → w.loop.Ticks k t
  absent : ∀ k, w.loop.Ticks k default

/-- While the interface is open and has a command in flight, the retry timer that it names is there. -/
def World.Pending (w : World σ) (i : InterfaceId) : Prop :=
  ∀ x t, w.interfaces.find? i = some x → x.closed = false → x.inFlight.isSome → x.retryTimer = some t →
    (w.loop.timers.find? t).isSome

namespace World

namespace Owned

theorem later (owned : w.Owned)
    (interface : ∀ i x', w'.interfaces.find? i = some x' →
      ∃ x, w.interfaces.find? i = some x ∧ x'.retryTimer = x.retryTimer)
    (controller : ∀ k x' t, w'.controllers.find? k = some x' → x'.timer = some t →
      ∃ x, w.controllers.find? k = some x ∧ x.timer = some t)
    (goesOn : w.loop.GoesOn w'.loop) : w'.Owned where
  retries i := (owned.retries i).later (interface i) goesOn
  ticks k x' t there names := by
    obtain ⟨x, before, named⟩ := controller k x' t there names
    exact (owned.ticks k x t before named).later goesOn
  absent k := (owned.absent k).later goesOn

theorem ticks_controller (owned : w.Owned) (names : (w.controller k).timer = some t) :
    w.loop.Ticks k t := by
  cases there : w.controllers.find? k with
  | none =>
    rw [World.controller, Table.get, there] at names
    obtain rfl := Option.some.inj names
    exact owned.absent k
  | some x =>
    rw [World.controller_of_find? there] at names
    exact owned.ticks k x t there names

theorem of_loop (owned : w.Owned) (interfaces : w'.interfaces = w.interfaces)
    (controllers : w'.controllers = w.controllers) (goesOn : w.loop.GoesOn w'.loop) : w'.Owned :=
  owned.later (fun _ x there => ⟨x, interfaces ▸ there, rfl⟩)
    (fun _ x _ there names => ⟨x, controllers ▸ there, names⟩) goesOn

theorem row (owned : w.Owned) {f : Interface → Interface}
    (same : ∀ x, w.interfaces.find? i = some x → (f x).retryTimer = x.retryTimer) :
    (w.updateInterface i f).Owned where
  retries j := (owned.retries j).update same
  ticks := owned.ticks
  absent := owned.absent

theorem setTimer (owned : w.Owned) {timer : Option TimerId}
    (retries : ∀ t, timer = some t → w.loop.Retries i t) :
    ((Interface.setTimer i timer).run w).2.Owned where
  retries j := (owned.retries j).setTimer retries
  ticks k x t there names := by
    rw [Interface.run_setTimer] at there ⊢
    exact (owned.ticks k x t there names).later (.cancel? _)
  absent k := by
    rw [Interface.run_setTimer]
    exact (owned.absent k).later (.cancel? _)

theorem spared (owned : w.Owned) (other : j ≠ i) {x y : Interface} (there : w.interfaces.find? i = some x)
    (names : x.retryTimer = some t) (present : (w.loop.timers.find? t).isSome)
    (beside : w.interfaces.find? j = some y) : y.retryTimer ≠ some t := by
  intro same
  obtain ⟨timer, found⟩ := Option.isSome_iff_exists.mp present
  have mine := ((owned.retries i x t there names).own timer found).1
  have others := ((owned.retries j y t beside same).own timer found).1
  exact other (Job.retry.inj (others.symm.trans mine))

end Owned

theorem Pending.later (pending : w.Pending i)
    (interface : ∀ x', w'.interfaces.find? i = some x' → x'.closed = false → ∃ x,
      w.interfaces.find? i = some x ∧ x.closed = false ∧ x'.inFlight = x.inFlight ∧
        x'.retryTimer = x.retryTimer)
    (lasting : ∀ x t, w.interfaces.find? i = some x → x.retryTimer = some t →
      (w.loop.timers.find? t).isSome → (w'.loop.timers.find? t).isSome) : w'.Pending i := by
  intro x' t there opened flying names
  obtain ⟨x, before, opened', flight, timer⟩ := interface x' there opened
  rw [flight] at flying
  rw [timer] at names
  exact lasting x t before names (pending x t before opened' flying names)

theorem Pending.of_loop (pending : w.Pending i) (interfaces : w'.interfaces = w.interfaces)
    (lasting : ∀ x t, w.interfaces.find? i = some x → x.retryTimer = some t →
      (w.loop.timers.find? t).isSome → (w'.loop.timers.find? t).isSome) : w'.Pending i :=
  pending.later (fun x there opened => ⟨x, interfaces ▸ there, opened, rfl, rfl⟩) lasting

end World

structure World.Poised (w : World σ) (i : InterfaceId) : Prop extends w.Owned where
  pending : w.Pending i

def StaysPoised (i : InterfaceId) (w w' : World σ) : Prop := w.Poised i → w'.Poised i

namespace StaysPoised

theorem trans (first : StaysPoised i w w') (second : StaysPoised i w' w'') : StaysPoised i w w'' :=
  second ∘ first

theorem of_loop (interfaces : w'.interfaces = w.interfaces) (controllers : w'.controllers = w.controllers)
    (goesOn : w.loop.GoesOn w'.loop)
    (lasting : ∀ t, (w.loop.timers.find? t).isSome → (w'.loop.timers.find? t).isSome) :
    StaysPoised i w w' := fun poised =>
  { toOwned := poised.toOwned.of_loop interfaces controllers goesOn
    pending := poised.pending.of_loop interfaces fun _ t _ _ => lasting t }

theorem aside (interfaces : w'.interfaces = w.interfaces) (controllers : w'.controllers = w.controllers)
    (loop : w'.loop = w.loop) : StaysPoised i w w' :=
  of_loop interfaces controllers (loop ▸ .refl _) fun _ => loop ▸ id

end StaysPoised

theorem World.Poised.aside (poised : w.Poised i) (interfaces : w'.interfaces = w.interfaces)
    (controllers : w'.controllers = w.controllers) (loop : w'.loop = w.loop) : w'.Poised i :=
  StaysPoised.aside interfaces controllers loop poised

namespace StaysPoised

theorem add {timer : Timer} {queue : List Task} (interfaces : w'.interfaces = w.interfaces)
    (controllers : w'.controllers = w.controllers)
    (loop : w'.loop = { w.loop with timers := (w.loop.timers.add timer).2, queue }) : StaysPoised i w w' := by
  refine of_loop interfaces controllers (loop ▸ .add w.loop timer queue) fun t present => ?_
  rw [loop, Table.find?_add]
  split
  · rfl
  · exact present

theorem cancel (other : ∀ timer, w.loop.timers.find? t = some timer → timer.job ≠ .retry i) :
    StaysPoised i w { w with loop := w.loop.cancel t } := fun poised =>
  { toOwned := poised.toOwned.of_loop rfl rfl (.cancel t)
    pending := poised.pending.of_loop rfl fun x t' there names present => by
      obtain ⟨timer, found⟩ := Option.isSome_iff_exists.mp present
      have mine := ((poised.retries i x t' there names).own timer found).1
      rw [Loop.cancel, Table.find?_erase, if_neg, found]
      · rfl
      · rintro rfl
        exact other timer found mine }

theorem controller (w : World σ) (k : ControllerId) {f : Controller → Controller}
    (same : ∀ x t, (f x).timer = some t → x.timer = some t) :
    StaysPoised i w (w.updateController k f) := fun poised =>
  { toOwned := poised.toOwned.later (fun _ x there => ⟨x, there, rfl⟩) (fun k' x' t there names => by
      simp only [World.updateController, Table.find?_update] at there
      split at there
      · next own =>
        obtain ⟨x, before, rfl⟩ := Option.map_eq_some_iff.mp there
        exact ⟨x, own ▸ before, same x t names⟩
      · exact ⟨x', there, names⟩) (.refl _)
    pending := poised.pending }

theorem row (w : World σ) (j : InterfaceId) {f : Interface → Interface}
    (same : ∀ x, w.interfaces.find? j = some x → (f x).retryTimer = x.retryTimer ∧
      (f x).inFlight = x.inFlight ∧ (x.closed → (f x).closed)) :
    StaysPoised i w (w.updateInterface j f) := fun poised =>
  { toOwned := poised.toOwned.row fun x there => (same x there).1
    pending := poised.pending.later (fun x' there opened => by
      simp only [World.updateInterface, Table.find?_update] at there
      split at there
      · next own =>
        obtain ⟨x, before, rfl⟩ := Option.map_eq_some_iff.mp there
        obtain ⟨timer, flight, shut⟩ := same x before
        refine ⟨x, own ▸ before, Bool.eq_false_iff.mpr fun closed => ?_, flight, timer⟩
        exact Bool.eq_false_iff.mp opened (shut closed)
      · exact ⟨x', there, opened, rfl, rfl⟩) fun _ _ _ _ => id }

end StaysPoised

/-! ## Steps of an interface -/

namespace World.Owned

theorem pending_setTimer (owned : w.Owned) (other : j ≠ i) (pending : w.Pending i) (timer : Option TimerId) :
    ((Interface.setTimer j timer).run w).2.Pending i := by
  rw [Interface.run_setTimer]
  refine pending.later (fun x' there opened => ?_) fun x t there names present => ?_
  · simp only [updateInterface, Table.find?_update, if_neg other] at there
    exact ⟨x', there, opened, rfl, rfl⟩
  · change ((w.loop.cancel? (w.interface j).retryTimer).timers.find? t).isSome
    cases beside : w.interfaces.find? j with
    | none =>
      rw [World.interface, Table.get, beside]
      exact present
    | some y =>
      have spared := owned.spared other there names present beside
      rw [World.interface_of_find? beside]
      cases named : y.retryTimer with
      | none => exact present
      | some t' =>
        rw [Loop.cancel?, Loop.cancel, Table.find?_erase, if_neg]
        · exact present
        · rintro rfl
          exact spared named

theorem launch (owned : w.Owned) (f : InFlight) : ((Interface.launch i f).run w).2.Poised i := by
  have started := owned.row (i := i) (f := fun x => { x with inFlight := some f }) fun _ _ => rfl
  unfold Interface.launch
  rw [run_bind, run_modify, run_bind, run_schedule]
  generalize w.updateInterface i (fun x => { x with inFlight := some f }) = w₁ at started
  have scheduled : ({ w₁ with loop := (w₁.loop.after retryDelay (.retry i)).2 } : World σ).Owned :=
    started.of_loop rfl rfl (.add _ _ _)
  refine ⟨scheduled.setTimer fun t same => ?_, fun x t there _ _ names => ?_⟩
  · obtain rfl := Option.some.inj same
    exact .after _ i retryDelay
  · rw [Interface.run_setTimer] at there ⊢
    simp only [updateInterface, Table.find?_update, if_true] at there
    obtain ⟨y, before, rfl⟩ := Option.map_eq_some_iff.mp there
    obtain rfl := Option.some.inj names
    change (((w₁.loop.after retryDelay (.retry i)).2.cancel? (w₁.interface i).retryTimer).timers.find?
      ⟨w₁.loop.timers.next⟩).isSome
    rw [World.interface_of_find? before]
    cases named : y.retryTimer with
    | none =>
      rw [Loop.cancel?, Loop.after, Table.find?_add, if_pos rfl]
      rfl
    | some old =>
      have known := (started.retries i y old before named).named
      rw [Loop.cancel?, Loop.cancel, Table.find?_erase, if_neg, Loop.after, Table.find?_add, if_pos rfl]
      · rfl
      · rintro rfl
        exact lt_irrefl _ known

theorem clearFlight (owned : w.Owned) : ((Interface.clearFlight i).run w).2.Poised i := by
  have cleared := owned.row (i := i) (f := fun x => { x with inFlight := none }) fun _ _ => rfl
  have idle : ∀ x, (w.updateInterface i fun x => { x with inFlight := none }).interfaces.find? i = some x →
      x.inFlight = none := by
    intro x there
    simp only [updateInterface, Table.find?_update, if_true] at there
    obtain ⟨y, -, rfl⟩ := Option.map_eq_some_iff.mp there
    rfl
  unfold Interface.clearFlight
  rw [run_bind, run_modify]
  generalize w.updateInterface i (fun x => { x with inFlight := none }) = w₁ at cleared idle
  refine ⟨cleared.setTimer (fun _ same => by cases same), fun x t there _ flying _ => ?_⟩
  rw [Interface.run_setTimer] at there
  simp only [updateInterface, Table.find?_update, if_true] at there
  obtain ⟨y, before, rfl⟩ := Option.map_eq_some_iff.mp there
  rw [idle y before] at flying
  cases flying

end World.Owned

namespace World.Poised

theorem beside (poised : w.Poised i) (other : j ≠ i) {f : Interface → Interface}
    (same : ∀ x, (f x).retryTimer = x.retryTimer) : (w.updateInterface j f).Poised i where
  toOwned := poised.toOwned.row fun x _ => same x
  pending := poised.pending.later (fun x' there opened => by
    simp only [updateInterface, Table.find?_update, if_neg other] at there
    exact ⟨x', there, opened, rfl, rfl⟩) fun _ _ _ _ => id

theorem launch_beside (poised : w.Poised i) (other : j ≠ i) (f : InFlight) :
    ((Interface.launch j f).run w).2.Poised i := by
  have started := poised.beside other (f := fun x => { x with inFlight := some f }) fun _ => rfl
  refine ⟨(poised.toOwned.launch f).toOwned, ?_⟩
  unfold Interface.launch
  rw [run_bind, run_modify, run_bind, run_schedule]
  generalize w.updateInterface j (fun x => { x with inFlight := some f }) = w₁ at started
  have scheduled : StaysPoised i w₁ { w₁ with loop := (w₁.loop.after retryDelay (.retry j)).2 } :=
    .add rfl rfl rfl
  exact (scheduled started).toOwned.pending_setTimer other (scheduled started).pending _

theorem clearFlight_beside (poised : w.Poised i) (other : j ≠ i) :
    ((Interface.clearFlight j).run w).2.Poised i := by
  have cleared := poised.beside other (f := fun x => { x with inFlight := none }) fun _ => rfl
  refine ⟨poised.toOwned.clearFlight.toOwned, ?_⟩
  unfold Interface.clearFlight
  rw [run_bind, run_modify]
  exact cleared.toOwned.pending_setTimer other cleared.pending none

end World.Poised

/-! ## What does not run the loop -/

namespace StaysPoised

instance heeds : Heeds (σ := σ) (StaysPoised i) ⟨[.interfaces, .controllers, .loop], []⟩ :=
  .of_silent trans fun same =>
    aside (same .interfaces (by decide)) (same .controllers (by decide)) (same .loop (by decide))

instance footing : Footing (Keeps (σ := σ) (StaysPoised i)) := Heeds.footing

theorem erase (w : World σ) (k : Kept) : StaysPoised i w (w.erase k) := by
  intro poised
  cases k with
  | interface j =>
    have before : ∀ j' x, (w.interfaces.erase j).find? j' = some x → w.interfaces.find? j' = some x := by
      intro j' x there
      rw [Table.find?_erase] at there
      split at there
      · cases there
      · exact there
    exact {
      toOwned := poised.toOwned.later (fun j' x there => ⟨x, before j' x there, rfl⟩)
        (fun _ x _ there names => ⟨x, there, names⟩) (.refl _)
      pending := poised.pending.later (fun x there opened => ⟨x, before i x there, opened, rfl, rfl⟩)
        fun _ _ _ _ => id }
  | controller k =>
    refine ⟨poised.toOwned.later (fun _ x there => ⟨x, there, rfl⟩) (fun k' x t there names => ?_) (.refl _),
      poised.pending⟩
    change (w.controllers.erase k).find? k' = some x at there
    rw [Table.find?_erase] at there
    split at there
    · cases there
    · exact ⟨x, there, names⟩
  | _ => exact poised.aside rfl rfl rfl

theorem hush (w : World σ) {k : Kept} (other : k ≠ .interface i) : StaysPoised i w (w.hush k) := by
  intro poised
  cases named : (w.item? k).bind (·.timer?) with
  | none =>
    have same : w.hush k = w := by simp [World.hush, named, Loop.cancel?]
    rwa [same]
  | some t =>
    have same : w.hush k = { w with loop := w.loop.cancel t } := by simp [World.hush, named, Loop.cancel?]
    rw [same]
    refine cancel (fun timer found retries => ?_) poised
    obtain ⟨item, there, names⟩ := Option.bind_eq_some_iff.mp named
    cases k with
    | interface j =>
      obtain ⟨x, row, rfl⟩ := Option.map_eq_some_iff.mp there
      have own := ((poised.retries j x t row names).own timer found).1
      exact other (congrArg Kept.interface (Job.retry.inj (own.symm.trans retries)))
    | controller k =>
      obtain ⟨x, row, rfl⟩ := Option.map_eq_some_iff.mp there
      cases ((poised.ticks k x t row names).own timer found).symm.trans retries
    | _ =>
      obtain ⟨x, there, rfl⟩ := Option.map_eq_some_iff.mp there
      cases names

theorem retire (w : World σ) (k : Kept) : StaysPoised i w (w.retire k) := by
  by_cases own : k = .interface i
  · subst own
    intro poised
    have owned : (w.hush (.interface i)).Owned := poised.toOwned.of_loop rfl rfl (.cancel? _)
    refine ⟨(erase (i := ⟨w.interfaces.next⟩) _ (.interface i) ⟨owned, fun x t there => ?_⟩).toOwned,
      fun x t there => ?_⟩
    · cases (Table.find?_next w.interfaces).symm.trans there
    · change (w.interfaces.erase i).find? i = some x at there
      rw [Table.find?_erase, if_pos rfl] at there
      cases there
  · exact (hush w own).trans (erase _ k)

instance base : Base (Keeps (σ := σ) (StaysPoised i)) where
  share f k w := by
    cases k with
    | interface j => exact row w j fun _ _ => ⟨rfl, rfl, id⟩
    | controller k => exact controller w k fun _ _ => id
    | _ => exact aside rfl rfl rfl
  retire k w := retire w k
  cancelCall t w := by
    change StaysPoised i w { w with loop := w.loop.cancelCall t }
    rcases w.loop.cancelCall_eq t with same | ⟨same, timer, found, l, calls⟩ <;> rw [same]
    · exact aside rfl rfl rfl
    · refine cancel fun timer' found' retries => ?_
      cases found.symm.trans found'
      cases calls.symm.trans retries

instance steps (j : InterfaceId) : InterfaceSteps (Keeps (σ := σ) (StaysPoised i)) j where
  row _ g same w := row w j (f := g w) fun x there =>
    ⟨(same w x there).retryTimer, (same w x there).inFlight, (same w x there).closed⟩
  launch f := by
    refine ⟨fun w poised => ?_⟩
    by_cases own : j = i
    · exact own ▸ poised.toOwned.launch f
    · exact poised.launch_beside own f
  clearFlight := by
    refine ⟨fun w poised => ?_⟩
    by_cases own : j = i
    · exact own ▸ poised.toOwned.clearFlight
    · exact poised.clearFlight_beside own
  mark _ _ _ := aside rfl rfl rfl

instance interfaceLives : InterfaceLives (Keeps (σ := σ) (StaysPoised i)) := by
  refine Interface.lives_of_steps fun device pipe sink traceCell w poised => ?_
  have there : ∀ j x', (w.interfaces.add { device, pipe, sink, traceCell }).2.find? j = some x' →
      x'.retryTimer = none ∨ w.interfaces.find? j = some x' := by
    intro j x' found
    rw [Table.find?_add] at found
    split at found
    · exact .inl (by rw [← Option.some.inj found])
    · exact .inr found
  refine ⟨⟨fun j x' t here names => ?_, poised.ticks, poised.absent⟩, fun x' t here opened flying names => ?_⟩
  · rcases there j x' here with fresh | before
    · rw [fresh] at names
      cases names
    · exact poised.retries j x' t before names
  · rcases there i x' here with fresh | before
    · rw [fresh] at names
      cases names
    · exact poised.pending x' t before opened flying names

instance overlooksProxies : OverlooksProxies (Keeps (σ := σ) (StaysPoised i)) := Heeds.overlooksProxies

instance overlooksBackends : OverlooksBackends (Keeps (σ := σ) (StaysPoised i)) := Heeds.overlooksBackends

instance overlooksDiscoveries : OverlooksDiscoveries (Keeps (σ := σ) (StaysPoised i)) :=
  Heeds.overlooksDiscoveries

instance overlooksEntries : OverlooksEntries (Keeps (σ := σ) (StaysPoised i)) := Heeds.overlooksEntries

instance overlooksRegistries : OverlooksRegistries (Keeps (σ := σ) (StaysPoised i)) :=
  Heeds.overlooksRegistries

instance overlooksConnection (c : ConnectionId) :
    OverlooksConnection (Keeps (σ := σ) (StaysPoised i)) c := Heeds.overlooksConnection c

instance connectionLives : ConnectionLives (Keeps (σ := σ) (StaysPoised i)) := Heeds.connectionLives

instance connectionNotes : ConnectionNotes (Keeps (σ := σ) (StaysPoised i)) :=
  Connection.notes_of_overlooks

instance registryLives : RegistryLives (Keeps (σ := σ) (StaysPoised i)) := by
  refine Registry.lives_of_controllers fun device registry listener token w poised => ?_
  refine ⟨⟨poised.retries, fun k x t there names => ?_, poised.absent⟩, poised.pending⟩
  change (w.controllers.add _).2.find? k = some x at there
  rw [Table.find?_add] at there
  split at there
  · rw [← Option.some.inj there] at names
    cases names
  · exact poised.ticks k x t there names

instance timerLives : TimerLives (Keeps (σ := σ) (StaysPoised i)) where
  stopTimer k := by
    refine ⟨fun w poised => ?_⟩
    unfold Controller.stopTimer
    rw [run_bind, run_mark, run_bind, run_get]
    dsimp only
    cases names : ((w.mark (.stilled k)).controller k).timer with
    | none => exact poised.aside rfl rfl rfl
    | some t =>
      have cleared := controller (i := i) (w.mark (.stilled k)) k (f := fun x => { x with timer := none })
        (fun _ _ => nofun) (poised.aside rfl rfl rfl)
      have ticks : w.loop.Ticks k t := poised.toOwned.ticks_controller names
      have canceled := cancel (t := t)
        (fun timer found retries => by cases (ticks.own timer found).symm.trans retries) cleared
      have noted : Holds (Keeps (σ := σ) (StaysPoised i)) (do
          log .debug "Non-ack timer stopped"
            [("device", ((w.mark (.stilled k)).controller k).device.label)]
          return true) := inferInstance
      exact noted.holds _ canceled
  scheduleCall delay l := ⟨fun w => .add rfl rfl rfl⟩
  scheduleCalls period l := ⟨fun w => .add rfl rfl rfl⟩
  deferCall l := ⟨fun w => .of_loop rfl rfl (.requeue w.loop _) fun _ => id⟩
  deferEstablish c channel api := ⟨fun w => .of_loop rfl rfl (.requeue w.loop _) fun _ => id⟩
  dropToken k := ⟨fun w => .controller w k fun _ _ => id⟩

instance tickNotes : TickNotes (Keeps (σ := σ) (StaysPoised i)) where
  noteTick k := ⟨fun w => .controller w k fun _ _ => id⟩
  ticked _ := ⟨fun _ => .aside rfl rfl rfl⟩

theorem begin (k : ControllerId) (period : Nat) :
    StaysPoised i w (({ w with loop := (w.loop.periodic period (.tick k)).2 } : World σ).updateController k
      fun x => { x with timer := some ⟨w.loop.timers.next⟩, starts := x.starts + 1 }) := fun poised =>
  { retries := fun j => (poised.retries j).later (fun x there => ⟨x, there, rfl⟩) (.add _ _ _)
    ticks := fun k' x t there names => by
      simp only [World.updateController, Table.find?_update] at there
      split at there
      · next own =>
        obtain ⟨y, -, rfl⟩ := Option.map_eq_some_iff.mp there
        obtain rfl := Option.some.inj names
        refine ⟨by simp [World.updateController, Loop.periodic, Table.next_add], fun timer found => ?_⟩
        simp only [World.updateController, Loop.periodic, Table.find?_add, if_true] at found
        rw [← Option.some.inj found, own]
      · exact (poised.ticks k' x t there names).later (.add _ _ _)
    absent := fun k' => (poised.absent k').later (.add _ _ _)
    pending := poised.pending.of_loop rfl fun _ t _ _ present => by
      change (((w.loop.timers.add _).2).find? t).isSome
      rw [Table.find?_add]
      split
      · rfl
      · exact present }

instance timerStarts : TimerStarts (Keeps (σ := σ) (StaysPoised i)) where
  startTimer k period := by
    refine ⟨fun w poised => ?_⟩
    have logged (s : Severity) (message : String) (fields : List (String × String)) :
        Holds (Keeps (σ := σ) (StaysPoised i)) (log s message fields) := inferInstance
    unfold Controller.startTimer
    rw [run_lookThen]
    dsimp only
    split
    · exact poised
    split
    · exact (logged _ _ _).holds w poised
    · rw [run_actThen, run_actThen, run_actThen, run_modify, run_mark]
      exact (logged _ _ _).holds _ (.aside (begin k period.toNat poised) rfl rfl rfl)

instance alone : Alone (Keeps (σ := σ) (StaysPoised i)) where

/-! ## The loop has its turns -/

instance takeTask : Holds (Keeps (σ := σ) (StaysPoised i)) Loop.takeTask := by
  refine ⟨fun w => ?_⟩
  have kept : w.loop.GoesOn w.loop.take.2 ∧ w.loop.take.2.timers = w.loop.timers := by
    unfold Loop.take
    split
    · exact ⟨.refl _, rfl⟩
    · exact ⟨.requeue _ _, rfl⟩
  refine of_loop rfl rfl kept.1 fun t present => ?_
  change (w.loop.take.2.timers.find? t).isSome
  rwa [kept.2]

instance forward (ms : Nat) :
    Holds (Keeps (σ := σ) (StaysPoised i)) (modify fun w => { w with loop := w.loop.forward ms }) :=
  ⟨fun w => of_loop rfl rfl (.forward w.loop ms) fun _ => id⟩

instance restart (t : TimerId) (deadline : Nat) : Holds (Keeps (σ := σ) (StaysPoised i))
    (modify fun w => { w with loop := w.loop.restart t deadline }) := by
  refine ⟨fun w => of_loop rfl rfl (.restart t deadline) fun t' present => ?_⟩
  simp only [run_modify, Loop.restart, Table.find?_update]
  split
  · next same => simpa [same] using present
  · exact present

variable [Upheld (Keeps (StaysPoised i)) env]

variable (env) in
theorem retry (owned : w.Owned) : ((Interface.retry env i).run w).2.Poised i := by
  have warned (f : Fault) : Holds (Keeps (σ := σ) (StaysPoised i))
      (Interface.warnFailure i "Failed to send ack command" f) := inferInstance
  have offered (p : PipeId) (frame : Frame) : Holds (Keeps (StaysPoised i))
      (recover (Interface.offer env i p frame) (Interface.warnFailure i "Failed to send ack command")) :=
    inferInstance
  have pumped : Holds (Keeps (StaysPoised i))
      (recover (Interface.pump env i) (Interface.warnFailure i "Failed to send ack command")) := by
    infer_instance
  unfold Interface.retry
  rw [run_bind, run_get]
  dsimp only
  cases row : w.interfaces.find? i with
  | none =>
    have gone : (w.interface i).closed = true := by rw [World.interface, Table.get, row]; rfl
    rw [if_pos gone]
    exact ⟨owned, fun x t there => by cases row.symm.trans there⟩
  | some x =>
    rw [World.interface_of_find? row]
    split
    · next closed =>
      refine ⟨owned, fun y t there opened => ?_⟩
      cases row.symm.trans there
      simp [closed] at opened
    cases flying : x.inFlight with
    | none =>
      refine ⟨owned, fun y t there _ flies => ?_⟩
      cases row.symm.trans there
      simp [flying] at flies
    | some f =>
      dsimp only
      split
      · rw [run_bind]
        exact (offered _ _).holds _ (owned.launch _)
      · rw [run_bind, run_log, run_bind]
        obtain ⟨journal, logged⟩ := w.log_journal .warn "Ack command not acknowledged, dropping"
          [("device", x.device.label), ("seq", Text.Decimal.render f.seq.toNat),
            ("retries", Text.Decimal.render f.retries)]
        have owned' : ({ w with journal } : World σ).Owned := owned.of_loop rfl rfl (.refl _)
        rw [logged]
        exact pumped.holds _ owned'.clearFlight

variable [ConnectionCalls (Keeps (StaysPoised i)) env]

instance wake (t : TimerId) : Holds (Keeps (StaysPoised i)) (Loop.wake env t) := by
  have : InterfaceRetries (Keeps (StaysPoised i)) env := Interface.retries_of_steps
  refine ⟨fun w poised => ?_⟩
  unfold Loop.wake
  rw [run_bind, run_get]
  dsimp only
  cases found : w.loop.timers.find? t with
  | none => exact poised
  | some timer =>
    have performs : Holds (Keeps (StaysPoised i)) (Loop.perform env timer.job) := inferInstance
    dsimp only
    cases timer.period with
    | some period =>
      have beats : Holds (Keeps (σ := σ) (StaysPoised i)) (mark (.beats w.history.length)) :=
        ⟨fun _ => aside rfl rfl rfl⟩
      have beaten := Loop.beat_holds beats performs
      have again : Holds (Keeps (StaysPoised i)) (do
          let deadline ← Loop.beat env timer.job w.history.length period w.loop.clock timer.deadline
            (w.loop.clock + 1 - timer.deadline)
          modify fun w => { w with loop := w.loop.restart t deadline }) := inferInstance
      exact again.holds w poised
    | none =>
      dsimp only
      rw [run_bind, DroneControl.cancelTimer, run_modify]
      by_cases own : timer.job = .retry i
      · -- The timer has gone, and only what it was for makes up for it.
        have canceled : ({ w with loop := w.loop.cancel t } : World σ).Owned :=
          poised.toOwned.of_loop rfl rfl (.cancel t)
        rw [own]
        change (((ifKept env (.interface i) () (Interface.retry env i)).run _).2).Poised i
        rw [run_ifKept]
        split
        · have released : Holds (Keeps (StaysPoised i)) (release env (.interface i)) := inferInstance
          rw [run_keeping]
          refine released.holds _ (retry env ?_)
          exact canceled.row fun _ _ => rfl
        · next gone =>
          refine ⟨canceled, fun x t' there => ?_⟩
          exact absurd (by simp [World.isKept, World.item?, show w.interfaces.find? i = some x from there]) gone
      · refine performs.holds _ (cancel (fun timer' found' retries => ?_) poised)
        cases found.symm.trans found'
        exact own retries

end StaysPoised

/-! ## Runs -/

theorem StaysPoised.together (_ : Upheld (Keeps (StaysPoised i)) env) :
    Together (Keeps (StaysPoised i)) env := by
  have : EntryCalls (Keeps (StaysPoised i)) env := Entry.calls_of_overlooks
  have : ConnectionCalls (Keeps (StaysPoised i)) env := Connection.calls_of_tells
  have : GivesUp (Keeps (StaysPoised i)) env := ⟨fun _ => Connection.giveUp_overlooked⟩
  have : InterfaceCalls (Keeps (StaysPoised i)) env := Interface.calls_of_steps
  have : InterfaceRetries (Keeps (StaysPoised i)) env := Interface.retries_of_steps
  have : RegistryCalls (Keeps (StaysPoised i)) env := Registry.calls_of_overlooks
  have : LoopCalls (Keeps (StaysPoised i)) env := Loop.calls_of_turns
  exact {}

theorem World.poised_empty (host : σ) (verbosity : Option Severity) (i : InterfaceId) :
    ({ host, verbosity } : World σ).Poised i where
  retries j x t there := by cases (World.find?_empty j).symm.trans there
  ticks k x t there := by cases (World.find?_empty k).symm.trans there
  absent k := ⟨Nat.one_pos, fun timer found => by cases (World.find?_empty _).symm.trans found⟩
  pending x t there := by cases (World.find?_empty i).symm.trans there

theorem Reached.poised (reached : Reached w) (i : InterfaceId) : w.Poised i := by
  obtain ⟨host, verbosity, stays⟩ : ∃ host verbosity, StaysPoised i ({ host, verbosity } : World σ) w :=
    reached.related fun _ u _ => StaysPoised.together u
  exact stays (World.poised_empty host verbosity i)

end DroneControl
