import DroneControl.Proofs.Connection.Resting
import DroneControl.Proofs.Device.Failing

/-!
# The removal of a device that has a connection

The call that removes such a device only asks for the end of its connection.  The device stays in the
table meanwhile, and is neither connected nor removed again.  It goes when it is told the end, after
whoever observes it has heard of that.  If a backend has given the connection up, the device is never
told, and waits for good.
-/

set_option synthInstance.maxSize 2048

namespace DroneControl

open Picture

variable {σ : Type} {r : RegistryId} {h : DeviceHandle} {c : ConnectionId} {o : Option ControllerId}
  {w w' : World σ} {env : Env σ}

namespace Registry

theorem removeDevice_begins (hosted : Hosted env) {d : Device}
    (hd : (w.registry r).device? h = some d) (owned : d.connection = some c)
    (live : (w.connection c).state ≠ .closed) (staying : d.state ≠ .removing)
    (registered : d.backend ∈ (w.registry r).backends) :
    ∃ w' after, (removeDevice env r h).run.run w = (.ok (), w') ∧
      w'.chronicle = w.chronicle ++ ⟨w.loop.clock, .leaving r h c d.observer⟩ :: after := by
  obtain ⟨y, hy, -⟩ := Connection.found_of_live live
  have known : (w.connections.find? c).isSome := Option.isSome_of_eq_some hy
  have rests := hosted.leavesAtRest c
  have goesOn := hosted.together (Q := Keeps (GoesOn c)) fun _ u quiet => GoesOn.together u quiet
  have persists : Holds (Keeps (Rests c))
      (keeping env (.backend d.backend) (Backend.stop env d.backend h c).run) := inferInstance
  rw [run_removeDevice known hd owned staying registered]
  generalize hbegun : World.log _ _ _ _ = begun
  have still : (begun.connections.find? c).isSome := by
    rw [← hbegun, World.log_connections]
    exact known
  have marked : begun.chronicle = w.chronicle ++ [⟨w.loop.clock, .leaving r h c d.observer⟩] := by
    rw [← hbegun, World.chronicle, World.log_history]
    exact World.chronicle_mark _ _
  obtain ⟨after, grown⟩ := World.chronicle_of_suffix ((persists.holds begun).grown still)
  refine ⟨_, after, rfl, ?_⟩
  rw [grown, marked, List.append_assoc]
  rfl

theorem connectDevice_busy (env : Env σ) {d : Device} (hd : (w.registry r).device? h = some d)
    (removing : d.state = .removing) (k : ControllerId) :
    (connectDevice env r h k).run.run w =
      (.error (.busy ("device " ++ h.label ++ " is " ++ DeviceState.removing.name)), w) := by
  unfold connectDevice
  rw [run_deviceThen, hd]
  dsimp only
  rw [removing, if_pos (by simp)]
  rfl

theorem removeDevice_again (env : Env σ) {d : Device} (hd : (w.registry r).device? h = some d)
    (removing : d.state = .removing) :
    (removeDevice env r h).run.run w =
      (.ok (), w.log .debug "Device removal already in progress" [("device", h.label)]) := by
  unfold removeDevice
  rw [run_deviceThen, hd]
  dsimp only
  rw [if_pos removing]
  rfl

end Registry

/-- The device is in the table, and waits for the end of the connection that it was removed with.  That
has not closed, unless its backend has given it up.  Nobody connects or removes the device meanwhile. -/
structure World.Awaits (w : World σ) (r : RegistryId) (h : DeviceHandle) (c : ConnectionId)
    (o : Option ControllerId) : Prop where
  entry : ∃ d, (w.registry r).device? h = some d ∧ d.state = .removing ∧ d.connection = some c ∧
    d.observer = o
  closed : (w.connection c).state = .closed → w.GivenUp c
  busy : ∀ env k, (Registry.connectDevice env r h k).run.run w =
    (.error (.busy ("device " ++ h.label ++ " is " ++ DeviceState.removing.name)), w)
  again : ∀ env, (Registry.removeDevice env r h).run.run w =
    (.ok (), w.log .debug "Device removal already in progress" [("device", h.label)])

def World.Informed (w : World σ) (o : Option ControllerId) (heard : List Farewell) : Prop :=
  (∃ k, o = some k ∧ heard = [.passed k true]) ∨
    heard = [] ∧ ∀ k, o = some k → w.controllers.find? k = none

/-- The connection that a device was removed with has closed, whoever observed the device was informed,
and then the device went and was reported as gone, and not again before another one came. -/
def World.HasLeft (w : World σ) (o : Option ControllerId) (seen : List Farewell) : Prop :=
  ∃ heard later, seen = .ended :: heard ++ [.removed, .announced] ++ later ∧ w.Informed o heard ∧
    (later = [] ∨ Another later)

theorem World.Awaits.of_entry (onCourse : w.OnCourse c) (orderly : w.picture.Orderly)
    (slot : w.picture.Slot r h) {d : Device} (hd : w.picture.entry r h = some d)
    (removing : d.state = .removing) (owned : d.connection = some c) :
    w.Awaits r h c d.observer where
  entry := ⟨d, hd, removing, owned, rfl⟩
  closed shut := by
    have sink := orderly.own r h d c hd owned
    simp only [World.picture, Option.map_eq_some_iff] at sink
    obtain ⟨y, hy, -⟩ := sink
    rw [World.connection_of_find? hy] at shut
    exact (World.givenUp_of_held onCourse ⟨y, hy, shut⟩ slot hd owned).1
  busy env := Registry.connectDevice_busy env hd removing
  again env := Registry.removeDevice_again env hd removing

theorem Reached.awaits_or_has_left (reached : Reached w) (calm : ¬Disturbed r h w.chronicle)
    (serving : w.picture.serving r) {before after : List Happening} {t : Nat}
    (left : w.chronicle = before ++ ⟨t, .leaving r h c o⟩ :: after) :
    farewells r h c after = [] ∧ w.Awaits r h c o ∨ w.HasLeft o (farewells r h c after) := by
  obtain ⟨orderly, steady, -, staying⟩ := reached.steady calm
  obtain ⟨x, parts⟩ := steady.slot.parting serving
  have reads : DroneControl.parting r h w.chronicle = some x := parts.reads
  have seen : x.Seen c o (farewells r h c after) := seen_of_leaving (left ▸ reads)
  have shown := parts.shows
  -- Nobody is called back now, so the device is not between the end of its connection and its own.
  generalize farewells r h c after = l at seen ⊢
  cases seen with
  | closing stage =>
      rw [stage] at shown
      generalize hd : w.picture.entry r h = d? at shown
      cases shown with
      | closing removing owned =>
          exact .inl ⟨rfl, .of_entry (reached.onCourse c) orderly steady.slot hd removing owned⟩
  | ended stage =>
      rw [stage] at shown
      generalize hd : w.picture.entry r h = d? at shown
      cases shown with
      | ended removing alone => exact absurd ⟨_, hd, removing, alone⟩ staying
  | heard stage =>
      rw [stage] at shown
      generalize hd : w.picture.entry r h = d? at shown
      cases shown with
      | heard removing alone => exact absurd ⟨_, hd, removing, alone⟩ staying
  | off stage =>
      rw [stage] at shown
      cases shown
  | @done heard later told _ another =>
      refine .inr ⟨heard, later, rfl, told.imp_right fun ⟨silent, gone⟩ => ⟨silent, fun k hk => ?_⟩,
        another.imp_left And.left⟩
      have absent := (parts.missed k (gone k hk)).1
      simpa [World.picture] using absent

/-- A device whose connection has not closed is removed without a fault whenever that is asked for, and is
on its way out from then on: it stays in the table, and is neither connected nor removed again, as long as
its connection has not closed.  When that has closed, whoever observed the device hears of the end once,
and hears that the device is being removed; after that the device is gone, and reported as gone once.  A
connection that its backend has given up is closed without the device being told, and the device waits
for good. -/
theorem Reached.removal_takes_its_course (reached : Reached w) (calm : ¬Disturbed r h w.chronicle)
    {x : Registry} (hx : w.registries.find? r = some x) (serving : x.closed = false) :
    (∀ (v : World σ) env d c, Hosted env → (v.registry r).device? h = some d →
      d.connection = some c → (v.connection c).state ≠ .closed →
      d.backend ∈ (v.registry r).backends →
      ∃ v', (Registry.removeDevice env r h).run.run v = (.ok (), v') ∧
        (d.state = .removing ∧
            v' = v.log .debug "Device removal already in progress" [("device", h.label)] ∨
          ∃ after, v'.chronicle =
            v.chronicle ++ ⟨v.loop.clock, .leaving r h c d.observer⟩ :: after)) ∧
    ∀ before t c o after, w.chronicle = before ++ ⟨t, .leaving r h c o⟩ :: after →
      farewells r h c after = [] ∧ w.Awaits r h c o ∨ w.HasLeft o (farewells r h c after) := by
  refine ⟨fun v env d c hosted hd owned live registered => ?_, fun before t c o after left => ?_⟩
  · by_cases removing : d.state = .removing
    · exact ⟨_, Registry.removeDevice_again env hd removing, .inl ⟨removing, rfl⟩⟩
    · obtain ⟨v', after, runs, grown⟩ :=
        Registry.removeDevice_begins hosted hd owned live removing registered
      exact ⟨v', runs, .inr ⟨after, grown⟩⟩
  · exact reached.awaits_or_has_left calm ⟨x, hx, serving⟩ left

def leavetaking : Act Unit (Except Fault Unit) := do
  let _ ← visit
  (Registry.removeDevice silentHost ⟨1⟩ ⟨1⟩).run

theorem leavetaking_reached : Reached (leavetaking.run { host := () }).2 :=
  ⟨silentHost, (), none, _, leavetaking, silentHost_hosted,
    .bind visit_reaction fun _ => .basic (.inr (.removeDevice _ _)), rfl⟩

theorem calm_of_answered {early late : List Happening}
    (staying : ∀ x ∈ early, x.what ≠ .removed r h)
    (answered : ∀ c sink, Occurred (.opening c sink) (early ++ late) → Occurred (.opened c) early) :
    ¬Disturbed r h (early ++ late) := by
  rintro ⟨before, t, after, same, c, asked, unanswered⟩
  obtain ⟨t', opened⟩ := answered c _ <| by
    obtain ⟨t', among⟩ := asked
    exact ⟨t', same ▸ List.mem_append_left _ among⟩
  rcases List.append_eq_append_iff.mp same with ⟨more, rfl, -⟩ | ⟨more, rfl, rest⟩
  · exact unanswered ⟨t', List.mem_append_left _ opened⟩
  · cases more with
    | nil => exact unanswered ⟨t', by simpa using opened⟩
    | cons x more =>
        obtain ⟨rfl, -⟩ := List.cons.inj rest
        exact staying ⟨t, .removed r h⟩ (by simp) rfl

theorem leavetaking_calm : ¬Disturbed ⟨1⟩ ⟨1⟩ (leavetaking.run { host := () }).2.chronicle := by
  rw [← List.take_append_drop 9 (leavetaking.run { host := () }).2.chronicle]
  have asked : ((leavetaking.run { host := () }).2.chronicle.take 9 ++
      (leavetaking.run { host := () }).2.chronicle.drop 9).all (fun x =>
        match x.what with | .opening c _ => c = ⟨1⟩ | _ => true) := by decide +kernel
  refine calm_of_answered (by decide +kernel) fun c sink ⟨t, opening⟩ => ⟨0, ?_⟩
  obtain rfl : c = ⟨1⟩ := by simpa using List.all_eq_true.mp asked _ opening
  decide +kernel

theorem leavetaking_takes_its_course :
    ((Registry.removeDevice silentHost ⟨1⟩ ⟨1⟩).run.run (visit.run { host := () }).2).1 = .ok () ∧
    ∃ before after, (leavetaking.run { host := () }).2.chronicle =
        before ++ ⟨0, .leaving ⟨1⟩ ⟨1⟩ ⟨1⟩ (some ⟨1⟩)⟩ :: after ∧
      (leavetaking.run { host := () }).2.HasLeft (some ⟨1⟩) (farewells ⟨1⟩ ⟨1⟩ ⟨1⟩ after) := by
  have calm := leavetaking_calm
  have reached := leavetaking_reached
  generalize run : (leavetaking.run { host := () }).2 = w at calm reached ⊢
  have row : (w.registries.find? ⟨1⟩).map (·.closed) = some false := by rw [← run]; decide +kernel
  obtain ⟨x, hx, serving⟩ := Option.map_eq_some_iff.mp row
  obtain ⟨begins, course⟩ := reached.removal_takes_its_course calm hx serving
  constructor
  · generalize seen : (visit.run { host := () }).2 = v
    have entry : ((v.registry ⟨1⟩).device? ⟨1⟩).map (fun d => (d.connection, d.backend)) =
        some (some ⟨1⟩, ⟨1⟩) := by rw [← seen]; decide +kernel
    obtain ⟨d, hd, fields⟩ := Option.map_eq_some_iff.mp entry
    obtain ⟨owned, backend⟩ := Prod.mk.inj fields
    have live : (v.connection ⟨1⟩).state ≠ .closed := by rw [← seen]; decide +kernel
    have registered : d.backend ∈ (v.registry ⟨1⟩).backends := by
      rw [backend, ← seen]
      decide +kernel
    obtain ⟨v', runs, -⟩ := begins v silentHost d ⟨1⟩ silentHost_hosted hd owned live registered
    rw [runs]
  · have among : ⟨0, .leaving ⟨1⟩ ⟨1⟩ ⟨1⟩ (some ⟨1⟩)⟩ ∈ w.chronicle := by rw [← run]; decide +kernel
    have gone : (w.registry ⟨1⟩).device? ⟨1⟩ = none := by rw [← run]; decide +kernel
    obtain ⟨before, after, split⟩ := List.append_of_mem among
    refine ⟨before, after, split, ?_⟩
    rcases course before 0 ⟨1⟩ (some ⟨1⟩) after split with ⟨-, awaits⟩ | left
    · obtain ⟨d, hd, -⟩ := awaits.entry
      cases gone.symm.trans hd
    · exact left

end DroneControl
