import DroneControl.Proofs.Device.Registering
import DroneControl.Proofs.Device.Severing
import DroneControl.Proofs.Interface.Aftermath

/-!
# The order of what the listener of a device is told

In an empty world nobody reports to a device.  Everything that can be asked of the library abides by its
slot, and so along every run its listener hears one attempt after another, and between calls its entry
agrees with its connection.
-/

namespace DroneControl

open Picture

variable {σ : Type} {w : World σ} {r : RegistryId} {h : DeviceHandle}

/-! ## Empty worlds -/

namespace World

variable (host : σ) (verbosity : Option Severity)

theorem lawful_empty : ({ host, verbosity } : World σ).Lawful := by
  intro c
  left
  simp only [OnCourse, find?_empty]
  refine ⟨?_, rfl⟩
  rintro ⟨t, ht⟩
  simp [chronicle] at ht

theorem entry_empty : ({ host, verbosity } : World σ).picture.entry r h = none := by
  simp [picture, registry, Table.get, find?_empty, default, Registry.device?]

theorem orderly_empty : ({ host, verbosity } : World σ).picture.Orderly where
  unknown c _ := by simp [picture, milestones, DroneControl.milestones, chronicle, GivenUp, Occurred]
  asked c sink asked := by simp [picture, Occurred, chronicle] at asked
  registered c r h hc := by simp [picture, find?_empty] at hc
  first := Nat.one_pos
  counted r serving := by simp [picture, find?_empty] at serving
  served r h d hd := by simp [entry_empty] at hd
  own r h d c hd := by simp [entry_empty] at hd
  observed r h d k hd := by simp [entry_empty] at hd
  seated k r h hk := by simp [picture, find?_empty] at hk
  faithful k r h r' h' appointed := by simp [picture, Occurred, chronicle] at appointed
  numbered k r h appointed := by simp [picture, Occurred, chronicle] at appointed
  unheard k _ := by simp [picture, DroneControl.notices, chronicle, Occurred, Prompt]
  unparted _ _ _ := rfl

theorem steady_empty : ({ host, verbosity } : World σ).picture.Steady r h := by
  have unknown : ({ host, verbosity } : World σ).picture.entry r h = none := entry_empty _ _
  refine (Taken.of_unknown unknown).steady (.of_not_serving ?_ unknown fun k appointed => ?_)
  · simp [picture, find?_empty]
  · simp [picture, Occurred, chronicle] at appointed

end World

theorem Reached.orderly (reached : Reached w) : w.picture.Orderly := by
  obtain ⟨host, verbosity, abides⟩ :=
    reached.related (R := Abides default default) fun _ u quiet => Abides.together u quiet
  exact (abides.follows (World.lawful_empty host verbosity) (World.orderly_empty _ _)).orderly

theorem Reached.steady (reached : Reached w) (calm : ¬Disturbed r h w.chronicle) :
    w.picture.Orderly ∧ w.picture.Steady r h ∧ (∀ c, ¬w.picture.Asking c) ∧
      ¬w.picture.Leaving r h := by
  obtain ⟨host, verbosity, abides⟩ :=
    reached.related (R := Abides r h) fun _ u quiet => Abides.together u quiet
  have follows := abides.follows (World.lawful_empty host verbosity) (World.orderly_empty _ _)
  refine ⟨follows.orderly, follows.steady calm (World.steady_empty _ _), fun c asking => ?_,
    fun leaving => ?_⟩
  · obtain ⟨⟨sink, asked⟩, -⟩ := (follows.asking c).mp asking
    simp [World.picture, Occurred, World.chronicle] at asked
  · obtain ⟨d, hd, -⟩ := follows.leaving leaving
    simp [World.entry_empty] at hd

/-! ## Attempts -/

/-- Along every run the listener of a controller hears of its device what makes up one attempt after
another, each of one connection, and hears of no connection before there is an open command interface,
as long as no host removes the device while it is asked to open a connection for it. -/
theorem Reached.hears_attempts (reached : Reached w) {k : ControllerId}
    (appointed : Occurred (.appointed k r h) w.chronicle) (calm : ¬Disturbed r h w.chronicle) :
    (∃ attempts : List Attempt,
      ∀ past, past <+: w.chronicle → notices k past <+: attempts.flatMap Attempt.notices) ∧
      ∀ c api ready, Occurred (.noticed k c (.connected api) ready) w.chronicle →
        ready = true := by
  obtain ⟨-, steady, -⟩ := reached.steady calm
  obtain ⟨reads, ready, -⟩ := steady.slot.sound k appointed
  obtain ⟨attempts, begun⟩ := prefix_attempts reads
  exact ⟨⟨attempts, fun past earlier => (earlier.filterMap _).trans begun⟩, ready⟩

def visit : Act Unit (Except Fault Unit) := do
  let r ← Registry.create {} ⟨1⟩ none
  let _ ← (Backend.createNet silentHost r ⟨1⟩ 0 none).run
  let _ ← (Registry.addDevice silentHost r default ⟨1⟩).run
  let _ ← (Controller.create r ⟨1⟩ ⟨2⟩ none).run
  let _ ← (Controller.connect silentHost ⟨1⟩).run
  (Connection.connected silentHost ⟨1⟩ (.supplied ⟨1⟩) .full).run

theorem visit_reaction : Reaction silentHost _ visit := by
  refine .bind (.basic (.inr (.createRegistry _ _ _))) fun r => ?_
  refine .bind (.basic (.inr (.createNet _ _ _ _))) fun _ => ?_
  refine .bind (.basic (.inr (.addDevice _ _ _))) fun _ => ?_
  refine .bind (.basic (.inr (.createController _ _ _ _))) fun _ => ?_
  refine .bind (.basic (.inr (.connect _))) fun _ => ?_
  exact .basic (.inr (.connected _ _ _))

theorem visit_reached : Reached (visit.run { host := () }).2 :=
  ⟨silentHost, (), none, _, visit, silentHost_hosted, visit_reaction, rfl⟩

def Occurrence.isLoss : Occurrence → Bool
  | .removed _ _ | .discarded _ => true
  | _ => false

theorem calm_of_lossless {past : List Happening} (lossless : past.all (!·.what.isLoss)) :
    ¬Disturbed r h past := by
  rintro ⟨before, t, after, rfl, -⟩
  simp [Occurrence.isLoss] at lossless

theorem visit_lossless : (visit.run { host := () }).2.chronicle.all (!·.what.isLoss) := rfl

theorem visit_calm : ¬Disturbed ⟨1⟩ ⟨1⟩ (visit.run { host := () }).2.chronicle :=
  calm_of_lossless visit_lossless

theorem visit_hears_attempts :
    Occurred (.appointed ⟨1⟩ ⟨1⟩ ⟨1⟩) (visit.run { host := () }).2.chronicle ∧
    ¬Disturbed ⟨1⟩ ⟨1⟩ (visit.run { host := () }).2.chronicle ∧
    (∃ attempts : List Attempt, ∀ past, past <+: (visit.run { host := () }).2.chronicle →
      notices ⟨1⟩ past <+: attempts.flatMap Attempt.notices) ∧
    ∀ c api ready,
      Occurred (.noticed ⟨1⟩ c (.connected api) ready) (visit.run { host := () }).2.chronicle →
        ready = true :=
  have appointed : Occurred (.appointed ⟨1⟩ ⟨1⟩ ⟨1⟩) (visit.run { host := () }).2.chronicle :=
    ⟨0, .tail _ (.tail _ (.head _))⟩
  ⟨appointed, visit_calm, visit_reached.hears_attempts appointed visit_calm⟩

/-! ## Entries -/

/-- What the entry of a device says of its connection. -/
def Device.Agrees (d : Device) (w : World σ) : Prop :=
  match d.state with
  | .idle => d.connection = none ∧ d.pipe = none ∧ d.interface = none ∧ d.observer = none
  | .connecting => ∃ c, d.connection = some c ∧ (w.connection c).state.isPending ∧
      d.pipe = none ∧ d.interface = none
  | .connected => ∃ c, d.connection = some c ∧ (w.connection c).state.isEstablished ∧
      d.pipe.isSome ∧ (w.connection c).pipe = d.pipe
  | .removing => ∃ c, d.connection = some c ∧ (w.connection c).state ≠ .closed

/-- Between calls every entry agrees with its connection, and a command interface is there only with a
pipe, as long as no host removes the device while it is asked to open a connection for it, or fails to
open one that it has made tell something. -/
theorem Reached.entry_agrees (reached : Reached w) {d : Device}
    (hd : (w.registry r).device? h = some d) (calm : ¬Disturbed r h w.chronicle)
    (fair : ∀ c, w.GivenUp c → (w.connection c).sink = .entry r h →
      milestones c w.chronicle = []) :
    d.Agrees w ∧ (d.interface.isSome → d.pipe.isSome) := by
  obtain ⟨orderly, steady, unasked, staying⟩ := reached.steady calm
  have slot := steady.slot
  have mirrors := slot.mirrors d hd
  cases hc : d.connection with
  | none =>
      obtain ⟨pipe, interface, -⟩ := slot.free d hd hc
      refine ⟨?_, by simp [interface]⟩
      unfold Device.Agrees
      cases hs : d.state with
      | idle => exact ⟨hc, pipe, interface, mirrors.resting hs⟩
      | connecting =>
          obtain ⟨c, pending⟩ := steady.tended d hd hc hs
          exact absurd (steady.settled c d hd hc pending) (unasked c)
      | connected =>
          obtain ⟨c, owned, -⟩ := mirrors.connected hs
          simp [hc] at owned
      | removing => exact absurd ⟨d, hd, hs, hc⟩ staying
  | some c =>
      obtain ⟨busy, underway, -, piped, equipped⟩ := slot.held d c hd hc
      have sink := orderly.own r h d c hd hc
      simp only [World.picture, Option.map_eq_some_iff] at sink
      obtain ⟨x, hx, reports⟩ := sink
      have found : w.connection c = x := World.connection_of_find? hx
      have onCourse := reached.onCourse c
      have spared : ¬w.GivenUp c := by
        intro given
        have silent := fair c given (by rw [found, reports])
        exact (mirrors.early c hc silent).2 given
      -- More may be told of the entry's connection, and it was not given up.
      have live : x.state ≠ .closed := by
        rw [← found]
        exact (onCourse.ongoing_iff (by simp [hx])).mp ⟨underway, spared⟩
      simp only [World.OnCourse, hx] at onCourse
      obtain ⟨fits, pipe⟩ := onCourse
      refine ⟨?_, equipped⟩
      unfold Device.Agrees
      cases hs : d.state with
      | idle => exact absurd hs busy
      | connecting =>
          have short := mirrors.connecting c hc hs
          have bare : d.pipe = none :=
            Option.not_isSome_iff_eq_none.mp fun some => short (piped some)
          have pending : x.state.isPending := by
            rcases ConnectionState.isPending_or_isEstablished live with pending | established
            · exact pending
            · exact absurd (fits.told_of_established established) short
          refine ⟨c, hc, found ▸ pending, bare, Option.not_isSome_iff_eq_none.mp fun some => ?_⟩
          simpa [bare] using equipped some
      | connected =>
          obtain ⟨c', owned, told⟩ := mirrors.connected hs
          obtain rfl : c = c' := by simpa [hc] using owned
          have established := fits.isEstablished_of_told live told
          obtain ⟨some, same⟩ := mirrors.pipe c hc told
          refine ⟨c, hc, found ▸ established, some, ?_⟩
          rw [found, pipe, if_pos established, same]
          rfl
      | removing => exact ⟨c, hc, found ▸ live⟩

theorem visit_entry_agrees :
    ∃ d, ((visit.run { host := () }).2.registry ⟨1⟩).device? ⟨1⟩ = some d ∧
      d.state = .connected ∧ d.Agrees (visit.run { host := () }).2 ∧
      (d.interface.isSome → d.pipe.isSome) := by
  refine ⟨_, rfl, rfl, visit_reached.entry_agrees rfl visit_calm ?_⟩
  rintro c ⟨t, given⟩
  exact absurd (List.all_eq_true.mp visit_lossless _ given) nofun

/-- Between calls a connection that is not closed is the one that is recorded for the device it reports
to, as long as nobody removes the device while a host is asked to open a connection for it. -/
theorem Reached.recorded (reached : Reached w) (calm : ¬Disturbed r h w.chronicle) {x : Registry}
    (hx : w.registries.find? r = some x) (serving : x.closed = false) {c : ConnectionId}
    {y : Connection} (hy : w.connections.find? c = some y) (sink : y.sink = .entry r h)
    (live : y.state ≠ .closed) : ∃ d, x.device? h = some d ∧ d.connection = some c := by
  obtain ⟨-, steady, unasked, -⟩ := reached.steady calm
  have named : w.connection c = y := World.connection_of_find? hy
  have table : w.registry r = x := World.registry_of_find? hx
  have pending : w.picture.Pending r h c := by
    refine ⟨by simp [World.picture, hy, sink], ?_⟩
    exact ((reached.onCourse c).ongoing_iff (by simp [hy])).mpr (by rwa [named])
  rw [← table]
  cases hd : (w.registry r).device? h with
  | none => exact absurd pending (steady.slot.vacant ⟨x, hx, serving⟩ hd c)
  | some d =>
      cases hc : d.connection with
      | none => exact absurd (steady.settled c d hd hc pending) (unasked c)
      | some own =>
          obtain ⟨-, -, only, -⟩ := steady.slot.held d own hd hc
          exact ⟨d, rfl, (only c pending).symm ▸ hc⟩

theorem visit_recorded :
    ∃ x y, (visit.run { host := () }).2.registries.find? ⟨1⟩ = some x ∧
      (visit.run { host := () }).2.connections.find? ⟨1⟩ = some y ∧ x.closed = false ∧
      y.sink = .entry ⟨1⟩ ⟨1⟩ ∧ y.state ≠ .closed ∧
      ∃ d, x.device? ⟨1⟩ = some d ∧ d.connection = some ⟨1⟩ :=
  ⟨_, _, rfl, rfl, rfl, rfl, by decide +kernel, visit_reached.recorded visit_calm rfl rfl rfl rfl
    (by decide +kernel)⟩

/-! ## Between attempts -/

theorem connected_of_entitled (orderly : w.picture.Orderly) {k : ControllerId}
    (appointed : Occurred (.appointed k r h) w.chronicle)
    (sole : ∀ k', Occurred (.appointed k' r h) w.chronicle → k' = k) {past : List Happening}
    (le : past ⊆ w.chronicle) {told : List Notice}
    (entitled : Entitled (fun k r h => Occurred (.appointed k r h) past) told k) :
    ∃ c, told.getLast? = some (c, .connected) := by
  rcases entitled with ⟨k', r', h', other, ⟨t, own⟩, ⟨t', another⟩⟩ | connected
  · obtain ⟨rfl, rfl⟩ := orderly.faithful k r h r' h' appointed ⟨t, le own⟩
    exact absurd (sole k' ⟨t', le another⟩) other
  · exact connected

theorem Controller.send_commands {env : Env σ} (hosted : Hosted env) (k : ControllerId)
    (command : Command) (w : World σ) :
    (∃ f, (send env k command).run.run w = (.error f, w)) ∨
      ⟨w.loop.clock, .commanded k⟩ :: w.history <:+ ((send env k command).run.run w).2.history := by
  have recalls := hosted.recalls
  unfold send
  rw [run_lookThen, run_tryThen]
  unfold Registry.interfaceOf
  rw [run_deviceThen]
  cases (w.registry (w.controller k).registry).device? (w.controller k).device with
  | none => exact .inl ⟨_, rfl⟩
  | some d =>
    dsimp only
    cases d.interface with
    | none => exact .inl ⟨_, rfl⟩
    | some i =>
      have sends : Holds (Keeps Recalls) (keepingTry env (.interface i) (Interface.send env i command)).run :=
        inferInstance
      exact .inr (sends.holds (w.mark (.commanded k)))

/-- The listener of the only controller of a device has not been told last that the device is connected:
then the controller sends nothing, from whatever call it is asked to.  And before the listener is told that
the connection is over, the entry has taken notice; the command interface that was open then, and any that
had closed before, takes no command afterwards, offers no frame and gets none.  It is left out that somebody
removes the device while a host is asked to open a connection for it. -/
theorem Reached.refuses_between_attempts (reached : Reached w) (calm : ¬Disturbed r h w.chronicle)
    {k : ControllerId} (appointed : Occurred (.appointed k r h) w.chronicle)
    (sole : ∀ k', Occurred (.appointed k' r h) w.chronicle → k' = k) {env : Env σ} (hosted : Hosted env)
    (command : Command) :
    (∀ u : World σ, ((Controller.send env k command).run.run u).2.chronicle <+: w.chronicle →
      (∀ c, (notices k u.chronicle).getLast? ≠ some (c, .connected)) →
        ∃ f, (Controller.send env k command).run.run u = (.error f, u)) ∧
    (∀ y d, w.controllers.find? k = some y → (w.registry r).device? h = some d →
      (∀ c, (notices k w.chronicle).getLast? ≠ some (c, .connected)) →
        (Controller.send env k command).run.run w = (.error (.noCommandInterface h), w)) ∧
    ∀ before t c event ready after,
      w.chronicle = before ++ ⟨t, .noticed k c event ready⟩ :: after → event.end?.isSome →
        ∃ r' h' ended i, Occurred (.heeded r' h' c ended (some k) i) before ∧ ended.ends ∧
          ∀ i', i = some i' ∨ Occurred (.closed i') before → ∀ y ∈ after, ¬y.what.needsOpen i' := by
  obtain ⟨orderly, steady, -⟩ := reached.steady calm
  have slot := steady.slot
  obtain ⟨-, -, prompt⟩ := slot.sound k appointed
  refine ⟨fun u earlier apart => ?_, fun y d seated hd apart => ?_,
    fun before t c event ready after split ends => ?_⟩
  · rcases Controller.send_commands hosted k command u with refused | ⟨more, grown⟩
    · exact refused
    · have begun : u.chronicle ++ [⟨u.loop.clock, .commanded k⟩] <+: w.chronicle := by
        refine .trans ⟨more.reverse, ?_⟩ earlier
        simp [World.chronicle, ← grown]
      obtain ⟨rest, all⟩ := begun
      rw [List.append_assoc, List.singleton_append] at all
      obtain ⟨c, last⟩ := connected_of_entitled orderly appointed sole
        (fun y among => all ▸ List.mem_append_left _ among) (prompt u.chronicle _ rest all.symm)
      exact absurd last (apart c)
  · have device : w.picture.device k = some (y.registry, y.device) := by simp [World.picture, seated]
    obtain ⟨rfl, rfl⟩ := orderly.faithful k _ _ _ _ appointed (orderly.seated k _ _ device)
    have bare : d.interface = none := by
      refine Option.not_isSome_iff_eq_none.mp fun equipped => ?_
      obtain ⟨c, last⟩ := connected_of_entitled orderly appointed sole (List.Subset.refl _)
        (slot.entitled orderly hd equipped appointed (by simp [device]))
      exact apart c last
    unfold Controller.send
    rw [run_lookThen, World.controller_of_find? seated, run_tryThen]
    unfold Registry.interfaceOf
    rw [run_deviceThen, hd]
    dsimp only
    rw [bare]
    rfl
  · obtain ⟨r', h', ended, i, heeded, last, closes⟩ := reached.severs split ends
    refine ⟨r', h', ended, i, heeded, last, fun i' which y among => ?_⟩
    obtain ⟨t', closed⟩ : Occurred (.closed i') before := which.elim (closes i') id
    obtain ⟨first, second, rfl⟩ := List.append_of_mem closed
    rw [List.append_assoc, List.cons_append] at split
    obtain ⟨-, subsides⟩ := reached.subsides i'
    exact (subsides first t' _ split).rests y (by simp [among])

def briefVisit : Act Unit (Except Fault Unit) := do
  let _ ← visit
  let _ ← (Pipe.stop silentHost ⟨1⟩).run
  (Connection.disconnected silentHost ⟨1⟩).run

theorem briefVisit_reached : Reached (briefVisit.run { host := () }).2 := by
  refine ⟨silentHost, (), none, _, briefVisit, silentHost_hosted, ?_, rfl⟩
  refine .bind visit_reaction fun _ => .bind (.basic (.inr (.stopPipe _))) fun _ => ?_
  exact .basic (.inr (.disconnected _))

theorem briefVisit_calm : ¬Disturbed ⟨1⟩ ⟨1⟩ (briefVisit.run { host := () }).2.chronicle :=
  calm_of_lossless (by decide +kernel)

theorem briefVisit_refuses_between_attempts :
    let w := (briefVisit.run { host := () }).2
    (∀ command, (Controller.send silentHost ⟨1⟩ command).run.run w =
      (.error (.noCommandInterface ⟨1⟩), w)) ∧
    w.chronicle = w.chronicle.take 15 ++
      ⟨0, .noticed ⟨1⟩ ⟨1⟩ (.disconnected false) false⟩ :: w.chronicle.drop 16 ∧
    Occurred (.closed ⟨1⟩) (w.chronicle.take 15) ∧
    ∀ y ∈ w.chronicle.drop 16, ¬y.what.needsOpen ⟨1⟩ := by
  intro w
  have reached : Reached w := briefVisit_reached
  have calm : ¬Disturbed ⟨1⟩ ⟨1⟩ w.chronicle := briefVisit_calm
  have appointed : Occurred (.appointed ⟨1⟩ ⟨1⟩ ⟨1⟩) w.chronicle := ⟨0, by decide +kernel⟩
  have all : w.chronicle.all (fun y => match y.what with
      | .appointed k _ _ => decide (k = ⟨1⟩)
      | _ => true) := by decide +kernel
  have last : (notices ⟨1⟩ w.chronicle).getLast? = some (⟨1⟩, .disconnected) := by decide +kernel
  have split : w.chronicle = w.chronicle.take 15 ++
      ⟨0, .noticed ⟨1⟩ ⟨1⟩ (.disconnected false) false⟩ :: w.chronicle.drop 16 := by decide +kernel
  have closed : Occurred (.closed ⟨1⟩) (w.chronicle.take 15) := ⟨0, by decide +kernel⟩
  have seated : (w.controllers.find? ⟨1⟩).isSome := by decide +kernel
  have there : ((w.registry ⟨1⟩).device? ⟨1⟩).isSome := by decide +kernel
  -- The world is known by what was computed of it, and need not be opened again.
  clear_value w
  have sole : ∀ k, Occurred (.appointed k ⟨1⟩ ⟨1⟩) w.chronicle → k = ⟨1⟩ := by
    rintro k ⟨t, among⟩
    simpa using List.all_eq_true.mp all _ among
  have refuses (command : Command) := reached.refuses_between_attempts calm appointed sole
    silentHost_hosted command
  obtain ⟨y, hy⟩ := Option.isSome_iff_exists.mp seated
  obtain ⟨d, hd⟩ := Option.isSome_iff_exists.mp there
  refine ⟨fun command => (refuses command).2.1 y d hy hd (by simp [last]), split, closed, ?_⟩
  obtain ⟨_, _, _, _, -, -, rests⟩ := (refuses default).2.2 _ _ _ _ _ _ split rfl
  exact rests ⟨1⟩ (.inr closed)

end DroneControl
