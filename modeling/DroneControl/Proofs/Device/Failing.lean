import DroneControl.Proofs.Backend.Live
import DroneControl.Proofs.Connection.Timing
import DroneControl.Proofs.Device.Reconnecting

/-!
# What a failed attempt leaves of a device

When the start of a connection fails, the device is idle again as if nobody had tried, unless the
connection told its entry something before its backend gave it up.  Nobody tells the entry of that, and
so it holds on to a connection that is closed.
-/

set_option synthInstance.maxSize 2048

namespace DroneControl

open Picture

variable {σ : Type} {r : RegistryId} {h : DeviceHandle} {k : ControllerId} {w w' : World σ}
  {env : Env σ} {f : Fault}

def World.Relents (w w' : World σ) : Prop :=
  w'.connections = w.connections ∨ w'.HasClosed ⟨w.connections.next⟩

theorem World.HasClosed.congr {c : ConnectionId} (closed : w.HasClosed c)
    (same : w'.connections = w.connections) : w'.HasClosed c := by
  obtain ⟨y, hy, shut⟩ := closed
  exact ⟨y, same ▸ hy, shut⟩

theorem World.Relents.congr {w₀ w₀' : World σ} (relents : w.Relents w')
    (before : w.connections = w₀.connections) (after : w₀'.connections = w'.connections) :
    w₀.Relents w₀' := by
  rcases relents with same | closed
  · exact .inl (after.trans (same.trans before))
  · rw [before] at closed
    exact .inr (closed.congr after)

theorem run_release_kept (env : Env σ) (w : World σ) (b : BackendId)
    (same : w'.backends = (w.reshare (· + 1) (.backend b)).backends) :
    ((release env (.backend b)).run w').2.connections = w'.connections := by
  cases hx : w.backends.find? b with
  | none =>
      have gone : w'.item? (.backend b) = none := by
        simp [World.item?, same, World.reshare, World.updateBackend, Table.find?_update, hx]
      unfold release
      rw [run_bind, run_get, gone]
      rfl
  | some x =>
      have kept : w'.item? (.backend b) = some (.backend { x with sharers := x.sharers + 1 }) := by
        simp [World.item?, same, World.reshare, World.updateBackend, Table.find?_update, hx]
      rw [run_release kept (Nat.succ_ne_zero _)]
      rfl

namespace Registry

theorem settleStart_failing (r : RegistryId) (h : DeviceHandle) (f : Fault) (w : World σ) :
    ((settleStart r h (.error f)).run.run w).2.connections = w.connections ∧
      ((settleStart r h (.error f)).run.run w).2.backends = w.backends := by
  unfold settleStart
  rw [run_lookThen]
  cases (w.registry r).device? h with
  | none => exact ⟨rfl, rfl⟩
  | some d =>
      dsimp only
      rw [run_actThen, run_log]
      split
      · exact ⟨World.log_connections _ _ _ _, World.log_backends _ _ _ _⟩
      · exact ⟨World.log_connections _ _ _ _, World.log_backends _ _ _ _⟩

theorem connectDevice_fails (hosted : Hosted env)
    (fails : (connectDevice env r h k).run.run w = (.error f, w')) : w.Relents w' := by
  unfold connectDevice at fails
  rw [run_deviceThen] at fails
  cases hd : (w.registry r).device? h with
  | none =>
      rw [hd] at fails
      obtain ⟨-, rfl⟩ := Prod.mk.inj fails
      exact .inl rfl
  | some d =>
      rw [hd] at fails
      dsimp only at fails
      split at fails
      · obtain ⟨-, rfl⟩ := Prod.mk.inj fails
        exact .inl rfl
      rw [run_backendOfThen] at fails
      split at fails
      swap
      · obtain ⟨-, rfl⟩ := Prod.mk.inj fails
        exact .inl rfl
      rw [run_lookThen, run_actThen, run_actThen, run_keepingTry, run_log, run_attemptThen] at fails
      generalize hdialed : World.log _ _ _ _ = dialed at fails
      have before : dialed.connections = w.connections := by
        rw [← hdialed, World.log_connections]
        rfl
      generalize starts : (Backend.start env _ _ _ _ _).run.run _ = outcome at fails
      obtain ⟨started, w₁⟩ := outcome
      obtain ⟨answers, rfl⟩ := Prod.mk.inj fails
      cases started with
      | ok c =>
          rw [settleStart_answer] at answers
          cases answers
      | error f' =>
          obtain ⟨connections, backends⟩ := settleStart_failing r h f' w₁
          dsimp only at connections backends ⊢
          generalize ((settleStart r h (.error f')).run.run w₁).2 = w₂ at connections backends ⊢
          have : Upheld (Keeps (Rosters d.backend)) env :=
            (hosted.together fun _ u _ => Rosters.together u).toUpheld
          rcases Backend.start_undone (b := d.backend) starts with same | closed
          · left
            rw [run_release_kept env dialed d.backend (backends.trans (same ▸ rfl)), connections, same]
            exact before
          · right
            have := (hosted.goesOn ⟨w.connections.next⟩).toUpheld
            have released : Holds (Keeps (GoesOn ⟨w.connections.next⟩))
                (release env (.backend d.backend)) := inferInstance
            have next : (dialed.reshare (· + 1) (.backend d.backend)).connections.next =
                w.connections.next := congrArg Table.next before
            rw [next] at closed
            exact (released.holds w₂).hasClosed (closed.congr connections)

end Registry

theorem Controller.connect_undone (hosted : Hosted env)
    (fails : (connect env k).run.run w = (.error f, w')) : w.Relents w' := by
  unfold connect at fails
  rw [run_lookThen, run_onFailure] at fails
  generalize dials : (Registry.connectDevice env _ _ k).run.run w = outcome at fails
  obtain ⟨result, w₁⟩ := outcome
  cases result with
  | ok _ => cases fails
  | error f' =>
      obtain ⟨-, rfl⟩ := Prod.mk.inj fails
      refine (Registry.connectDevice_fails hosted dials).congr rfl ?_
      rw [run_log, World.log_connections]

/-! ## The device -/

namespace Picture

variable {p p' : Picture} {d : Device}

theorem Steady.idle_of_alone (steady : p.Steady r h) (hd : p.entry r h = some d)
    (alone : d.connection = none) (unasked : ∀ c, ¬p.Asking c) (staying : ¬p.Leaving r h) :
    d.state = .idle := by
  cases hs : d.state with
  | idle => rfl
  | connecting =>
      obtain ⟨c, pending⟩ := steady.tended d hd alone hs
      exact absurd (steady.settled c d hd alone pending) (unasked c)
  | connected =>
      obtain ⟨c, owned, -⟩ := (steady.slot.mirrors d hd).connected hs
      cases alone.symm.trans owned
  | removing => exact absurd ⟨d, hd, hs, alone⟩ staying

theorem Slot.whole_of_alone (slot : p.Slot r h) (serving : p.serving r) (hd : p.entry r h = some d)
    (alone : d.connection = none) (appointed : p.appointed k r h) (present : (p.device k).isSome) :
    ∃ attempts : List Attempt, p.notices k = attempts.flatMap Attempt.notices := by
  have stands := slot.standing k serving appointed present
  rw [show p.expected r h k = .idle by simp [expected, hd, alone]] at stands
  obtain ⟨attempts, whole⟩ := standing_eq_some stands
  exact ⟨attempts, by rw [whole, Standing.begun, List.append_nil]⟩

end Picture

theorem Follows.unknown_of_idle {p p' : Picture} {c : ConnectionId} (follows : Follows r h p p')
    (slot : p.Slot r h) {d : Device} (hd : p.entry r h = some d) (idle : d.state = .idle)
    (owned : p'.Owns r h c) : p.sink c = none := by
  cases known : p.sink c with
  | none => rfl
  | some sink =>
      obtain ⟨e, he, own⟩ := id owned
      obtain rfl : sink = .entry r h := Option.some.inj
        ((follows.known c sink known).symm.trans (follows.orderly.own r h e c he own))
      -- Nothing more was to be told of it when the device was idle.
      have spent : ¬p.Ongoing c := fun ongoing => slot.nobody_of_idle hd idle c ⟨known, ongoing⟩
      obtain ⟨e', he', own'⟩ := follows.shuns c _ known spent owned
      obtain rfl := Option.some.inj (hd.symm.trans he')
      cases (slot.alone_of_idle hd idle).symm.trans own'

theorem World.givenUp_of_held {c : ConnectionId} (onCourse : w.OnCourse c)
    (closed : w.HasClosed c) (slot : w.picture.Slot r h) {d : Device}
    (hd : w.picture.entry r h = some d) (owned : d.connection = some c) :
    w.GivenUp c ∧ w.milestones c ≠ [] := by
  obtain ⟨y, hy, closed⟩ := closed
  obtain ⟨-, underway, -⟩ := slot.held d c hd owned
  simp only [World.OnCourse, hy, Connection.Fits, closed] at onCourse
  obtain ⟨⟨course, complete | ⟨given, -⟩⟩, -⟩ := onCourse
  · change DroneControl.Underway (w.milestones c) at underway
    rw [complete] at underway
    cases course <;> simp [Course.script, DroneControl.Underway] at underway
  · exact ⟨given, fun silent => ((slot.mirrors d hd).early c owned silent).2 given⟩

/-- When an attempt to connect fails, a device that was idle, and for which no other connection has been
made by then, is idle as before, and the listeners of its controllers have heard whole attempts; or else
the connection that was made told the entry something before it was given up, and the entry still has
it. -/
theorem Reached.connect_fails (reached : Reached w) (hosted : Hosted env) {d₀ : Device}
    (hd₀ : (w.registry r).device? h = some d₀) (idle : d₀.state = .idle)
    (fails : (Controller.connect env k).run.run w = (.error f, w'))
    (calm : ¬Disturbed r h w'.chronicle)
    (sole : ∀ c y, w'.connections.find? c = some y → y.sink = .entry r h →
      c = ⟨w.connections.next⟩ ∨ (w.connections.find? c).isSome)
    {d : Device} (hd : (w'.registry r).device? h = some d) :
    (d.state = .idle ∧ d.connection = none ∧ d.pipe = none ∧ d.interface = none ∧
        d.observer = none ∧
        ∀ k', Occurred (.appointed k' r h) w'.chronicle → (w'.controllers.find? k').isSome →
          ∃ attempts : List Attempt, notices k' w'.chronicle = attempts.flatMap Attempt.notices) ∨
      (d.connection = some ⟨w.connections.next⟩ ∧ w'.GivenUp ⟨w.connections.next⟩ ∧
        milestones ⟨w.connections.next⟩ w'.chronicle ≠ []) := by
  have := hosted.together (Q := Keeps (Abides r h)) fun _ u quiet => Abides.together u quiet
  have abides : Abides r h w w' := by
    have kept : Holds (Keeps (Abides r h)) (Controller.connect env k).run := inferInstance
    have step := kept.holds w
    rwa [fails] at step
  have follows := abides.follows (fun c => .inl (reached.onCourse c)) reached.orderly
  obtain ⟨-, steady, unasked, staying⟩ := reached.steady (calm ∘ follows.disturbed)
  have later := follows.steady calm steady
  have entry : w'.picture.entry r h = some d := hd
  cases hc : d.connection with
  | none =>
      left
      obtain ⟨pipe, interface, -⟩ := later.slot.free d entry hc
      have rests := later.idle_of_alone entry hc (fun c => mt (follows.asking c).mp (unasked c))
        (mt follows.leaving staying)
      refine ⟨rests, rfl, pipe, interface, (later.slot.mirrors d entry).resting rests, ?_⟩
      intro k' appointed present
      exact later.slot.whole_of_alone (follows.orderly.served _ _ d entry) entry hc appointed
        (by simpa [World.picture] using present)
  | some c =>
      right
      have owns : w'.picture.Owns r h c := ⟨d, entry, hc⟩
      have unknown := follows.unknown_of_idle steady.slot hd₀ idle owns
      have sink := follows.orderly.own _ _ d c entry hc
      simp only [World.picture, Option.map_eq_some_iff, Option.map_eq_none_iff] at sink unknown
      obtain ⟨y, hy, reports⟩ := sink
      obtain rfl : c = ⟨w.connections.next⟩ :=
        (sole c y hy reports).resolve_right (by simp [unknown])
      have closed : w'.HasClosed ⟨w.connections.next⟩ := by
        refine (Controller.connect_undone hosted fails).resolve_left fun same => ?_
        rw [same, Table.find?_next] at hy
        cases hy
      have onCourse := (abides.goesOn _).onCourse (reached.onCourse ⟨w.connections.next⟩)
      exact ⟨rfl, World.givenUp_of_held onCourse closed later.slot entry hc⟩

def deafHost (tells : Bool) : Env Unit :=
  { silentHost with
    ask := fun request => do
      match request with
      | .openNet _ c _ _ => if tells then Connection.connecting silentHost c
      | _ => pure ()
      throw (.transport "unreachable") }

theorem deafHost_hosted : Hosted (deafHost false) := by
  refine .innermost ⟨fun _ _ => .pure _, fun request _ => ?_, fun _ => .pure _, fun _ => .pure _,
    fun _ _ _ => .pure _, fun _ _ _ => .pure _⟩ fun _ => .pure _
  cases request <;> exact .pure _

def manned : Act Unit (Except Fault ControllerId) := do
  let r ← Registry.create {} ⟨1⟩ none
  let _ ← (Backend.createNet silentHost r ⟨1⟩ 0 none).run
  let _ ← (Registry.addDevice silentHost r default ⟨1⟩).run
  (Controller.create r ⟨1⟩ ⟨2⟩ none).run

theorem manned_reached : Reached (manned.run { host := () }).2 := by
  refine ⟨silentHost, (), none, _, manned, silentHost_hosted, ?_, rfl⟩
  refine .bind (.basic (.inr (.createRegistry _ _ _))) fun r => ?_
  refine .bind (.basic (.inr (.createNet _ _ _ _))) fun _ => ?_
  refine .bind (.basic (.inr (.addDevice _ _ _))) fun _ => ?_
  exact .basic (.inr (.createController _ _ _ _))

theorem manned_connect_fails :
    ∃ w' d, (Controller.connect (deafHost false) ⟨1⟩).run.run (manned.run { host := () }).2 =
        (.error (.transport "unreachable"), w') ∧
      (w'.registry ⟨1⟩).device? ⟨1⟩ = some d ∧ (w'.connection ⟨1⟩).state = .closed ∧
      milestones ⟨1⟩ w'.chronicle = [] ∧ d.state = .idle ∧ d.connection = none := by
  generalize before : (manned.run { host := () }).2 = w
  have next : w.connections.next = 1 := by rw [← before]; decide +kernel
  have seat : ((w.registry ⟨1⟩).device? ⟨1⟩).map (·.state) = some .idle := by
    rw [← before]; decide +kernel
  obtain ⟨d₀, hd₀, idle⟩ := Option.map_eq_some_iff.mp seat
  generalize connects : (Controller.connect (deafHost false) ⟨1⟩).run.run w = outcome
  obtain ⟨answer, w'⟩ := outcome
  have answers : answer = .error (.transport "unreachable") := by
    rw [← before] at connects
    exact congrArg Prod.fst connects.symm
  have after : ((Controller.connect (deafHost false) ⟨1⟩).run.run w).2 = w' := by rw [connects]
  rw [← before] at after
  have known : w'.connections.toList.map (·.1) = [⟨1⟩] := by rw [← after]; decide +kernel
  have closed : (w'.connection ⟨1⟩).state = .closed := by rw [← after]; decide +kernel
  have silent : milestones ⟨1⟩ w'.chronicle = [] := by rw [← after]; decide +kernel
  have staying : w'.chronicle.all (decide <| ·.what ≠ .removed ⟨1⟩ ⟨1⟩) := by
    rw [← after]; decide +kernel
  have there : ((w'.registry ⟨1⟩).device? ⟨1⟩).isSome := by rw [← after]; decide +kernel
  obtain ⟨d, hd⟩ := Option.isSome_iff_exists.mp there
  have calm : ¬Disturbed ⟨1⟩ ⟨1⟩ w'.chronicle := by
    rintro ⟨past, t, later, same, -⟩
    have among : ⟨t, .removed ⟨1⟩ ⟨1⟩⟩ ∈ w'.chronicle := by simp [same]
    simpa using List.all_eq_true.mp staying _ among
  have sole : ∀ c y, w'.connections.find? c = some y → y.sink = .entry ⟨1⟩ ⟨1⟩ →
      c = ⟨w.connections.next⟩ ∨ (w.connections.find? c).isSome := by
    intro c y hy _
    have among := List.mem_map_of_mem (f := Prod.fst) (Table.mem_toList.mpr hy)
    rw [known, List.mem_singleton] at among
    exact .inl (among.trans (by rw [next]))
  subst answers
  refine ⟨w', d, rfl, hd, closed, silent, ?_⟩
  rcases (before ▸ manned_reached).connect_fails deafHost_hosted hd₀ idle connects calm sole hd with
    ⟨rests, alone, -⟩ | ⟨-, -, told⟩
  · exact ⟨rests, alone⟩
  · rw [next] at told
    exact absurd silent told

example :
    let w' := ((Controller.connect (deafHost true) ⟨1⟩).run.run (manned.run { host := () }).2).2
    ((w'.registry ⟨1⟩).device? ⟨1⟩).map (fun d => (d.state, d.connection)) =
        some (.connecting, some ⟨1⟩) ∧
      (w'.connection ⟨1⟩).state = .closed := by
  decide +kernel

end DroneControl
