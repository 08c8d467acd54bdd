import DroneControl.Proofs.Backend.Roster
import DroneControl.Proofs.Connection.Ending

/-!
# The live connections of a backend

Nothing but the making and the ending of connections touches a roster.  A connection is closed before its
sink is told so, whatever the sink does then leaves it closed, and so it is closed still when it goes off
the roster.  Between calls nothing is left to be done for a closed connection, and the roster of a backend
has just the connections that it made and that are not closed.
-/

set_option synthInstance.maxSize 2048

namespace DroneControl

variable {σ : Type} {b b' : BackendId} {c c' : ConnectionId} {w w' w'' : World σ} {env : Env σ}

/-! ## What is not about connections -/

namespace Rosters

instance heeds : Heeds (σ := σ) (Rosters b) ⟨[.connections, .history, .backends], [.discard]⟩ where
  trans := .trans
  aside same :=
    .of_same (same .connections (by decide)) (same .history (by decide)) (same .backends (by decide))
  mark w o other := .mark w fun _ given => other (by simp [given, Occurrence.topic])

instance footing : Footing (Keeps (σ := σ) (Rosters b)) := Heeds.footing

instance base : Base (Keeps (σ := σ) (Rosters b)) := Heeds.base_of_kept share erase

instance overlooksProxies : OverlooksProxies (Keeps (σ := σ) (Rosters b)) := Heeds.overlooksProxies

instance overlooksDiscoveries : OverlooksDiscoveries (Keeps (σ := σ) (Rosters b)) :=
  Heeds.overlooksDiscoveries

instance overlooksTimers : OverlooksTimers (Keeps (σ := σ) (Rosters b)) := Heeds.overlooksTimers

instance overlooks (i : InterfaceId) : Overlooks (Keeps (σ := σ) (Rosters b)) i := Heeds.overlooks i

instance overlooksDevices : OverlooksDevices (Keeps (σ := σ) (Rosters b)) := Heeds.overlooksDevices

instance overlooksLoop : OverlooksLoop (Keeps (σ := σ) (Rosters b)) := Heeds.overlooksLoop

instance interfaceLives : InterfaceLives (Keeps (σ := σ) (Rosters b)) := Heeds.interfaceLives

instance backendLives : BackendLives (Keeps (σ := σ) (Rosters b)) where
  addBackend part := ⟨fun w => .addBackend w part⟩
  alterBackend _ _ same := ⟨fun w => .alter w fun x => ⟨(same x).1, (same x).2.1, (same x).2.2.1⟩⟩

instance noteApi_rosters (b' : BackendId) (c : ConnectionId) (api : DeviceApi) :
    Holds (Keeps (σ := σ) (Rosters b)) (modify (·.updateBackend b' (·.noteApi c api))) :=
  ⟨fun w => .alter w fun x => x.noteApi_keeps c api⟩

instance holds_told (c : ConnectionId) (event : ConnectionEvent) :
    Holds (Keeps (σ := σ) (Rosters b)) (DroneControl.mark (.told c event)) :=
  ⟨fun w => .mark w nofun⟩

end Rosters

theorem Rosters.hasClosed (rosters : Rosters b w w') : w.HasClosed c → w'.HasClosed c := by
  rintro ⟨y, hy, closed⟩
  obtain ⟨y', hy', ages⟩ := rosters.rows c y hy
  exact ⟨y', hy', ages.shut closed⟩

theorem Rosters.moves {f : Connection → Connection}
    (moves : ∀ x, w.connections.find? c = some x → x.MovesTo (f x)) :
    Rosters b w (w.updateConnection c f) :=
  .update w fun x hx => by
    obtain ⟨backend, ⟨-, noted, done⟩, shut⟩ := moves x hx
    exact ⟨.of_same backend shut (noted ▸ fun _ => id) done, by rw [done]⟩

theorem Rosters.aside {f : Connection → Connection}
    (ages : ∀ y, y.AgesTo (f y) ∧ (f y).done = y.done) :
    Holds (Keeps (σ := σ) (Rosters b)) (modify (·.updateConnection c f)) :=
  ⟨fun w => .update w fun y _ => ⟨(ages y).1, by rw [(ages y).2]⟩⟩

instance Rosters.accompanies : Accompanies (σ := σ) (Rosters b) c where
  trans := .trans
  hasClosed := Rosters.hasClosed
  moves _ _ := .moves
  runHook closed hook := .runHook closed.state hook
  dropHooks _ := .update _ fun _ _ => ⟨.of_same rfl id (fun _ => id) rfl, .rfl⟩

/-! ## The transitions of connections -/

namespace Connection

instance onClosed_rosters (hook : CloseHook) :
    Holds (Keeps (σ := σ) (Rosters b)) (onClosed c hook) := by
  have noted : Holds (Keeps (σ := σ) (Rosters b))
      (modify (·.updateConnection c fun x => { x with noted := x.noted ++ [hook] })) :=
    Rosters.aside fun y => ⟨.of_same rfl id (List.subset_append_left _ _) rfl, rfl⟩
  have kept : Holds (Keeps (σ := σ) (Rosters b))
      (modify (·.updateConnection c fun x => { x with hooks := x.hooks ++ [hook] })) :=
    Rosters.aside fun y => ⟨.of_same rfl id (fun _ => id) rfl, rfl⟩
  refine ⟨fun w => ?_⟩
  unfold onClosed
  rw [run_bind, run_modify, run_bind, run_get]
  refine .trans (noted.holds w) ?_
  split
  · next closed => exact .runHook closed hook
  · exact kept.holds _

variable [u : Upheld (Keeps (Rosters b)) env]

instance tells_rosters : Tells (Keeps (Rosters b)) env c where
  tell event := by
    have : EntryCalls (Keeps (Rosters b)) env := Entry.calls_of_overlooks
    unfold tell
    refine Holds.bind (h := fun _ => Holds.bind (h := fun w => ?_))
    cases (w.connection c).sink <;> infer_instance

include u in
theorem giveUp_closes {y : Connection} (hy : w.connections.find? c = some y) :
    ((giveUp env c).run w).2.HasClosed c := by
  have rest : Rosters b (discarded w c) ((giveUp env c).run w).2 := giveUp_rest env w hy
  exact rest.hasClosed (discarded_closed hy)

end Connection

/-! ## The start of a connection -/

def World.Home (w : World σ) (b : BackendId) (c : ConnectionId) : Prop :=
  ∃ y, w.connections.find? c = some y ∧ y.backend = b

def RostersFrom (b b' : BackendId) (c : ConnectionId) (w w' : World σ) : Prop :=
  w.Home b' c → Rosters b w w'

namespace RostersFrom

instance closed : Closed (Keeps (σ := σ) (RostersFrom b b' c)) := by
  refine Keeps.closed (fun w _ => .refl w) fun first second home => ?_
  have before := first home
  obtain ⟨y, hy, own⟩ := home
  obtain ⟨y', hy', ages⟩ := before.rows c y hy
  exact before.trans (second ⟨y', hy', ages.backend.trans own⟩)

theorem of_rosters {α : Type} {a : Act σ α} [kept : Holds (Keeps (Rosters b)) a] :
    Holds (Keeps (RostersFrom b b' c)) a :=
  ⟨fun w _ => kept.holds w⟩

end RostersFrom

namespace Rosters

instance connectionLives : ConnectionLives (Keeps (σ := σ) (Rosters b)) where
  create h b' address sink := by
    have added : Holds (Keeps (σ := σ) (Rosters b)) (modifyGet fun w =>
        let (c, connections) := w.connections.add { device := h, backend := b', address, sink }
        (c, { w with connections })) :=
      ⟨fun w => .addConnection w rfl⟩
    unfold Connection.create
    infer_instance
  onClosed _ _ := inferInstance
  opening _ _ := ⟨fun w => .mark w nofun⟩
  opened _ := ⟨fun w => .mark w nofun⟩

instance connectionNotes : ConnectionNotes (Keeps (σ := σ) (Rosters b)) :=
  Connection.notes_of_accompanies

end Rosters

namespace Backend

variable [u : Upheld (Keeps (Rosters b)) env]

instance withdraw_rosters : Holds (Keeps (RostersFrom b b' c)) (withdraw env b' c) := by
  refine ⟨fun w home => ?_⟩
  obtain ⟨y, hy, own⟩ := home
  unfold withdraw
  rw [run_bind, run_modify]
  refine .trans ?_ (Connection.giveUp_rest env _ hy)
  exact .discarded rfl rfl rfl (fun x => (x.untrack c).forgetApi_keeps c) hy own

instance reject_rosters : Holds (Keeps (RostersFrom b b' c)) (reject env b' c) := by
  refine ⟨fun w home => ?_⟩
  obtain ⟨y, hy, own⟩ := home
  unfold reject
  rw [run_bind, run_modify, run_bind, run_get]
  split
  · rw [run_bind, run_log]
    refine .trans ?_ (Connection.giveUp_rest env _ (x := y) ?_)
    · exact .discarded (World.log_connections _ _ _ _) (World.log_history _ _ _ _)
        (World.log_backends _ _ _ _) (fun _ => ⟨rfl, rfl, rfl⟩) hy own
    · rw [World.log_connections]
      exact hy
  · have rest : Rosters b _ ((Connection.giveUp env c).run (w.updateBackend b' (·.untrack c))).2 :=
      Connection.giveUp_rest env _ hy
    refine .trans ?_ rest
    exact .discarded rfl rfl rfl (fun _ => ⟨rfl, rfl, rfl⟩) hy own

theorem makeThen_rosters {α : Type} {h : DeviceHandle} {address : String} {sink : Sink}
    {next : ConnectionId → Try σ α}
    (room : ∀ x, w.backends.find? b' = some x → x.kind = .mux → x.live = [])
    (rest : ∀ c, Holds (Keeps (RostersFrom b b' c)) (next c).run) :
    Rosters b w ((act (make b' h address sink) >>= next).run.run w).2 := by
  rw [run_actThen]
  have made := Rosters.make (b := b) h address sink room
  obtain ⟨w', runs, row, -⟩ := run_make b' h address sink w
  rw [runs] at made ⊢
  exact made.trans ((rest _).holds w' ⟨_, (row _).trans (if_pos rfl), rfl⟩)

theorem startNet_rosters (room : ∀ x, w.backends.find? b' = some x → x.kind = .mux → x.live = [])
    (part : NetPart) (h : DeviceHandle) (info : DeviceInfo) (agent : Agent) (sink : Sink) :
    Rosters b w ((startNet env b' part h info agent sink).run.run w).2 := by
  refine makeThen_rosters room fun c => ?_
  have logged : ∀ s message fields,
      Holds (Keeps (σ := σ) (RostersFrom b b' c)) (log s message fields) :=
    fun _ _ _ => RostersFrom.of_rosters
  have noted : ∀ api, Holds (Keeps (σ := σ) (RostersFrom b b' c)) (trackApi b' c api) :=
    fun _ => RostersFrom.of_rosters
  have opened : ∀ request, Holds (Keeps (RostersFrom b b' c))
      (opening c sink (env.ask request).run) :=
    fun _ => RostersFrom.of_rosters
  infer_instance

theorem startBle_rosters (room : ∀ x, w.backends.find? b' = some x → x.kind = .mux → x.live = [])
    (part : BlePart) (h : DeviceHandle) (info : DeviceInfo) (sink : Sink) :
    Rosters b w ((startBle env b' part h info sink).run.run w).2 := by
  refine makeThen_rosters room fun c => ?_
  have logged : ∀ s message fields,
      Holds (Keeps (σ := σ) (RostersFrom b b' c)) (log s message fields) :=
    fun _ _ _ => RostersFrom.of_rosters
  have opened : ∀ address, Holds (Keeps (RostersFrom b b' c))
      (opening c sink (env.openSession part.host address c)) :=
    fun _ => RostersFrom.of_rosters
  dsimp only
  infer_instance

omit u in
theorem startMux_rosters (part : MuxPart) (h : DeviceHandle) (info : DeviceInfo) (sink : Sink) :
    Holds (Keeps (σ := σ) (Rosters b)) (startMux b' part h info sink).run := by
  refine ⟨fun w => ?_⟩
  unfold startMux
  rw [run_lookThen]
  split
  · next empty =>
      refine makeThen_rosters (fun x hx _ => ?_) fun c => ?_
      · simpa [World.backend, Table.get, hx] using empty
      · have deferred : ∀ job, Holds (Keeps (σ := σ) (RostersFrom b b' c)) (defer job) :=
          fun _ => ⟨fun w _ => .of_same rfl rfl rfl⟩
        infer_instance
  · exact .refl w

instance starts_rosters : ConnectionStarts (Keeps (Rosters b)) env where
  start b' h info agent sink := by
    refine ⟨fun w => ?_⟩
    unfold start
    rw [run_lookThen]
    have room : ((w.backend b').kind ≠ .mux) →
        ∀ x, w.backends.find? b' = some x → x.kind = .mux → x.live = [] := by
      intro other x hx mux
      simp [World.backend, Table.get, hx, mux] at other
    cases which : (w.backend b').part with
    | net part => exact startNet_rosters (room (by simp [kind, which])) part h info agent sink
    | ble part => exact startBle_rosters (room (by simp [kind, which])) part h info sink
    | mux part => exact (startMux_rosters part h info sink).holds w

end Backend

/-! ## Runs -/

namespace Rosters

instance registryLives : RegistryLives (Keeps (σ := σ) (Rosters b)) :=
  Registry.lives_of_overlooks

instance alone : Alone (Keeps (σ := σ) (Rosters b)) where

theorem together (_ : Upheld (Keeps (Rosters b)) env) : Together (Keeps (Rosters b)) env := by
  have : ConnectionCalls (Keeps (Rosters b)) env := Connection.calls_of_accompanies
  have : InterfaceCalls (Keeps (Rosters b)) env := Interface.calls_of_steps
  have : InterfaceRetries (Keeps (Rosters b)) env := Interface.retries_of_steps
  have : RegistryCalls (Keeps (Rosters b)) env := Registry.calls_of_overlooks
  have : LoopCalls (Keeps (Rosters b)) env := Loop.calls_of_steps
  exact {}

end Rosters

/-! ## Starts that fail -/

namespace Backend

variable [u : Upheld (Keeps (Rosters b)) env]

include u

theorem withdraw_closes {y : Connection} (hy : w.connections.find? c = some y) :
    ((withdraw env b' c).run w).2.HasClosed c :=
  Connection.giveUp_closes (b := b) (u := u) hy

theorem reject_closes {y : Connection} (hy : w.connections.find? c = some y) :
    ((reject env b' c).run w).2.HasClosed c := by
  unfold reject
  rw [run_bind, run_modify, run_bind, run_get]
  split
  · rw [run_bind, run_log]
    refine Connection.giveUp_closes (b := b) (u := u) (y := y) ?_
    rw [World.log_connections]
    exact hy
  · exact Connection.giveUp_closes (b := b) (u := u) hy

theorem startNet_fails (part : NetPart) (h : DeviceHandle) (info : DeviceInfo) (agent : Agent)
    (sink : Sink) {f : Fault}
    (fails : (startNet env b' part h info agent sink).run.run w = (.error f, w')) :
    w'.HasClosed ⟨w.connections.next⟩ := by
  obtain ⟨w₁, runs, row, -⟩ := run_make b' h info.address sink w
  generalize (⟨w.connections.next⟩ : ConnectionId) = c at runs row ⊢
  have noted : Holds (Keeps (σ := σ) (Rosters b)) (trackApi b' c info.api.effective) :=
    inferInstance
  have opened : Holds (Keeps (Rosters b)) (opening c sink (env.ask (.openNet part.connector c
      info.port (handshake part agent info).toJson.render)).run) := inferInstance
  unfold startNet at fails
  rw [run_actThen, runs, run_actThen, run_tryThen, run_onFailure] at fails
  dsimp only [ExceptT.run_mk] at fails
  have kept := (noted.holds w₁).trans (opened.holds _)
  obtain ⟨y, hy, -⟩ := kept.rows c _ ((row c).trans (if_pos rfl))
  generalize (opening c sink _).run _ = outcome at hy fails
  obtain ⟨result, w₂⟩ := outcome
  cases result with
  | ok _ => cases fails
  | error f =>
      dsimp only at fails
      obtain ⟨-, rfl⟩ := Prod.mk.inj fails
      rw [run_bind, run_log]
      refine withdraw_closes (b := b) (u := u) (y := y) ?_
      rwa [World.log_connections]

theorem startBle_fails (part : BlePart) (h : DeviceHandle) (info : DeviceInfo) (sink : Sink)
    {f : Fault} (fails : (startBle env b' part h info sink).run.run w = (.error f, w')) :
    w'.HasClosed ⟨w.connections.next⟩ := by
  obtain ⟨w₁, runs, row, -⟩ := run_make b' h info.address sink w
  generalize (⟨w.connections.next⟩ : ConnectionId) = c at runs row ⊢
  have opened : Holds (Keeps (Rosters b)) (opening c sink
      (env.openSession part.host info.address c)) := inferInstance
  have kept := (Rosters.log w₁ .debug "BLE connection created"
    [("conn", c.label), ("address", info.address)]).trans (opened.holds _)
  obtain ⟨y, hy, -⟩ := kept.rows c _ ((row c).trans (if_pos rfl))
  unfold startBle at fails
  rw [run_actThen, runs, run_actThen, run_log] at fails
  dsimp only at fails
  rw [run_actThen] at fails
  generalize (opening c sink _).run _ = outcome at hy fails
  obtain ⟨taken, w₂⟩ := outcome
  have rejected : ∀ s message fields,
      ((reject env b' c).run (w₂.log s message fields)).2.HasClosed c := by
    intro s message fields
    refine reject_closes (b := b) (u := u) (y := y) ?_
    rwa [World.log_connections]
  dsimp only at fails
  split at fails
  swap
  · rw [run_actThen, run_actThen, run_throwThen, run_log] at fails
    obtain ⟨-, rfl⟩ := Prod.mk.inj fails
    exact rejected _ _ _
  · rw [run_lookThen] at fails
    split at fails
    · rw [run_actThen, run_actThen, run_throwThen, run_log] at fails
      obtain ⟨-, rfl⟩ := Prod.mk.inj fails
      exact rejected _ _ _
    · cases fails

omit u in
theorem startMux_fails (part : MuxPart) (h : DeviceHandle) (info : DeviceInfo) (sink : Sink)
    {f : Fault} (fails : (startMux b' part h info sink).run.run w = (.error f, w')) : w' = w := by
  unfold startMux at fails
  rw [run_lookThen] at fails
  split at fails
  · cases fails
  · exact (Prod.mk.inj fails).2.symm

theorem start_undone {h : DeviceHandle} {info : DeviceInfo} {agent : Agent} {sink : Sink} {f : Fault}
    (fails : (start env b' h info agent sink).run.run w = (.error f, w')) :
    w' = w ∨ w'.HasClosed ⟨w.connections.next⟩ := by
  unfold start at fails
  rw [run_lookThen] at fails
  cases which : (w.backend b').part with
  | net part =>
      rw [which] at fails
      exact .inr (startNet_fails (b := b) (u := u) part h info agent sink fails)
  | ble part =>
      rw [which] at fails
      exact .inr (startBle_fails (b := b) (u := u) part h info sink fails)
  | mux part =>
      rw [which] at fails
      exact .inl (startMux_fails part h info sink fails)

theorem start_fails {h : DeviceHandle} {info : DeviceInfo} {agent : Agent} {sink : Sink} {f : Fault}
    (fails : (start env b' h info agent sink).run.run w = (.error f, w')) :
    (w'.connection ⟨w.connections.next⟩).state = .closed := by
  rcases start_undone (b := b) (u := u) fails with rfl | closed
  · simp [World.connection, Table.get, Table.find?_next, default]
  · exact closed.state

end Backend

/-! ## Between calls -/

/-- The connections that a backend made and that are not closed. -/
def World.openOf (w : World σ) (x : Backend) : List ConnectionId :=
  x.made.filter fun c => (w.connection c).state ≠ .closed

/-- Nothing is left to be done for a connection that is closed. -/
structure World.AtRest (w : World σ) (b : BackendId) : Prop where
  waiting : w.Waiting b
  regular : ∀ c, w.Regular c
  finished : ∀ c, w.Finished c
  onCourse : ∀ c, w.OnCourse c

namespace World.AtRest

variable {x : Backend}

theorem live_iff (rest : w.AtRest b) (known : w.backends.find? b = some x) (c : ConnectionId) :
    c ∈ x.live ↔ c ∈ w.openOf x := by
  obtain ⟨-, noted, -, live, -⟩ := rest.waiting.rosters x known
  rw [live, openOf, List.mem_filter]
  refine and_congr_right fun among => ?_
  obtain ⟨y, hy, -, hook⟩ := noted c among
  rw [Listed, connection_of_find? hy, decide_eq_true_iff]
  constructor
  · rintro ⟨undone, spared⟩ closed
    obtain ⟨dropped, perm, given⟩ := ((rest.regular c).row y hy).hooks
    rw [(rest.finished c y hy closed).hooks, List.append_nil] at perm
    rcases List.mem_append.mp (perm.mem_iff.mp hook) with done | lost
    · exact undone done
    · exact spared (given (List.ne_nil_of_mem lost))
  · intro live
    have onCourse := rest.onCourse c
    simp only [OnCourse, hy] at onCourse
    refine ⟨?_, onCourse.1.not_givenUp live⟩
    rw [rest.waiting.waits c y hy live]
    exact List.not_mem_nil

theorem live_length (rest : w.AtRest b) (known : w.backends.find? b = some x) :
    x.live.length = (w.openOf x).length := by
  have rostered := rest.waiting.rosters x known
  refine ((List.perm_ext_iff_of_nodup rostered.once ?_).mpr (rest.live_iff known)).length_eq
  exact rostered.made.filter _

end World.AtRest

theorem Hosted.atRest {α : Type} {a : Act σ α} (hosted : Hosted env) (reaction : Reaction env α a)
    (rest : w.AtRest b) : (a.run w).2.AtRest b := by
  have rosters : Together (Keeps (Rosters b)) env := hosted.together fun _ u _ => Rosters.together u
  have tidies : ∀ c, Together (Keeps (Tidies c)) env := fun c =>
    hosted.together fun _ u _ => Tidies.together u
  have goesOn : ∀ c, Together (Keeps (GoesOn c)) env := hosted.goesOn
  have rostered : Keeps (Rosters b) α a := reaction.holds
  have tidied : ∀ c, Keeps (Tidies c) α a := fun c => reaction.holds
  have gone : ∀ c, Keeps (GoesOn c) α a := fun c => reaction.holds
  exact ⟨(rostered w).waiting rest.waiting, fun c => (tidied c w).regular (rest.regular c),
    fun c => (tidied c w).finished (rest.regular c) (rest.finished c),
    fun c => (gone c w).onCourse (rest.onCourse c)⟩

theorem World.atRest_empty (host : σ) (verbosity : Option Severity) :
    ({ host, verbosity } : World σ).AtRest b where
  waiting := by
    refine ⟨fun c y hy => ?_, fun c given => ?_, fun x hx => ?_⟩
    · cases (World.find?_empty c).symm.trans hy
    · obtain ⟨t, ht⟩ := given
      simp [World.chronicle] at ht
    · cases (World.find?_empty b).symm.trans hx
  regular c := by
    refine ⟨fun p y hy => ?_, fun y hy => ?_, fun y hy => ?_⟩
    · cases (World.find?_empty p).symm.trans hy
    · cases (World.find?_empty c).symm.trans hy
    · cases (World.find?_empty c).symm.trans hy
  finished c y hy := by cases (World.find?_empty c).symm.trans hy
  onCourse c := by
    simp only [World.OnCourse, World.find?_empty]
    refine ⟨?_, rfl⟩
    rintro ⟨t, ht⟩
    simp [World.chronicle] at ht

theorem Reached.atRest (reached : Reached w) : w.AtRest b := by
  obtain ⟨env, host, verbosity, α, a, hosted, reaction, rfl⟩ := reached
  exact hosted.atRest reaction (World.atRest_empty host verbosity)

theorem Registry.unregisterBackend_ok (env : Env σ) {r : RegistryId} {x : Backend}
    (registered : b ∈ (w.registry r).backends) (known : w.backends.find? b = some x) :
    ((unregisterBackend env r b).run.run w).1.isOk ↔ x.live = [] := by
  have same : w.backend b = x := World.backend_of_find? known
  unfold unregisterBackend
  rw [run_lookThen, if_neg (not_not.mpr registered), same]
  cases live : x.live with
  | nil => exact iff_of_true rfl rfl
  | cons c live => exact iff_of_false nofun nofun

/-- Whatever happens to connections while they are being opened or closed, between calls a backend counts
as live just those that it made and that are not closed.  It can be unregistered just if there are none,
and a channel never has more than one.  A connection whose start fails is closed by then, and if nothing
else was started or closed meanwhile, there are as many as before. -/
theorem Reached.counts_live (reached : Reached w) {x : Backend}
    (known : w.backends.find? b = some x) :
    (x.made.Nodup ∧ x.live.length = (w.openOf x).length) ∧
    (x.kind = .mux → x.live.length ≤ 1) ∧
    (∀ (env : Env σ) r, b ∈ (w.registry r).backends →
      (((Registry.unregisterBackend env r b).run.run w).1.isOk ↔ w.openOf x = [])) ∧
    ∀ env : Env σ, Hosted env →
      (∀ (v v' : World σ) h info agent sink f,
        (Backend.start env b h info agent sink).run.run v = (.error f, v') →
        (v'.connection ⟨v.connections.next⟩).state = .closed) ∧
      ∀ h info agent l f w',
        (Backend.start env b h info agent (.listener l)).run.run w = (.error f, w') →
        ∀ x', w'.backends.find? b = some x' →
          (∀ c, c ≠ ⟨w.connections.next⟩ → (c ∈ w'.openOf x' ↔ c ∈ w.openOf x)) →
          x'.live.length = x.live.length := by
  have rest : w.AtRest b := reached.atRest
  have rostered := rest.waiting.rosters x known
  refine ⟨⟨rostered.made, rest.live_length known⟩, rostered.single, fun env r registered => ?_,
    fun env hosted => ⟨fun v v' h info agent sink f fails => ?_, ?_⟩⟩
  · rw [Registry.unregisterBackend_ok env registered known, ← List.length_eq_zero_iff,
      rest.live_length known, List.length_eq_zero_iff]
  · have := hosted.together (Q := Keeps (Rosters b)) fun _ u _ => Rosters.together u
    exact Backend.start_fails (b := b) (u := inferInstance) fails
  · intro h info agent l f w' fails x' known' others
    have closed : (w'.connection ⟨w.connections.next⟩).state = .closed := by
      have := hosted.together (Q := Keeps (Rosters b)) fun _ u _ => Rosters.together u
      exact Backend.start_fails (b := b) (u := inferInstance) fails
    have rest' : w'.AtRest b := by
      have started := hosted.atRest (.basic (.inr (.start b h info agent l))) rest
      rwa [fails] at started
    have new : ⟨w.connections.next⟩ ∉ w.openOf x := by
      intro among
      obtain ⟨y, hy, -⟩ := rostered.noted _ (List.mem_filter.mp among).1
      simp [Table.find?_next] at hy
    have perm : (w'.openOf x').Perm (w.openOf x) := by
      refine (List.perm_ext_iff_of_nodup ?_ ?_).mpr fun c => ?_
      · exact (rest'.waiting.rosters x' known').made.filter _
      · exact rostered.made.filter _
      · by_cases here : c = ⟨w.connections.next⟩
        · subst here
          exact iff_of_false (by simp [World.openOf, closed]) new
        · exact others c here
    rw [rest'.live_length known', rest.live_length known, perm.length_eq]

def twoStarts : Act Unit (Except Fault ConnectionId) := do
  let r ← Registry.create {} ⟨1⟩ none
  let _ ← (Backend.createNet silentHost r ⟨1⟩ 0 none).run
  let _ ← (Backend.start silentHost ⟨1⟩ ⟨1⟩ default default (.listener ⟨2⟩)).run
  let _ ← (Connection.cancel silentHost ⟨1⟩ .local).run
  (Backend.start silentHost ⟨1⟩ ⟨1⟩ default default (.listener ⟨2⟩)).run

theorem twoStarts_reached : Reached (twoStarts.run { host := () }).2 := by
  refine ⟨silentHost, (), none, _, twoStarts, silentHost_hosted, ?_, rfl⟩
  refine .bind (.basic (.inr (.createRegistry _ _ _))) fun r => ?_
  refine .bind (.basic (.inr (.createNet _ _ _ _))) fun _ => ?_
  refine .bind (.basic (.inr (.start _ _ _ _ _))) fun _ => ?_
  refine .bind (.basic (.inr (.cancel _ _))) fun _ => ?_
  exact .basic (.inr (.start _ _ _ _ _))

theorem twoStarts_counts_live :
    ∃ x, (twoStarts.run { host := () }).2.backends.find? ⟨1⟩ = some x ∧ x.made = [⟨1⟩, ⟨2⟩] ∧
      (twoStarts.run { host := () }).2.openOf x = [⟨2⟩] ∧ x.live.length = 1 ∧
      ¬((Registry.unregisterBackend silentHost ⟨1⟩ ⟨1⟩).run.run
        (twoStarts.run { host := () }).2).1.isOk := by
  have seen : ((twoStarts.run { host := () }).2.backends.find? ⟨1⟩).map
      (fun x => (x.made, (twoStarts.run { host := () }).2.openOf x)) =
      some ([⟨1⟩, ⟨2⟩], [⟨2⟩]) := by
    decide +kernel
  obtain ⟨x, known, parts⟩ := Option.map_eq_some_iff.mp seen
  obtain ⟨made, left⟩ := Prod.mk.inj parts
  obtain ⟨⟨-, counted⟩, -, leaves, -⟩ := twoStarts_reached.counts_live known
  refine ⟨x, known, made, left, by rw [counted, left]; rfl, ?_⟩
  rw [leaves silentHost ⟨1⟩ (by decide +kernel), left]
  nofun

end DroneControl
