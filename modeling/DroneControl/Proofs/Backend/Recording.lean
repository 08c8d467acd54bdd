import DroneControl.Proofs.Backend.Roster

/-!
# What a backend keeps on record of a connection

A network backend records of what kind a device is when it starts a connection to it, and notes on
the connection to take it off its books when it closes.  Until then the record stays as it was made,
whatever else happens.
-/

set_option synthInstance.maxSize 2048

namespace DroneControl

variable {σ : Type} {b b' : BackendId} {c c' : ConnectionId} {api : DeviceApi}
  {w w' w'' : World σ} {env : Env σ}

structure Connection.Tracked (x : Connection) (b : BackendId) : Prop where
  untracks : .untrack b ∈ x.hooks
  forgets : .forgetApi b ∈ x.hooks

def World.Recorded (w : World σ) (b : BackendId) (c : ConnectionId) (api : DeviceApi) : Prop :=
  b.number < w.backends.next ∧
    ∃ y, w.connections.find? c = some y ∧
      (y.state ≠ .closed →
        y.Tracked b ∧ ∀ x, w.backends.find? b = some x → x.api? c = some api)

structure Records (b : BackendId) (c : ConnectionId) (api : DeviceApi) (w w' : World σ) : Prop where
  onRecord : w.Recorded b c api → w'.Recorded b c api
  closed : w.HasClosed c → w'.HasClosed c

theorem Connection.MovesTo.tracked {x x' : Connection} (moves : x.MovesTo x')
    (tracked : x.Tracked b) : x'.Tracked b where
  untracks := moves.later.1 ▸ tracked.untracks
  forgets := moves.later.1 ▸ tracked.forgets

namespace Backend

variable (x : Backend)

theorem api?_noteApi_of_ne (other : c' ≠ c) (api : DeviceApi) :
    (x.noteApi c' api).api? c = x.api? c := by
  unfold noteApi api?
  cases part : x.part with
  | net net => simp [List.lookup_cons, beq_eq_false_iff_ne.mpr (Ne.symm other)]
  | _ => simp [part]

theorem api?_forgetApi_of_ne (other : c' ≠ c) : (x.forgetApi c').api? c = x.api? c := by
  unfold forgetApi api?
  cases part : x.part with
  | net net =>
      dsimp only
      induction net.apis with
      | nil => rfl
      | cons entry entries ih =>
          obtain ⟨c'', api⟩ := entry
          by_cases here : c'' = c'
          · subst here
            have beside : (c == c'') = false := beq_eq_false_iff_ne.mpr other.symm
            simp only [List.filter_cons, ne_eq, not_true_eq_false, decide_false,
              Bool.false_eq_true, if_false, List.lookup_cons, beside, ih]
          · simp only [List.filter_cons, ne_eq, here, not_false_eq_true, decide_true, if_true,
              List.lookup_cons, ih]
  | _ => simp [part]

end Backend

namespace Records

theorem refl (w : World σ) : Records b c api w w := ⟨id, id⟩

theorem trans (first : Records b c api w w') (second : Records b c api w' w'') :
    Records b c api w w'' :=
  ⟨second.onRecord ∘ first.onRecord, second.closed ∘ first.closed⟩

theorem of_rows (row : ∀ y, w.connections.find? c = some y → w'.connections.find? c = some y)
    (known : w.backends.next ≤ w'.backends.next)
    (record : b.number < w.backends.next → ∀ x', w'.backends.find? b = some x' →
      ∃ x, w.backends.find? b = some x ∧ x'.api? c = x.api? c) : Records b c api w w' where
  onRecord := by
    rintro ⟨old, y, hy, lasts⟩
    refine ⟨Nat.lt_of_lt_of_le old known, y, row y hy, fun live => ?_⟩
    refine ⟨(lasts live).1, fun x' hx' => ?_⟩
    obtain ⟨x, hx, same⟩ := record old x' hx'
    exact same.trans ((lasts live).2 x hx)
  closed := fun ⟨y, hy, closed⟩ => ⟨y, row y hy, closed⟩

theorem of_same (connections : w'.connections = w.connections)
    (backends : w'.backends = w.backends) : Records b c api w w' :=
  of_rows (fun _ hy => connections ▸ hy) (Nat.le_of_eq (by rw [backends]))
    fun _ x hx => ⟨x, backends ▸ hx, rfl⟩

theorem alter (w : World σ) {f : Backend → Backend} (same : ∀ x, (f x).api? c = x.api? c) :
    Records b c api w (w.updateBackend b' f) := by
  refine of_rows (fun _ => id) (Nat.le_of_eq (Table.next_update _ _ _).symm) fun _ x' hx' => ?_
  rw [World.updateBackend, Table.find?_update] at hx'
  split at hx'
  · next here =>
      subst here
      obtain ⟨x, hx, rfl⟩ := Option.map_eq_some_iff.mp hx'
      exact ⟨x, hx, same x⟩
  · exact ⟨x', hx', rfl⟩

theorem addBackend (w : World σ) (part : BackendPart) :
    Records b c api w { w with backends := (w.backends.add { part }).2 } := by
  refine of_rows (fun _ => id) (by simp [Table.next_add]) fun old x' hx' => ?_
  rw [Table.find?_add, if_neg] at hx'
  · exact ⟨x', hx', rfl⟩
  · rintro rfl
    exact Nat.lt_irrefl _ old

theorem share (w : World σ) (f : Nat → Nat) (k : Kept) : Records b c api w (w.reshare f k) := by
  cases k with
  | backend b' => exact alter w fun _ => rfl
  | _ => exact of_same rfl rfl

theorem erase (w : World σ) (k : Kept) : Records b c api w (w.erase k) := by
  cases k with
  | backend b' =>
      refine of_rows (fun _ => id) (Nat.le_refl _) fun _ x' hx' => ⟨x', ?_, rfl⟩
      simp only [World.erase, Table.find?_erase] at hx'
      split at hx'
      · cases hx'
      · exact hx'
  | _ => exact of_same rfl rfl

theorem update (w : World σ) {f : Connection → Connection}
    (tracked : ∀ y, w.connections.find? c = some y →
      (y.state = .closed → (f y).state = .closed) ∧ (y.Tracked b → (f y).Tracked b)) :
    Records b c api w (w.updateConnection c f) := by
  have row : ∀ y, w.connections.find? c = some y →
      (w.updateConnection c f).connections.find? c = some (f y) := by
    intro y hy
    simp [World.updateConnection, Table.find?_update, hy]
  constructor
  · rintro ⟨old, y, hy, lasts⟩
    refine ⟨old, f y, row y hy, fun live => ?_⟩
    have before := lasts fun closed => live ((tracked y hy).1 closed)
    exact ⟨(tracked y hy).2 before.1, before.2⟩
  · rintro ⟨y, hy, closed⟩
    exact ⟨f y, row y hy, (tracked y hy).1 closed⟩

theorem update_of_ne (other : c' ≠ c) (w : World σ) (f : Connection → Connection) :
    Records b c api w (w.updateConnection c' f) := by
  refine of_rows (fun y hy => ?_) (Nat.le_refl _) fun _ x hx => ⟨x, hx, rfl⟩
  rwa [World.updateConnection, Table.find?_update, if_neg other]

theorem discarded_of_ne (other : c' ≠ c) (w : World σ) :
    Records b c api w (Connection.discarded w c') := by
  unfold Connection.discarded
  split
  · refine of_rows (fun y hy => ?_) (Nat.le_refl _) fun _ x hx => ⟨x, hx, rfl⟩
    exact (w.connections.find?_set _ _ _).trans ((if_neg other).trans hy)
  · exact .refl w

theorem of_closed (known : w.backends.next ≤ w'.backends.next) (closed : w'.HasClosed c) :
    Records b c api w w' :=
  ⟨fun ⟨old, _⟩ => ⟨Nat.lt_of_lt_of_le old known, closed.imp fun _ ⟨hy, shut⟩ =>
    ⟨hy, fun live => absurd shut live⟩⟩, fun _ => closed⟩

theorem of_unknown (unknown : w.connections.find? c = none) : Records b c api w w' := by
  constructor
  · rintro ⟨-, y, hy, -⟩
    cases unknown.symm.trans hy
  · rintro ⟨y, hy, -⟩
    cases unknown.symm.trans hy

theorem addConnection (w : World σ) (x : Connection) :
    Records b c api w { w with connections := (w.connections.add x).2 } := by
  refine of_rows (fun y hy => ?_) (Nat.le_refl _) fun _ x hx => ⟨x, hx, rfl⟩
  rw [Table.find?_add, if_neg]
  · exact hy
  · rintro rfl
    simp [Table.find?_next] at hy

/-! ## What is not about connections -/

instance heeds : Heeds (σ := σ) (Records b c api) ⟨[.connections, .backends], []⟩ :=
  .of_silent .trans fun same => .of_same (same .connections (by decide)) (same .backends (by decide))

instance footing : Footing (Keeps (σ := σ) (Records b c api)) := Heeds.footing

instance base : Base (Keeps (σ := σ) (Records b c api)) := Heeds.base_of_kept share erase

instance overlooksProxies : OverlooksProxies (Keeps (σ := σ) (Records b c api)) :=
  Heeds.overlooksProxies

instance overlooksDiscoveries : OverlooksDiscoveries (Keeps (σ := σ) (Records b c api)) :=
  Heeds.overlooksDiscoveries

instance overlooksTimers : OverlooksTimers (Keeps (σ := σ) (Records b c api)) :=
  Heeds.overlooksTimers

instance overlooks (i : InterfaceId) : Overlooks (Keeps (σ := σ) (Records b c api)) i :=
  Heeds.overlooks i

instance overlooksDevices : OverlooksDevices (Keeps (σ := σ) (Records b c api)) :=
  Heeds.overlooksDevices

instance overlooksLoop : OverlooksLoop (Keeps (σ := σ) (Records b c api)) := Heeds.overlooksLoop

instance interfaceLives : InterfaceLives (Keeps (σ := σ) (Records b c api)) := Heeds.interfaceLives

instance backendLives : BackendLives (Keeps (σ := σ) (Records b c api)) where
  addBackend part := ⟨fun w => .addBackend w part⟩
  alterBackend _ _ same := ⟨fun w => .alter w fun x => by simp [(same x).2.2.2.1]⟩

instance tells [u : Upheld (Keeps (Records b c api)) env] :
    Tells (Keeps (Records b c api)) env c' where
  tell event := by
    have : EntryCalls (Keeps (Records b c api)) env := Entry.calls_of_overlooks
    have told : Holds (Keeps (σ := σ) (Records b c api)) (mark (.told c' event)) :=
      ⟨fun _ => .of_same rfl rfl⟩
    unfold Connection.tell
    refine Holds.bind (h := fun _ => Holds.bind (h := fun w => ?_))
    cases (w.connection c').sink <;> infer_instance

/-! ## The connection -/

instance accompanies : Accompanies (σ := σ) (Records b c api) c where
  trans := .trans
  hasClosed := Records.closed
  moves w _ moves := .update w fun y hy => ⟨(moves y hy).shut, (moves y hy).tracked⟩
  runHook {w} closed hook := by
    obtain ⟨y, hy, shut⟩ := closed
    have row : (w.updateConnection c fun x => { x with done := x.done ++ [hook] }).HasClosed c :=
      ⟨{ y with done := y.done ++ [hook] },
        by simp [World.updateConnection, Table.find?_update, hy], shut⟩
    cases hook <;> exact of_closed (Nat.le_of_eq (Table.next_update _ _ _).symm) row
  dropHooks {w} closed := by
    obtain ⟨y, hy, shut⟩ := closed
    exact of_closed (Nat.le_refl _)
      ⟨{ y with hooks := [] }, by simp [World.updateConnection, Table.find?_update, hy], shut⟩

theorem onClosed (hook : CloseHook) :
    Holds (Keeps (σ := σ) (Records b c api)) (Connection.onClosed c hook) := by
  have noted : Holds (Keeps (σ := σ) (Records b c api))
      (modify (·.updateConnection c fun x => { x with noted := x.noted ++ [hook] })) :=
    ⟨fun w => .update w fun _ _ => ⟨id, fun tracked => { tracked with }⟩⟩
  refine ⟨fun w => ?_⟩
  unfold Connection.onClosed
  rw [run_bind, run_modify, run_bind, run_get]
  dsimp only
  cases hy : w.connections.find? c with
  | none => exact of_unknown hy
  | some y =>
      refine .trans (noted.holds w) ?_
      rw [run_modify]
      generalize hnoted : w.updateConnection c _ = w'
      have row : w'.connections.find? c = some { y with noted := y.noted ++ [hook] } := by
        rw [← hnoted]
        simp [World.updateConnection, Table.find?_update, hy]
      split
      · next closed =>
          exact accompanies.runHook ⟨_, row, World.connection_of_find? row ▸ closed⟩ hook
      · exact .update _ fun _ _ => ⟨id, fun ⟨untracks, forgets⟩ =>
          ⟨List.mem_append_left _ untracks, List.mem_append_left _ forgets⟩⟩

/-! ## Other connections -/

theorem beside (other : c' ≠ c) :
    OverlooksConnection (Keeps (σ := σ) (Records b c api)) c' ∧
      Untracks (Keeps (σ := σ) (Records b c api)) c' where
  left := {
    update _ _ w := .update_of_ne other w _
    opening _ _ := .of_same rfl rfl
    opened _ := .of_same rfl rfl
    discarded w := .discarded_of_ne other w
    told _ _ := .of_same rfl rfl }
  right := {
    untrack _ := ⟨fun w => .alter w fun _ => rfl⟩
    forgetApi _ := ⟨fun w => .alter w fun x => x.api?_forgetApi_of_ne other⟩ }

theorem every {α : Type} {a : ConnectionId → Act σ α}
    (own : Holds (Keeps (Records b c api)) (a c))
    (others : ∀ c', OverlooksConnection (Keeps (σ := σ) (Records b c api)) c' →
      Untracks (Keeps (σ := σ) (Records b c api)) c' → Holds (Keeps (Records b c api)) (a c'))
    (c' : ConnectionId) : Holds (Keeps (Records b c api)) (a c') :=
  Connection.of_beside (fun _ => beside) own (fun c' both => others c' both.1 both.2) c'

instance connectionLives : ConnectionLives (Keeps (σ := σ) (Records b c api)) where
  create h b' address sink := by
    have added : Holds (Keeps (σ := σ) (Records b c api)) (modifyGet fun w =>
        let (c, connections) := w.connections.add { device := h, backend := b', address, sink }
        (c, { w with connections })) :=
      ⟨fun w => .addConnection w _⟩
    unfold Connection.create
    infer_instance
  onClosed c' hook :=
    every (a := fun c => Connection.onClosed c hook) (onClosed hook)
      (fun _ _ _ => Connection.onClosed_overlooked hook) c'
  opening _ _ := ⟨fun _ => .of_same rfl rfl⟩
  opened _ := ⟨fun _ => .of_same rfl rfl⟩

instance connectionNotes : ConnectionNotes (Keeps (σ := σ) (Records b c api)) where
  createConnection _ _ _ _ := inferInstance
  beginClose := every Connection.beginClose_accompanied
    fun _ _ _ => Connection.beginClose_overlooked
  attach c' token :=
    every (a := fun c => (Connection.attach c token).run) (Connection.attach_accompanied token)
      (fun _ _ _ => Connection.attach_overlooked token) c'
  detach := every Connection.detach_accompanied fun _ _ _ => Connection.detach_overlooked

section Calls

variable [u : Upheld (Keeps (Records b c api)) env]

instance connectionCalls : ConnectionCalls (Keeps (Records b c api)) env := by
  have : EntryCalls (Keeps (Records b c api)) env := Entry.calls_of_overlooks
  have announces : Holds (Keeps (Records b c api)) (Connection.connecting env c).run :=
    Connection.connecting_accompanied
  have establishes : ∀ link api', Holds (Keeps (Records b c api))
      (Connection.connected env c link api').run := Connection.connected_accompanied
  have ends : Holds (Keeps (Records b c api)) (Connection.disconnected env c).run :=
    Connection.disconnected_accompanied
  have fails : Holds (Keeps (Records b c api)) (Connection.failed env c).run :=
    Connection.failed_accompanied
  have cancels : ∀ reason, Holds (Keeps (Records b c api)) (Connection.cancel env c reason).run :=
    Connection.cancel_accompanied
  have reports : ∀ status, Holds (Keeps (Records b c api))
      (Connection.reportLink env c status).run := Connection.reportLink_overlooked
  have disposes : Holds (Keeps (Records b c api)) (Connection.dispose env c).run :=
    Connection.dispose_accompanied
  exact Connection.calls_of_own fun _ => beside

end Calls

end Records

/-! ## Starts of other connections -/

namespace Backend

instance make_records (h : DeviceHandle) (address : String) (sink : Sink) :
    Holds (Keeps (σ := σ) (Records b c api)) (make b' h address sink) := by
  have noted : ∀ c', Holds (Keeps (σ := σ) (Records b c api))
      (modify (·.updateBackend b' (·.noteMade c'))) := fun _ => ⟨fun w => .alter w fun _ => rfl⟩
  have tracked : ∀ c', Holds (Keeps (σ := σ) (Records b c api))
      (modify (·.updateBackend b' (·.track c'))) := fun _ => ⟨fun w => .alter w fun _ => rfl⟩
  unfold make trackLive
  infer_instance

theorem makeThen_records {α : Type} {h : DeviceHandle} {address : String} {sink : Sink}
    {next : ConnectionId → Try σ α}
    (rest : ∀ c', c' ≠ c → Holds (Keeps (Records b c api)) (next c').run) :
    Holds (Keeps (Records b c api)) (act (make b' h address sink) >>= next).run := by
  refine ⟨fun w => ?_⟩
  cases known : w.connections.find? c with
  | none => exact .of_unknown known
  | some y =>
      rw [run_actThen]
      have kept : Holds (Keeps (σ := σ) (Records b c api)) (make b' h address sink) :=
        make_records h address sink
      have made := kept.holds w
      obtain ⟨w', runs, -⟩ := run_make b' h address sink w
      rw [runs] at made ⊢
      refine made.trans ((rest _ ?_).holds w')
      rintro rfl
      simp [Table.find?_next] at known

variable [u : Upheld (Keeps (Records b c api)) env]

theorem withdraw_records (other : c' ≠ c) :
    Holds (Keeps (Records b c api)) (withdraw env b' c') := by
  obtain ⟨_, _⟩ : OverlooksConnection (Keeps (σ := σ) (Records b c api)) c' ∧
      Untracks (Keeps (σ := σ) (Records b c api)) c' := Records.beside other
  have struck : Holds (Keeps (σ := σ) (Records b c api))
      (modify (·.updateBackend b' fun x => (x.untrack c').forgetApi c')) :=
    ⟨fun w => .alter w fun x => (x.untrack c').api?_forgetApi_of_ne other⟩
  have given : Holds (Keeps (Records b c api)) (Connection.giveUp env c') :=
    Connection.giveUp_overlooked
  unfold withdraw
  infer_instance

theorem reject_records (other : c' ≠ c) :
    Holds (Keeps (Records b c api)) (reject env b' c') := by
  obtain ⟨_, _⟩ : OverlooksConnection (Keeps (σ := σ) (Records b c api)) c' ∧
      Untracks (Keeps (σ := σ) (Records b c api)) c' := Records.beside other
  have given : Holds (Keeps (Records b c api)) (Connection.giveUp env c') :=
    Connection.giveUp_overlooked
  unfold reject
  infer_instance

theorem trackApi_records (other : c' ≠ c) (api' : DeviceApi) :
    Holds (Keeps (σ := σ) (Records b c api)) (trackApi b' c' api') := by
  have noted : Holds (Keeps (σ := σ) (Records b c api))
      (modify (·.updateBackend b' (·.noteApi c' api'))) :=
    ⟨fun w => .alter w fun x => x.api?_noteApi_of_ne other api'⟩
  infer_instance

instance starts_records : ConnectionStarts (Keeps (Records b c api)) env where
  start b' h info agent sink := by
    unfold start
    refine Holds.tryBind (h := fun w => ?_)
    cases (w.backend b').part with
    | net part =>
        refine makeThen_records fun c' other => ?_
        have : Holds (Keeps (Records b c api)) (withdraw env b' c') := withdraw_records other
        have : ∀ api', Holds (Keeps (σ := σ) (Records b c api)) (trackApi b' c' api') :=
          trackApi_records other
        infer_instance
    | ble part =>
        refine makeThen_records fun c' other => ?_
        have : Holds (Keeps (Records b c api)) (reject env b' c') := reject_records other
        dsimp only
        infer_instance
    | mux part =>
        have made : ∀ address, Holds (Keeps (σ := σ) (Records b c api))
            (make b' h address sink) := fun _ => inferInstance
        have deferred : ∀ job, Holds (Keeps (σ := σ) (Records b c api)) (defer job) :=
          fun _ => ⟨fun _ => .of_same rfl rfl⟩
        unfold startMux
        infer_instance

end Backend

/-! ## Runs -/

namespace Records

instance registryLives : RegistryLives (Keeps (σ := σ) (Records b c api)) :=
  Registry.lives_of_overlooks

instance alone : Alone (Keeps (σ := σ) (Records b c api)) where

theorem together (_ : Upheld (Keeps (Records b c api)) env) :
    Together (Keeps (Records b c api)) env := by
  have : InterfaceCalls (Keeps (Records b c api)) env := Interface.calls_of_steps
  have : InterfaceRetries (Keeps (Records b c api)) env := Interface.retries_of_steps
  have : RegistryCalls (Keeps (Records b c api)) env := Registry.calls_of_overlooks
  have : LoopCalls (Keeps (Records b c api)) env := Loop.calls_of_steps
  exact {}

end Records

theorem Hosted.records {α : Type} {a : Act σ α} (hosted : Hosted env)
    (reaction : Reaction env α a) : Keeps (Records b c api) α a := by
  have : Together (Keeps (Records b c api)) env :=
    hosted.together fun _ u _ => Records.together u
  exact reaction.holds

end DroneControl
