import DroneControl.Proofs.Backend.Roster
import DroneControl.Proofs.Connection.Passive

/-!
# What a connection that has closed is left with

A connection is closed before its sink is told how it ended, and what was noted to be done on its
closing is done last of all.  Whoever is called back in between finds a closed connection: nothing is
told of it any more, its hooks wait for the operation that closed it, and if its backend has room for
one connection only, the place stays taken.  A connection that is known is never given up, as that
happens to new ones only.
-/

set_option synthInstance.maxSize 2048

namespace DroneControl

variable {σ : Type} {b b' : BackendId} {c c' : ConnectionId} {w w' w'' : World σ} {env : Env σ}

/-! ## Connections that are not given up -/

/-- A connection stays closed if it was, and goes on handing over its handles in turn. -/
structure Connection.GoesOver (x x' : Connection) : Prop where
  shut : x.state = .closed → x'.state = .closed
  handles : x.HandsOver x'

namespace Connection.GoesOver

variable {x x' x'' : Connection}

theorem refl (x : Connection) : x.GoesOver x := ⟨id, .of_same rfl rfl⟩

theorem trans (first : x.GoesOver x') (second : x'.GoesOver x'') : x.GoesOver x'' :=
  ⟨second.shut ∘ first.shut, first.handles.trans second.handles⟩

end Connection.GoesOver

/-- A connection that is known stays known, closed if it was, and is not given up.  The past stays. -/
structure Persists (c : ConnectionId) (w w' : World σ) : Prop where
  known : ∀ x, w.connections.find? c = some x →
    ∃ x', w'.connections.find? c = some x' ∧ x.GoesOver x'
  spared : (w.connections.find? c).isSome → w'.GivenUp c → w.GivenUp c
  grown : (w.connections.find? c).isSome → w.history <:+ w'.history

namespace Persists

theorem refl (w : World σ) : Persists c w w :=
  ⟨fun x row => ⟨x, row, .refl x⟩, fun _ => id, fun _ => List.suffix_rfl⟩

theorem isSome (persists : Persists c w w') (known : (w.connections.find? c).isSome) :
    (w'.connections.find? c).isSome := by
  obtain ⟨x, row⟩ := Option.isSome_iff_exists.mp known
  obtain ⟨x', row', -⟩ := persists.known x row
  exact Option.isSome_of_eq_some row'

theorem trans (first : Persists c w w') (second : Persists c w' w'') : Persists c w w'' where
  known x row := by
    obtain ⟨x', row', goes⟩ := first.known x row
    obtain ⟨x'', row'', goes'⟩ := second.known x' row'
    exact ⟨x'', row'', goes.trans goes'⟩
  spared known := first.spared known ∘ second.spared (first.isSome known)
  grown known := (first.grown known).trans (second.grown (first.isSome known))

theorem hasClosed (persists : Persists c w w') : w.HasClosed c → w'.HasClosed c := by
  rintro ⟨x, row, closed⟩
  obtain ⟨x', row', goes⟩ := persists.known x row
  exact ⟨x', row', goes.shut closed⟩

theorem of_history (known : ∀ x, w.connections.find? c = some x →
      ∃ x', w'.connections.find? c = some x' ∧ x.GoesOver x')
    (history : w'.history = w.history) : Persists c w w' :=
  ⟨known, fun _ given => World.givenUp_congr history c ▸ given,
    fun _ => history ▸ List.suffix_rfl⟩

theorem of_same (connections : w'.connections = w.connections) (history : w'.history = w.history) :
    Persists c w w' :=
  of_history (fun x row => ⟨x, connections ▸ row, .refl x⟩) history

theorem update (w : World σ) {f : Connection → Connection}
    (goes : ∀ x, w.connections.find? c' = some x → x.GoesOver (f x)) :
    Persists c w (w.updateConnection c' f) := by
  refine of_history (fun x row => ?_) rfl
  simp only [World.updateConnection, Table.find?_update]
  split
  · next here =>
      subst here
      exact ⟨f x, by simp [row], goes x row⟩
  · exact ⟨x, row, .refl x⟩

theorem mark (w : World σ) {o : Occurrence} (other : o ≠ .discarded c) : Persists c w (w.mark o) where
  known x row := ⟨x, row, .refl x⟩
  spared _ given := ((World.givenUp_mark w c o).mp given).resolve_right other
  grown _ := List.suffix_cons _ _

instance heeds : Heeds (σ := σ) (Persists c) ⟨[.connections, .history], [.discard]⟩ where
  trans := .trans
  aside same := .of_same (same .connections (by decide)) (same .history (by decide))
  mark w o other := .mark w fun given => other (by simp [given, Occurrence.topic])

instance footing : Footing (Keeps (σ := σ) (Persists c)) := Heeds.footing

instance base : Base (Keeps (σ := σ) (Persists c)) := Heeds.base

instance holds_runHook (hook : CloseHook) :
    Holds (Keeps (σ := σ) (Persists c)) (Connection.runHook c hook) := by
  refine ⟨fun w => ?_⟩
  have noted : Persists c w (w.updateConnection c fun x => { x with done := x.done ++ [hook] }) :=
    .update w fun _ _ => ⟨id, .of_same rfl rfl⟩
  cases hook <;> exact noted.trans (.of_same rfl rfl)

instance holds_onClosed (hook : CloseHook) :
    Holds (Keeps (σ := σ) (Persists c)) (Connection.onClosed c hook) := by
  have noted : Holds (Keeps (σ := σ) (Persists c))
      (modify (·.updateConnection c fun x => { x with noted := x.noted ++ [hook] })) :=
    ⟨fun w => .update w fun _ _ => ⟨id, .of_same rfl rfl⟩⟩
  have kept : Holds (Keeps (σ := σ) (Persists c))
      (modify (·.updateConnection c fun x => { x with hooks := x.hooks ++ [hook] })) :=
    ⟨fun w => .update w fun _ _ => ⟨id, .of_same rfl rfl⟩⟩
  unfold Connection.onClosed
  infer_instance

instance accompanies : Accompanies (σ := σ) (Persists c) c where
  trans := .trans
  hasClosed := hasClosed
  moves w _ moves := .update w fun x row => ⟨(moves x row).shut, (moves x row).handles⟩
  runHook _ hook := (holds_runHook hook).holds _
  dropHooks {w} _ := .update w fun _ _ => ⟨id, .of_same rfl rfl⟩

end Persists

/-! ## Connections that rest -/

/-- The backend has room for one connection, which it is. -/
def World.Occupied (w : World σ) (b : BackendId) (c : ConnectionId) : Prop :=
  b.number < w.backends.next ∧
    ∀ x, w.backends.find? b = some x → x.kind = .mux ∧ x.live = [c]

/-- A closed connection stays as it is, with its hooks and its place; nothing is told of it. -/
structure Rests (c : ConnectionId) (w w' : World σ) : Prop extends Persists c w w' where
  row : ∀ x, w.connections.find? c = some x → x.state = .closed →
    ∃ x', w'.connections.find? c = some x' ∧ x'.state = .closed ∧ x'.hooks = x.hooks
  heard : w.HasClosed c → w'.heard c = w.heard c
  occupied : w.HasClosed c → ∀ b, w.Occupied b c → w'.Occupied b c

namespace Rests

theorem refl (w : World σ) : Rests c w w :=
  ⟨.refl w, fun x row closed => ⟨x, row, closed, rfl⟩, fun _ => rfl, fun _ _ => id⟩

theorem trans (first : Rests c w w') (second : Rests c w' w'') : Rests c w w'' where
  toPersists := first.toPersists.trans second.toPersists
  row x row closed := by
    obtain ⟨x', row', closed', hooks⟩ := first.row x row closed
    obtain ⟨x'', row'', closed'', hooks'⟩ := second.row x' row' closed'
    exact ⟨x'', row'', closed'', hooks'.trans hooks⟩
  heard closed := (second.heard (first.hasClosed closed)).trans (first.heard closed)
  occupied closed b := second.occupied (first.hasClosed closed) b ∘ first.occupied closed b

theorem of_row (row : ∀ x, w.connections.find? c = some x → w'.connections.find? c = some x)
    (history : w'.history = w.history) (occupied : ∀ b, w.Occupied b c → w'.Occupied b c) :
    Rests c w w' where
  toPersists := .of_history (fun x here => ⟨x, row x here, .refl x⟩) history
  row x here closed := ⟨x, row x here, closed, rfl⟩
  heard _ := World.heard_congr history c
  occupied _ := occupied

theorem of_same (connections : w'.connections = w.connections) (history : w'.history = w.history)
    (backends : w'.backends = w.backends) : Rests c w w' := by
  refine of_row (fun _ row => connections ▸ row) history fun b => ?_
  unfold World.Occupied
  rw [backends]
  exact id

theorem mark (w : World σ) {o : Occurrence} (untold : o.told? c = none) (other : o ≠ .discarded c) :
    Rests c w (w.mark o) where
  toPersists := .mark w other
  row x row closed := ⟨x, row, closed, rfl⟩
  heard _ := by simp [World.heard_mark, untold]
  occupied _ _ := id

theorem log (w : World σ) (s : Severity) (message : String) (fields : List (String × String)) :
    Rests c w (w.log s message fields) :=
  of_same (w.log_connections _ _ _) (w.log_history _ _ _) (w.log_backends _ _ _)

theorem update (w : World σ) {f : Connection → Connection}
    (closed : ∀ x, x.state = .closed → (f x).state = .closed ∧ (f x).hooks = x.hooks)
    (handles : ∀ x : Connection, x.HandsOver (f x)) : Rests c w (w.updateConnection c f) where
  toPersists := .update w fun x _ => ⟨fun shut => (closed x shut).1, handles x⟩
  row x row shut := ⟨f x, by simp [World.updateConnection, Table.find?_update, row], closed x shut⟩
  heard _ := rfl
  occupied _ _ := id

theorem update_of_ne (other : c' ≠ c) (w : World σ) (f : Connection → Connection) :
    Rests c w (w.updateConnection c' f) := by
  refine of_row (fun x row => ?_) rfl fun _ => id
  rwa [World.updateConnection, Table.find?_update, if_neg other]

theorem discarded_of_ne (other : c' ≠ c) (w : World σ) :
    Rests c w (Connection.discarded w c') := by
  unfold Connection.discarded
  split
  · next x _ =>
      have dropped : Rests c w
          { w with connections := w.connections.set c' { x.closed with attached := none } } :=
        of_row (fun y row => (w.connections.find?_set _ _ _).trans ((if_neg other).trans row)) rfl
          fun _ => id
      exact dropped.trans (.mark _ rfl (by simpa using other))
  · exact .refl w

theorem addConnection (w : World σ) (x : Connection) :
    Rests c w { w with connections := (w.connections.add x).2 } := by
  refine of_row (fun y row => ?_) rfl fun _ => id
  rw [Table.find?_add, if_neg]
  · exact row
  · rintro rfl
    simp [Table.find?_next] at row

theorem of_unknown (unknown : w.connections.find? c = none) : Rests c w w' := by
  have new : ¬w.HasClosed c := by
    rintro ⟨x, row, -⟩
    cases unknown.symm.trans row
  refine ⟨⟨fun x row => ?_, fun known => ?_, fun known => ?_⟩, fun x row => ?_,
    fun closed => absurd closed new, fun closed => absurd closed new⟩
  · cases unknown.symm.trans row
  · simp [unknown] at known
  · simp [unknown] at known
  · cases unknown.symm.trans row

theorem alter (w : World σ) {f : Backend → Backend}
    (same : ∀ x, w.backends.find? b' = some x → x.kind = .mux → x.live = [c] →
      (f x).kind = x.kind ∧ (f x).live = x.live) : Rests c w (w.updateBackend b' f) := by
  refine of_row (fun _ => id) rfl ?_
  rintro b ⟨old, place⟩
  refine ⟨Nat.lt_of_lt_of_eq old (Table.next_update _ _ _).symm, fun x' row => ?_⟩
  rw [World.updateBackend, Table.find?_update] at row
  split at row
  · next here =>
      subst here
      obtain ⟨x, known, rfl⟩ := Option.map_eq_some_iff.mp row
      obtain ⟨kind, live⟩ := place x known
      obtain ⟨kind', live'⟩ := same x known kind live
      exact ⟨kind'.trans kind, live'.trans live⟩
  · exact place x' row

theorem addBackend (w : World σ) (part : BackendPart) :
    Rests c w { w with backends := (w.backends.add { part }).2 } := by
  refine of_row (fun _ => id) rfl ?_
  rintro b ⟨old, place⟩
  refine ⟨Nat.lt_trans old (by simp [Table.next_add]), fun x row => place x ?_⟩
  rwa [Table.find?_add, if_neg] at row
  rintro rfl
  exact Nat.lt_irrefl _ old

theorem share (w : World σ) (f : Nat → Nat) (k : Kept) : Rests c w (w.reshare f k) := by
  cases k with
  | backend b => exact alter w fun _ _ _ _ => ⟨rfl, rfl⟩
  | _ => exact of_same rfl rfl rfl

theorem erase (w : World σ) (k : Kept) : Rests c w (w.erase k) := by
  cases k with
  | backend b' =>
      refine of_row (fun _ => id) rfl ?_
      rintro b ⟨old, place⟩
      refine ⟨old, fun x row => place x ?_⟩
      simp only [World.erase, Table.find?_erase] at row
      split at row
      · cases row
      · exact row
  | _ => exact of_same rfl rfl rfl

/-! ## What is not about connections -/

instance heeds :
    Heeds (σ := σ) (Rests c) ⟨[.connections, .history, .backends], [.connection, .discard]⟩ where
  trans := .trans
  aside same :=
    .of_same (same .connections (by decide)) (same .history (by decide)) (same .backends (by decide))
  mark w o other :=
    .mark w (Occurrence.told?_eq_none fun about => other (by simp [about])) fun given =>
      other (by simp [given, Occurrence.topic])

instance footing : Footing (Keeps (σ := σ) (Rests c)) := Heeds.footing

instance base : Base (Keeps (σ := σ) (Rests c)) := Heeds.base_of_kept share erase

instance overlooksProxies : OverlooksProxies (Keeps (σ := σ) (Rests c)) := Heeds.overlooksProxies

instance overlooksDiscoveries : OverlooksDiscoveries (Keeps (σ := σ) (Rests c)) :=
  Heeds.overlooksDiscoveries

instance overlooksTimers : OverlooksTimers (Keeps (σ := σ) (Rests c)) := Heeds.overlooksTimers

instance overlooks (i : InterfaceId) : Overlooks (Keeps (σ := σ) (Rests c)) i := Heeds.overlooks i

instance overlooksDevices : OverlooksDevices (Keeps (σ := σ) (Rests c)) := Heeds.overlooksDevices

instance overlooksLoop : OverlooksLoop (Keeps (σ := σ) (Rests c)) := Heeds.overlooksLoop

instance interfaceLives : InterfaceLives (Keeps (σ := σ) (Rests c)) := Heeds.interfaceLives

instance backendLives : BackendLives (Keeps (σ := σ) (Rests c)) where
  addBackend part := ⟨fun w => .addBackend w part⟩
  alterBackend _ _ same := ⟨fun w => .alter w fun x _ _ _ => ⟨(same x).2.2.1, (same x).1⟩⟩

/-! ## Other connections -/

theorem live_untrack {x : Backend} (other : c' ≠ c) (only : x.live = [c]) :
    (x.untrack c').live = x.live := by
  simp [Backend.untrack, only, other.symm]

theorem beside (other : c' ≠ c) :
    OverlooksConnection (Keeps (σ := σ) (Rests c)) c' ∧ Untracks (Keeps (σ := σ) (Rests c)) c' where
  left := {
    update _ _ w := .update_of_ne other w _
    opening _ w := .mark w rfl (by simp)
    opened w := .mark w rfl (by simp)
    discarded w := .discarded_of_ne other w
    told _ w := .mark w (by simp [Occurrence.told?, other]) (by simp) }
  right := {
    untrack _ := ⟨fun w => .alter w fun _ _ _ only => ⟨rfl, live_untrack other only⟩⟩
    forgetApi _ := ⟨fun w => .alter w fun x _ _ _ =>
      ⟨(x.forgetApi_keeps c').2.2, (x.forgetApi_keeps c').1⟩⟩ }

/-! ## The connection itself -/

theorem of_persists {α : Type} {a : Act σ α} (persists : Holds (Keeps (Persists c)) a)
    (rests : ∀ w : World σ, w.HasClosed c → Rests c w (a.run w).2) :
    Holds (Keeps (Rests c)) a := by
  refine ⟨fun w => ?_⟩
  by_cases closed : w.HasClosed c
  · exact rests w closed
  · exact ⟨persists.holds w, fun x row shut => absurd ⟨x, row, shut⟩ closed,
      fun shut => absurd shut closed, fun shut => absurd shut closed⟩

end Rests

namespace Connection

section Own

variable [u : Upheld (Keeps (Rests c)) env]

variable (env) in
theorem tell_rests (event : ConnectionEvent) (w : World σ) :
    Rests c (w.mark (.told c event)) ((tell env c event).run w).2 := by
  have follows : EntryCalls (Keeps (Rests c)) env := Entry.calls_of_overlooks
  unfold tell
  rw [run_bind, run_mark, run_bind, run_get]
  split
  · next r h _ => exact (follows.follow r h c event).holds _
  · next l _ => exact u.tell l _ _

/-! A connection that is not closed is spared by its transitions, since it is by the host. -/

instance upheld_persists : Upheld (Keeps (Persists c)) env where
  tell l event w := (u.tell l event w).toPersists
  ask request w := (u.ask request w).toPersists
  order order w := (u.order order w).toPersists
  openSession h address c' w := (u.openSession h address c' w).toPersists
  openChannel o descriptor uplink w := (u.openChannel o descriptor uplink w).toPersists
  reap item w := (u.reap item w).toPersists

instance tells_persists : Tells (Keeps (Persists c)) env c where
  tell event := ⟨fun w =>
    (Persists.mark w (o := .told c event) (by simp)).trans (tell_rests env event w).toPersists⟩

theorem run_checkThen_closed {β : Type} (closed : w.HasClosed c) (operation : String)
    {allowed : List ConnectionState} (other : .closed ∉ allowed) (next : Unit → Try σ β) :
    Rests c w ((check c operation allowed >>= next).run.run w).2 := by
  rw [run_checkThen, closed.state, if_neg other]
  exact .log _ _ _ _

instance connecting_rests : Holds (Keeps (Rests c)) (connecting env c).run :=
  Rests.of_persists connecting_accompanied fun _ closed => run_checkThen_closed closed _ (by simp) _

instance connected_rests (link : Link) (api : DeviceApi) :
    Holds (Keeps (Rests c)) (connected env c link api).run :=
  Rests.of_persists (connected_accompanied link api) fun _ closed =>
    run_checkThen_closed closed _ (by simp) _

instance failed_rests : Holds (Keeps (Rests c)) (failed env c).run :=
  Rests.of_persists failed_accompanied fun _ closed => run_checkThen_closed closed _ (by simp) _

instance reportLink_rests (status : LinkStatus) :
    Holds (Keeps (Rests c)) (reportLink env c status).run :=
  Rests.of_persists (reportLink_overlooked status) fun _ closed =>
    run_checkThen_closed closed _ (by simp) _

instance cancel_rests (reason : CancelReason) :
    Holds (Keeps (Rests c)) (cancel env c reason).run := by
  refine Rests.of_persists (cancel_accompanied reason) fun w closed => ?_
  unfold cancel
  rw [run_lookThen, closed.state, if_pos rfl]
  exact .log _ _ _ _

instance disconnected_rests : Holds (Keeps (Rests c)) (disconnected env c).run := by
  refine Rests.of_persists disconnected_accompanied fun w closed => ?_
  unfold disconnected
  rw [run_lookThen, closed.state]
  exact .log _ _ _ _

instance dispose_rests : Holds (Keeps (Rests c)) (dispose env c).run := by
  have dropped : Holds (Keeps (σ := σ) (Rests c))
      (modify (·.updateConnection c fun x => { x with pipe := none })) :=
    ⟨fun w => .update w (fun _ closed => ⟨closed, rfl⟩) fun _ => .of_same rfl rfl⟩
  unfold dispose
  refine Holds.tryBind (h := fun w => ?_)
  dsimp only
  split
  · infer_instance
  · split
    case' isTrue => refine Holds.tryBind (h := fun _ => Holds.tryBind (h := fun _ => ?_))
    all_goals
      refine Holds.tryBind (h := fun w => ?_)
      cases (w.connection c).pipe <;> infer_instance

end Own

/-! A request to close, and what is attached to a connection, is noted on it. -/

theorem beginClose_rests : Holds (Keeps (σ := σ) (Rests c)) (beginClose c) := by
  refine ⟨fun w => .update w (fun x closed => ?_) fun x => x.movesTo_closeRequested.handles⟩
  unfold closeRequested
  rw [closed]
  exact ⟨closed, rfl⟩

theorem attach_rests (token : Token) :
    Holds (Keeps (σ := σ) (Rests c)) (attach c token).run := by
  have noted : Holds (Keeps (σ := σ) (Rests c))
      (modify (·.updateConnection c (·.attaching token))) :=
    ⟨fun w => .update w (fun _ closed => ⟨closed, rfl⟩) fun x => .attaching x token⟩
  unfold attach
  dsimp only
  infer_instance

theorem detach_rests : Holds (Keeps (σ := σ) (Rests c)) (detach c).run := by
  have noted : Holds (Keeps (σ := σ) (Rests c))
      (modify (·.updateConnection c detaching)) :=
    ⟨fun w => .update w (fun _ closed => ⟨closed, rfl⟩) .detaching⟩
  unfold detach
  refine Holds.tryBind (h := fun w => ?_)
  cases (w.connection c).attached <;> infer_instance

instance create_rests (h : DeviceHandle) (b : BackendId) (address : String) (sink : Sink) :
    Holds (Keeps (σ := σ) (Rests c)) (create h b address sink) := by
  have added : Holds (Keeps (σ := σ) (Rests c)) (modifyGet fun w =>
      let (c, connections) := w.connections.add { device := h, backend := b, address, sink }
      (c, { w with connections })) :=
    ⟨fun w => .addConnection w _⟩
  unfold create
  infer_instance

end Connection

namespace Rests

theorem every {α : Type} {a : ConnectionId → Act σ α} (own : Holds (Keeps (Rests c)) (a c))
    (others : ∀ c', OverlooksConnection (Keeps (σ := σ) (Rests c)) c' → Holds (Keeps (Rests c)) (a c'))
    (c' : ConnectionId) : Holds (Keeps (Rests c)) (a c') :=
  Connection.of_own (fun _ other => (beside other).1) own others c'

instance connectionNotes : ConnectionNotes (Keeps (σ := σ) (Rests c)) where
  createConnection _ _ _ _ := inferInstance
  beginClose := every Connection.beginClose_rests fun _ _ => Connection.beginClose_overlooked
  attach c' token :=
    every (a := fun c => (Connection.attach c token).run) (Connection.attach_rests token)
      (fun _ _ => Connection.attach_overlooked token) c'
  detach := every Connection.detach_rests fun _ _ => Connection.detach_overlooked

instance connectionCalls [Upheld (Keeps (Rests c)) env] :
    ConnectionCalls (Keeps (Rests c)) env := by
  have : EntryCalls (Keeps (Rests c)) env := Entry.calls_of_overlooks
  exact Connection.calls_of_own fun _ => beside

end Rests

/-! ## The start of other connections -/

namespace Backend

theorem make_rests (room : ∀ x, w.backends.find? b' = some x → x.kind = .mux → x.live = [])
    (h : DeviceHandle) (address : String) (sink : Sink) :
    Rests c w ((make b' h address sink).run w).2 := by
  cases known : w.connections.find? c with
  | none => exact .of_unknown known
  | some y =>
      have created : Holds (Keeps (σ := σ) (Rests c)) (Connection.create h b' address sink) :=
        inferInstance
      have backends : ((Connection.create h b' address sink).run w).2.backends = w.backends := by
        unfold Connection.create
        rw [run_bind, run_modifyGet, run_bind, run_log]
        exact World.log_backends _ _ _ _
      have other : ((Connection.create h b' address sink).run w).1 ≠ c := by
        have new : ((Connection.create h b' address sink).run w).1 = ⟨w.connections.next⟩ := rfl
        rw [new]
        rintro rfl
        simp [Table.find?_next] at known
      have noted : Holds (Keeps (σ := σ) (Rests c))
          (Connection.onClosed ((Connection.create h b' address sink).run w).1 (.untrack b')) := by
        obtain ⟨_, _⟩ := Rests.beside (σ := σ) other
        exact Connection.onClosed_overlooked _
      unfold make trackLive
      simp only [run_bind, run_modify, run_pure]
      refine (created.holds w).trans ?_
      generalize (Connection.create h b' address sink).run w = made at backends noted ⊢
      obtain ⟨c₁, w₁⟩ := made
      have noteMade : Rests c w₁ (w₁.updateBackend b' (·.noteMade c₁)) :=
        .alter w₁ fun _ _ _ _ => ⟨rfl, rfl⟩
      refine noteMade.trans (.trans (.alter _ ?_) (noted.holds _))
      -- There is no place taken that the new connection could be after.
      intro x row mux taken
      rw [World.updateBackend, Table.find?_update, if_pos rfl] at row
      obtain ⟨x, before, rfl⟩ := Option.map_eq_some_iff.mp row
      have vacant : x.live = [] := room x (backends ▸ before) mux
      cases vacant.symm.trans taken

theorem makeThen_rests {α : Type} {h : DeviceHandle} {address : String} {sink : Sink}
    {next : ConnectionId → Try σ α}
    (room : ∀ x, w.backends.find? b' = some x → x.kind = .mux → x.live = [])
    (rest : ∀ c', c' ≠ c → Holds (Keeps (Rests c)) (next c').run) :
    Rests c w ((act (make b' h address sink) >>= next).run.run w).2 := by
  cases known : w.connections.find? c with
  | none => exact .of_unknown known
  | some y =>
      rw [run_actThen]
      have made := make_rests (c := c) room h address sink
      obtain ⟨w', runs, -⟩ := run_make b' h address sink w
      rw [runs] at made ⊢
      refine made.trans ((rest _ ?_).holds w')
      rintro rfl
      simp [Table.find?_next] at known

variable [u : Upheld (Keeps (Rests c)) env]

theorem withdraw_rests (other : c' ≠ c) : Holds (Keeps (Rests c)) (withdraw env b' c') := by
  obtain ⟨_, _⟩ := Rests.beside (σ := σ) other
  have struck : Holds (Keeps (σ := σ) (Rests c))
      (modify (·.updateBackend b' fun x => (x.untrack c').forgetApi c')) := by
    refine ⟨fun w => .alter w fun x _ _ only => ?_⟩
    obtain ⟨live, -, kind⟩ := (x.untrack c').forgetApi_keeps c'
    exact ⟨kind, live.trans (Rests.live_untrack other only)⟩
  have given : Holds (Keeps (Rests c)) (Connection.giveUp env c') :=
    Connection.giveUp_overlooked
  unfold withdraw
  infer_instance

theorem reject_rests (other : c' ≠ c) : Holds (Keeps (Rests c)) (reject env b' c') := by
  obtain ⟨_, _⟩ := Rests.beside (σ := σ) other
  have given : Holds (Keeps (Rests c)) (Connection.giveUp env c') :=
    Connection.giveUp_overlooked
  unfold reject
  infer_instance

theorem trackApi_rests (other : c' ≠ c) (api : DeviceApi) :
    Holds (Keeps (σ := σ) (Rests c)) (trackApi b' c' api) := by
  obtain ⟨_, _⟩ := Rests.beside (σ := σ) other
  have noted : Holds (Keeps (σ := σ) (Rests c)) (modify (·.updateBackend b' (·.noteApi c' api))) := by
    refine ⟨fun w => .alter w fun x _ _ _ => ?_⟩
    obtain ⟨live, -, kind⟩ := x.noteApi_keeps c' api
    exact ⟨kind, live⟩
  have hooked : Holds (Keeps (σ := σ) (Rests c)) (Connection.onClosed c' (.forgetApi b')) :=
    Connection.onClosed_overlooked _
  unfold trackApi
  infer_instance

theorem opening_rests {α : Type} (c' : ConnectionId) (sink : Sink) (request : Act σ α)
    [Holds (Keeps (Rests c)) request] : Holds (Keeps (Rests c)) (opening c' sink request) := by
  have asking : Holds (Keeps (σ := σ) (Rests c)) (mark (.opening c' sink)) :=
    ⟨fun w => .mark w rfl (by simp)⟩
  have asked : Holds (Keeps (σ := σ) (Rests c)) (mark (.opened c')) :=
    ⟨fun w => .mark w rfl (by simp)⟩
  unfold opening
  infer_instance

instance starts_rests : ConnectionStarts (Keeps (Rests c)) env where
  start b' h info agent sink := by
    have room : ∀ w : World σ, (w.backend b').kind ≠ .mux →
        ∀ x, w.backends.find? b' = some x → x.kind = .mux → x.live = [] := by
      intro w other x row mux
      simp [World.backend, Table.get, row, mux] at other
    refine ⟨fun w => ?_⟩
    unfold start
    rw [run_lookThen]
    cases which : (w.backend b').part with
    | net part =>
        refine makeThen_rests (room w (by simp [kind, which])) fun c' other => ?_
        have withdrawn : Holds (Keeps (Rests c)) (withdraw env b' c') := withdraw_rests other
        have noted : ∀ api, Holds (Keeps (σ := σ) (Rests c)) (trackApi b' c' api) :=
          trackApi_rests other
        have opened := fun request =>
          opening_rests (c := c) c' sink (env.ask request).run
        infer_instance
    | ble part =>
        refine makeThen_rests (room w (by simp [kind, which])) fun c' other => ?_
        have rejected : Holds (Keeps (Rests c)) (reject env b' c') := reject_rests other
        have opened := opening_rests (c := c) c' sink (env.openSession part.host info.address c')
        dsimp only
        infer_instance
    | mux part =>
        dsimp only
        unfold startMux
        rw [run_lookThen]
        split
        · next empty =>
            refine makeThen_rests (fun x row _ => ?_) fun c' _ => ?_
            · simpa [World.backend, Table.get, row] using empty
            · have deferred : ∀ job, Holds (Keeps (σ := σ) (Rests c)) (defer job) :=
                fun _ => ⟨fun _ => .of_same rfl rfl rfl⟩
              infer_instance
        · exact .refl w

end Backend

/-! ## Runs -/

namespace Rests

instance registryLives : RegistryLives (Keeps (σ := σ) (Rests c)) := Registry.lives_of_overlooks

instance alone : Alone (Keeps (σ := σ) (Rests c)) where

theorem together (_ : Upheld (Keeps (Rests c)) env) : Together (Keeps (Rests c)) env := by
  have : InterfaceCalls (Keeps (Rests c)) env := Interface.calls_of_steps
  have : InterfaceRetries (Keeps (Rests c)) env := Interface.retries_of_steps
  have : RegistryCalls (Keeps (Rests c)) env := Registry.calls_of_overlooks
  have : LoopCalls (Keeps (Rests c)) env := Loop.calls_of_steps
  exact {}

end Rests

theorem Hosted.leavesAtRest (hosted : Hosted env) (c : ConnectionId) :
    Together (Keeps (Rests c)) env :=
  hosted.together fun _ u _ => Rests.together u

end DroneControl
