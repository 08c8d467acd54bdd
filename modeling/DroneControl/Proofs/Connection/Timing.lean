import DroneControl.Proofs.Connection.Closing

/-!
# When the state of the link is reported

The sink of a connection is told of the state of the link only between the beginning of the
connection and its end.  The state of a connection alone does not say so, as it changes before the
sink is told, but nobody can report the state of the link in between, as long as the start of a link
does not call back.
-/

set_option synthInstance.maxSize 2048

namespace DroneControl

variable {σ : Type} {c c' : ConnectionId} {w w' w'' w₁ : World σ} {env : Env σ} {x : Connection}

def Occurrence.reportsLink (c : ConnectionId) : Occurrence → Prop
  | .told c' (.link _) => c' = c
  | _ => False

namespace World

def Timely (w : World σ) (c : ConnectionId) : Prop :=
  ∀ past y, past ++ [y] <+: w.chronicle → y.what.reportsLink c →
    DroneControl.milestones c past = [.connecting, .connected]

structure Past (w : World σ) (c : ConnectionId) : Prop where
  ended : w.HasClosed c
  timely : w.Timely c

def Settled (w : World σ) (c : ConnectionId) : Prop := w.OnCourse c ∨ w.HasClosed c

theorem Timely.of_history (timely : w.Timely c) (history : w'.history = w.history) :
    w'.Timely c := by
  unfold Timely chronicle at *
  rwa [history]

theorem Timely.mark (timely : w.Timely c) {o : Occurrence}
    (fit : o.reportsLink c → w.milestones c = [.connecting, .connected]) :
    (w.mark o).Timely c := by
  intro past y before reports
  rw [World.chronicle_mark, List.prefix_concat_iff] at before
  rcases before with now | earlier
  · obtain ⟨rfl, rfl⟩ := List.append_singleton_inj.mp now
    exact fit reports
  · exact timely past y earlier reports

theorem Timely.discarded (timely : w.Timely c) : (Connection.discarded w c').Timely c := by
  unfold Connection.discarded
  split
  · next x _ =>
    let shut : World σ :=
      { w with connections := w.connections.set c' { x.closed with attached := none } }
    have still : shut.Timely c := timely
    exact still.mark (o := .discarded c') nofun
  · exact timely

theorem Settled.told (settled : w.Settled c) (established : (w.connection c).state.isEstablished) :
    w.milestones c = [.connecting, .connected] := by
  have live : (w.connection c).state ≠ .closed := by
    intro closed
    simp [closed, ConnectionState.isEstablished] at established
  obtain ⟨x, row, same⟩ := Connection.found_of_live live
  rw [same] at live established
  rcases settled with onCourse | ⟨x', row', closed⟩
  · simp only [OnCourse, row] at onCourse
    exact onCourse.1.told_of_established established
  · obtain rfl := Option.some.inj (row.symm.trans row')
    exact absurd closed live

end World

theorem GoesOn.hasClosed (goesOn : GoesOn c w w') (ended : w.HasClosed c) : w'.HasClosed c := by
  obtain ⟨x, row, closed⟩ := ended
  obtain ⟨x', row', -, still⟩ := goesOn.stays x row
  exact ⟨x', row', (still closed).1⟩

theorem GoesOn.settled (goesOn : GoesOn c w w') (settled : w.Settled c) : w'.Settled c :=
  settled.imp goesOn.onCourse goesOn.hasClosed

/-- A connection goes on, and the state of its link is reported in time. -/
structure GoesTimely (c : ConnectionId) (w w' : World σ) : Prop where
  goesOn : GoesOn c w w'
  timely : w.Settled c → w.Timely c → w'.Timely c

namespace GoesTimely

theorem refl (w : World σ) : GoesTimely c w w := ⟨.refl w, fun _ => id⟩

theorem trans (first : GoesTimely c w w') (second : GoesTimely c w' w'') : GoesTimely c w w'' where
  goesOn := first.goesOn.trans second.goesOn
  timely settled timely :=
    second.timely (first.goesOn.settled settled) (first.timely settled timely)

theorem past (goes : GoesTimely c w w') (past : w.Past c) : w'.Past c :=
  ⟨goes.goesOn.hasClosed past.ended, goes.timely (.inr past.ended) past.timely⟩

theorem of_goesOn (goesOn : GoesOn c w w') (history : w'.history = w.history) :
    GoesTimely c w w' where
  goesOn := goesOn
  timely _ timely := timely.of_history history

theorem of_same (connections : w'.connections = w.connections) (history : w'.history = w.history) :
    GoesTimely c w w' :=
  .of_goesOn (.of_same connections history) history

theorem log (w : World σ) (s : Severity) (message : String) (fields : List (String × String)) :
    GoesTimely c w (w.log s message fields) :=
  .of_same (w.log_connections _ _ _) (w.log_history _ _ _)

theorem mark (w : World σ) {o : Occurrence} (aside : o.milestone? c = none) (ne : o ≠ .discarded c)
    (other : ¬o.reportsLink c) : GoesTimely c w (w.mark o) where
  goesOn := .mark w aside ne
  timely _ timely := timely.mark fun reports => absurd reports other

/-! ## Everything but the connection's own transitions -/

instance heeds :
    Heeds (σ := σ) (GoesTimely c) ⟨[.connections, .history], [.connection, .discard]⟩ where
  trans := .trans
  aside same := .of_same (same .connections (by decide)) (same .history (by decide))
  mark w o other := by
    refine ⟨(GoesOn.heeds c).mark w o other, fun _ timely => timely.mark fun reports => ?_⟩
    cases o with
    | told => simp [Occurrence.topic] at other
    | _ => cases reports

instance footing : Footing (Keeps (σ := σ) (GoesTimely c)) := Heeds.footing

instance base : Base (Keeps (σ := σ) (GoesTimely c)) := Heeds.base

instance ground : Ground (Keeps (σ := σ) (GoesTimely c)) := Heeds.ground

instance overlooksProxies : OverlooksProxies (Keeps (σ := σ) (GoesTimely c)) :=
  Heeds.overlooksProxies

instance overlooks (i : InterfaceId) : Overlooks (Keeps (σ := σ) (GoesTimely c)) i :=
  Heeds.overlooks i

instance overlooksDevices : OverlooksDevices (Keeps (σ := σ) (GoesTimely c)) :=
  Heeds.overlooksDevices

instance overlooksLoop : OverlooksLoop (Keeps (σ := σ) (GoesTimely c)) := Heeds.overlooksLoop

instance overlooksNotes : OverlooksNotes (Keeps (σ := σ) (GoesTimely c)) c' where
  note f same w := .of_goesOn (OverlooksNotes.note (Q := Keeps (GoesOn c)) f same w) rfl

theorem overlooksConnection (ne : c' ≠ c) :
    OverlooksConnection (Keeps (σ := σ) (GoesTimely c)) c' where
  update f _ w := .of_goesOn (.update_of_ne ne w f) rfl
  told event w := by
    refine .mark w (by simp [Occurrence.milestone?, ne]) (by simp) ?_
    cases event <;> first | exact ne | exact id
  opening _ w := .mark w rfl (by simp) id
  opened w := .mark w rfl (by simp) id
  discarded w := ⟨.discarded_of_ne ne w, fun _ timely => timely.discarded⟩

instance interfaceLives : InterfaceLives (Keeps (σ := σ) (GoesTimely c)) := Heeds.interfaceLives

end GoesTimely

/-! ## The connection's own transitions -/

namespace Connection

section

variable [u : Upheld (Keeps (GoesTimely c)) env]

variable (env) in
theorem tell_timely (event : ConnectionEvent) (w : World σ) :
    GoesTimely c (w.mark (.told c event)) ((tell env c event).run w).2 := by
  have follows : EntryCalls (Keeps (GoesTimely c)) env := Entry.calls_of_overlooks
  unfold tell
  rw [run_bind, run_mark, run_bind, run_get]
  split
  · next r h _ => exact (follows.follow r h c event).holds _
  · next l _ => exact u.tell l _ _

theorem tell_past (past : w.Past c) {event : ConnectionEvent}
    (other : ¬(Occurrence.told c event).reportsLink c) : ((tell env c event).run w).2.Past c := by
  refine (tell_timely env event w).past ⟨past.ended, ?_⟩
  exact past.timely.mark fun reports => absurd reports other

theorem finish_past (past : w.Past c) {event : ConnectionEvent}
    (other : ¬(Occurrence.told c event).reportsLink c) (pipe : Option PipeId) :
    ((do
      tell env c event
      tearDown env c pipe : Act σ Unit).run w).2.Past c := by
  have kept : Holds (Keeps (GoesTimely c)) (tearDown env c pipe) := inferInstance
  exact (kept.holds _).past (tell_past past other)

variable (env) in
theorem abandon_past (row : w.connections.find? c = some x) (timely : w.Timely c)
    (reason : CancelReason) : ((abandon env c reason).run w).2.Past c := by
  have shut : (w.updateConnection c fun x => { x.closed with announced := true }).Past c := by
    refine ⟨⟨{ x.closed with announced := true }, ?_, rfl⟩, timely⟩
    simp [World.updateConnection, Table.find?_update, row]
  unfold abandon
  rw [run_bind, run_get, run_bind, run_modify]
  dsimp only
  split
  · rw [run_bind, run_log]
    exact finish_past ((GoesTimely.log _ _ _ _).past shut) id _
  · rw [run_bind, run_bind, run_log]
    exact finish_past ((GoesTimely.log _ _ _ _).past (tell_past shut id)) id _

theorem conclude_past (row : w.connections.find? c = some x) (timely : w.Timely c) :
    ((conclude env c).run w).2.Past c := by
  have shut : (w.updateConnection c Connection.closed).Past c := by
    refine ⟨⟨x.closed, ?_, rfl⟩, timely⟩
    simp [World.updateConnection, Table.find?_update, row]
  unfold conclude
  rw [run_bind, run_get, run_bind, run_modify, run_bind, run_log]
  exact finish_past ((GoesTimely.log _ _ _ _).past shut) id _

variable (env) in
theorem cancel_past (live : (w.connection c).state ≠ .closed) (timely : w.Timely c)
    (reason : CancelReason) : ((cancel env c reason).run.run w).2.Past c := by
  obtain ⟨x, row, -⟩ := found_of_live live
  unfold cancel
  rw [run_lookThen]
  dsimp only
  rw [if_neg live]
  exact abandon_past env row timely reason

variable [Upheld (Keeps (GoesOn c)) env]

instance cancel_timely (reason : CancelReason) :
    Holds (Keeps (GoesTimely c)) (cancel env c reason).run := by
  refine ⟨fun w => ?_⟩
  by_cases closed : (w.connection c).state = .closed
  · unfold cancel
    rw [run_lookThen]
    dsimp only
    rw [if_pos closed]
    exact .log _ _ _ _
  · exact ⟨(cancel_goesOn reason).holds w,
      fun _ timely => (cancel_past env closed timely reason).timely⟩

instance disconnected_timely : Holds (Keeps (GoesTimely c)) (disconnected env c).run := by
  refine ⟨fun w => ?_⟩
  unfold disconnected
  rw [run_lookThen]
  dsimp only
  split
  · rw [run_actThen, run_log]
    exact .trans (.log _ _ _ _) ((cancel_timely .local).holds _)
  · split
    · next established =>
      refine ⟨conclude_goesOn established, fun _ timely => ?_⟩
      have live : (w.connection c).state ≠ .closed := by
        intro closed
        simp [closed, ConnectionState.isEstablished] at established
      obtain ⟨x, row, -⟩ := found_of_live live
      exact (conclude_past row timely).timely
    · exact .log _ _ _ _

instance failed_timely : Holds (Keeps (GoesTimely c)) (failed env c).run := by
  unfold failed
  infer_instance

omit [Upheld (Keeps (GoesOn c)) env] in
variable (env) in
theorem announce_timely (connecting : (w.connection c).state = .connecting) :
    GoesTimely c w ((announce env c).run w).2 := by
  obtain ⟨x, row, same⟩ := found_of_live (by simp [connecting] : (w.connection c).state ≠ .closed)
  rw [same] at connecting
  unfold announce
  rw [run_bind, run_get]
  dsimp only
  rw [same]
  split
  · exact .refl w
  · next silent =>
    rw [run_bind, run_modify, run_bind, run_log, run_bind]
    have altered := (Altered.update w c fun x => { x with announced := true }).log .debug
      "Connecting" (fields w c)
    refine .trans ⟨.announced row connecting silent altered, fun _ timely => ?_⟩
      (tell_timely env .connecting _)
    exact (timely.of_history altered.history).mark nofun

instance connecting_timely : Holds (Keeps (GoesTimely c)) (connecting env c).run := by
  refine ⟨fun w => ?_⟩
  unfold connecting
  rw [run_checkThen]
  split
  · next state =>
    rw [run_actThen]
    refine (announce_timely env (List.mem_singleton.mp state)).trans ?_
    split
    · exact .refl _
    · exact .log _ _ _ _
  · exact .log _ _ _ _

theorem establish_timely (quiet : Quiet env) (row : w.connections.find? c = some x)
    (connecting : x.state = .connecting) (announced : x.announced) (link : Link) (api : DeviceApi) :
    GoesTimely c w ((establish env c link api).run.run w).2 := by
  obtain ⟨pipe, w', altered, ends⟩ := run_establish c quiet link api w
  rcases ends with canceled | connected
  · refine ⟨establish_goesOn quiet row connecting announced link api, fun _ timely => ?_⟩
    rw [canceled]
    have live : (w'.connection c).state ≠ .closed := by
      simp [World.connection, Table.get, altered.row row]
    exact (cancel_past env live (timely.of_history altered.history) .local).timely
  · rw [connected]
    refine .trans ⟨.established row connecting announced altered api, fun _ timely => ?_⟩
      (tell_timely env _ _)
    exact (timely.of_history altered.history).mark (by simp [Occurrence.reportsLink])

theorem connected_timely (quiet : Quiet env) (link : Link) (api : DeviceApi) :
    Holds (Keeps (GoesTimely c)) (connected env c link api).run := by
  refine ⟨fun w => ?_⟩
  unfold connected
  rw [run_checkThen]
  split
  · next state =>
    have state := List.mem_singleton.mp state
    refine (announce_timely env state).trans ?_
    obtain ⟨-, x, row, announced⟩ := announce_goesOn (c := c) env state
    rw [run_discardThen, run_lookThen]
    generalize ((announce env c).run w).2 = w₁ at row ⊢
    dsimp only
    rw [World.connection_of_find? row]
    split
    · exact .log _ _ _ _
    · next connecting =>
      rw [ne_eq, Decidable.not_not] at connecting
      have announced : x.announced := announced.resolve_right (by simp [connecting])
      exact establish_timely quiet row connecting announced link api
  · exact .log _ _ _ _

instance reportLink_timely (status : LinkStatus) :
    Holds (Keeps (GoesTimely c)) (reportLink env c status).run := by
  refine ⟨fun w => ?_⟩
  unfold reportLink
  rw [run_checkThen]
  split
  · next state =>
    have established : (w.connection c).state.isEstablished := by
      rcases List.mem_cons.mp state with h | h
      · rw [h]
        rfl
      · rw [List.mem_singleton.mp h]
        rfl
    rw [run_actThen, run_log]
    generalize logged : w.log .debug "Link status changed"
      [("conn", c.label), ("status", status.name)] = w₁
    have goes : GoesTimely c w w₁ := logged ▸ .log w _ _ _
    have told : GoesTimely c w₁ (w₁.mark (.told c (.link status))) := by
      refine ⟨.mark w₁ ?_ nofun, fun settled timely => timely.mark fun _ => settled.told ?_⟩
      · simp [Occurrence.milestone?, ConnectionEvent.milestone?]
      · rw [← logged]
        simpa only [World.connection, World.log_connections] using established
    exact goes.trans (told.trans (tell_timely env (.link status) w₁))
  · exact .log _ _ _ _

instance dispose_timely : Holds (Keeps (GoesTimely c)) (dispose env c).run :=
  ⟨dispose_of_drop .trans (cancel_timely .local).holds cancel_closes
    fun _ closed => .of_goesOn (dropPipe_goesOn closed) rfl⟩

omit [Upheld (Keeps (GoesOn c)) env] in
theorem giveUp_timely : Holds (Keeps (GoesTimely c)) (giveUp env c) := by
  have given : Holds (Keeps (σ := σ) (GoesTimely c)) (modify (discarded · c)) :=
    ⟨fun w => ⟨discarded_goesOn w, fun _ timely => timely.discarded⟩⟩
  unfold giveUp
  refine Holds.bind (h := fun w => Holds.bind (h := fun _ => ?_))
  dsimp only
  cases (w.connection c).pipe <;> infer_instance

end

theorem beginClose_timely : Holds (Keeps (σ := σ) (GoesTimely c)) (beginClose c) :=
  ⟨fun w => .of_goesOn (beginClose_goesOn.holds w) rfl⟩

end Connection

/-! ## Runs -/

namespace GoesTimely

instance connectionLives : ConnectionLives (Keeps (σ := σ) (GoesTimely c)) where
  create h b address sink := by
    have added : Holds (Keeps (σ := σ) (GoesTimely c)) (modifyGet fun w =>
        let (c, connections) := w.connections.add { device := h, backend := b, address, sink }
        (c, { w with connections })) :=
      ⟨fun w => .of_goesOn (.add w _ ⟨rfl, rfl, rfl⟩) rfl⟩
    unfold Connection.create
    infer_instance
  onClosed _ hook := Connection.onClosed_overlooked hook
  opening _ _ := ⟨fun w => .mark w rfl nofun id⟩
  opened _ := ⟨fun w => .mark w rfl nofun id⟩

instance connectionNotes : ConnectionNotes (Keeps (σ := σ) (GoesTimely c)) where
  createConnection _ _ _ _ := inferInstance
  beginClose := Connection.of_own (fun _ => overlooksConnection) Connection.beginClose_timely
    fun _ _ => Connection.beginClose_overlooked
  attach _ token := Connection.attach_overlooked token
  detach _ := Connection.detach_overlooked

instance registryLives : RegistryLives (Keeps (σ := σ) (GoesTimely c)) :=
  Registry.lives_of_overlooks

instance alone : Alone (Keeps (σ := σ) (GoesTimely c)) where

theorem together (hosted : Hosted env) (_ : Upheld (Keeps (GoesTimely c)) env) :
    Together (Keeps (GoesTimely c)) env := by
  have := hosted.goesOn c
  have follows : EntryCalls (Keeps (GoesTimely c)) env := Entry.calls_of_overlooks
  have establishes := Connection.connected_timely (c := c) hosted.quiet
  have : ConnectionCalls (Keeps (GoesTimely c)) env :=
    Connection.calls_of_own fun _ other => ⟨overlooksConnection other, inferInstance⟩
  have : GivesUp (Keeps (GoesTimely c)) env :=
    ⟨Connection.of_own (fun _ => overlooksConnection) Connection.giveUp_timely
      fun _ _ => Connection.giveUp_overlooked⟩
  have : InterfaceCalls (Keeps (GoesTimely c)) env := Interface.calls_of_steps
  have : InterfaceRetries (Keeps (GoesTimely c)) env := Interface.retries_of_steps
  have : RegistryCalls (Keeps (GoesTimely c)) env := Registry.calls_of_overlooks
  have : LoopCalls (Keeps (GoesTimely c)) env := Loop.calls_of_steps
  exact {}

end GoesTimely

/-- Along every run the sink of a connection is told of the state of the link only after it was told
that the connection is established, and before it is told of its end. -/
theorem Reached.reports_in_time (reached : Reached w) {past : List Happening} {t : Nat}
    {status : LinkStatus} (told : past ++ [⟨t, .told c (.link status)⟩] <+: w.chronicle) :
    milestones c past = [.connecting, .connected] := by
  obtain ⟨host, verbosity, goes⟩ :=
    reached.related_of_hosted (R := GoesTimely c) fun _ => GoesTimely.together
  have unknown : (({ host, verbosity } : World σ).connections).find? c = none :=
    Std.TreeMap.getElem?_emptyc
  have onCourse : ({ host, verbosity } : World σ).OnCourse c := by
    simp only [World.OnCourse, unknown]
    refine ⟨?_, rfl⟩
    rintro ⟨t, ht⟩
    simp [World.chronicle] at ht
  have timely : ({ host, verbosity } : World σ).Timely c := by
    intro past y before
    simp [World.chronicle] at before
  exact goes.timely (.inl onCourse) timely past _ told rfl

def flickeringLink : Act Unit (Except Fault Unit) := do
  let c ← Connection.create ⟨1⟩ ⟨1⟩ "" (.listener ⟨1⟩)
  let _ ← (Connection.connected silentHost c (.supplied ⟨1⟩) .full).run
  let _ ← (Connection.reportLink silentHost c .down).run
  let _ ← (Connection.reportLink silentHost c .up).run
  let _ ← (Connection.disconnected silentHost c).run
  (Connection.reportLink silentHost c .down).run

theorem flickeringLink_reached : Reached (flickeringLink.run { host := () }).2 := by
  refine ⟨silentHost, (), none, _, flickeringLink, silentHost_hosted, ?_, rfl⟩
  refine .bind (.basic (.inr (.createConnection _ _ _ _))) fun c => ?_
  refine .bind (.basic (.inr (.connected _ _ _))) fun _ => ?_
  refine .bind (.basic (.inr (.reportLink _ _))) fun _ => ?_
  refine .bind (.basic (.inr (.reportLink _ _))) fun _ => ?_
  refine .bind (.basic (.inr (.disconnected _))) fun _ => ?_
  exact .basic (.inr (.reportLink _ _))

theorem flickeringLink_reports_in_time :
    let told := (flickeringLink.run { host := () }).2.chronicle
    (told.take 3 ++ [⟨0, .told ⟨1⟩ (.link .up)⟩] <+: told ∧ told.length = 5) ∧
      milestones ⟨1⟩ (told.take 3) = [.connecting, .connected] := by
  intro told
  have up : told.take 3 ++ [⟨0, .told ⟨1⟩ (.link .up)⟩] <+: told := ⟨told.drop 4, rfl⟩
  exact ⟨⟨up, rfl⟩, flickeringLink_reached.reports_in_time up⟩

end DroneControl
