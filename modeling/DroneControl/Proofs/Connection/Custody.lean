import DroneControl.Proofs.Backend.Stopping

/-!
# What is attached to connections

The upper layer attaches a handle to a connection and detaches it again.  Nothing that happens to the
connection meanwhile loses or doubles a handle, except that its backend may give it up, with its handle,
before it has started.  A connection that has a handle attached is not destroyed.  Any other is: it is
closed then, and if it was not closed before its sink has been told so.
-/

set_option synthInstance.maxSize 2048

namespace DroneControl

variable {σ : Type} {c c' : ConnectionId} {w w' : World σ} {env : Env σ} {x : Connection}

/-! ## Handles are handed over in turn -/

def World.HandlesInTurn (w : World σ) (c : ConnectionId) : Prop :=
  ∀ x, w.connections.find? c = some x → x.InTurn ∨ w.GivenUp c

def StaysInTurn (c : ConnectionId) (w w' : World σ) : Prop :=
  w.HandlesInTurn c → w'.HandlesInTurn c

namespace StaysInTurn

theorem of_same (connections : w'.connections = w.connections) (history : w'.history = w.history) :
    StaysInTurn c w w' := by
  unfold StaysInTurn World.HandlesInTurn
  rw [connections, World.givenUp_congr history]
  exact id

theorem mark (w : World σ) (o : Occurrence) : StaysInTurn c w (w.mark o) :=
  fun inTurn x row => (inTurn x row).imp_right fun given => (World.givenUp_mark w c o).mpr (.inl given)

theorem update (w : World σ) (c' : ConnectionId) {f : Connection → Connection}
    (handles : ∀ x : Connection, x.HandsOver (f x)) :
    StaysInTurn c w (w.updateConnection c' f) := by
  intro inTurn x row
  rw [World.updateConnection, Table.find?_update] at row
  split at row
  · next here =>
      subst here
      obtain ⟨y, known, rfl⟩ := Option.map_eq_some_iff.mp row
      exact (inTurn y known).imp_left (handles y).inTurn
  · exact inTurn x row

theorem add (w : World σ) {x : Connection} (new : x.InTurn) :
    StaysInTurn c w { w with connections := (w.connections.add x).2 } := by
  intro inTurn y row
  rw [Table.find?_add] at row
  split at row
  · obtain rfl := Option.some.inj row
    exact .inl new
  · exact inTurn y row

theorem discarded (w : World σ) (c' : ConnectionId) :
    StaysInTurn c w (Connection.discarded w c') := by
  unfold Connection.discarded
  split
  · next y _ =>
      by_cases here : c' = c
      · subst here
        exact fun _ _ _ => .inr ((World.givenUp_mark _ _ _).mpr (.inr rfl))
      · have other : StaysInTurn c w
            { w with connections := w.connections.set c' { y.closed with attached := none } } := by
          intro inTurn x row
          rw [Table.find?_set, if_neg here] at row
          exact inTurn x row
        exact mark _ _ ∘ other
  · exact id

instance heeds : Heeds (σ := σ) (StaysInTurn c) ⟨[.connections, .history], []⟩ where
  trans first second := second ∘ first
  aside same := .of_same (same .connections (by decide)) (same .history (by decide))
  mark w o _ := .mark w o

instance footing : Footing (Keeps (σ := σ) (StaysInTurn c)) := Heeds.footing

instance base : Base (Keeps (σ := σ) (StaysInTurn c)) := Heeds.base

instance ground : Ground (Keeps (σ := σ) (StaysInTurn c)) := Heeds.ground

instance overlooksProxies : OverlooksProxies (Keeps (σ := σ) (StaysInTurn c)) :=
  Heeds.overlooksProxies

instance overlooks (i : InterfaceId) : Overlooks (Keeps (σ := σ) (StaysInTurn c)) i :=
  Heeds.overlooks i

instance overlooksDevices : OverlooksDevices (Keeps (σ := σ) (StaysInTurn c)) :=
  Heeds.overlooksDevices

instance overlooksLoop : OverlooksLoop (Keeps (σ := σ) (StaysInTurn c)) := Heeds.overlooksLoop

instance interfaceLives : InterfaceLives (Keeps (σ := σ) (StaysInTurn c)) := Heeds.interfaceLives

instance overlooksConnection (c' : ConnectionId) :
    OverlooksConnection (Keeps (σ := σ) (StaysInTurn c)) c' where
  update _ reports w := .update w c' reports.handles
  opening _ w := .mark w _
  opened w := .mark w _
  discarded w := .discarded w c'
  told _ w := .mark w _

instance connectionLives : ConnectionLives (Keeps (σ := σ) (StaysInTurn c)) where
  create h b address sink := by
    have added : Holds (Keeps (σ := σ) (StaysInTurn c)) (modifyGet fun w =>
        let (c, connections) := w.connections.add { device := h, backend := b, address, sink }
        (c, { w with connections })) :=
      ⟨fun w => .add w ⟨[], rfl⟩⟩
    unfold Connection.create
    infer_instance
  onClosed _ hook := Connection.onClosed_overlooked hook
  opening _ _ := ⟨fun w => .mark w _⟩
  opened _ := ⟨fun w => .mark w _⟩

instance connectionNotes : ConnectionNotes (Keeps (σ := σ) (StaysInTurn c)) :=
  Connection.notes_of_overlooks

instance registryLives : RegistryLives (Keeps (σ := σ) (StaysInTurn c)) :=
  Registry.lives_of_overlooks

instance alone : Alone (Keeps (σ := σ) (StaysInTurn c)) where

theorem together (_ : Upheld (Keeps (StaysInTurn c)) env) :
    Together (Keeps (StaysInTurn c)) env := by
  have : EntryCalls (Keeps (StaysInTurn c)) env := Entry.calls_of_overlooks
  have : ConnectionCalls (Keeps (StaysInTurn c)) env := Connection.calls_of_tells
  have : GivesUp (Keeps (StaysInTurn c)) env := ⟨fun _ => Connection.giveUp_overlooked⟩
  have : InterfaceCalls (Keeps (StaysInTurn c)) env := Interface.calls_of_steps
  have : InterfaceRetries (Keeps (StaysInTurn c)) env := Interface.retries_of_steps
  have : RegistryCalls (Keeps (StaysInTurn c)) env := Registry.calls_of_overlooks
  have : LoopCalls (Keeps (StaysInTurn c)) env := Loop.calls_of_steps
  exact {}

end StaysInTurn

theorem Reached.inTurn (reached : Reached w) (c : ConnectionId) : w.HandlesInTurn c := by
  obtain ⟨host, verbosity, stays⟩ :=
    reached.related (R := StaysInTurn c) fun _ upheld _ => StaysInTurn.together upheld
  refine stays fun x row => ?_
  cases (World.find?_empty c).symm.trans row

theorem Hosted.hands_over {α : Type} {a : Act σ α} (hosted : Hosted env)
    (reaction : Reaction env α a) (row : w.connections.find? c = some x) :
    (∃ x', (a.run w).2.connections.find? c = some x' ∧ x.HandsOver x') ∧
      ((a.run w).2.GivenUp c → w.GivenUp c) := by
  have := hosted.leavesAtRest c
  have rests : Keeps (Rests c) α a := reaction.holds
  obtain ⟨x', row', goes⟩ := (rests w).known x row
  exact ⟨⟨x', row', goes.handles⟩, (rests w).spared (Option.isSome_of_eq_some row)⟩

namespace Connection

theorem run_attach (row : w.connections.find? c = some x) (token : Token) :
    (x.attached = none ∧ ∃ w', (attach c token).run.run w = (.ok (), w') ∧
        w'.connections.find? c = some { x with
          attached := some token
          handovers := x.handovers ++ [.attached token] }) ∨
      (x.attached.isSome ∧
        (attach c token).run.run w = (.error (.busy "connection already attached"), w)) := by
  unfold attach
  rw [run_lookThen, World.connection_of_find? row]
  cases attached : x.attached with
  | none =>
      refine .inl ⟨rfl, w.updateConnection c (·.attaching token), rfl, ?_⟩
      rw [World.updateConnection, Table.find?_update, if_pos rfl, row]
      simp [attaching, attached]
  | some _ => exact .inr ⟨rfl, rfl⟩

theorem run_detach (row : w.connections.find? c = some x) :
    (∃ token w', x.attached = some token ∧ (detach c).run.run w = (.ok token, w') ∧
        w'.connections.find? c = some { x with
          attached := none
          handovers := x.handovers ++ [.detached token] }) ∨
      (x.attached = none ∧
        (detach c).run.run w = (.error (.notFound "attached connection handle"), w)) := by
  unfold detach
  rw [run_lookThen, World.connection_of_find? row]
  cases attached : x.attached with
  | none => exact .inr ⟨rfl, rfl⟩
  | some token =>
      refine .inl ⟨token, w.updateConnection c detaching, rfl, rfl, ?_⟩
      rw [World.updateConnection, Table.find?_update, if_pos rfl, row]
      simp [detaching, attached]

/-! ## Destroying a connection -/

variable (env) in
theorem dispose_refused (row : w.connections.find? c = some x) (attached : x.attached.isSome) :
    ∃ journal, (dispose env c).run.run w =
      (.error (.busy "connection still attached"), { w with journal }) := by
  obtain ⟨journal, logged⟩ := w.log_journal .error
    "Destroying connection while upper-layer handle is still attached" (fields w c)
  refine ⟨journal, ?_⟩
  unfold dispose
  rw [run_lookThen, World.connection_of_find? row]
  dsimp only
  rw [if_pos attached, run_actThen, run_throwThen, run_log, logged]

variable [u : Upheld (Keeps (Rests c)) env]

variable (env) in
theorem dropped_rests (w : World σ) :
    ∃ w', (do
      match ((← get).connection c).pipe with
      | none => pure ()
      | some p =>
        act (modify (·.updateConnection c fun x => { x with pipe := none }))
        act (Pipe.dispose env p)
      act (log .debug "Connection disposed" [("conn", c.label)]) : Try σ Unit).run.run w =
        (.ok (), w') ∧ Rests c w w' := by
  have dropped : Rests c w (w.updateConnection c fun x => { x with pipe := none }) :=
    .update w (fun _ closed => ⟨closed, rfl⟩) fun _ => .of_same rfl rfl
  rw [run_lookThen]
  cases (w.connection c).pipe with
  | none => exact ⟨_, rfl, .log w _ _ _⟩
  | some p =>
      have rest : Holds (Keeps (Rests c)) (do
          Pipe.dispose env p
          log .debug "Connection disposed" [("conn", c.label)]) := inferInstance
      exact ⟨_, rfl, dropped.trans (rest.holds _)⟩

variable (env) in
theorem dispose_destroys (row : w.connections.find? c = some x) (free : x.attached = none) :
    ∃ w', (dispose env c).run.run w = (.ok (), w') ∧ w'.HasClosed c ∧
      w'.heard c = w.heard c ++ (if x.state = .closed then [] else
        (if x.announced then [] else [.connecting]) ++ [.canceled .local]) ∧
      (w'.GivenUp c → w.GivenUp c) := by
  unfold dispose
  rw [run_lookThen, World.connection_of_find? row]
  dsimp only
  rw [if_neg (by simp [free])]
  by_cases closed : x.state = .closed
  · have shut : w.HasClosed c := ⟨x, row, closed⟩
    rw [if_neg (by simp [closed]), if_pos closed, List.append_nil]
    obtain ⟨w', runs, rests⟩ := dropped_rests (c := c) env w
    exact ⟨w', runs, rests.hasClosed shut, rests.heard shut,
      rests.spared (Option.isSome_of_eq_some row)⟩
  · obtain ⟨journal, logged⟩ := w.log_journal .debug "Disposing connection that is not closed"
      [("conn", c.label), ("state", x.state.name)]
    obtain ⟨w₁, cancels, leaves⟩ :=
      cancel_leaves env (w := { w with journal }) row closed .local
    obtain ⟨w', runs, rests⟩ := dropped_rests (c := c) env w₁
    obtain ⟨y, row₁, -⟩ := leaves.closed
    rw [if_pos closed, if_neg closed, run_actThen, run_log, logged, run_tryThen, cancels]
    exact ⟨w', runs, rests.hasClosed leaves.closed,
      (rests.heard leaves.closed).trans leaves.heard,
      leaves.spared ∘ rests.spared (Option.isSome_of_eq_some row₁)⟩

end Connection

end DroneControl
