import DroneControl.Proofs.Connection.Concluding
import DroneControl.Proofs.Connection.Resting
import DroneControl.Proofs.Connection.Timing

/-!
# How a connection is brought to its end

A connection that is not closed is canceled, or if it was established it may be disconnected.  Its sink
and its link may call back meanwhile and do what they like: what is told of the connection is what its
end is about and nothing else, and its backend has its place free again at the end.
-/

set_option synthInstance.maxSize 2048

namespace DroneControl

variable {σ : Type} {b : BackendId} {c : ConnectionId} {w w' w'' : World σ} {env : Env σ}
  {x : Connection} {told : List ConnectionEvent}

/-! ## What has been told -/

theorem World.milestones_eq_heard (w : World σ) (c : ConnectionId) :
    w.milestones c = (w.heard c).filterMap ConnectionEvent.milestone? := by
  rw [milestones, DroneControl.milestones, heard, List.filterMap_filterMap]
  congr 1
  funext happening
  cases happening.what with
  | told c' event => by_cases here : c' = c <;> simp [Occurrence.milestone?, Occurrence.told?, here]
  | _ => rfl

theorem World.connecting_mem_heard :
    .connecting ∈ w.heard c ↔ .connecting ∈ w.milestones c := by
  rw [World.milestones_eq_heard, List.mem_filterMap]
  constructor
  · exact fun among => ⟨_, among, rfl⟩
  · rintro ⟨event, among, first⟩
    cases event with
    | connecting => exact among
    | _ => cases first

theorem World.OnCourse.announced_iff_heard (onCourse : w.OnCourse c)
    (row : w.connections.find? c = some x) (live : x.state ≠ .closed) :
    x.announced ↔ .connecting ∈ w.heard c := by
  simp only [World.OnCourse, row] at onCourse
  obtain ⟨fits, -⟩ := onCourse
  rw [World.connecting_mem_heard]
  unfold Connection.Fits at fits
  split at fits
  · rw [fits.2]
    split <;> simp_all
  · rw [fits.2]
    split <;> simp_all
  · simp [fits]
  · simp [fits]
  · contradiction

theorem World.Settled.established_later (settled : w.Settled c) (goesOn : GoesOn c w w')
    (grown : w.history <:+ w'.history) (established : (w.connection c).state.isEstablished) :
    (w'.connection c).state.isEstablished ∨ (w'.connection c).state = .closed := by
  by_cases closed : (w'.connection c).state = .closed
  · exact .inr closed
  · obtain ⟨x', row', same⟩ := Connection.found_of_live closed
    rw [same] at closed ⊢
    refine .inl ((ConnectionState.isPending_or_isEstablished closed).resolve_left fun pending => ?_)
    have onCourse : w'.OnCourse c := (goesOn.settled settled).resolve_right fun shut =>
      closed (same ▸ shut.state)
    simp only [World.OnCourse, row'] at onCourse
    have told : w'.milestones c = if x'.announced then [.connecting] else [] := by
      have fits := onCourse.1
      unfold Connection.Fits at fits
      cases state : x'.state <;> simp_all [ConnectionState.isPending]
    have past : w.milestones c <+: w'.milestones c := (List.reverse_prefix.mpr grown).filterMap _
    rw [settled.told established, told] at past
    split at past <;> simp at past

theorem World.hasClosed_of_state (known : (w.connections.find? c).isSome)
    (closed : (w.connection c).state = .closed) : w.HasClosed c := by
  obtain ⟨x, row⟩ := Option.isSome_iff_exists.mp known
  exact ⟨x, row, by rwa [← World.connection_of_find? row]⟩

/-! ## A connection that has just closed -/

/-- The connection has closed since, and so much has been told of it; what was noted to be done on its
closing is yet to be done. -/
structure Shut (c : ConnectionId) (x : Connection) (told : List ConnectionEvent) (w w' : World σ) :
    Prop where
  row : ∃ x', w'.connections.find? c = some x' ∧ x'.state = .closed ∧ x'.hooks = x.hooks
  heard : w'.heard c = w.heard c ++ told
  spared : w'.GivenUp c → w.GivenUp c
  occupied : ∀ b, w.Occupied b c → w'.Occupied b c

/-- The connection has closed since, so much has been told of it, and it has left its backends. -/
structure Leaves (c : ConnectionId) (x : Connection) (told : List ConnectionEvent)
    (w w' : World σ) : Prop where
  closed : w'.HasClosed c
  heard : w'.heard c = w.heard c ++ told
  spared : w'.GivenUp c → w.GivenUp c
  vacated : ∀ b, .untrack b ∈ x.hooks → w.Occupied b c →
    ∀ x', w'.backends.find? b = some x' → x'.live = []

namespace Shut

theorem hasClosed (shut : Shut c x told w w') : w'.HasClosed c := by
  obtain ⟨x', row, closed, -⟩ := shut.row
  exact ⟨x', row, closed⟩

theorem of_update (row : w.connections.find? c = some x) {f : Connection → Connection}
    (closes : (f x).state = .closed ∧ (f x).hooks = x.hooks) :
    Shut c x [] w (w.updateConnection c f) where
  row := ⟨f x, by simp [World.updateConnection, Table.find?_update, row], closes⟩
  heard := (List.append_nil _).symm
  spared := id
  occupied _ := id

theorem later (shut : Shut c x told w w') (rests : Rests c w' w'') : Shut c x told w w'' where
  row := by
    obtain ⟨x', row', closed, hooks⟩ := shut.row
    obtain ⟨x'', row'', closed', hooks'⟩ := rests.row x' row' closed
    exact ⟨x'', row'', closed', hooks'.trans hooks⟩
  heard := (rests.heard shut.hasClosed).trans shut.heard
  spared := by
    obtain ⟨x', row', -⟩ := shut.row
    exact shut.spared ∘ rests.spared (Option.isSome_of_eq_some row')
  occupied b := rests.occupied shut.hasClosed b ∘ shut.occupied b

theorem mark (shut : Shut c x told w w') (event : ConnectionEvent) :
    Shut c x (told ++ [event]) w (w'.mark (.told c event)) where
  row := shut.row
  heard := by simp [World.heard_mark, shut.heard, Occurrence.told?]
  spared given := shut.spared (((World.givenUp_mark w' c _).mp given).resolve_right nofun)
  occupied := shut.occupied

theorem log (shut : Shut c x told w w') (s : Severity) (message : String)
    (fields : List (String × String)) : Shut c x told w (w'.log s message fields) :=
  shut.later (.log _ _ _ _)

end Shut

namespace Connection

theorem runHooks_only (w : World σ) (only : ∀ x, w.backends.find? b = some x → x.live ⊆ [c]) :
    ∀ x, ((runHooks c).run w).2.backends.find? b = some x → x.live ⊆ [c] := by
  let R (w w' : World σ) : Prop := (∀ x, w.backends.find? b = some x → x.live ⊆ [c]) →
    ∀ x, w'.backends.find? b = some x → x.live ⊆ [c]
  have closed : Closed (Keeps R) := Keeps.closed (fun _ => id) fun first second => second ∘ first
  have struck : ∀ b' (f : Backend → Backend), (∀ x, (f x).live ⊆ x.live) →
      Holds (Keeps R) (modify (·.updateBackend b' f)) := by
    refine fun b' f fewer => ⟨fun w only x row => ?_⟩
    rw [run_modify, World.updateBackend, Table.find?_update] at row
    split at row
    · next here =>
        subst here
        obtain ⟨y, known, rfl⟩ := Option.map_eq_some_iff.mp row
        exact List.Subset.trans (fewer y) (only y known)
    · exact only x row
  have hooked : ∀ hook, Holds (Keeps R) (runHook c hook) := by
    intro hook
    have noted : Holds (Keeps R)
        (modify (·.updateConnection c fun x => { x with done := x.done ++ [hook] })) :=
      ⟨fun _ => id⟩
    have untracked := fun b' => struck b' (·.untrack c) fun _ => List.filter_sublist.subset
    have forgotten := fun b' => struck b' (·.forgetApi c) fun x =>
      (x.forgetApi_keeps c).1 ▸ List.Subset.refl _
    unfold runHook
    cases hook <;> infer_instance
  have dropped : Holds (Keeps R)
      (modify (·.updateConnection c fun x => { x with hooks := [] })) := ⟨fun _ => id⟩
  have kept : Holds (Keeps R) (runHooks c) := by
    unfold runHooks
    infer_instance
  exact kept.holds w only

end Connection

theorem Shut.leaves (shut : Shut c x told w w') :
    Leaves c x told w ((Connection.runHooks c).run w').2 := by
  obtain ⟨serves, served⟩ := Connection.runHooks_served (c := c) w'
  have persists : Persists c w' ((Connection.runHooks c).run w').2 :=
    Connection.runHooks_accompanied shut.hasClosed
  obtain ⟨x', row, -, hooks⟩ := shut.row
  refine ⟨persists.hasClosed shut.hasClosed, serves.heard.trans shut.heard,
    shut.spared ∘ persists.spared (Option.isSome_of_eq_some row), fun b noted place x₁ known => ?_⟩
  have only := Connection.runHooks_only w'
    (fun x known => ((shut.occupied b place).2 x known).2 ▸ List.Subset.refl _) x₁ known
  have off : c ∉ x₁.live := by
    refine served (.untrack b) ?_ x₁ known
    rwa [World.connection_of_find? row, hooks]
  refine List.eq_nil_iff_forall_not_mem.mpr fun c' among => off ?_
  rwa [← List.mem_singleton.mp (only among)]

/-! ## The ways to the end -/

namespace Connection

variable [u : Upheld (Keeps (Rests c)) env]

theorem tell_shut (shut : Shut c x told w w') (event : ConnectionEvent) :
    Shut c x (told ++ [event]) w ((tell env c event).run w').2 :=
  (shut.mark event).later (tell_rests env event w')

variable (env) in
theorem tearDown_leaves (shut : Shut c x told w w') (pipe : Option PipeId) :
    Leaves c x told w ((tearDown env c pipe).run w').2 := by
  unfold tearDown
  cases pipe with
  | none => exact shut.leaves
  | some p =>
      have halted : Holds (Keeps (Rests c)) (do
          recover (Pipe.stop env p) fun f =>
            log .warn "Failed to stop frame pipe" [("conn", c.label), ("error", f.message)]
          Pipe.dispose env p) := inferInstance
      rw [run_bind]
      exact (shut.later (halted.holds w')).leaves

variable (env) in
theorem cancel_leaves (row : w.connections.find? c = some x) (live : x.state ≠ .closed)
    (reason : CancelReason) :
    ∃ w', (cancel env c reason).run.run w = (.ok (), w') ∧
      Leaves c x ((if x.announced then [] else [.connecting]) ++ [.canceled reason]) w w' := by
  have shut : Shut c x [] w (w.updateConnection c fun x => { x.closed with announced := true }) :=
    .of_update row ⟨rfl, rfl⟩
  unfold cancel
  rw [run_lookThen, World.connection_of_find? row, if_neg live, run_act]
  refine ⟨_, rfl, ?_⟩
  unfold abandon
  rw [run_bind, run_get, run_bind, run_modify, World.connection_of_find? row]
  split
  · simp only [run_bind, run_log]
    exact tearDown_leaves env (tell_shut (shut.log _ _ _) _) _
  · simp only [run_bind, run_log]
    exact tearDown_leaves env (tell_shut ((tell_shut shut _).log _ _ _) _) _

variable (env) in
theorem disconnected_leaves (row : w.connections.find? c = some x)
    (established : x.state.isEstablished) :
    ∃ w', (disconnected env c).run.run w = (.ok (), w') ∧ Leaves c x [.disconnected] w w' := by
  have shut : Shut c x [] w (w.updateConnection c Connection.closed) :=
    .of_update row ⟨rfl, rfl⟩
  have other : x.state.isPending = false := by
    cases state : x.state <;> simp_all [ConnectionState.isPending, ConnectionState.isEstablished]
  unfold disconnected
  rw [run_lookThen, World.connection_of_find? row]
  dsimp only
  rw [other, if_neg Bool.false_ne_true, if_pos established, run_act]
  refine ⟨_, rfl, ?_⟩
  unfold conclude
  simp only [run_bind, run_get, run_modify, run_log]
  exact tearDown_leaves env (tell_shut (shut.log _ _ _) _) _

end Connection

end DroneControl
