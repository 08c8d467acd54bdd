import DroneControl.Proofs.Backend.Live
import DroneControl.Proofs.Connection.Leaving

/-!
# The end of a channel

A backend over a channel has one live connection at most.  When the channel comes to its end the
connection is closed, whatever its sink does when it is told: it may close the connection itself, but it
cannot have it go on.  If it does not call back, what it is told is known from the state of the
connection, and whoever waits for the end of the channel is told last, when nothing is live any more.
-/

set_option synthInstance.maxSize 2048

namespace DroneControl

variable {σ : Type} {b : BackendId} {c : ConnectionId} {w w' w'' : World σ} {env : Env σ}
  {x : Connection} {told : List ConnectionEvent}

/-! ## While operations are under way -/

/-- The roster of the backend is right, and connections went their ways, though the end of some may be
about to be told. -/
structure World.Underway (w : World σ) (b : BackendId) : Prop where
  waiting : w.Waiting b
  regular : ∀ c, w.Regular c
  settled : ∀ c, w.Settled c

theorem Reached.underway (reached : Reached w) : w.Underway b :=
  have rest : w.AtRest b := reached.atRest
  ⟨rest.waiting, rest.regular, fun c => .inl (rest.onCourse c)⟩

theorem World.Underway.untracks (underway : w.Underway b) {y : Backend}
    (known : w.backends.find? b = some y) (among : c ∈ y.live) :
    ∃ x, w.connections.find? c = some x ∧ .untrack b ∈ x.hooks := by
  have rostered := underway.waiting.rosters y known
  obtain ⟨made, undone, spared⟩ := (rostered.live c).mp among
  obtain ⟨x, row, -, noted⟩ := rostered.noted c made
  rw [World.connection_of_find? row] at undone
  obtain ⟨dropped, perm, given⟩ := ((underway.regular c).row x row).hooks
  refine ⟨x, row, ?_⟩
  rcases List.mem_append.mp (perm.mem_iff.mp noted) with kept | lost
  · exact (List.mem_append.mp kept).resolve_left undone
  · exact absurd (given (List.ne_nil_of_mem lost)) spared

theorem World.Underway.hasClosed (underway : w.Underway b) {y : Backend}
    (known : w.backends.find? b = some y) (among : c ∈ y.live)
    (closed : (w.connection c).state = .closed) : w.HasClosed c := by
  obtain ⟨x, row, -⟩ := underway.untracks known among
  exact World.hasClosed_of_state (Option.isSome_of_eq_some row) closed

theorem World.Underway.hasClosed_of_not_live (underway : w.Underway b) {y : Backend}
    (known : w.backends.find? b = some y) (made : c ∈ y.made) (off : c ∉ y.live) :
    w.HasClosed c := by
  have rostered := underway.waiting.rosters y known
  obtain ⟨x, row, -⟩ := rostered.noted c made
  have same : w.connection c = x := World.connection_of_find? row
  refine World.hasClosed_of_state (Option.isSome_of_eq_some row) (by_contra fun live => off ?_)
  have onCourse : w.OnCourse c := (underway.settled c).resolve_right fun shut => live shut.state
  simp only [World.OnCourse, row] at onCourse
  rw [same] at live
  refine (rostered.live c).mpr ⟨made, ?_, onCourse.1.not_givenUp live⟩
  rw [same, underway.waiting.waits c x row live]
  exact List.not_mem_nil

theorem World.Underway.occupied (underway : w.Underway b) {y : Backend}
    (known : w.backends.find? b = some y) (mux : y.kind = .mux) (among : c ∈ y.live) :
    y.live = [c] ∧ w.Occupied b c := by
  have only : y.live = [c] := by
    have single := (underway.waiting.rosters y known).single mux
    obtain ⟨c', only⟩ := List.length_eq_one_iff.mp
      (Nat.le_antisymm single (List.length_pos_of_mem among))
    rw [only] at among ⊢
    rw [List.mem_singleton.mp among]
  refine ⟨only, Table.lt_next known, fun y' known' => ?_⟩
  obtain rfl := Option.some.inj (known.symm.trans known')
  exact ⟨mux, only⟩

/-! ## One connection -/

/-- What the sink of a connection is told when its channel comes to its end. -/
def World.lastWords (w : World σ) (c : ConnectionId) : List ConnectionEvent :=
  match (w.connection c).state with
  | .connected | .disconnecting => [.link .down, .disconnected]
  | .connecting | .canceling =>
    (if .connecting ∈ w.heard c then [] else [.connecting]) ++ [.canceled .linkLost]
  | .closed => []

theorem Leaves.after {past : List ConnectionEvent} (leaves : Leaves c x told w' w'')
    (row : (w.connections.find? c).isSome) (persists : Persists c w w')
    (heard : w'.heard c = w.heard c ++ past) (occupied : ∀ b, w.Occupied b c → w'.Occupied b c) :
    Leaves c x (past ++ told) w w'' where
  closed := leaves.closed
  heard := by rw [leaves.heard, heard, List.append_assoc]
  spared := persists.spared row ∘ leaves.spared
  vacated b noted := leaves.vacated b noted ∘ occupied b

variable (env) in
theorem Connection.run_reportLink (established : (w.connection c).state.isEstablished)
    (status : LinkStatus) :
    ∃ journal w', (reportLink env c status).run.run w = (.ok (), w') ∧
      ((tell env c (.link status)).run { w with journal }).2 = w' := by
  have allowed : (w.connection c).state ∈ [ConnectionState.connected, .disconnecting] := by
    cases state : (w.connection c).state <;> simp_all [ConnectionState.isEstablished]
  obtain ⟨journal, logged⟩ := w.log_journal .debug "Link status changed"
    [("conn", c.label), ("status", status.name)]
  unfold reportLink
  rw [run_checkThen, if_pos allowed, run_actThen, run_log, logged, run_act]
  exact ⟨journal, _, rfl, rfl⟩

theorem Connection.reportLink_passes (reaps : env.ReapsQuietly)
    (established : (w.connection c).state.isEstablished)
    (passive : (w.connection c).sink.Passive env w) (status : LinkStatus) :
    ∃ w', (reportLink env c status).run.run w = (.ok (), w') ∧ w'.connections = w.connections ∧
      w'.backends = w.backends ∧ w'.heard c = w.heard c ++ [.link status] := by
  obtain ⟨journal, w', reports, tells⟩ := run_reportLink env established status
  have passes := tell_passes (w := { w with journal }) reaps passive (.link status)
  rw [tells] at passes
  have unheard : World.heard { w with journal } c = w.heard c := rfl
  refine ⟨w', reports, passes.connections, passes.backends, ?_⟩
  rw [passes.heard, World.heard_mark, unheard, Occurrence.told?, if_pos rfl]
  rfl

namespace Backend

section CutOff

variable [Upheld (Keeps (Rests c)) env]

variable (env) in
theorem cutOff_leaves (reaps : env.ReapsQuietly) (settled : w.Settled c)
    (row : w.connections.find? c = some x) (live : x.state ≠ .closed)
    (passive : x.sink.Passive env w) :
    ∃ w', (cutOff env c).run.run w = (.ok (), w') ∧ Leaves c x (w.lastWords c) w w' := by
  have same : w.connection c = x := World.connection_of_find? row
  unfold cutOff
  rw [run_lookThen, same]
  by_cases established : x.state.isEstablished
  · have words : w.lastWords c = [.link .down] ++ [.disconnected] := by
      rw [World.lastWords, same]
      cases state : x.state <;> simp_all [ConnectionState.isEstablished]
    have reported : Holds (Keeps (Rests c)) (Connection.reportLink env c .down).run := inferInstance
    have rests := reported.holds w
    obtain ⟨w₁, reports, connections, backends, heard⟩ :=
      Connection.reportLink_passes reaps (same ▸ established) (same ▸ passive) .down
    rw [if_pos established, run_tryThen, words]
    rw [reports] at rests ⊢
    obtain ⟨w', ends, leaves⟩ :=
      Connection.disconnected_leaves env (w := w₁) (connections ▸ row) established
    refine ⟨w', ends, leaves.after (by simp [row]) rests.toPersists heard fun b => ?_⟩
    unfold World.Occupied
    rw [backends]
    exact id
  · have pending : x.state.isPending :=
      (ConnectionState.isPending_or_isEstablished live).resolve_right established
    have onCourse : w.OnCourse c := settled.resolve_right fun shut => live (same ▸ shut.state)
    have words : w.lastWords c =
        (if x.announced then [] else [.connecting]) ++ [.canceled .linkLost] := by
      simp only [World.lastWords, same, onCourse.announced_iff_heard row live]
      cases state : x.state <;> simp_all [ConnectionState.isPending]
    rw [if_neg established, if_pos pending, words]
    exact Connection.cancel_leaves env row live .linkLost

variable (env) in
theorem cutOff_closes [Upheld (Keeps (GoesOn c)) env] (settled : w.Settled c)
    (known : (w.connections.find? c).isSome) : ((cutOff env c).run.run w).2.HasClosed c := by
  obtain ⟨x, row⟩ := Option.isSome_iff_exists.mp known
  have same : w.connection c = x := World.connection_of_find? row
  have rests : Holds (Keeps (Rests c)) (Connection.reportLink env c .down).run := inferInstance
  have ends : Holds (Keeps (Rests c)) (Connection.disconnected env c).run := inferInstance
  have goesOn : Holds (Keeps (GoesOn c)) (Connection.reportLink env c .down).run := inferInstance
  by_cases closed : x.state = .closed
  · have whole : Holds (Keeps (Rests c)) (cutOff env c).run := by
      unfold cutOff
      infer_instance
    exact (whole.holds w).hasClosed ⟨x, row, closed⟩
  unfold cutOff
  rw [run_lookThen, same]
  by_cases established : x.state.isEstablished
  · obtain ⟨journal, w₁, reports, -⟩ := Connection.run_reportLink env (same ▸ established) .down
    have rests : Rests c w w₁ := by simpa only [reports] using rests.holds w
    have goesOn : GoesOn c w w₁ := by simpa only [reports] using goesOn.holds w
    rw [if_pos established, run_tryThen, reports]
    dsimp only
    have later := settled.established_later goesOn (rests.grown known) (same ▸ established)
    obtain ⟨x', row'⟩ := Option.isSome_iff_exists.mp (rests.isSome known)
    rw [World.connection_of_find? row'] at later
    -- The sink may have closed the connection when it was told of its link, or asked it to close.
    rcases later with established' | closed'
    · obtain ⟨w', ends, leaves⟩ := Connection.disconnected_leaves env row' established'
      rw [ends]
      exact leaves.closed
    · exact (ends.holds _).hasClosed ⟨x', row', closed'⟩
  · have pending : x.state.isPending :=
      (ConnectionState.isPending_or_isEstablished closed).resolve_right established
    obtain ⟨w', ends, leaves⟩ := Connection.cancel_leaves env row closed .linkLost
    rw [if_neg established, if_pos pending, ends]
    exact leaves.closed

end CutOff

/-! ## The whole roster -/

/-- Who waits for the channel of the backend to come to its end. -/
def eofListener? (y : Backend) : Option ListenerId :=
  match y.part with
  | .mux part => part.eofListener
  | _ => none

def cutAllOff (env : Env σ) (b : BackendId) : Act σ Unit := do
  log .warn "MUX end of file" [("backend", b.label)]
  ((← get).backend b).live.forM fun c =>
    recover (cutOff env c) fun f =>
      log .warn "Failed to close connection on EOF" [("conn", c.label), ("error", f.message)]

instance cutAllOff_holds {Q : (α : Type) → Act σ α → Prop} [Base Q] [Upheld Q env]
    [ConnectionCalls Q env] (b : BackendId) : Holds Q (cutAllOff env b) := by
  unfold cutAllOff
  infer_instance

theorem run_endOfFile (env : Env σ) (b : BackendId) (w : World σ) :
    let v := ((cutAllOff env b).run w).2
    (endOfFile env b).run w =
      (v.backend b).eofListener?.elim ((), v) fun l => (env.tell l (.endOfFile b)).run v := by
  intro v
  have cut : v = ((cutAllOff env b).run w).2 := rfl
  unfold cutAllOff at cut
  unfold endOfFile eofListener?
  rw [run_bind, run_log, run_bind, run_get] at cut ⊢
  rw [run_bind, ← cut, run_bind, run_get]
  dsimp only
  cases (v.backend b).part with
  | mux part =>
      obtain ⟨_, _, _, _, listener⟩ := part
      cases listener <;> rfl
  | _ => rfl

theorem run_cutAllOff_nil (env : Env σ) (vacant : (w.backend b).live = []) :
    ∃ journal, ((cutAllOff env b).run w).2 = { w with journal } := by
  obtain ⟨journal, logged⟩ := w.log_journal .warn "MUX end of file" [("backend", b.label)]
  unfold cutAllOff
  rw [run_bind, run_log, logged, run_bind, run_get]
  have same : World.backend { w with journal } b = w.backend b := rfl
  rw [same, vacant]
  exact ⟨journal, rfl⟩

theorem run_cutAllOff_single (env : Env σ) (only : (w.backend b).live = [c]) :
    ∃ before after, ((cutAllOff env b).run w).2 =
      { ((cutOff env c).run.run { w with journal := before }).2 with journal := after } := by
  obtain ⟨journal, logged⟩ := w.log_journal .warn "MUX end of file" [("backend", b.label)]
  unfold cutAllOff
  rw [run_bind, run_log, logged, run_bind, run_get]
  have same : World.backend { w with journal } b = w.backend b := rfl
  rw [same, only]
  refine ⟨journal, ?_⟩
  have alone : ∀ f : ConnectionId → Act σ PUnit, [c].forM f = (f c >>= fun _ => pure ⟨⟩) :=
    fun _ => rfl
  rw [alone, run_bind, run_pure, run_recover]
  generalize (cutOff env c).run.run { w with journal } = cut
  obtain ⟨f | _, w'⟩ := cut
  · exact w'.log_journal _ _ _
  · exact ⟨w'.journal, rfl⟩

end Backend

namespace World.Underway

variable {y : Backend}

theorem cutAllOff_closes (underway : w.Underway b) (hosted : Hosted env)
    (known : w.backends.find? b = some y) (mux : y.kind = .mux) (among : c ∈ y.live) :
    ((Backend.cutAllOff env b).run w).2.HasClosed c := by
  have := hosted.leavesAtRest c
  have := hosted.goesOn c
  have only : (w.backend b).live = [c] := by
    rw [World.backend, Table.get, known]
    exact (underway.occupied known mux among).1
  obtain ⟨before, after, runs⟩ := Backend.run_cutAllOff_single env only
  obtain ⟨x, row, -⟩ := underway.untracks known among
  have closed := Backend.cutOff_closes env (w := { w with journal := before })
    (underway.settled c) (Option.isSome_of_eq_some row)
  rw [runs]
  exact closed

theorem cutAllOff_leaves (underway : w.Underway b) (hosted : Hosted env)
    (known : w.backends.find? b = some y) (mux : y.kind = .mux) (among : c ∈ y.live)
    (live : (w.connection c).state ≠ .closed) (passive : (w.connection c).sink.Passive env w) :
    let v := ((Backend.cutAllOff env b).run w).2
    v.heard c = w.heard c ++ w.lastWords c ∧ (v.backend b).live = [] := by
  intro v
  have := hosted.leavesAtRest c
  obtain ⟨only, occupied⟩ := underway.occupied known mux among
  have roster : (w.backend b).live = [c] := by rwa [World.backend, Table.get, known]
  obtain ⟨before, after, runs⟩ := Backend.run_cutAllOff_single env roster
  obtain ⟨x, row, noted⟩ := underway.untracks known among
  rw [World.connection_of_find? row] at live passive
  obtain ⟨w', cut, leaves⟩ := Backend.cutOff_leaves env (w := { w with journal := before })
    hosted.quiet.reapInterface (underway.settled c) row live passive
  rw [cut] at runs
  rw [show v = { w' with journal := after } from runs]
  refine ⟨leaves.heard, ?_⟩
  cases here : w'.backends.find? b with
  | none => simp [World.backend, Table.get, here]; rfl
  | some y' => simpa [World.backend, Table.get, here] using leaves.vacated b noted occupied y' here

theorem cutAllOff_vacates (underway : w.Underway b) (hosted : Hosted env)
    (known : w.backends.find? b = some y) (mux : y.kind = .mux)
    (passive : ∀ c ∈ y.live, (w.connection c).sink.Passive env w) :
    let v := ((Backend.cutAllOff env b).run w).2
    (∀ c ∈ (v.backend b).live, (v.connection c).state = .closed) ∧
      ((∀ c ∈ y.live, (w.connection c).state ≠ .closed) → (v.backend b).live = []) := by
  intro v
  have same : w.backend b = y := World.backend_of_find? known
  cases roster : y.live with
  | nil =>
      obtain ⟨journal, runs⟩ := Backend.run_cutAllOff_nil env (same ▸ roster)
      have vacant : (v.backend b).live = [] := by
        rw [show v = { w with journal } from runs]
        exact same ▸ roster
      exact ⟨by simp [vacant], fun _ => vacant⟩
  | cons c rest =>
      have among : c ∈ y.live := by simp [roster]
      obtain ⟨-, occupied⟩ := underway.occupied known mux among
      by_cases live : (w.connection c).state = .closed
      · have := hosted.leavesAtRest c
        have kept : Holds (Keeps (Rests c)) (Backend.cutAllOff env b) := inferInstance
        have rests : Rests c w v := kept.holds w
        have closed : w.HasClosed c := underway.hasClosed known among live
        refine ⟨fun c' among' => ?_, fun others => absurd live (others c (by simp))⟩
        obtain ⟨-, place⟩ := rests.occupied closed b occupied
        cases here : v.backends.find? b with
        | none =>
            rw [World.backend, Table.get, here] at among'
            cases among'
        | some y' =>
            rw [World.backend, Table.get, here, Option.getD_some, (place y' here).2] at among'
            rw [List.mem_singleton.mp among']
            exact (rests.hasClosed closed).state
      · have vacant := (underway.cutAllOff_leaves hosted known mux among live (passive c among)).2
        exact ⟨by simp [v, vacant], fun _ => vacant⟩

end World.Underway

/-- The host, but for somebody else who is told that a channel has come to its end. -/
def Env.handling (env : Env σ) (handler : ListenerId → BackendId → Act σ Unit) : Env σ :=
  { env with tell := fun l event =>
      match event with
      | .endOfFile b => handler l b
      | event => env.tell l event }

/-- When a channel has come to its end, every connection that its backend had made is closed, whatever
anybody does who is called back.  If the sinks do not call back, there is a moment when the live ones have
been told their last words, and no more, and none of them is live any longer.  Only then, and once,
whoever waits for the end of the channel is told.  Nothing is told of these connections later, even if the
start of one is still to come. -/
theorem Hosted.cuts_off (hosted : Hosted env) (underway : w.Underway b) {y : Backend}
    (known : w.backends.find? b = some y) (mux : y.kind = .mux) :
    let ended := ((Backend.endOfFile env b).run w).2
    (∀ c ∈ y.made, (ended.connection c).state = .closed) ∧
    ((∀ c ∈ y.live, (w.connection c).sink.Passive env w) → ∃ v : World σ,
      (∀ handler, (Backend.endOfFile (env.handling handler) b).run w =
        (v.backend b).eofListener?.elim ((), v) fun l => (handler l b).run v) ∧
      (∀ c ∈ (v.backend b).live, (v.connection c).state = .closed) ∧
      ((∀ c ∈ y.live, (w.connection c).state ≠ .closed) → (v.backend b).live = []) ∧
      ∀ c ∈ y.live, (v.connection c).state = .closed ∧
        v.heard c = w.heard c ++ w.lastWords c ∧
        ∀ {env' : Env σ} {α : Type} {a : Act σ α}, Hosted env' → Reaction env' α a →
          ((a.run ended).2.connection c).state = .closed ∧
            (a.run ended).2.heard c = v.heard c) := by
  intro ended
  let v := ((Backend.cutAllOff env b).run w).2
  have rests : ∀ c, Rests c v ended := by
    intro c
    have := hosted.leavesAtRest c
    have runs : ended = _ := congrArg Prod.snd (Backend.run_endOfFile env b w)
    rw [runs]
    cases (v.backend b).eofListener? with
    | none => exact .refl v
    | some l =>
        have told : Holds (Keeps (Rests c)) (env.tell l (.endOfFile b)) := ⟨Served.tell l _⟩
        exact told.holds v
  have closes : ∀ c ∈ y.live, v.HasClosed c := fun c among =>
    underway.cutAllOff_closes hosted known mux among
  refine ⟨fun c made => ?_, fun passive => ⟨v, ?_, ?_⟩⟩
  · by_cases among : c ∈ y.live
    · exact ((rests c).hasClosed (closes c among)).state
    · have closed := underway.hasClosed_of_not_live known made among
      have := hosted.leavesAtRest c
      have kept : Holds (Keeps (Rests c)) (Backend.endOfFile env b) := inferInstance
      exact ((kept.holds w).hasClosed closed).state
  · exact fun handler => Backend.run_endOfFile (env.handling handler) b w
  obtain ⟨left, vacated⟩ := underway.cutAllOff_vacates hosted known mux passive
  refine ⟨left, vacated, fun c among => ⟨(closes c among).state, ?_, fun hosted' reaction => ?_⟩⟩
  · by_cases live : (w.connection c).state = .closed
    · have := hosted.leavesAtRest c
      have kept : Holds (Keeps (Rests c)) (Backend.cutAllOff env b) := inferInstance
      rw [(kept.holds w).heard (underway.hasClosed known among live), World.lastWords, live,
        List.append_nil]
    · exact (underway.cutAllOff_leaves hosted known mux among live (passive c among)).1
  · have := hosted'.leavesAtRest c
    have later : Keeps (Rests c) _ _ := reaction.holds
    have closed : ended.HasClosed c := (rests c).hasClosed (closes c among)
    exact ⟨((later ended).hasClosed closed).state,
      ((later ended).heard closed).trans ((rests c).heard (closes c among))⟩

def wired : Act Unit (Except Fault ConnectionId) := do
  let r ← Registry.create {} ⟨1⟩ none
  let _ ← (Backend.openMux silentHost r ⟨1⟩ 0 none).run
  Backend.setEofListener ⟨1⟩ ⟨3⟩
  (Backend.start silentHost ⟨1⟩ ⟨1⟩ default default (.listener ⟨2⟩)).run

theorem wired_reached : Reached (wired.run { host := () }).2 := by
  refine ⟨silentHost, (), none, _, wired, silentHost_hosted, ?_, rfl⟩
  refine .bind (.basic (.inr (.createRegistry _ _ _))) fun r => ?_
  refine .bind (.basic (.inr (.openMux _ _ _ _))) fun _ => ?_
  refine .bind (.basic (.inr (.setEofListener _ _))) fun _ => ?_
  exact .basic (.inr (.start _ _ _ _ _))

theorem wired_cuts_off :
    let w := (wired.run { host := () }).2
    (w.connection ⟨1⟩).state = .connecting ∧
    let ended := ((Backend.endOfFile silentHost ⟨1⟩).run w).2
    (ended.connection ⟨1⟩).state = .closed ∧
      ((Loop.settle silentHost 0).run ended).2.heard ⟨1⟩ = [.connecting, .canceled .linkLost] := by
  intro w
  have seen : (w.backends.find? ⟨1⟩).map (fun y => (y.kind, y.made, y.live)) =
      some (.mux, [⟨1⟩], [⟨1⟩]) := by decide +kernel
  obtain ⟨y, known, parts⟩ := Option.map_eq_some_iff.mp seen
  obtain ⟨mux, made, live⟩ : y.kind = .mux ∧ y.made = [⟨1⟩] ∧ y.live = [⟨1⟩] := by simpa using parts
  have state : (w.connection ⟨1⟩).state = .connecting := by decide +kernel
  have before : w.heard ⟨1⟩ = [] := by decide +kernel
  have listens : (w.connection ⟨1⟩).sink = .listener ⟨2⟩ := by decide +kernel
  obtain ⟨closes, passive⟩ :=
    silentHost_hosted.cuts_off (b := ⟨1⟩) wired_reached.underway known mux
  obtain ⟨v, -, -, -, told⟩ := passive fun c among => by
    rw [live, List.mem_singleton] at among
    rw [among, listens]
    exact fun _ => .pure ()
  obtain ⟨-, heard, later⟩ := told ⟨1⟩ (by simp [live])
  obtain ⟨-, silent⟩ := later silentHost_hosted (.basic (.inr (.settle 0)))
  refine ⟨state, closes ⟨1⟩ (by simp [made]), silent.trans (heard.trans ?_)⟩
  rw [before, World.lastWords, state, before]
  rfl

end DroneControl
