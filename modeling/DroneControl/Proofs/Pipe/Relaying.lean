import DroneControl.Proofs.Pipe.Contact

/-!
# Pipes relay once

Whatever a host does with a pipe while the pipe calls on it: the link is started once at most and
stopped once at most after that, frames are passed on only while the pipe is started, and the pipe
never gets back to a state that it has left.  A start that the link refuses may be made again.
-/

set_option synthInstance.maxSize 2048

namespace DroneControl

variable {σ α : Type} {p : PipeId} {env : Env (Watch σ)} {w w' : World (Watch σ)} {x x' : Pipe}
  {seen : List Sight}

/-! ## Records -/

theorem turnsOf_append (seen new : List Sight) :
    turnsOf (seen ++ new) = turnsOf seen ++ turnsOf new := by
  simp [turnsOf]

namespace Pipe.Seen

theorem keep (fits : x.Seen seen) (link : x'.link = x.link)
    (turned : ∀ turns, x.link.Turned x.state turns → x.link.Turned x'.state turns)
    (onward : x.state.rank ≤ x'.state.rank) : x'.Seen seen where
  turned := link ▸ turned _ fits.turned
  passes := fits.passes
  links sight among l named := (fits.links sight among l named).trans link.symm
  onward := by
    obtain ⟨before, -, latest⟩ := List.pairwise_append.mp fits.onward
    refine List.pairwise_append.mpr ⟨before, List.pairwise_singleton _ _, ?_⟩
    intro rank among last same
    cases List.mem_singleton.mp same
    exact Nat.le_trans (latest rank among _ (.head _)) onward

theorem add (fits : x.Seen seen) {sight : Sight} (link : x'.link = x.link)
    (turned : ∀ turns, x.link.Turned x.state turns →
      x.link.Turned x'.state (turns ++ turnsOf [sight]))
    (passes : sight.contact.passes → sight.state = .started)
    (links : ∀ link ∈ sight.contact.link?, link = x.link)
    (before : x.state.rank ≤ sight.state.rank) (after : sight.state.rank ≤ x'.state.rank) :
    x'.Seen (seen ++ [sight]) where
  turned := by
    rw [turnsOf_append, link]
    exact turned _ fits.turned
  passes sight' among := by
    rcases List.mem_append.mp among with old | new
    · exact fits.passes sight' old
    · cases List.mem_singleton.mp new
      exact passes
  links sight' among l named := by
    rw [link]
    rcases List.mem_append.mp among with old | new
    · exact fits.links sight' old l named
    · cases List.mem_singleton.mp new
      exact links l named
  onward := by
    obtain ⟨ordered, -, latest⟩ := List.pairwise_append.mp fits.onward
    rw [List.map_append, List.append_assoc]
    refine List.pairwise_append.mpr ⟨ordered, by simpa using after, fun rank among last same => ?_⟩
    have upTo := Nat.le_trans (latest rank among _ (.head _)) before
    rcases List.mem_cons.mp same with rfl | same
    · exact upTo
    · cases List.mem_singleton.mp same
      exact Nat.le_trans upTo after

theorem turn (fits : x.Seen seen) {contact : Link → Contact} {state : PipeState}
    (link : x'.link = x.link)
    (turned : ∀ turns, x.link.Turned x.state turns →
      x.link.Turned x'.state (turns ++ turnsOf (x.link.sights contact state)))
    (named : (contact x.link).link? = some x.link) (still : (contact x.link).passes = false)
    (before : x.state.rank ≤ state.rank) (after : state.rank ≤ x'.state.rank) :
    x'.Seen (seen ++ x.link.sights contact state) := by
  unfold Link.sights at turned ⊢
  split at turned
  · refine fits.add link turned (by simp [still]) ?_ before after
    intro l same
    rw [named] at same
    exact (Option.some.inj same).symm
  · rw [List.append_nil]
    refine fits.keep link (fun turns before => ?_) (Nat.le_trans before after)
    have := turned turns before
    rwa [show turnsOf [] = [] from rfl, List.append_nil] at this

theorem begun (fits : x.Seen seen) (created : x.state = .created) :
    x.begun.Seen (seen ++ x.link.sights .started .created) := by
  have after : x.begun = { x with state := .started, starts := x.starts + 1 } := if_pos created
  rw [after]
  refine fits.turn rfl ?_ rfl rfl (by simp [created]) (Nat.zero_le _)
  rw [created]
  intro turns before
  cases link : x.link <;> simp only [link, Link.Turned] at before ⊢ <;> subst before <;> rfl

theorem stopped (fits : x.Seen seen) (started : x.state = .started)
    (ends : x'.state = .stopped ∨ x'.state = .disposed) (link : x'.link = x.link) :
    x'.Seen (seen ++ x.link.sights .stopping x'.state) := by
  refine fits.turn link ?_ rfl rfl ?_ (Nat.le_refl _)
  · rw [started]
    intro turns before
    rcases ends with ends | ends <;> rw [ends] <;> cases own : x.link <;>
      simp only [own, Link.Turned] at before ⊢ <;> subst before
    · rfl
    · rfl
    · exact .inr rfl
    · rfl
  · rw [started]
    rcases ends with ends | ends <;> rw [ends] <;> decide

theorem ended (fits : x.Seen seen) (idle : x.state ≠ .started) :
    { x with state := .disposed, receiver := none }.Seen seen := by
  refine fits.keep rfl (fun turns before => ?_) x.state.rank_le_disposed
  cases link : x.link with
  | channel c => simpa [link, Link.Turned] using before
  | supplied l =>
    rw [link] at before
    cases state : x.state with
    | created => exact .inl (by simpa [state, Link.Turned] using before)
    | started => exact absurd state idle
    | stopped => exact .inr (by simpa [state, Link.Turned] using before)
    | disposed => simpa [state] using before

end Pipe.Seen

/-! ## Records and counts -/

theorem turnsOf_of_still {sight : Sight} (still : sight.contact.turns = false) :
    turnsOf [sight] = [] := by
  simp [turnsOf, still]

structure Pipe.Fits (x : Pipe) (seen : List Sight) : Prop extends x.Seen seen where
  tallies : x.Tallies seen

namespace Pipe.Fits

theorem of_new (link : Link) : Pipe.Fits { link } [] := by
  refine ⟨⟨?_, nofun, nofun, List.pairwise_singleton _ _⟩, fun _ _ => ⟨rfl, rfl⟩⟩
  cases link <;> rfl

theorem pass (fits : x.Fits seen) {sight : Sight} (still : sight.contact.turns = false)
    (passes : sight.contact.passes → sight.state = .started)
    (links : ∀ link ∈ sight.contact.link?, link = x.link) (same : sight.state = x.state) :
    x.Fits (seen ++ [sight]) where
  toSeen := by
    refine fits.toSeen.add rfl (fun turns before => ?_) passes links ?_ ?_
    · rwa [turnsOf_of_still still, List.append_nil]
    all_goals exact Nat.le_of_eq (by rw [same])
  tallies := by
    rw [Tallies, turnsOf_append, turnsOf_of_still still, List.append_nil]
    exact fits.tallies

theorem begun (fits : x.Fits seen) (created : x.state = .created) :
    x.begun.Fits (seen ++ x.link.sights .started .created) where
  toSeen := fits.toSeen.begun created
  tallies := by
    have after : x.begun = { x with state := .started, starts := x.starts + 1 } := if_pos created
    rw [after]
    intro l own
    change x.link = .supplied l at own
    obtain ⟨starts, stops⟩ := fits.tallies l own
    have turn : turnsOf (x.link.sights .started .created) = [.started x.link] := by
      rw [own]
      rfl
    simp [turnsOf_append, turn, starts, stops]

theorem stopped (fits : x.Fits seen) (started : x.state = .started)
    (ends : x'.state = .stopped ∨ x'.state = .disposed) (link : x'.link = x.link)
    (counts : ∀ l, x.link = .supplied l → x'.starts = x.starts ∧ x'.stops = x.stops + 1) :
    x'.Fits (seen ++ x.link.sights .stopping x'.state) where
  toSeen := fits.toSeen.stopped started ends link
  tallies := by
    intro l own
    rw [link] at own ⊢
    obtain ⟨starts, stops⟩ := fits.tallies l own
    obtain ⟨starts', stops'⟩ := counts l own
    have turn : turnsOf (x.link.sights .stopping x'.state) = [.stopping x.link] := by
      rw [own]
      rfl
    simp [turnsOf_append, turn, starts, stops, starts', stops']

end Pipe.Fits

/-! ## Worlds -/

def Onwards (p : PipeId) (w w' : World (Watch σ)) : Prop :=
  ∀ x, w.pipes.find? p = some x → x.Plain → ∃ x', w'.pipes.find? p = some x' ∧ x'.Plain ∧
    x'.link = x.link ∧ x.state.rank ≤ x'.state.rank ∧
    (x.Fits w.host.seen → x'.Fits w'.host.seen)

namespace Onwards

theorem of_same (pipes : w'.pipes = w.pipes) (seen : w'.host.seen = w.host.seen) :
    Onwards p w w' := by
  intro x row plain
  exact ⟨x, pipes ▸ row, plain, rfl, Nat.le_refl _, fun fits => seen ▸ fits⟩

theorem refl (w : World (Watch σ)) : Onwards p w w := of_same rfl rfl

theorem trans {w₁ w₂ w₃ : World (Watch σ)} (first : Onwards p w₁ w₂) (second : Onwards p w₂ w₃) :
    Onwards p w₁ w₃ := by
  intro x row plain
  obtain ⟨x', row', plain', link, onward, fits⟩ := first x row plain
  obtain ⟨x'', row'', plain'', link', onward', fits'⟩ := second x' row' plain'
  exact ⟨x'', row'', plain'', link'.trans link, Nat.le_trans onward onward', fits' ∘ fits⟩

instance closed : Closed (Keeps (σ := Watch σ) (Onwards p)) := Keeps.closed refl trans

theorem log (w : World (Watch σ)) (s : Severity) (message : String)
    (fields : List (String × String)) : Onwards p w (w.log s message fields) := by
  rw [w.log_eq]
  exact of_same rfl rfl

theorem update {f : Pipe → Pipe} (pipes : w'.pipes = w.pipes.update p f)
    (goes : ∀ x, w.pipes.find? p = some x → x.Plain → (f x).Plain ∧ (f x).link = x.link ∧
      x.state.rank ≤ (f x).state.rank ∧ (x.Fits w.host.seen → (f x).Fits w'.host.seen)) :
    Onwards p w w' := by
  intro x row plain
  refine ⟨f x, ?_, goes x row plain⟩
  rw [pipes, Table.find?_update, if_pos rfl, row]
  rfl

theorem of_row (row : w.pipes.find? p = some x) (row' : w'.pipes.find? p = some x')
    (plain : x.Plain → x'.Plain) (link : x'.link = x.link)
    (onward : x.state.rank ≤ x'.state.rank)
    (fits : x.Fits w.host.seen → x'.Fits w'.host.seen) : Onwards p w w' := by
  intro y there before
  obtain rfl := Option.some.inj (row.symm.trans there)
  exact ⟨x', row', plain before, link, onward, fits⟩

theorem receiver (w : World (Watch σ)) {receiver : Option Receiver}
    (plain : ∀ i, receiver ≠ some (.interface i)) :
    Onwards p w (w.updatePipe p fun x => { x with receiver }) :=
  update rfl fun _ _ _ => ⟨plain, rfl, Nat.le_refl _, fun fits =>
    ⟨fits.toSeen.keep rfl (fun _ => id) (Nat.le_refl _), fits.tallies⟩⟩

end Onwards

namespace Musing

theorem leaves {a : Act (Watch σ) α} (muses : Program Musing α a) (w : World (Watch σ)) :
    (a.run w).2.pipes = w.pipes ∧ (a.run w).2.host.seen = w.host.seen := by
  let Still (w w' : World (Watch σ)) := w'.pipes = w.pipes ∧ w'.host.seen = w.host.seen
  have : Closed (Keeps Still) := Keeps.closed (fun _ => ⟨rfl, rfl⟩)
    fun first second => ⟨second.1.trans first.1, second.2.trans first.2⟩
  have still : Keeps Still α a := muses.holds fun muse w => by
    cases muse
    exact ⟨rfl, rfl⟩
  exact still w

theorem onwards {a : Act (Watch σ) α} (muses : Program Musing α a) : Keeps (Onwards p) α a := by
  intro w
  obtain ⟨pipes, seen⟩ := leaves muses w
  exact .of_same pipes seen

end Musing

/-! ## Calls -/

theorem World.row_of_state (there : (w.pipe p).state ≠ .disposed) :
    w.pipes.find? p = some (w.pipe p) := by
  unfold World.pipe Table.get at there ⊢
  cases row : w.pipes.find? p with
  | none => simp [row, default] at there
  | some x => simp

namespace Pipe

theorem start_refused {σ : Type} (env : Env σ) {w : World σ} (other : (w.pipe p).state ≠ .created) :
    (start env p).run.run w = (.error (refusal "start" (w.pipe p).state), w) := by
  unfold start
  rw [run_lookThen]
  dsimp only
  rw [if_pos other]
  rfl

theorem stop_refused {σ : Type} (env : Env σ) {w : World σ} (other : (w.pipe p).state ≠ .started) :
    (stop env p).run.run w = (.error (refusal "stop" (w.pipe p).state), w) := by
  unfold stop
  rw [run_lookThen]
  dsimp only
  rw [if_pos other]
  rfl

theorem send_refused {σ : Type} (env : Env σ) {w : World σ} (other : (w.pipe p).state ≠ .started)
    (frame : Frame) :
    (send env p frame).run.run w = (.error (refusal "send on" (w.pipe p).state), w) := by
  unfold send
  rw [run_lookThen]
  dsimp only
  rw [if_pos other]
  rfl

theorem receive_refused {σ : Type} (env : Env σ) {w : World σ}
    (other : (w.pipe p).state ≠ .started) (frame : Frame) :
    (receive env p frame).run.run w = (.error (refusal "receive on" (w.pipe p).state), w) := by
  unfold receive
  rw [run_lookThen]
  dsimp only
  rw [if_pos other]
  rfl

theorem start_cases (muses : ∀ l, Program Musing _ (env.ask (.startLink l)).run)
    (row : w.pipes.find? p = some x) (created : x.state = .created) :
    ∃ result w', (start (env.watched p) p).run.run w = (result, w') ∧
      (result = .ok () ∧ w'.pipes = w.pipes.update p begun ∧
          w'.host.seen = w.host.seen ++ x.link.sights .started .created ∨
        (∃ f, result = .error f) ∧ w'.pipes = w.pipes ∧
          w'.host.seen = w.host.seen ++ [⟨.refused x.link, .created⟩]) := by
  unfold start
  rw [run_lookThen, World.pipe_of_find? row]
  dsimp only
  rw [if_neg (by simp [created])]
  unfold startLink Link.sights
  cases link : x.link with
  | channel c =>
    refine ⟨.ok (), (w.updatePipe p begun).log .debug "Frame pipe started" [], rfl, .inl ⟨rfl, ?_⟩⟩
    rw [World.log_eq]
    exact ⟨rfl, (List.append_nil _).symm⟩
  | supplied l =>
    obtain ⟨pipes, seen⟩ := Musing.leaves (muses l) w
    dsimp only [Env.watched]
    rw [run_tryThen, run_tryThen, run_onFailure]
    generalize (env.ask (.startLink l)).run.run w = r at pipes seen ⊢
    obtain ⟨result, w₁⟩ := r
    have state : (w₁.pipe p).state = .created := by
      rw [World.pipe_of_find? (show w₁.pipes.find? p = some x from pipes ▸ row), created]
    cases result with
    | error f =>
      refine ⟨.error f, w₁.saw p (.refused (.supplied l)), rfl, .inr ⟨⟨f, rfl⟩, pipes, ?_⟩⟩
      simp only [World.saw, state]
      exact congrArg (· ++ _) seen
    | ok =>
      refine ⟨.ok (), ((w₁.saw p (.started (.supplied l))).updatePipe p begun).log .debug
        "Frame pipe started" [], rfl, .inl ⟨rfl, ?_⟩⟩
      rw [World.log_eq]
      refine ⟨congrArg (·.update p begun) pipes, ?_⟩
      simp only [World.saw, World.updatePipe, state]
      exact congrArg (· ++ _) seen

theorem start_onwards (muses : ∀ l, Program Musing _ (env.ask (.startLink l)).run) :
    Keeps (Onwards p) _ (start (env.watched p) p).run := by
  intro w
  by_cases created : (w.pipe p).state = .created
  · have row := World.row_of_state (p := p) (w := w) (by simp [created])
    obtain ⟨result, w', same, ⟨-, pipes, seen⟩ | ⟨-, pipes, seen⟩⟩ := start_cases muses row created
    · have after : (w.pipe p).begun = { w.pipe p with
        state := .started, starts := (w.pipe p).starts + 1 } := if_pos created
      have row' : w'.pipes.find? p = some (w.pipe p).begun := by
        rw [pipes, Table.find?_update, if_pos rfl, row]
        rfl
      rw [same]
      refine .of_row row row' (by rw [after]; exact id) (by rw [after]) ?_ fun fits => ?_
      · rw [after, created]
        exact Nat.zero_le _
      · rw [seen]
        exact fits.begun created
    · rw [same]
      refine .of_row row (pipes ▸ row) id rfl (Nat.le_refl _) fun fits => ?_
      rw [seen]
      refine fits.pass rfl nofun ?_ created.symm
      rintro _ ⟨⟩
      rfl
  · rw [start_refused _ created]
    exact .refl w

section

variable (serves : Engages (Keeps (Onwards p)) env)

include serves

theorem stopLink_onwards (row : w.pipes.find? p = some x) (started : x.state = .started)
    {state : PipeState} (ends : state = .stopped ∨ state = .disposed) :
    Onwards p w ((stopLink (env.watched p) p state x.link).run.run w).2 := by
  have onward : x.state.rank ≤ state.rank := by
    rw [started]
    rcases ends with rfl | rfl <;> decide
  unfold stopLink
  cases link : x.link with
  | channel c =>
    have after : x.halted state = { x with state, receiver := none } := by
      simp [halted, started, link, Link.isChannel]
    have row' : (w.updatePipe p (·.halted state)).pipes.find? p =
        some { x with state, receiver := none } := by
      rw [World.updatePipe, Table.find?_update, if_pos rfl, row, ← after]
      rfl
    refine .of_row row row' (fun _ _ same => by cases same) rfl onward fun fits => ?_
    have seen : Pipe.Fits { x with state, receiver := none } _ :=
      fits.stopped started ends rfl fun l own => by cases link.symm.trans own
    rw [show x.link.sights .stopping state = [] by rw [link]; rfl, List.append_nil] at seen
    exact seen
  | supplied l =>
    have after : x.severed state = { x with state, receiver := none, stops := x.stops + 1 } := by
      simp [severed, started, link, Link.isChannel]
    have row' : (w.updatePipe p (·.severed state)).pipes.find? p =
        some { x with state, receiver := none, stops := x.stops + 1 } := by
      rw [World.updatePipe, Table.find?_update, if_pos rfl, row, ← after]
      rfl
    dsimp only [Env.watched]
    rw [run_actThen, run_actThen, run_modify, run_modify]
    refine Onwards.trans ?_ (serves.ask (.stopLink l) (fun _ same => by cases same) _)
    refine .of_row row row' (fun _ _ same => by cases same) rfl onward fun fits => ?_
    have seen : Pipe.Fits { x with state, receiver := none, stops := x.stops + 1 } _ :=
      fits.stopped started ends rfl fun _ _ => ⟨rfl, rfl⟩
    simp only [World.saw, World.pipe_of_find? row']
    have sights : x.link.sights .stopping state = [⟨.stopping (.supplied l), state⟩] := by
      rw [link]
      rfl
    rw [sights] at seen
    exact seen

theorem stop_onwards : Keeps (Onwards p) _ (stop (env.watched p) p).run := by
  intro w
  by_cases started : (w.pipe p).state = .started
  · have row := World.row_of_state (p := p) (w := w) (by simp [started])
    have stopped := stopLink_onwards serves row started (.inl rfl)
    unfold stop
    rw [run_lookThen]
    dsimp only
    rw [if_neg (by simp [started]), run_tryThen]
    generalize (stopLink (env.watched p) p .stopped (w.pipe p).link).run.run _ = r at stopped ⊢
    obtain ⟨result, w₁⟩ := r
    cases result with
    | error f => exact stopped
    | ok => exact stopped.trans (.log w₁ _ _ _)
  · rw [stop_refused _ started]
    exact .refl w

theorem dispose_onwards : Keeps (Onwards p) _ (dispose (env.watched p) p) := by
  intro w
  unfold dispose
  rw [run_bind, run_get]
  dsimp only
  by_cases started : (w.pipe p).state = .started
  · have row := World.row_of_state (p := p) (w := w) (by simp [started])
    have stopped := stopLink_onwards serves row started (.inr rfl)
    rw [if_pos started, run_recover]
    generalize (stopLink (env.watched p) p .disposed (w.pipe p).link).run.run _ = r at stopped ⊢
    obtain ⟨result, w₁⟩ := r
    cases result with
    | ok => exact stopped
    | error f => exact stopped.trans (.log w₁ _ _ _)
  · rw [if_neg started]
    refine .update rfl fun x row plain => ?_
    rw [World.pipe_of_find? row] at started
    have after : x.dropped = { x with state := .disposed, receiver := none } := if_neg started
    rw [after]
    exact ⟨fun _ => nofun, rfl, x.state.rank_le_disposed, fun fits =>
      ⟨fits.toSeen.ended started, fits.tallies⟩⟩

omit serves in
theorem saw_onwards (row : w.pipes.find? p = some x) (started : x.state = .started)
    (contact : Contact) (passes : contact.turns = false)
    (links : ∀ link ∈ contact.link?, link = x.link) : Onwards p w (w.saw p contact) := by
  have state : (w.pipe p).state = .started := by rw [World.pipe_of_find? row, started]
  exact .of_row row row id rfl (Nat.le_refl _) fun fits =>
    fits.pass passes (fun _ => state) links (state.trans started.symm)

theorem send_onwards (frame : Frame) : Keeps (Onwards p) _ (send (env.watched p) p frame).run := by
  intro w
  by_cases started : (w.pipe p).state = .started
  · have row := World.row_of_state (p := p) (w := w) (by simp [started])
    unfold send
    rw [run_lookThen]
    dsimp only
    rw [if_neg (by simp [started]), run_actThen]
    dsimp only [Env.watched]
    rw [run_actThen, run_log]
    have logged := Onwards.log (p := p) w .trace "Frame out" (frameFields frame)
    have row' : (w.log .trace "Frame out" (frameFields frame)).pipes.find? p = some (w.pipe p) := by
      rw [World.log_eq]
      exact row
    have saw := saw_onwards row' started (.sent (w.pipe p).link frame) rfl (by
      rintro _ ⟨⟩
      rfl)
    exact (logged.trans saw).trans (serves.ask (.sendFrame (w.pipe p).link frame) nofun _)
  · rw [send_refused _ started]
    exact .refl w

theorem receive_onwards (frame : Frame) :
    Keeps (Onwards p) _ (receive (env.watched p) p frame).run := by
  intro w x row plain
  by_cases started : (w.pipe p).state = .started
  · rw [World.pipe_of_find? row] at started
    unfold receive
    rw [run_lookThen, World.pipe_of_find? row]
    dsimp only
    rw [if_neg (by simp [started])]
    cases named : x.receiver with
    | none => exact Onwards.refl w x row plain
    | some receiver =>
      cases receiver with
      | interface i => exact absurd named (plain i)
      | listener l =>
        dsimp only
        rw [run_actThen, run_act, run_log]
        have logged := Onwards.log (p := p) w .trace "Frame in" (frameFields frame)
        have row' : (w.log .trace "Frame in" (frameFields frame)).pipes.find? p = some x := by
          rw [World.log_eq]
          exact row
        have saw := saw_onwards row' started (.received l frame) rfl nofun
        exact ((logged.trans saw).trans (serves.tell l (.received frame) _)) x row plain
  · rw [receive_refused _ started]
    exact Onwards.refl w x row plain

end

end Pipe

theorem PipeCall.onwards (serves : Engages (Keeps (Onwards p)) env) {a : Act (Watch σ) α}
    (call : PipeCall (env.watched p) p α a) : Keeps (Onwards p) α a := by
  cases call with
  | start => exact Pipe.start_onwards serves.startLink
  | stop => exact Pipe.stop_onwards serves
  | dispose => exact Pipe.dispose_onwards serves
  | send frame => exact Pipe.send_onwards serves frame
  | receive frame => exact Pipe.receive_onwards serves frame
  | setReceiver l => exact fun w => .receiver w fun i => nofun
  | clearReceiver => exact fun w => .receiver w fun i => nofun

theorem Watched.onwards (watched : Watched p env) {a : Act (Watch σ) α}
    (handling : Handling env p α a) : Keeps (Onwards p) α a := by
  induction watched generalizing α with
  | @innermost env engages =>
    have serves : Engages (Keeps (Onwards p)) env :=
      ⟨fun l event => Musing.onwards (engages.tell l event),
        fun request other => Musing.onwards (engages.ask request other), engages.startLink⟩
    refine handling.holds fun either => ?_
    rcases either with muses | call
    · exact Musing.onwards (.basic muses)
    · exact PipeCall.onwards serves call
  | @around inner env watched engages ih =>
    have serves : Engages (Keeps (Onwards p)) env :=
      ⟨fun l event => ih (engages.tell l event), fun request other => ih (engages.ask request other),
        engages.startLink⟩
    refine handling.holds fun either => ?_
    rcases either with muses | call
    · exact Musing.onwards (.basic muses)
    · exact PipeCall.onwards serves call

/-! ## Runs -/

theorem Watched.start_muses (watched : Watched p env) :
    ∃ inner : Env (Watch σ), env = inner.watched p ∧
      ∀ l, Program Musing _ (inner.ask (.startLink l)).run := by
  cases watched with
  | innermost engages => exact ⟨_, rfl, engages.startLink⟩
  | around _ engages => exact ⟨_, rfl, engages.startLink⟩

/-- However a new pipe is used, it counts the starts and the stops that its link sees. -/
theorem Watched.tallies (watched : Watched p env) {link : Link} {a : Act (Watch σ) α}
    (row : w.pipes.find? p = some { link }) (unseen : w.host.seen = [])
    (handling : Handling env p α a) :
    ∃ x, (a.run w).2.pipes.find? p = some x ∧ x.link = link ∧ x.Tallies (a.run w).2.host.seen := by
  obtain ⟨x, row', -, same, -, fits⟩ := watched.onwards handling w _ row fun _ => nofun
  exact ⟨x, row', same, (fits (unseen ▸ .of_new link)).tallies⟩

/-- What a state does not allow is refused, and nothing changes. -/
structure Pipe.Refuses {σ : Type} (env : Env σ) (p : PipeId) : Prop where
  start : ∀ w : World σ, (w.pipe p).state ≠ .created →
    (Pipe.start env p).run.run w = (.error (refusal "start" (w.pipe p).state), w)
  stop : ∀ w : World σ, (w.pipe p).state ≠ .started →
    (Pipe.stop env p).run.run w = (.error (refusal "stop" (w.pipe p).state), w)
  send : ∀ (w : World σ) (frame : Frame), (w.pipe p).state ≠ .started →
    (Pipe.send env p frame).run.run w = (.error (refusal "send on" (w.pipe p).state), w)
  receive : ∀ (w : World σ) (frame : Frame), (w.pipe p).state ≠ .started →
    (Pipe.receive env p frame).run.run w = (.error (refusal "receive on" (w.pipe p).state), w)

/-- A pipe relays once.  However a new pipe is used, and whatever its link and its receiver do when
it calls on them: they have seen one start at most, one stop at most after it and before the end, and
frames only while the pipe was started.  Nothing takes a pipe back to a state that it has left.  A start
leaves a new pipe as it was if the link refuses, so that the next start finds the same.  And what the
state of a pipe does not allow changes nothing. -/
theorem Watched.relays_once (watched : Watched p env) :
    (∀ (w : World (Watch σ)) (link : Link) (α : Type) (a : Act (Watch σ) α),
      w.pipes.find? p = some { link } → w.host.seen = [] → Handling env p α a →
      ∃ x, (a.run w).2.pipes.find? p = some x ∧ x.link = link ∧ x.Seen (a.run w).2.host.seen) ∧
    (∀ (w : World (Watch σ)) (x : Pipe) (α : Type) (a : Act (Watch σ) α),
      w.pipes.find? p = some x → x.Plain → Handling env p α a →
      ∃ x', (a.run w).2.pipes.find? p = some x' ∧ x'.Plain ∧ x.state.rank ≤ x'.state.rank) ∧
    (∀ (w : World (Watch σ)) (x : Pipe), w.pipes.find? p = some x → x.state = .created →
      ∃ result w', (Pipe.start env p).run.run w = (result, w') ∧
        (result = .ok () ∧ w'.pipes = w.pipes.update p Pipe.begun ∧
            w'.host.seen = w.host.seen ++ x.link.sights .started .created ∨
          (∃ f, result = .error f) ∧ w'.pipes = w.pipes ∧
            w'.host.seen = w.host.seen ++ [⟨.refused x.link, .created⟩])) ∧
    Pipe.Refuses env p := by
  refine ⟨?_, ?_, ?_, ?_⟩
  · intro w link α a row unseen handling
    obtain ⟨x, row', -, same, -, fits⟩ := watched.onwards handling w _ row fun _ => nofun
    exact ⟨x, row', same, (fits (unseen ▸ .of_new link)).toSeen⟩
  · intro w x α a row plain handling
    obtain ⟨x', row', plain', -, onward, -⟩ := watched.onwards handling w x row plain
    exact ⟨x', row', plain', onward⟩
  · intro w x row created
    obtain ⟨inner, rfl, muses⟩ := watched.start_muses
    exact Pipe.start_cases muses row created
  · exact ⟨fun w other => Pipe.start_refused env other, fun w other => Pipe.stop_refused env other,
      fun w frame other => Pipe.send_refused env other frame,
      fun w frame other => Pipe.receive_refused env other frame⟩

def plainLink : Env (Watch Bool) where
  tell _ _ := pure ()
  ask _ := pure ()
  order _ := pure ()
  openSession _ _ _ := pure true
  openChannel _ _ _ := pure ⟨1⟩
  reap _ := pure ()

def noThenYes (w : World (Watch Bool)) : Except Fault Unit × Bool × List Note :=
  (if w.host.mind then .ok () else .error (.transport "not yet"), true, w.journal)

/-- A link that refuses to start at first, stops the pipe as soon as a frame is sent and then refuses
to stop, and a receiver that disposes of the pipe. -/
def wilfulLink (p : PipeId) : Env (Watch Bool) :=
  { plainLink with
    tell := fun _ _ => Pipe.dispose (plainLink.watched p) p
    ask := fun request =>
      match request with
      | .startLink _ => .mk (modifyGet fun w =>
          ((noThenYes w).1,
            { w with
              host := { w.host with mind := (noThenYes w).2.1 }
              journal := (noThenYes w).2.2 }))
      | .sendFrame _ _ => Pipe.stop (plainLink.watched p) p
      | _ => throw (.transport "busy") }

theorem plainLink_watched (p : PipeId) : Watched p (plainLink.watched p) := by
  refine .innermost ⟨?_, ?_, ?_⟩
  all_goals intros; exact .pure _

theorem wilfulLink_watched (p : PipeId) : Watched p ((wilfulLink p).watched p) := by
  refine .around (plainLink_watched p) ⟨?_, ?_, ?_⟩
  · intro l event
    exact .basic (.inr .dispose)
  · intro request other
    cases request with
    | startLink l => exact absurd rfl (other l)
    | sendFrame link frame => exact .basic (.inr .stop)
    | _ => exact .pure _
  · intro l
    exact .basic (.muse noThenYes)

def fullTreatment (env : Env (Watch Bool)) (p : PipeId) : Act (Watch Bool) Unit := do
  let _ ← (Pipe.start env p).run
  let _ ← (Pipe.start env p).run
  Pipe.setReceiver p (.listener ⟨1⟩)
  let _ ← (Pipe.send env p default).run
  let _ ← (Pipe.receive env p default).run
  let _ ← (Pipe.stop env p).run
  Pipe.dispose env p
  Pipe.clearReceiver p

theorem fullTreatment_handling (env : Env (Watch Bool)) (p : PipeId) :
    Handling env p Unit (fullTreatment env p) := by
  refine .bind (.basic (.inr .start)) fun _ => ?_
  refine .bind (.basic (.inr .start)) fun _ => ?_
  refine .bind (.basic (.inr (.setReceiver _))) fun _ => ?_
  refine .bind (.basic (.inr (.send _))) fun _ => ?_
  refine .bind (.basic (.inr (.receive _))) fun _ => ?_
  refine .bind (.basic (.inr .stop)) fun _ => ?_
  exact .bind (.basic (.inr .dispose)) fun _ => .basic (.inr .clearReceiver)

theorem wilfulLink_relays_once :
    let link : Link := .supplied ⟨7⟩
    let w := ((Pipe.create link).run { host := { mind := false } }).2
    let env := (wilfulLink ⟨1⟩).watched ⟨1⟩
    let w' := ((fullTreatment env ⟨1⟩).run w).2
    ((∃ x, w'.pipes.find? ⟨1⟩ = some x ∧ x.link = link ∧ x.Seen w'.host.seen) ∧
      Pipe.Refuses env ⟨1⟩) ∧
    w'.host.seen = [⟨.refused link, .created⟩, ⟨.started link, .created⟩,
      ⟨.sent link default, .started⟩, ⟨.stopping link, .stopped⟩] := by
  intro link w env w'
  obtain ⟨runs, -, -, refuses⟩ := (wilfulLink_watched ⟨1⟩).relays_once
  exact ⟨⟨runs w link Unit _ (by decide +kernel) (by decide +kernel)
    (fullTreatment_handling env ⟨1⟩), refuses⟩, by decide +kernel⟩

end DroneControl
