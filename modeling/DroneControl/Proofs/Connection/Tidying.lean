import DroneControl.Proofs.Connection.Course
import Mathlib.Data.List.Chain
import Mathlib.Data.List.Perm.Basic

/-!
# How a connection is kept tidy

A connection goes from state to state along few ways, and has a pipe just as long as it is established.
The relation between two worlds that carries this from the one to the other says as well that a closed
connection and a disposed pipe stay so, and that nothing is left of a closed connection if nothing was
left of it before.  Everything but the connection's own transitions has the relation at once.
-/

set_option synthInstance.maxSize 2048

namespace DroneControl

variable {σ : Type} {c c' : ConnectionId} {w w' w'' : World σ} {env : Env σ}

/-- The states that a connection goes to from each. -/
def ConnectionState.next : ConnectionState → List ConnectionState
  | connecting => [.connected, .canceling, .closed]
  | connected => [.disconnecting, .closed]
  | canceling | disconnecting => [.closed]
  | closed => []

namespace Connection

/-- The states that the connection has been in up to now, each with the pipe it had then. -/
def stages (x : Connection) : List (ConnectionState × Option PipeId) :=
  x.past ++ [(x.state, x.pipe)]

/-- The connection has, or once had, the pipe. -/
def Held (x : Connection) (p : PipeId) : Prop := ∃ s ∈ x.stages, s.2 = some p

/-- The connection came to its state by a way there is, with a pipe just where there has to be one, and
nothing is doubled of what was noted to be done on closing, or lost unless its backend gave it up. -/
structure Regular (x : Connection) (givenUp : Prop) : Prop where
  begins : x.stages.head? = some (.connecting, none)
  moves : x.stages.IsChain fun a b => b.1 ∈ a.1.next
  piped : ∀ s ∈ x.stages, s.2.isSome = s.1.isEstablished
  single : x.state ≠ .closed → ∀ p, x.Held p → x.pipe = some p
  hooks : ∃ dropped, x.noted.Perm (x.done ++ x.hooks ++ dropped) ∧ (dropped ≠ [] → givenUp)

variable {x x' : Connection} {state : ConnectionState} {pipe : Option PipeId} {p : PipeId}
  {givenUp givenUp' : Prop}

theorem mem_stages (x : Connection) : (x.state, x.pipe) ∈ x.stages := by simp [stages]

theorem stages_enter (other : x.state ≠ state) (pipe : Option PipeId) :
    (x.enter state pipe).stages = x.stages ++ [(state, pipe)] := by
  simp [stages, enter, other]

theorem held_enter (held : (x.enter state pipe).Held p) : x.Held p ∨ pipe = some p := by
  obtain ⟨s, among, has⟩ := held
  by_cases other : x.state = state
  · simp only [stages, enter, other, if_true, List.mem_append, List.mem_singleton] at among
    rcases among with before | rfl
    · exact .inl ⟨s, by simp [stages, before], has⟩
    · exact .inr has
  · rw [stages_enter other pipe, List.mem_append, List.mem_singleton] at among
    rcases among with before | rfl
    · exact .inl ⟨s, before, has⟩
    · exact .inr has

theorem held_closed (held : x.closed.Held p) : x.Held p := (held_enter held).resolve_right nofun

theorem held_closeRequested (held : x.closeRequested.Held p) : x.Held p := by
  have own : x.pipe = some p → x.Held p := fun has => ⟨_, x.mem_stages, has⟩
  unfold closeRequested at held
  split at held
  · exact (held_enter held).elim id own
  · exact (held_enter held).elim id own
  · exact held

theorem held_dropPipe (held : { x with pipe := none }.Held p) : x.Held p := by
  obtain ⟨s, among, has⟩ := held
  simp only [stages, List.mem_append, List.mem_singleton] at among
  rcases among with before | rfl
  · exact ⟨s, by simp [stages, before], has⟩
  · cases has

namespace Regular

theorem congr (regular : x.Regular givenUp) (stages : x'.past = x.past ∧ x'.state = x.state ∧
    x'.pipe = x.pipe) (hooks : x'.noted = x.noted ∧ x'.done = x.done ∧ x'.hooks = x.hooks) :
    x'.Regular givenUp := by
  obtain ⟨begins, moves, piped, single, perm⟩ := regular
  have same : x'.stages = x.stages := by simp only [Connection.stages, stages]
  refine ⟨same ▸ begins, same ▸ moves, same ▸ piped, ?_, ?_⟩
  · rw [stages.2.1, stages.2.2]
    simpa only [Held, same] using single
  · rwa [hooks.1, hooks.2.1, hooks.2.2]

theorem mono (regular : x.Regular givenUp) (weaker : givenUp → givenUp') : x.Regular givenUp' :=
  { regular with hooks := regular.hooks.imp fun _ => And.imp_right (weaker ∘ ·) }

theorem pipe_isSome (regular : x.Regular givenUp) : x.pipe.isSome = x.state.isEstablished :=
  regular.piped _ x.mem_stages

theorem pipe_eq_none (regular : x.Regular givenUp) (other : x.state.isEstablished = false) :
    x.pipe = none := by
  rw [← Option.isNone_iff_eq_none, ← Option.not_isSome, regular.pipe_isSome, other]
  rfl

theorem enter (regular : x.Regular givenUp) (next : state ∈ x.state.next)
    (piped : pipe.isSome = state.isEstablished)
    (keeps : state ≠ .closed → x.pipe.isSome → pipe = x.pipe) :
    (x.enter state pipe).Regular givenUp := by
  have live : x.state ≠ .closed := by
    intro closed
    simp [closed, ConnectionState.next] at next
  have other : x.state ≠ state := by
    rintro rfl
    cases h : x.state <;> simp [h, ConnectionState.next] at next
  obtain ⟨begins, moves, was, single, hooks⟩ := regular
  have grown := stages_enter other pipe
  have last : x.stages.getLast? = some (x.state, x.pipe) := by simp [stages]
  refine ⟨?_, ?_, ?_, ?_, hooks⟩
  · rw [grown, List.head?_append, begins]
    rfl
  · rw [grown, List.isChain_append]
    refine ⟨moves, .singleton _, ?_⟩
    rintro a ha b ⟨⟩
    obtain rfl := Option.some.inj (last.symm.trans ha)
    exact next
  · intro s among
    rw [grown, List.mem_append, List.mem_singleton] at among
    rcases among with before | rfl
    · exact was s before
    · exact piped
  · intro goesOn p held
    rcases held_enter held with before | here
    · have own := single live p before
      exact (keeps goesOn (by simp [own])).trans own
    · exact here

theorem closed (regular : x.Regular givenUp) : x.closed.Regular givenUp := by
  by_cases already : x.state = .closed
  · have bare := regular.pipe_eq_none (by simp [already, ConnectionState.isEstablished])
    refine regular.congr ⟨?_, ?_, ?_⟩ ⟨rfl, rfl, rfl⟩ <;>
      simp [Connection.closed, Connection.enter, already, bare]
  · refine regular.enter ?_ rfl (fun other => absurd rfl other)
    cases h : x.state <;> simp_all [ConnectionState.next]

theorem closeRequested (regular : x.Regular givenUp) : x.closeRequested.Regular givenUp := by
  have has := regular.pipe_isSome
  unfold Connection.closeRequested
  split
  · next state =>
      refine regular.enter (by simp [state, ConnectionState.next]) ?_ fun _ _ => rfl
      simp [has, state, ConnectionState.isEstablished]
  · next state =>
      refine regular.enter (by simp [state, ConnectionState.next]) ?_ fun _ _ => rfl
      simp [has, state, ConnectionState.isEstablished]
  · exact regular

theorem dropHooks (regular : x.Regular givenUp) (given : givenUp) :
    { x with hooks := [] }.Regular givenUp := by
  obtain ⟨dropped, perm, -⟩ := regular.hooks
  refine { regular with hooks := ⟨x.hooks ++ dropped, ?_, fun _ => given⟩ }
  simpa using perm

end Regular

structure CarriesTo (x x' : Connection) : Prop where
  regular : ∀ givenUp, x.Regular givenUp → x'.Regular givenUp
  shut : x.state = .closed → x'.state = .closed ∧ ∀ p, x'.Held p → x.Held p

structure TidiesTo (x x' : Connection) : Prop extends CarriesTo x x' where
  live : x'.state = .closed → x.state = .closed
  hooks : x.state = .closed → x.hooks = [] → x'.hooks = []

theorem CarriesTo.trans {x'' : Connection} (first : x.CarriesTo x') (second : x'.CarriesTo x'') :
    x.CarriesTo x'' where
  regular givenUp := second.regular givenUp ∘ first.regular givenUp
  shut closed := by
    obtain ⟨closed', held⟩ := first.shut closed
    obtain ⟨closed'', held'⟩ := second.shut closed'
    exact ⟨closed'', fun p => held p ∘ held' p⟩

theorem carriesTo_closed (x : Connection) : x.CarriesTo x.closed :=
  ⟨fun _ regular => regular.closed, fun _ => ⟨rfl, fun _ => held_closed⟩⟩

theorem tidiesTo_of_same (stages : x'.past = x.past ∧ x'.state = x.state ∧ x'.pipe = x.pipe)
    (hooks : x'.noted = x.noted ∧ x'.done = x.done ∧ x'.hooks = x.hooks) : x.TidiesTo x' where
  regular _ regular := regular.congr stages hooks
  shut closed := by
    refine ⟨stages.2.1.trans closed, fun p held => ?_⟩
    simpa only [Held, Connection.stages, stages] using held
  live := stages.2.1.symm.trans
  hooks _ := hooks.2.2.trans

theorem tidiesTo_closeRequested (x : Connection) : x.TidiesTo x.closeRequested := by
  have same : x.state = .closed → x.closeRequested = x := by
    intro closed
    simp [Connection.closeRequested, closed]
  refine ⟨⟨fun _ regular => regular.closeRequested, fun closed => ?_⟩, fun closed => ?_,
    fun closed => ?_⟩
  · rw [same closed]
    exact ⟨closed, fun _ => id⟩
  · unfold Connection.closeRequested at closed
    split at closed
    · simp at closed
    · simp at closed
    · exact closed
  · rw [same closed]
    exact id

theorem tidiesTo_dropPipe (closed : x.state = .closed) : x.TidiesTo { x with pipe := none } where
  regular _ regular := by
    -- A closed connection has no pipe to lose.
    have bare := regular.pipe_eq_none (by simp [closed, ConnectionState.isEstablished])
    exact regular.congr ⟨rfl, rfl, bare.symm⟩ ⟨rfl, rfl, rfl⟩
  shut closed := ⟨closed, fun _ => held_dropPipe⟩
  live := id
  hooks _ := id

def noting (x : Connection) (hook : CloseHook) : Connection :=
  if x.state = .closed then { x with noted := x.noted ++ [hook], done := x.done ++ [hook] }
  else { x with noted := x.noted ++ [hook], hooks := x.hooks ++ [hook] }

theorem stages_noting (x : Connection) (hook : CloseHook) : (x.noting hook).stages = x.stages := by
  unfold noting stages
  split <;> rfl

theorem tidiesTo_noting (x : Connection) (hook : CloseHook) : x.TidiesTo (x.noting hook) := by
  have stages := x.stages_noting hook
  have state : (x.noting hook).state = x.state ∧ (x.noting hook).pipe = x.pipe := by
    unfold noting
    split <;> exact ⟨rfl, rfl⟩
  refine ⟨⟨fun givenUp regular => ?_, fun closed => ⟨state.1.trans closed, fun p held => ?_⟩⟩,
    state.1.symm.trans, fun closed => ?_⟩
  · obtain ⟨begins, moves, piped, single, dropped, perm, given⟩ := regular
    refine ⟨stages ▸ begins, stages ▸ moves, stages ▸ piped, ?_, dropped, ?_, given⟩
    · rw [state.1, state.2]
      simpa only [Held, stages] using single
    · have more := perm.append_right [hook]
      unfold noting
      split
      · refine more.trans ?_
        simp only [List.append_assoc]
        exact .append_left _ (by rw [← List.append_assoc]; exact List.perm_append_comm)
      · refine more.trans ?_
        simp only [List.append_assoc]
        exact .append_left _ (.append_left _ List.perm_append_comm)
  · simpa only [Held, stages] using held
  · simp only [noting, closed, if_true, imp_self]

end Connection

namespace Pipe

theorem GoesTo.refl (x : Pipe) : x.GoesTo x := ⟨id, id⟩

theorem GoesTo.trans {x y z : Pipe} (first : x.GoesTo y) (second : y.GoesTo z) : x.GoesTo z :=
  ⟨second.tidy ∘ first.tidy, second.ended ∘ first.ended⟩

end Pipe

namespace World

/-- The connection is regular and its pipes are known, as all pipes are tidy. -/
structure Regular (w : World σ) (c : ConnectionId) : Prop where
  pipes : ∀ p y, w.pipes.find? p = some y → y.Tidy
  row : ∀ x, w.connections.find? c = some x → x.Regular (w.GivenUp c)
  known : ∀ x, w.connections.find? c = some x → ∀ p, x.Held p → (w.pipes.find? p).isSome

/-- Nothing is left of a connection: its pipes are at their end and its hooks are gone. -/
structure Ended (w : World σ) (c : ConnectionId) (x : Connection) : Prop where
  pipes : ∀ p, x.Held p → ∃ y, w.pipes.find? p = some y ∧ y.state = .disposed
  hooks : x.hooks = []

/-- If the connection is closed, nothing is left of it. -/
def Finished (w : World σ) (c : ConnectionId) : Prop :=
  ∀ x, w.connections.find? c = some x → x.state = .closed → w.Ended c x

end World

/-- A connection and all pipes carry on. -/
structure Carries (c : ConnectionId) (w w' : World σ) : Prop where
  pipes : ∀ p y, w.pipes.find? p = some y → ∃ y', w'.pipes.find? p = some y' ∧ y.GoesTo y'
  shut : ∀ x, w.connections.find? c = some x → x.state = .closed →
    ∃ x', w'.connections.find? c = some x' ∧ x'.state = .closed ∧ ∀ p, x'.Held p → x.Held p
  givenUp : w.GivenUp c → w'.GivenUp c
  regular : w.Regular c → w'.Regular c

structure Tidies (c : ConnectionId) (w w' : World σ) : Prop extends Carries c w w' where
  finished : w.Regular c → w.Finished c → w'.Finished c

namespace Carries

theorem trans (first : Carries c w w') (second : Carries c w' w'') : Carries c w w'' where
  pipes p y hy := by
    obtain ⟨y', hy', goes⟩ := first.pipes p y hy
    obtain ⟨y'', hy'', goes'⟩ := second.pipes p y' hy'
    exact ⟨y'', hy'', goes.trans goes'⟩
  shut x hx closed := by
    obtain ⟨x', hx', closed', held⟩ := first.shut x hx closed
    obtain ⟨x'', hx'', closed'', held'⟩ := second.shut x' hx' closed'
    exact ⟨x'', hx'', closed'', fun p => held p ∘ held' p⟩
  givenUp := second.givenUp ∘ first.givenUp
  regular := second.regular ∘ first.regular

theorem of_row {x x' : Connection} (hx : w.connections.find? c = some x)
    (hx' : w'.connections.find? c = some x')
    (regular : x.Regular (w'.GivenUp c) → x'.Regular (w'.GivenUp c))
    (shut : x.state = .closed → x'.state = .closed ∧ ∀ p, x'.Held p → x.Held p)
    (known : ∀ p, x'.Held p → x.Held p ∨ (w.pipes.find? p).isSome)
    (pipes : w'.pipes = w.pipes) (givenUp : w.GivenUp c → w'.GivenUp c) : Carries c w w' where
  pipes p y hy := ⟨y, pipes ▸ hy, .refl y⟩
  shut y hy closed := by
    obtain rfl := Option.some.inj (hx.symm.trans hy)
    exact ⟨x', hx', shut closed⟩
  givenUp := givenUp
  regular was := by
    refine ⟨pipes ▸ was.pipes, fun y hy => ?_, fun y hy p held => ?_⟩
    · obtain rfl := Option.some.inj (hx'.symm.trans hy)
      exact regular ((was.row x hx).mono givenUp)
    · obtain rfl := Option.some.inj (hx'.symm.trans hy)
      rw [pipes]
      exact (known p held).elim (was.known x hx p) id

end Carries

namespace Tidies

theorem trans (first : Tidies c w w') (second : Tidies c w' w'') : Tidies c w w'' where
  toCarries := first.toCarries.trans second.toCarries
  finished regular := second.finished (first.regular regular) ∘ first.finished regular

theorem of_same_row (row : w'.connections.find? c = w.connections.find? c)
    (givenUp : w.GivenUp c → w'.GivenUp c)
    (pipes : ∀ p y, w.pipes.find? p = some y → ∃ y', w'.pipes.find? p = some y' ∧ y.GoesTo y')
    (tidy : (∀ p y, w.pipes.find? p = some y → y.Tidy) →
      ∀ p y, w'.pipes.find? p = some y → y.Tidy) : Tidies c w w' where
  pipes := pipes
  shut x hx closed := ⟨x, row.trans hx, closed, fun _ => id⟩
  givenUp := givenUp
  regular regular := by
    refine ⟨tidy regular.pipes, fun x hx => ?_, fun x hx p held => ?_⟩
    · exact (regular.row x (row.symm.trans hx)).mono givenUp
    · obtain ⟨y, hy⟩ := Option.isSome_iff_exists.mp (regular.known x (row.symm.trans hx) p held)
      obtain ⟨y', hy', -⟩ := pipes p y hy
      simp [hy']
  finished _ finished x hx closed := by
    obtain ⟨ended, hooks⟩ := finished x (row.symm.trans hx) closed
    refine ⟨fun p held => ?_, hooks⟩
    obtain ⟨y, hy, gone⟩ := ended p held
    obtain ⟨y', hy', goes⟩ := pipes p y hy
    exact ⟨y', hy', goes.ended gone⟩

theorem of_same (connections : w'.connections = w.connections) (history : w'.history = w.history)
    (pipes : w'.pipes = w.pipes) : Tidies c w w' := by
  refine of_same_row (by rw [connections]) (World.givenUp_congr history c).ge
    (fun p y hy => ⟨y, pipes ▸ hy, .refl y⟩) fun tidy => pipes ▸ tidy

theorem refl (w : World σ) : Tidies c w w := of_same rfl rfl rfl

theorem mark (w : World σ) (o : Occurrence) : Tidies c w (w.mark o) :=
  of_same_row rfl (fun given => (World.givenUp_mark w c o).mpr (.inl given))
    (fun _ y hy => ⟨y, hy, .refl y⟩) id

theorem log (w : World σ) (s : Severity) (message : String) (fields : List (String × String)) :
    Tidies c w (w.log s message fields) := by
  unfold World.log
  split
  · exact of_same rfl rfl rfl
  · exact .refl w

theorem updatePipe (w : World σ) (p : PipeId) {f : Pipe → Pipe} (goes : ∀ x : Pipe, x.GoesTo (f x)) :
    Tidies c w (w.updatePipe p f) := by
  have row : ∀ q, (w.updatePipe p f).pipes.find? q =
      if p = q then (w.pipes.find? p).map f else w.pipes.find? q :=
    fun q => Table.find?_update _ _ _ _
  refine of_same_row rfl id (fun q y hy => ?_) fun tidy q y hy => ?_
  · rw [row]
    split
    · next here => exact ⟨f y, by simp [here, hy], goes y⟩
    · exact ⟨y, hy, .refl y⟩
  · rw [row] at hy
    split at hy
    · obtain ⟨z, hz, rfl⟩ := Option.map_eq_some_iff.mp hy
      exact (goes z).tidy (tidy p z hz)
    · exact tidy q y hy

theorem addPipe (w : World σ) (link : Link) :
    Tidies c w { w with pipes := (w.pipes.add { link }).2 } := by
  refine of_same_row rfl id (fun q y hy => ⟨y, ?_, .refl y⟩) fun tidy q y hy => ?_
  · have other : (⟨w.pipes.next⟩ : PipeId) ≠ q := by
      rintro rfl
      simp [Table.find?_next] at hy
    rw [Table.find?_add, if_neg other]
    exact hy
  · rw [Table.find?_add] at hy
    split at hy
    · obtain rfl := Option.some.inj hy
      exact ⟨rfl, rfl⟩
    · exact tidy q y hy

theorem of_other (row : w'.connections.find? c = w.connections.find? c) (pipes : w'.pipes = w.pipes)
    (history : w'.history = w.history) : Tidies c w w' :=
  of_same_row row (World.givenUp_congr history c).ge (fun _ y hy => ⟨y, pipes ▸ hy, .refl y⟩)
    fun tidy => pipes ▸ tidy

theorem of_row {x x' : Connection} (hx : w.connections.find? c = some x)
    (hx' : w'.connections.find? c = some x') (tidies : x.TidiesTo x')
    (known : ∀ p, x'.Held p → x.Held p ∨ (w.pipes.find? p).isSome)
    (pipes : w'.pipes = w.pipes) (history : w'.history = w.history) : Tidies c w w' where
  toCarries := .of_row hx hx' (tidies.regular _) tidies.shut known pipes
    (World.givenUp_congr history c).ge
  finished _ finished y hy closed := by
    obtain rfl := Option.some.inj (hx'.symm.trans hy)
    have was := tidies.live closed
    obtain ⟨ended, hooks⟩ := finished x hx was
    refine ⟨fun p held => ?_, ?_⟩
    · rw [pipes]
      exact ended p ((tidies.shut was).2 p held)
    · exact tidies.hooks was hooks

theorem of_map {f : Connection → Connection}
    (row : w'.connections.find? c = (w.connections.find? c).map f)
    (tidies : ∀ x, w.connections.find? c = some x → x.TidiesTo (f x) ∧ ∀ p, (f x).Held p → x.Held p)
    (pipes : w'.pipes = w.pipes) (history : w'.history = w.history) : Tidies c w w' := by
  cases hx : w.connections.find? c with
  | none => exact of_other (by rw [row, hx]; rfl) pipes history
  | some x =>
      obtain ⟨tidies, held⟩ := tidies x hx
      exact of_row hx (by rw [row, hx]; rfl) tidies (fun p => .inl ∘ held p) pipes history

theorem update (w : World σ) {f : Connection → Connection}
    (tidies : ∀ x, w.connections.find? c = some x → x.TidiesTo (f x) ∧ ∀ p, (f x).Held p → x.Held p) :
    Tidies c w (w.updateConnection c f) :=
  of_map (by simp [World.updateConnection, Table.find?_update]) tidies rfl rfl

theorem aside (w : World σ) {f : Connection → Connection}
    (stages : ∀ x, (f x).past = x.past ∧ (f x).state = x.state ∧ (f x).pipe = x.pipe)
    (hooks : ∀ x, (f x).noted = x.noted ∧ (f x).done = x.done ∧ (f x).hooks = x.hooks) :
    Tidies c w (w.updateConnection c f) := by
  refine update w fun x _ => ⟨Connection.tidiesTo_of_same (stages x) (hooks x), fun p held => ?_⟩
  simpa only [Connection.Held, Connection.stages, stages x] using held

theorem addConnection (w : World σ) (h : DeviceHandle) (b : BackendId) (address : String)
    (sink : Sink) :
    Tidies c w { w with
      connections := (w.connections.add { device := h, backend := b, address, sink }).2 } := by
  have row := w.connections.find?_add { device := h, backend := b, address, sink } c
  by_cases new : (⟨w.connections.next⟩ : ConnectionId) = c
  · have unknown : w.connections.find? c = none := new ▸ w.connections.find?_next
    rw [if_pos new] at row
    refine ⟨⟨fun p y hy => ⟨y, hy, .refl y⟩, fun x hx => ?_, id, fun regular => ?_⟩, fun _ _ x hx => ?_⟩
    · cases unknown.symm.trans hx
    · refine ⟨regular.pipes, fun x hx => ?_, fun x hx p held => ?_⟩
      · obtain rfl := Option.some.inj (row.symm.trans hx)
        refine ⟨rfl, .singleton _, ?_, ?_, [], .refl _, absurd rfl⟩
        · rintro s among
          obtain rfl := List.mem_singleton.mp among
          rfl
        · rintro - p ⟨s, among, has⟩
          obtain rfl := List.mem_singleton.mp among
          exact has
      · obtain rfl := Option.some.inj (row.symm.trans hx)
        obtain ⟨s, among, has⟩ := held
        obtain rfl := List.mem_singleton.mp among
        cases has
    · obtain rfl := Option.some.inj (row.symm.trans hx)
      exact nofun
  · rw [if_neg new] at row
    exact of_other row rfl rfl

/-! ## Everything but the connection's own transitions -/

instance heeds : Heeds (σ := σ) (Tidies c) ⟨[.connections, .pipes, .history], []⟩ where
  trans := .trans
  aside same :=
    .of_same (same .connections (by decide)) (same .history (by decide)) (same .pipes (by decide))
  mark w o _ := .mark w o

instance footing : Footing (Keeps (σ := σ) (Tidies c)) where
  think _ _ := .of_same rfl rfl rfl
  traceCells _ _ := .of_same rfl rfl rfl
  streams _ _ := .of_same rfl rfl rfl
  createPipe link w := .addPipe w link
  pipe p _ goes w := .updatePipe w p goes
  createProxy _ _ _ _ w := Heeds.of_proxies w (by decide) _
  closeProxy _ w := Heeds.of_proxies w (by decide) _
  addUplink _ w := Heeds.of_uplinks w (by decide) _
  uplink _ _ _ w := Heeds.of_uplinks w (by decide) _
  registry _ _ _ w := Heeds.of_registries w (by decide) _

instance base : Base (Keeps (σ := σ) (Tidies c)) := Heeds.base

instance ground : Ground (Keeps (σ := σ) (Tidies c)) := Heeds.ground

instance overlooksProxies : OverlooksProxies (Keeps (σ := σ) (Tidies c)) := Heeds.overlooksProxies

instance holds_mark (o : Occurrence) : Holds (Keeps (σ := σ) (Tidies c)) (DroneControl.mark o) :=
  ⟨fun w => .mark w o⟩

instance overlooks (i : InterfaceId) : Overlooks (Keeps (σ := σ) (Tidies c)) i := Heeds.overlooks i

instance overlooksDevices : OverlooksDevices (Keeps (σ := σ) (Tidies c)) := Heeds.overlooksDevices

instance overlooksLoop : OverlooksLoop (Keeps (σ := σ) (Tidies c)) := Heeds.overlooksLoop

instance interfaceLives : InterfaceLives (Keeps (σ := σ) (Tidies c)) := Heeds.interfaceLives

theorem overlooksConnection (ne : c' ≠ c) : OverlooksConnection (Keeps (σ := σ) (Tidies c)) c' where
  update f _ w := by
    change Tidies c w (w.updateConnection c' f)
    refine of_other ?_ rfl rfl
    simp [World.updateConnection, Table.find?_update, ne]
  told _ w := .mark w _
  opening _ w := .mark w _
  opened w := .mark w _
  discarded w := by
    change Tidies c w (Connection.discarded w c')
    unfold Connection.discarded
    split
    · next x _ =>
        refine trans ?_ (.mark _ _)
        exact of_other (by simp [Table.find?_set, ne]) rfl rfl
    · exact .refl w

end Tidies

end DroneControl
