import DroneControl.Proofs.Run.Scope

/-!
# The course of a connection

What a connection tells its sink, the state of the link apart, keeps to one of three courses, and the
course is complete when the connection is closed.  The state of a connection says how far its course
has got, except while it is closing: then the sink is told more and may call back in between.  What
carries the argument over such a callback is that nothing more is told of a closed connection than what
the operation that closed it has left to tell.
-/

namespace DroneControl

variable {σ : Type}

/-- What a sink is told, except for the state of the link. -/
inductive Milestone where
  | connecting
  | connected
  | disconnected
  | canceled
  deriving DecidableEq, Repr

def ConnectionEvent.milestone? : ConnectionEvent → Option Milestone
  | .connecting => some .connecting
  | .connected _ _ => some .connected
  | .disconnected => some .disconnected
  | .canceled _ => some .canceled
  | .link _ => none

def Occurrence.milestone? (c : ConnectionId) : Occurrence → Option Milestone
  | .told c' event => if c' = c then event.milestone? else none
  | _ => none

/-- The pipe over which a connection goes on. -/
def Occurrence.pipe? (c : ConnectionId) : Occurrence → Option PipeId
  | .told c' (.connected p _) => if c' = c then some p else none
  | _ => none

theorem Occurrence.milestone?_eq_none {c : ConnectionId} {o : Occurrence}
    (other : o.topic ≠ .connection) : o.milestone? c = none := by
  cases o <;> first | rfl | exact absurd rfl other

theorem Occurrence.pipe?_told_of_ne {c c' : ConnectionId} (ne : c ≠ c')
    (event : ConnectionEvent) : (Occurrence.told c event).pipe? c' = none := by
  cases event <;> simp [pipe?, ne]

theorem Occurrence.pipe?_of_milestone? {c : ConnectionId} {o : Occurrence}
    (h : o.milestone? c = none) : o.pipe? c = none := by
  cases o with
  | told c' event => cases event <;> simp_all [milestone?, pipe?, ConnectionEvent.milestone?]
  | _ => rfl

/-- What was told of a connection, in order. -/
def milestones (c : ConnectionId) (past : List Happening) : List Milestone :=
  past.filterMap (·.what.milestone? c)

/-- How an attempt can go: to a regular end, to a break, or nowhere. -/
inductive Course where
  | full
  | cut
  | vain
  deriving DecidableEq, Repr

def Course.script : Course → List Milestone
  | full => [.connecting, .connected, .disconnected]
  | cut => [.connecting, .connected, .canceled]
  | vain => [.connecting, .canceled]

namespace World

def milestones (w : World σ) (c : ConnectionId) : List Milestone :=
  DroneControl.milestones c w.chronicle

/-- The pipe that the sink of a connection was told of. -/
def piped (w : World σ) (c : ConnectionId) : Option PipeId :=
  w.history.findSome? (·.what.pipe? c)

/-- The backend could not start the connection, and gave it up without telling anybody. -/
def GivenUp (w : World σ) (c : ConnectionId) : Prop :=
  ∃ t, ⟨t, .discarded c⟩ ∈ w.chronicle

end World

/-- How far the course of a connection has got in each of its states. -/
def Connection.Fits (x : Connection) (told : List Milestone) (givenUp : Prop) : Prop :=
  match x.state with
  | .connecting | .canceling => ¬givenUp ∧ told = if x.announced then [.connecting] else []
  | .connected | .disconnecting =>
      ¬givenUp ∧ x.announced ∧ told = [.connecting, .connected]
  | .closed => ∃ course : Course, told = course.script ∨ givenUp ∧ told <+: course.script

theorem Connection.Fits.not_givenUp {x : Connection} {told : List Milestone} {p : Prop}
    (fits : x.Fits told p) (live : x.state ≠ .closed) : ¬p := by
  unfold Connection.Fits at fits
  split at fits
  · exact fits.1
  · exact fits.1
  · exact fits.1
  · exact fits.1
  · contradiction

theorem Connection.Fits.completed {x : Connection} {told : List Milestone} {p : Prop}
    (fits : x.Fits told p) (live : x.state ≠ .closed) :
    ∃ course : Course,
      told ++ (if x.announced then [] else [.connecting]) ++ [.canceled] = course.script := by
  unfold Connection.Fits at fits
  split at fits
  · obtain ⟨-, rfl⟩ := fits
    exact ⟨.vain, by split <;> rfl⟩
  · obtain ⟨-, rfl⟩ := fits
    exact ⟨.vain, by split <;> rfl⟩
  · exact ⟨.cut, by simp [fits, Course.script]⟩
  · exact ⟨.cut, by simp [fits, Course.script]⟩
  · contradiction

theorem Connection.Fits.told_of_established {x : Connection} {told : List Milestone} {p : Prop}
    (fits : x.Fits told p) (established : x.state.isEstablished) :
    told = [.connecting, .connected] := by
  unfold Connection.Fits at fits
  cases h : x.state with
  | connected => simp_all
  | disconnecting => simp_all
  | _ => simp [h, ConnectionState.isEstablished] at established

theorem ConnectionState.isPending_or_isEstablished {s : ConnectionState} (live : s ≠ .closed) :
    s.isPending ∨ s.isEstablished := by
  cases s <;> simp_all [isPending, isEstablished]

theorem Connection.Fits.isEstablished_of_told {x : Connection} {told : List Milestone} {p : Prop}
    (fits : x.Fits told p) (live : x.state ≠ .closed) (ends : told = [.connecting, .connected]) :
    x.state.isEstablished := by
  unfold Connection.Fits at fits
  subst ends
  split at fits
  · split at fits <;> simp at fits
  · split at fits <;> simp at fits
  · next h => rw [h]; rfl
  · next h => rw [h]; rfl
  · contradiction

theorem Connection.Fits.course {x : Connection} {told : List Milestone} {p : Prop}
    (fits : x.Fits told p) :
    ∃ course : Course, told <+: course.script ∧ (told = course.script → x.state = .closed) ∧
      (x.state = .closed → told = course.script ∨ p) := by
  unfold Connection.Fits at fits
  split at fits
  · obtain ⟨-, rfl⟩ := fits
    refine ⟨.vain, ?_, ?_, by simp_all⟩ <;> split <;> simp [Course.script]
  · obtain ⟨-, rfl⟩ := fits
    refine ⟨.vain, ?_, ?_, by simp_all⟩ <;> split <;> simp [Course.script]
  · exact ⟨.cut, by simp [fits, Course.script], by simp [fits, Course.script], by simp_all⟩
  · exact ⟨.cut, by simp [fits, Course.script], by simp [fits, Course.script], by simp_all⟩
  · next closed =>
      obtain ⟨course, rfl | ⟨givenUp, past⟩⟩ := fits
      · exact ⟨course, List.prefix_rfl, fun _ => closed, fun _ => .inl rfl⟩
      · exact ⟨course, past, fun _ => closed, fun _ => .inr givenUp⟩

/-- A connection has a pipe as long as it is established, and it is the one that was told of. -/
def Connection.Piped (x : Connection) (piped : Option PipeId) : Prop :=
  x.pipe = if x.state.isEstablished then piped else none

def World.OnCourse (w : World σ) (c : ConnectionId) : Prop :=
  match w.connections.find? c with
  | none => ¬w.GivenUp c ∧ w.milestones c = []
  | some x => x.Fits (w.milestones c) (w.GivenUp c) ∧ x.Piped (w.piped c)

/-! ## Marks -/

section Marks

variable (w : World σ) (c : ConnectionId) (o : Occurrence)

theorem World.milestones_congr {w w' : World σ} (history : w'.history = w.history)
    (c : ConnectionId) : w'.milestones c = w.milestones c := by
  simp [World.milestones, World.chronicle, history]

theorem World.givenUp_congr {w w' : World σ} (history : w'.history = w.history)
    (c : ConnectionId) : w'.GivenUp c = w.GivenUp c := by
  simp [World.GivenUp, World.chronicle, history]

theorem World.piped_congr {w w' : World σ} (history : w'.history = w.history)
    (c : ConnectionId) : w'.piped c = w.piped c := by
  simp [World.piped, history]

theorem World.piped_mark : (w.mark o).piped c = (o.pipe? c).or (w.piped c) := by
  simp only [piped, mark, List.findSome?_cons]
  cases o.pipe? c <;> rfl

theorem World.milestones_mark :
    (w.mark o).milestones c = w.milestones c ++ (o.milestone? c).toList := by
  simp only [milestones, DroneControl.milestones, World.chronicle_mark, List.filterMap_append]
  cases h : o.milestone? c <;> simp [h]

theorem World.givenUp_mark : (w.mark o).GivenUp c ↔ w.GivenUp c ∨ o = .discarded c := by
  constructor
  · rintro ⟨t, ht⟩
    simp only [World.chronicle_mark, List.mem_append, List.mem_singleton, Happening.mk.injEq] at ht
    rcases ht with before | ⟨-, rfl⟩
    · exact .inl ⟨t, before⟩
    · exact .inr rfl
  · rintro (⟨t, ht⟩ | rfl)
    · exact ⟨t, by simp [ht]⟩
    · exact ⟨w.loop.clock, by simp⟩

theorem World.givenUp_log (s : Severity) (message : String) (fields : List (String × String)) :
    (w.log s message fields).GivenUp c ↔ w.GivenUp c := by
  rw [World.givenUp_congr (w.log_history _ _ _)]

theorem World.milestones_told (event : ConnectionEvent) :
    (w.mark (.told c event)).milestones c = w.milestones c ++ event.milestone?.toList := by
  rw [World.milestones_mark]
  simp [Occurrence.milestone?]

end Marks

/-! ## How a connection goes on -/

/-- From one world to a later one a connection goes on: it stays known, announced or else closed, and
closed with nothing more told and no pipe once it is, and it keeps to its course. -/
structure GoesOn (c : ConnectionId) (w w' : World σ) : Prop where
  stays : ∀ x, w.connections.find? c = some x →
    ∃ x', w'.connections.find? c = some x' ∧
      (x.announced → x'.announced ∨ x'.state = .closed) ∧
      (x.state = .closed → x'.state = .closed ∧ w'.milestones c = w.milestones c ∧
        (x.pipe = none → x'.pipe = none))
  onCourse : w.OnCourse c → w'.OnCourse c

namespace GoesOn

variable {c : ConnectionId} {w w' w'' : World σ}

theorem refl (w : World σ) : GoesOn c w w :=
  ⟨fun x hx => ⟨x, hx, .inl, fun h => ⟨h, rfl, id⟩⟩, id⟩

theorem trans (first : GoesOn c w w') (second : GoesOn c w' w'') : GoesOn c w w'' := by
  refine ⟨fun x hx => ?_, second.onCourse ∘ first.onCourse⟩
  obtain ⟨x', hx', announced, closed⟩ := first.stays x hx
  obtain ⟨x'', hx'', announced', closed'⟩ := second.stays x' hx'
  refine ⟨x'', hx'', fun h => ?_, fun h => ?_⟩
  · rcases announced h with h | h
    · exact announced' h
    · exact .inr (closed' h).1
  · obtain ⟨still, same, bare⟩ := closed h
    obtain ⟨still', same', bare'⟩ := closed' still
    exact ⟨still', same'.trans same, bare' ∘ bare⟩

theorem of_same (connections : w'.connections = w.connections) (history : w'.history = w.history) :
    GoesOn c w w' := by
  have told := World.milestones_congr history c
  have givenUp := World.givenUp_congr history c
  have piped := World.piped_congr history c
  constructor
  · intro x hx
    exact ⟨x, connections ▸ hx, .inl, fun h => ⟨h, told, id⟩⟩
  · intro h
    simpa only [World.OnCourse, connections, told, givenUp, piped] using h

theorem mark (w : World σ) {o : Occurrence} (h : o.milestone? c = none) (ne : o ≠ .discarded c) :
    GoesOn c w (w.mark o) := by
  have told : (w.mark o).milestones c = w.milestones c := by
    simp [World.milestones_mark, h]
  have givenUp : (w.mark o).GivenUp c = w.GivenUp c := by
    simp [World.givenUp_mark, ne]
  have piped : (w.mark o).piped c = w.piped c := by
    simp [World.piped_mark, Occurrence.pipe?_of_milestone? h]
  have connections : (w.mark o).connections = w.connections := rfl
  constructor
  · intro x hx
    exact ⟨x, hx, .inl, fun closed => ⟨closed, told, id⟩⟩
  · unfold World.OnCourse
    rw [told, givenUp, piped, connections]
    exact id

theorem update (w : World σ) {f : Connection → Connection}
    (announced : ∀ x, (f x).announced = x.announced)
    (closed : ∀ x, x.state = .closed → (f x).state = .closed)
    (fits : ∀ x told p, x.Fits told p → (f x).Fits told p)
    (pipe : ∀ x, (f x).pipe = x.pipe ∧ (f x).state.isEstablished = x.state.isEstablished) :
    GoesOn c w (w.updateConnection c f) := by
  have told : (w.updateConnection c f).milestones c = w.milestones c := rfl
  have piped : (w.updateConnection c f).piped c = w.piped c := rfl
  have row : (w.updateConnection c f).connections.find? c = (w.connections.find? c).map f := by
    simp [World.updateConnection, Table.find?_update]
  constructor
  · intro x hx
    refine ⟨f x, by simp [row, hx], ?_, ?_⟩
    · exact fun h => .inl ((announced x).trans h)
    · exact fun h => ⟨closed x h, told, (pipe x).1.trans⟩
  · unfold World.OnCourse
    rw [row, told, piped]
    cases w.connections.find? c with
    | none => exact id
    | some x =>
        refine And.imp (fits x _ _) fun holds => ?_
        simpa only [Connection.Piped, pipe x] using holds

theorem update_of_ne {c' : ConnectionId} (ne : c' ≠ c) (w : World σ)
    (f : Connection → Connection) : GoesOn c w (w.updateConnection c' f) := by
  have told : (w.updateConnection c' f).milestones c = w.milestones c := rfl
  have row : (w.updateConnection c' f).connections.find? c = w.connections.find? c := by
    simp [World.updateConnection, Table.find?_update, ne]
  constructor
  · intro x hx
    exact ⟨x, row.trans hx, .inl, fun closed => ⟨closed, told, id⟩⟩
  · unfold World.OnCourse
    rw [row, told]
    exact id

theorem discarded_of_ne {c' : ConnectionId} (ne : c' ≠ c) (w : World σ) :
    GoesOn c w (Connection.discarded w c') := by
  unfold Connection.discarded
  split
  · next x hx =>
      let shut : Connection := { x.closed with attached := none }
      have row := w.connections.find?_set c' c shut
      rw [if_neg ne] at row
      have closes : GoesOn c w { w with connections := w.connections.set c' shut } := by
        constructor
        · intro y hy
          exact ⟨y, row.trans hy, .inl, fun closed => ⟨closed, rfl, id⟩⟩
        · unfold World.OnCourse
          rw [row]
          exact id
      exact closes.trans (.mark _ rfl (by simpa using ne))
  · exact .refl w

theorem add (w : World σ) (x : Connection)
    (fresh : x.state = .connecting ∧ x.announced = false ∧ x.pipe = none) :
    GoesOn c w { w with connections := (w.connections.add x).2 } := by
  have row := w.connections.find?_add x c
  by_cases new : (⟨w.connections.next⟩ : ConnectionId) = c
  · have unknown : w.connections.find? c = none := new ▸ w.connections.find?_next
    constructor
    · simp [unknown]
    · intro h
      unfold World.OnCourse at h ⊢
      rw [unknown] at h
      rw [row, if_pos new]
      simp only [Connection.Fits, Connection.Piped, fresh, Bool.false_eq_true, if_false]
      exact ⟨h, rfl⟩
  · rw [if_neg new] at row
    constructor
    · intro y hy
      exact ⟨y, row.trans hy, .inl, fun closed => ⟨closed, rfl, id⟩⟩
    · unfold World.OnCourse
      rw [row]
      exact id

end GoesOn

/-! ## Everything but the connection's own transitions -/

instance GoesOn.heeds (c : ConnectionId) :
    Heeds (σ := σ) (GoesOn c) ⟨[.connections, .history], [.connection, .discard]⟩ where
  trans := .trans
  aside same := .of_same (same .connections (by decide)) (same .history (by decide))
  mark w o other :=
    .mark w (Occurrence.milestone?_eq_none fun about => other (by simp [about])) fun given =>
      other (by simp [given, Occurrence.topic])

instance GoesOn.footing (c : ConnectionId) : Footing (Keeps (σ := σ) (GoesOn c)) := Heeds.footing

instance GoesOn.base (c : ConnectionId) : Base (Keeps (σ := σ) (GoesOn c)) := Heeds.base

instance GoesOn.ground (c : ConnectionId) : Ground (Keeps (σ := σ) (GoesOn c)) := Heeds.ground

instance GoesOn.overlooksProxies (c : ConnectionId) :
    OverlooksProxies (Keeps (σ := σ) (GoesOn c)) :=
  Heeds.overlooksProxies

instance GoesOn.overlooks (c : ConnectionId) (i : InterfaceId) :
    Overlooks (Keeps (σ := σ) (GoesOn c)) i :=
  Heeds.overlooks i

instance GoesOn.overlooksDevices (c : ConnectionId) :
    OverlooksDevices (Keeps (σ := σ) (GoesOn c)) :=
  Heeds.overlooksDevices

instance GoesOn.overlooksLoop (c : ConnectionId) : OverlooksLoop (Keeps (σ := σ) (GoesOn c)) :=
  Heeds.overlooksLoop

instance GoesOn.overlooksNotes (c c' : ConnectionId) :
    OverlooksNotes (Keeps (σ := σ) (GoesOn c)) c' where
  note f h w := by
    by_cases same : c' = c
    · subst same
      refine .update w (fun x => (h x).2.1) (fun x closed => (h x).1.trans closed) ?_
        fun x => ⟨(h x).2.2.2.1, by rw [(h x).1]⟩
      intro x told p fits
      simpa only [Connection.Fits, h x] using fits
    · exact .update_of_ne same w f

theorem GoesOn.overlooksConnection {c c' : ConnectionId} (ne : c' ≠ c) :
    OverlooksConnection (Keeps (σ := σ) (GoesOn c)) c' where
  update f _ w := .update_of_ne ne w f
  told _ w := .mark w (by simp [Occurrence.milestone?, ne]) nofun
  opening _ w := .mark w rfl nofun
  opened w := .mark w rfl nofun
  discarded w := .discarded_of_ne ne w

instance GoesOn.interfaceLives (c : ConnectionId) : InterfaceLives (Keeps (σ := σ) (GoesOn c)) :=
  Heeds.interfaceLives

/-! ## The connection's own transitions -/

/-- The connection is closed, and so much has been told. -/
def World.Over (w : World σ) (c : ConnectionId) (told : List Milestone) : Prop :=
  ∃ x, w.connections.find? c = some x ∧ x.state = .closed ∧ w.milestones c = told ∧ x.pipe = none

theorem GoesOn.closing {c : ConnectionId} {w w' : World σ} (h : GoesOn c w w')
    {told : List Milestone} (closing : w.Over c told) : w'.Over c told := by
  obtain ⟨x, hx, closed, rfl, bare⟩ := closing
  obtain ⟨x', hx', -, still⟩ := h.stays x hx
  obtain ⟨closed', same, bare'⟩ := still closed
  exact ⟨x', hx', closed', same, bare' bare⟩

theorem World.Over.mark {w : World σ} {c : ConnectionId} {told : List Milestone}
    (closing : w.Over c told) (event : ConnectionEvent) :
    (w.mark (.told c event)).Over c (told ++ event.milestone?.toList) := by
  obtain ⟨x, hx, closed, rfl, bare⟩ := closing
  exact ⟨x, hx, closed, w.milestones_told c event, bare⟩

theorem GoesOn.of_live {c : ConnectionId} {w w' : World σ} {x x' : Connection}
    (hx : w.connections.find? c = some x) (live : x.state ≠ .closed)
    (hx' : w'.connections.find? c = some x') (announced : x'.announced ∨ x'.state = .closed)
    (fits : x.Fits (w.milestones c) (w.GivenUp c) → x'.Fits (w'.milestones c) (w'.GivenUp c))
    (holds : x.Piped (w.piped c) → x'.Piped (w'.piped c)) : GoesOn c w w' := by
  constructor
  · intro y hy
    obtain rfl := Option.some.inj (hx.symm.trans hy)
    exact ⟨x', hx', fun _ => announced, fun h => absurd h live⟩
  · simpa only [World.OnCourse, hx, hx'] using And.imp fits holds

theorem GoesOn.of_over {c : ConnectionId} {w w' : World σ} {x : Connection}
    (hx : w.connections.find? c = some x) (live : x.state ≠ .closed)
    {told : List Milestone} (closing : w'.Over c told)
    (complete : x.Fits (w.milestones c) (w.GivenUp c) → ∃ course : Course, told = course.script) :
    GoesOn c w w' := by
  obtain ⟨x', hx', closed, rfl, bare⟩ := closing
  refine .of_live hx live hx' (.inr closed) (fun fits => ?_) fun _ => ?_
  · obtain ⟨course, h⟩ := complete fits
    simp only [Connection.Fits, closed]
    exact ⟨course, .inl h⟩
  · simp [Connection.Piped, closed, bare, ConnectionState.isEstablished]

/-- Nothing that a course depends on has changed since, but the one connection. -/
structure Altered (c : ConnectionId) (f : Connection → Connection) (w w' : World σ) : Prop where
  connections : w'.connections = w.connections.update c f
  history : w'.history = w.history
  registries : w'.registries = w.registries
  controllers : w'.controllers = w.controllers

namespace Altered

variable {c : ConnectionId} {f : Connection → Connection} {w w' : World σ}

theorem update (w : World σ) (c : ConnectionId) (f : Connection → Connection) :
    Altered c f w (w.updateConnection c f) :=
  ⟨rfl, rfl, rfl, rfl⟩

theorem log (altered : Altered c f w w') (s : Severity) (message : String)
    (fields : List (String × String)) : Altered c f w (w'.log s message fields) where
  connections := (w'.log_connections _ _ _).trans altered.connections
  history := (w'.log_history _ _ _).trans altered.history
  registries := (w'.log_registries _ _ _).trans altered.registries
  controllers := (w'.log_controllers _ _ _).trans altered.controllers

theorem row (altered : Altered c f w w') {x : Connection}
    (hx : w.connections.find? c = some x) : w'.connections.find? c = some (f x) := by
  simp [altered.connections, Table.find?_update, hx]

theorem goesOn (altered : Altered c f w w') {c' : ConnectionId} (other : c' ≠ c) :
    GoesOn c' w w' :=
  (GoesOn.update_of_ne other.symm w f).trans (.of_same altered.connections altered.history)

theorem told (altered : Altered c f w w') (event : ConnectionEvent) {c' : ConnectionId}
    (other : c' ≠ c) : GoesOn c' w (w'.mark (.told c event)) :=
  (altered.goesOn other).trans (.mark w' (by simp [Occurrence.milestone?, other.symm]) nofun)

end Altered

theorem GoesOn.announced {c : ConnectionId} {w w' : World σ} {x : Connection}
    (hx : w.connections.find? c = some x) (connecting : x.state = .connecting)
    (silent : ¬x.announced) (altered : Altered c (fun x => { x with announced := true }) w w') :
    GoesOn c w (w'.mark (.told c .connecting)) := by
  refine .of_live hx (by simp [connecting]) (altered.row hx) (.inl rfl) (fun fits => ?_) fun holds => ?_
  · simp only [Connection.Fits, connecting] at fits ⊢
    rw [World.milestones_told, World.milestones_congr altered.history, World.givenUp_mark,
      World.givenUp_congr altered.history]
    simp [fits, silent, ConnectionEvent.milestone?]
  · simpa [Connection.Piped, connecting, ConnectionState.isEstablished] using holds

theorem GoesOn.established {c : ConnectionId} {w w' : World σ} {x : Connection} {pipe : PipeId}
    (hx : w.connections.find? c = some x) (connecting : x.state = .connecting)
    (announced : x.announced)
    (altered : Altered c (·.enter .connected (some pipe)) w w')
    (api : DeviceApi) : GoesOn c w (w'.mark (.told c (.connected pipe api))) := by
  refine .of_live hx (by simp [connecting]) (altered.row hx) (.inl announced) (fun fits => ?_) ?_
  · obtain ⟨spared, past⟩ : ¬w.GivenUp c ∧ w.milestones c = [.connecting] := by
      simpa [Connection.Fits, connecting, announced] using fits
    refine ⟨?_, announced, ?_⟩
    · simp [World.givenUp_mark, World.givenUp_congr altered.history, spared]
    · simp [World.milestones_told, World.milestones_congr altered.history, past,
        ConnectionEvent.milestone?]
  · intro _
    simp [Connection.Piped, World.piped_mark, Occurrence.pipe?, ConnectionState.isEstablished]

namespace Connection

variable {env : Env σ} {c : ConnectionId} [u : Upheld (Keeps (GoesOn c)) env]

theorem tell_goesOn (event : ConnectionEvent) (w : World σ) :
    GoesOn c (w.mark (.told c event)) ((tell env c event).run w).2 := by
  have follows : EntryCalls (Keeps (GoesOn c)) env := Entry.calls_of_overlooks
  unfold tell
  simp only [run_bind, run_mark, run_get]
  split
  · next r h _ => exact (follows.follow r h c event).holds _
  · next l _ => exact u.tell l _ _

theorem tell_over {w : World σ} {told : List Milestone} (closing : w.Over c told)
    (event : ConnectionEvent) :
    ((tell env c event).run w).2.Over c (told ++ event.milestone?.toList) :=
  (tell_goesOn event w).closing (closing.mark event)

theorem tearDown_over {w : World σ} {told : List Milestone} (closing : w.Over c told)
    (pipe : Option PipeId) : ((tearDown env c pipe).run w).2.Over c told := by
  have kept : Holds (Keeps (GoesOn c)) (tearDown env c pipe) := inferInstance
  exact (kept.holds w).closing closing

theorem log_over {w : World σ} {told : List Milestone} (closing : w.Over c told) (s : Severity)
    (message : String) (fields : List (String × String)) :
    (w.log s message fields).Over c told :=
  (GoesOn.of_same (w.log_connections _ _ _) (w.log_history _ _ _)).closing closing

theorem abandon_over {w : World σ} {x : Connection} (hx : w.connections.find? c = some x)
    (reason : CancelReason) :
    ((abandon env c reason).run w).2.Over c
      (w.milestones c ++ (if x.announced then [] else [.connecting]) ++ [.canceled]) := by
  have found : w.connection c = x := World.connection_of_find? hx
  have shut : (w.updateConnection c fun x => { x.closed with announced := true }).Over c
      (w.milestones c) := by
    refine ⟨{ x.closed with announced := true }, ?_, rfl, rfl, rfl⟩
    simp [World.updateConnection, Table.find?_update, hx]
  unfold abandon
  simp only [run_bind, run_get, run_modify, found]
  -- From here on the connection is closed, and what its sink does can add nothing to its course.
  split
  · next announced =>
      simp only [run_bind, run_log, List.append_nil]
      exact tearDown_over (tell_over (log_over shut _ _ _) _) _
  · simp only [run_bind, run_log]
    exact tearDown_over (tell_over (log_over (tell_over shut _) _ _ _) _) _

theorem conclude_over {w : World σ} {x : Connection} (hx : w.connections.find? c = some x) :
    ((conclude env c).run w).2.Over c (w.milestones c ++ [.disconnected]) := by
  have shut : (w.updateConnection c Connection.closed).Over c (w.milestones c) := by
    refine ⟨x.closed, ?_, rfl, rfl, rfl⟩
    simp [World.updateConnection, Table.find?_update, hx]
  unfold conclude
  simp only [run_bind, run_get, run_modify, run_log]
  exact tearDown_over (tell_over (log_over shut _ _ _) _) _

theorem found_of_live {w : World σ} (live : (w.connection c).state ≠ .closed) :
    ∃ x, w.connections.find? c = some x ∧ w.connection c = x := by
  unfold World.connection Table.get at live ⊢
  cases h : w.connections.find? c with
  | none => exact absurd (by simp [h, default]) live
  | some x => exact ⟨x, rfl, rfl⟩

theorem cancel_over {w : World σ} {x : Connection} (hx : w.connections.find? c = some x)
    (live : x.state ≠ .closed) (reason : CancelReason) :
    ((cancel env c reason).run.run w).2.Over c
      (w.milestones c ++ (if x.announced then [] else [.connecting]) ++ [.canceled]) := by
  have found : w.connection c = x := World.connection_of_find? hx
  unfold cancel
  simp only [run_lookThen, found, if_neg live]
  exact abandon_over hx reason

instance cancel_goesOn (reason : CancelReason) :
    Holds (Keeps (GoesOn c)) (cancel env c reason).run := by
  refine ⟨fun w => ?_⟩
  by_cases closed : (w.connection c).state = .closed
  · unfold cancel
    simp only [run_lookThen, if_pos closed]
    exact .of_same (w.log_connections _ _ _) (w.log_history _ _ _)
  · obtain ⟨x, hx, same⟩ := found_of_live closed
    rw [same] at closed
    exact .of_over hx closed (cancel_over hx closed reason) fun fits => fits.completed closed

theorem conclude_goesOn {w : World σ} (established : (w.connection c).state.isEstablished) :
    GoesOn c w ((conclude env c).run w).2 := by
  have live : (w.connection c).state ≠ .closed := by
    intro closed
    simp [closed, ConnectionState.isEstablished] at established
  obtain ⟨x, hx, same⟩ := found_of_live live
  rw [same] at live established
  refine .of_over hx live (conclude_over hx) fun fits => ⟨.full, ?_⟩
  simp [fits.told_of_established established, Course.script]

instance disconnected_goesOn : Holds (Keeps (GoesOn c)) (disconnected env c).run := by
  refine ⟨fun w => ?_⟩
  unfold disconnected
  simp only [run_lookThen]
  split
  · simp only [run_actThen, run_log]
    exact .trans (.of_same (w.log_connections _ _ _) (w.log_history _ _ _))
      ((cancel_goesOn .local).holds _)
  · split
    · next established => exact conclude_goesOn established
    · exact .of_same (w.log_connections _ _ _) (w.log_history _ _ _)

variable (env) in
theorem announce_goesOn {w : World σ} (connecting : (w.connection c).state = .connecting) :
    GoesOn c w ((announce env c).run w).2 ∧
      ∃ x, ((announce env c).run w).2.connections.find? c = some x ∧
        (x.announced ∨ x.state = .closed) := by
  obtain ⟨x, hx, same⟩ := found_of_live (by simp [connecting] : (w.connection c).state ≠ .closed)
  rw [same] at connecting
  unfold announce
  simp only [run_bind, run_get, same]
  split
  · next announced => exact ⟨.refl w, x, hx, .inl announced⟩
  · next silent =>
      simp only [run_bind, run_modify, run_log, run_pure]
      have altered := (Altered.update w c fun x => { x with announced := true }).log .debug
        "Connecting" (fields w c)
      have told := tell_goesOn (u := u) .connecting
        ((w.updateConnection c fun x => { x with announced := true }).log .debug "Connecting"
          (fields w c))
      obtain ⟨x', hx', announced, -⟩ := told.stays _ (altered.row hx)
      exact ⟨(GoesOn.announced hx connecting silent altered).trans told, x', hx', announced rfl⟩

omit u in
variable (c) in
theorem run_establish (quiet : Quiet env) (link : Link) (api : DeviceApi) (w : World σ) :
    ∃ (pipe : PipeId) (w' : World σ),
      Altered c (·.enter .connected (some pipe)) w w' ∧
      (((establish env c link api).run.run w).2 = ((cancel env c .local).run.run w').2 ∨
        ((establish env c link api).run.run w).2 = ((tell env c (.connected pipe api)).run w').2) := by
  unfold establish
  simp only [run_actThen, run_modify, run_attemptThen]
  generalize hcreated : (Pipe.create link).run w = created
  obtain ⟨pipe, w₁⟩ := created
  have aside : Aside w w₁ := ⟨w.host, w.journal, (w.pipes.add { link }).2, by cases hcreated; rfl⟩
  obtain ⟨host, journal, pipes, rfl⟩ := aside
  generalize hup : World.updateConnection _ c _ = w₂
  have started := Pipe.start_aside quiet pipe w₂
  dsimp only
  generalize (Pipe.start env pipe).run.run w₂ = outcome at started ⊢
  obtain ⟨result, w₃⟩ := outcome
  obtain ⟨host', journal', pipes', rfl⟩ := started
  have altered : Altered c (·.enter .connected (some pipe)) w
      { w₂ with host := host', journal := journal', pipes := pipes' } := by
    subst hup
    exact ⟨rfl, rfl, rfl, rfl⟩
  cases result with
  | error f =>
      simp only [run_actThen, run_log, run_thenThrow]
      exact ⟨pipe, _, altered.log _ _ _, .inl rfl⟩
  | ok _ =>
      simp only [run_lookThen, run_actThen, run_log, run_act]
      exact ⟨pipe, _, altered.log _ _ _, .inr rfl⟩

theorem establish_goesOn (quiet : Quiet env) {w : World σ} {x : Connection}
    (hx : w.connections.find? c = some x) (connecting : x.state = .connecting)
    (announced : x.announced) (link : Link) (api : DeviceApi) :
    GoesOn c w ((establish env c link api).run.run w).2 := by
  have told : x.Fits (w.milestones c) (w.GivenUp c) →
      ¬w.GivenUp c ∧ w.milestones c = [.connecting] := by
    intro fits
    simpa [Fits, connecting, announced] using fits
  obtain ⟨pipe, w', altered, ends⟩ := run_establish c quiet link api w
  rcases ends with canceled | connected
  · rw [canceled]
    refine .of_over hx (by simp [connecting]) (cancel_over (altered.row hx) nofun .local)
      fun fits => ⟨.vain, ?_⟩
    simp [World.milestones_congr altered.history, told fits, announced, Course.script]
  · rw [connected]
    exact (GoesOn.established hx connecting announced altered api).trans (tell_goesOn _ _)

omit u in
theorem run_checkThen {β : Type} (operation : String) (allowed : List ConnectionState)
    (next : Unit → Try σ β) (w : World σ) :
    (check c operation allowed >>= next).run.run w =
      if (w.connection c).state ∈ allowed then (next ()).run.run w
      else (.error (refusal operation (w.connection c).state),
        w.log .warn "Operation not allowed in current state"
          [("conn", c.label), ("op", operation), ("state", (w.connection c).state.name)]) := by
  unfold check
  rw [run_tryThen]
  simp only [run_lookThen]
  by_cases allows : (w.connection c).state ∈ allowed
  · simp only [allows, not_true_eq_false, if_false, if_true, run_tryPure]
  · simp only [allows, not_false_eq_true, if_false, if_true, run_actThen, run_log, run_throw]

omit u in
theorem log_goesOn (s : Severity) (message : String) (fields : List (String × String))
    (w : World σ) : GoesOn c w (w.log s message fields) :=
  .of_same (w.log_connections _ _ _) (w.log_history _ _ _)

instance connecting_goesOn : Holds (Keeps (GoesOn c)) (connecting env c).run := by
  refine ⟨fun w => ?_⟩
  unfold connecting
  rw [run_checkThen]
  split
  · next state =>
      simp only [run_actThen]
      refine (announce_goesOn env (List.mem_singleton.mp state)).1.trans ?_
      split
      · exact .refl _
      · exact log_goesOn _ _ _ _
  · exact log_goesOn _ _ _ _

theorem connected_goesOn (quiet : Quiet env) (link : Link) (api : DeviceApi) :
    Holds (Keeps (GoesOn c)) (connected env c link api).run := by
  refine ⟨fun w => ?_⟩
  unfold connected
  rw [run_checkThen]
  split
  · next state =>
      obtain ⟨first, x, hx, announced⟩ := announce_goesOn env (List.mem_singleton.mp state)
      refine first.trans ?_
      simp only [run_discardThen, run_lookThen]
      have found : ((announce env c).run w).2.connection c = x := by
        simp [World.connection, Table.get, hx]
      rw [found]
      split
      · exact log_goesOn _ _ _ _
      · next connecting =>
          simp only [ne_eq, Decidable.not_not] at connecting
          have announced : x.announced := announced.resolve_right (by simp [connecting])
          exact establish_goesOn quiet hx connecting announced link api
  · exact log_goesOn _ _ _ _

instance failed_goesOn : Holds (Keeps (GoesOn c)) (failed env c).run := by
  unfold failed
  infer_instance

instance reportLink_goesOn (status : LinkStatus) :
    Holds (Keeps (GoesOn c)) (reportLink env c status).run := by
  have told : Holds (Keeps (GoesOn c)) (tell env c (.link status)) := by
    refine ⟨fun w => .trans (.mark w ?_ ?_) (tell_goesOn _ w)⟩
    · simp [Occurrence.milestone?, ConnectionEvent.milestone?]
    · exact nofun
  unfold reportLink
  infer_instance

omit u in
theorem beginClose_goesOn : Holds (Keeps (σ := σ) (GoesOn c)) (beginClose c) := by
  refine ⟨fun w => ?_⟩
  refine GoesOn.update w (fun x => ?_) (fun x closed => ?_) (fun x told p fits => ?_) fun x => ?_
  · unfold closeRequested
    split <;> rfl
  · simp [closeRequested, closed]
  · unfold Fits closeRequested at *
    cases state : x.state <;> simp only [state] at fits ⊢ <;> exact fits
  · unfold closeRequested
    cases state : x.state <;> simp [state, ConnectionState.isEstablished]

omit u in
theorem dropPipe_goesOn {w : World σ} (closed : (w.connection c).state = .closed) :
    GoesOn c w (w.updateConnection c fun x => { x with pipe := none }) := by
  have told : (w.updateConnection c fun x => { x with pipe := none }).milestones c =
      w.milestones c := rfl
  cases hx : w.connections.find? c with
  | none =>
      have idle : w.updateConnection c (fun x => { x with pipe := none }) = w := by
        simp only [World.updateConnection, Table.update, hx]
      rw [idle]
      exact .refl w
  | some x =>
      have found : w.connection c = x := World.connection_of_find? hx
      rw [found] at closed
      have row : (w.updateConnection c fun x => { x with pipe := none }).connections.find? c =
          some { x with pipe := none } := by
        simp [World.updateConnection, Table.find?_update, hx]
      constructor
      · intro y hy
        obtain rfl := Option.some.inj (hx.symm.trans hy)
        exact ⟨_, row, .inl, fun _ => ⟨closed, told, fun _ => rfl⟩⟩
      · unfold World.OnCourse
        rw [row, told, hx]
        refine And.imp id fun _ => ?_
        simp [Piped, closed, ConnectionState.isEstablished]

omit u in
theorem disposed_of_drop {R : World σ → World σ → Prop} [Ground (Keeps R)] [Upheld (Keeps R) env]
    (trans : ∀ {w₁ w₂ w₃ : World σ}, R w₁ w₂ → R w₂ w₃ → R w₁ w₃)
    (drops : ∀ w : World σ, (w.connection c).state = .closed →
      R w (w.updateConnection c fun x => { x with pipe := none }))
    {w : World σ} (closed : (w.connection c).state = .closed) : R w ((do
      match ((← get).connection c).pipe with
      | none => pure ()
      | some p =>
        act (modify (·.updateConnection c fun x => { x with pipe := none }))
        act (Pipe.dispose env p)
      act (log .debug "Connection disposed" [("conn", c.label)]) : Try σ Unit).run.run w).2 := by
  have logged : Holds (Keeps R) (log .debug "Connection disposed" [("conn", c.label)] : Act σ Unit) :=
    inferInstance
  rw [run_lookThen]
  cases (w.connection c).pipe with
  | none => exact logged.holds w
  | some p =>
      have rest : Holds (Keeps R) (act (Pipe.dispose env p) >>= fun _ =>
          act (log .debug "Connection disposed" [("conn", c.label)]) : Try σ Unit).run :=
        inferInstance
      exact trans (drops w closed) (rest.holds _)

omit u in
theorem dispose_of_drop {R : World σ → World σ → Prop} [Ground (Keeps R)] [Upheld (Keeps R) env]
    (trans : ∀ {w₁ w₂ w₃ : World σ}, R w₁ w₂ → R w₂ w₃ → R w₁ w₃)
    (cancels : Keeps R _ (cancel env c .local).run)
    (closes : ∀ w : World σ, (w.connection c).state ≠ .closed →
      (((cancel env c .local).run.run w).2.connection c).state = .closed)
    (drops : ∀ w : World σ, (w.connection c).state = .closed →
      R w (w.updateConnection c fun x => { x with pipe := none })) :
    Keeps R _ (dispose env c).run := by
  have logs : ∀ s message fields (w : World σ), R w (w.log s message fields) :=
    fun s message fields w =>
      (inferInstance : Holds (Keeps R) (log s message fields : Act σ Unit)).holds w
  intro w
  unfold dispose
  rw [run_lookThen]
  dsimp only
  split
  · exact logs _ _ _ w
  · split
    · next live =>
        rw [run_actThen, run_log, run_tryThen]
        refine trans (logs .debug "Disposing connection that is not closed"
          [("conn", c.label), ("state", (w.connection c).state.name)] w) ?_
        generalize hlogged : w.log .debug "Disposing connection that is not closed"
          [("conn", c.label), ("state", (w.connection c).state.name)] = w₁
        have still : (w₁.connection c).state ≠ .closed := by
          rw [← hlogged]
          simpa only [World.connection, World.log_connections] using live
        have canceled := cancels w₁
        have closed := closes w₁ still
        generalize (cancel env c .local).run.run w₁ = outcome at canceled closed ⊢
        obtain ⟨result, w₂⟩ := outcome
        cases result with
        | error f => exact canceled
        | ok _ => exact trans canceled (disposed_of_drop (R := R) trans drops closed)
    · next closed =>
        rw [ne_eq, Decidable.not_not] at closed
        exact disposed_of_drop (R := R) trans drops closed

theorem cancel_closes (w : World σ) (live : (w.connection c).state ≠ .closed) :
    (((cancel env c .local).run.run w).2.connection c).state = .closed := by
  obtain ⟨x, hx, same⟩ := found_of_live live
  rw [same] at live
  obtain ⟨x', hx', closed, -⟩ := cancel_over (u := u) hx live .local
  simp [World.connection, Table.get, hx', closed]

instance dispose_goesOn : Holds (Keeps (GoesOn c)) (dispose env c).run :=
  ⟨dispose_of_drop .trans (cancel_goesOn .local).holds cancel_closes fun _ => dropPipe_goesOn⟩

omit u in
theorem discarded_goesOn (w : World σ) : GoesOn c w (discarded w c) := by
  unfold discarded
  split
  · next x hx =>
      let x' : Connection := { x.closed with attached := none }
      let w' : World σ := { w with connections := w.connections.set c x' }
      have told : (w'.mark (.discarded c)).milestones c = w.milestones c := by
        rw [World.milestones_mark]
        change w.milestones c ++ [] = _
        simp
      have row : (w'.mark (.discarded c)).connections.find? c = some x' := by
        change (w.connections.set c x').find? c = _
        simp [Table.find?_set]
      constructor
      · intro y hy
        exact ⟨x', row, fun _ => .inr rfl, fun _ => ⟨rfl, told, fun _ => rfl⟩⟩
      · unfold World.OnCourse
        rw [row, told, hx]
        rintro ⟨fits, -⟩
        obtain ⟨course, past, -⟩ := fits.course
        exact ⟨⟨course, .inr ⟨(World.givenUp_mark _ _ _).mpr (.inr rfl), past⟩⟩, rfl⟩
  · exact .refl w

instance giveUp_goesOn : Holds (Keeps (GoesOn c)) (giveUp env c) := by
  refine ⟨fun w => ?_⟩
  unfold giveUp
  simp only [run_bind, run_get, run_modify]
  have shut := discarded_goesOn (c := c) w
  refine shut.trans ?_
  have rest : ∀ pipe, Holds (Keeps (GoesOn c)) (do
      match pipe with
      | none => pure ()
      | some p => Pipe.dispose env p
      modify (·.updateConnection c fun x => { x with hooks := [] })
      log .debug "Connection discarded" [("conn", c.label)]) := by
    intro pipe
    cases pipe <;> infer_instance
  exact (rest _).holds _

end Connection

/-! ## Runs -/

namespace GoesOn

variable {env : Env σ}

instance connectionLives (c : ConnectionId) : ConnectionLives (Keeps (σ := σ) (GoesOn c)) where
  create h b address sink := by
    have added : Holds (Keeps (σ := σ) (GoesOn c)) (modifyGet fun w =>
        let (c, connections) := w.connections.add { device := h, backend := b, address, sink }
        (c, { w with connections })) :=
      ⟨fun w => .add w _ ⟨rfl, rfl, rfl⟩⟩
    unfold Connection.create
    infer_instance
  onClosed _ hook := Connection.onClosed_overlooked hook
  opening _ _ := ⟨fun w => .mark w rfl nofun⟩
  opened _ := ⟨fun w => .mark w rfl nofun⟩

instance connectionNotes (c : ConnectionId) : ConnectionNotes (Keeps (σ := σ) (GoesOn c)) where
  createConnection _ _ _ _ := inferInstance
  beginClose := Connection.of_own (fun _ => overlooksConnection) Connection.beginClose_goesOn
    fun _ _ => Connection.beginClose_overlooked
  attach _ token := Connection.attach_overlooked token
  detach _ := Connection.detach_overlooked

theorem connectionCalls {c : ConnectionId} (u : Upheld (Keeps (GoesOn c)) env)
    (quiet : Quiet env) : ConnectionCalls (Keeps (GoesOn c)) env := by
  have follows : EntryCalls (Keeps (GoesOn c)) env := Entry.calls_of_overlooks
  have establishes := Connection.connected_goesOn (c := c) quiet
  exact Connection.calls_of_own fun _ other => ⟨overlooksConnection other, inferInstance⟩

theorem givesUp {c : ConnectionId} (u : Upheld (Keeps (GoesOn c)) env) :
    GivesUp (Keeps (GoesOn c)) env where
  giveUp := Connection.of_own (fun _ => overlooksConnection) inferInstance
    fun _ _ => Connection.giveUp_overlooked

instance registryLives (c : ConnectionId) : RegistryLives (Keeps (σ := σ) (GoesOn c)) :=
  Registry.lives_of_overlooks

instance alone (c : ConnectionId) : Alone (Keeps (σ := σ) (GoesOn c)) where

theorem together {c : ConnectionId} (u : Upheld (Keeps (GoesOn c)) env)
    (quiet : Quiet env) : Together (Keeps (GoesOn c)) env := by
  have := connectionCalls u quiet
  have := givesUp u
  have : InterfaceCalls (Keeps (GoesOn c)) env := Interface.calls_of_steps
  have : InterfaceRetries (Keeps (GoesOn c)) env := Interface.retries_of_steps
  have : RegistryCalls (Keeps (GoesOn c)) env := Registry.calls_of_overlooks
  have : LoopCalls (Keeps (GoesOn c)) env := Loop.calls_of_steps
  exact {}

end GoesOn

theorem Hosted.goesOn (hosted : Hosted env) (c : ConnectionId) :
    Together (Keeps (GoesOn c)) env :=
  hosted.together fun _ u quiet => GoesOn.together u quiet

theorem Hosted.start_onCourse (hosted : Hosted env) {c : ConnectionId} {w w' : World σ}
    {b : BackendId} {h : DeviceHandle} {info : DeviceInfo} {agent : Agent} {sink : Sink}
    {result : Except Fault ConnectionId} (onCourse : w.OnCourse c)
    (runs : (Backend.start env b h info agent sink).run.run w = (result, w')) :
    w'.OnCourse c := by
  have := hosted.goesOn c
  have : GivesUp (Keeps (GoesOn c)) env := GoesOn.givesUp inferInstance
  have kept : Holds (Keeps (GoesOn c)) (Backend.start env b h info agent sink).run := inferInstance
  have goesOn := kept.holds w
  rw [runs] at goesOn
  exact goesOn.onCourse onCourse

theorem Reached.onCourse {w : World σ} (reached : Reached w) (c : ConnectionId) :
    w.OnCourse c := by
  obtain ⟨host, verbosity, goesOn⟩ :=
    reached.related (R := GoesOn c) fun _ u quiet => GoesOn.together u quiet
  refine goesOn.onCourse ?_
  have unknown : (({ host, verbosity } : World σ).connections).find? c = none :=
    Std.TreeMap.getElem?_emptyc
  simp only [World.OnCourse, unknown]
  refine ⟨?_, rfl⟩
  rintro ⟨t, ht⟩
  simp [World.chronicle] at ht

/-- Along every run a sink is told of a connection what belongs to one course, in its order.  Between
calls the connection is closed if its course is complete, and only then, unless its backend could not
even start it and gave it up. -/
theorem Reached.keepsCourse {w : World σ} (reached : Reached w) {c : ConnectionId}
    (known : (w.connections.find? c).isSome) :
    ∃ course : Course,
      (∀ past, past <+: w.chronicle → milestones c past <+: course.script) ∧
        (milestones c w.chronicle = course.script → (w.connection c).state = .closed) ∧
        ((w.connection c).state = .closed →
          milestones c w.chronicle = course.script ∨ w.GivenUp c) := by
  obtain ⟨x, hx⟩ := Option.isSome_iff_exists.mp known
  have found : w.connection c = x := World.connection_of_find? hx
  have onCourse := reached.onCourse c
  simp only [World.OnCourse, hx] at onCourse
  obtain ⟨fits, -⟩ := onCourse
  obtain ⟨course, begun, closed, complete⟩ := fits.course
  rw [found]
  refine ⟨course, fun past earlier => ?_, closed, complete⟩
  exact (earlier.filterMap _).trans begun

def impatientHost : Env Unit where
  tell _ event :=
    match event with
    | .connection c .connecting => do
      let _ ← (Connection.cancel silentHost c .local).run
    | _ => pure ()
  ask _ := pure ()
  order _ := pure ()
  openSession _ _ _ := pure true
  openChannel _ _ _ := pure ⟨1⟩
  reap := reap silentHost

theorem impatientHost_hosted : Hosted impatientHost := by
  refine .around silentHost_hosted ⟨?_, ?_, ?_, ?_, ?_, ?_⟩ rfl
  · intro l event
    unfold impatientHost
    dsimp only
    split
    · exact .bind (.basic (.inr (.cancel _ _))) fun _ => .pure _
    · exact .pure _
  all_goals intros; exact .pure _

def canceledAttempt : Act Unit (Except Fault Unit) := do
  let c ← Connection.create ⟨1⟩ ⟨1⟩ "" (.listener ⟨1⟩)
  (Connection.connected impatientHost c (.supplied ⟨1⟩) .full).run

theorem canceledAttempt_reached : Reached (canceledAttempt.run { host := () }).2 := by
  refine ⟨impatientHost, (), none, _, canceledAttempt, impatientHost_hosted, ?_, rfl⟩
  refine .bind (.basic (.inr (.createConnection _ _ _ _))) fun c => ?_
  exact .basic (.inr (.connected _ _ _))

theorem canceledAttempt_keepsCourse :
    ∃ course : Course,
      (∀ past, past <+: (canceledAttempt.run { host := () }).2.chronicle →
        milestones ⟨1⟩ past <+: course.script) ∧
      (milestones ⟨1⟩ (canceledAttempt.run { host := () }).2.chronicle = course.script →
        ((canceledAttempt.run { host := () }).2.connection ⟨1⟩).state = .closed) ∧
      (((canceledAttempt.run { host := () }).2.connection ⟨1⟩).state = .closed →
        milestones ⟨1⟩ (canceledAttempt.run { host := () }).2.chronicle = course.script ∨
          (canceledAttempt.run { host := () }).2.GivenUp ⟨1⟩) :=
  canceledAttempt_reached.keepsCourse rfl

end DroneControl
