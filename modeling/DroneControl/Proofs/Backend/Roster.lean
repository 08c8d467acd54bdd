import DroneControl.Proofs.Run.Calls
import DroneControl.Proofs.Connection.Closing

/-!
# The roster of a backend

A backend has a roster of the connections it made that are live.  A connection goes off it when what was
noted to be done on its closing is done, or by hand when its backend gives it up.  While an operation is
closing a connection the roster still has it; what always holds is that the roster has the connections
that were made and for which neither of the two has come about.
-/

set_option synthInstance.maxSize 2048

namespace DroneControl

variable {σ : Type} {b b' : BackendId} {c c' : ConnectionId} {w w' w'' : World σ} {env : Env σ}

/-- One connection goes on as another: it stays with its backend and stays closed if it is, what was
noted to be done on closing stays noted, and nothing more of that is done before it closes. -/
structure Connection.AgesTo (x x' : Connection) : Prop where
  backend : x'.backend = x.backend
  shut : x.state = .closed → x'.state = .closed
  noted : x.noted ⊆ x'.noted
  done : x.done ⊆ x'.done
  waits : x'.state ≠ .closed → x'.done = x.done

namespace Connection.AgesTo

variable {x x' x'' : Connection}

theorem trans (first : x.AgesTo x') (second : x'.AgesTo x'') : x.AgesTo x'' where
  backend := second.backend.trans first.backend
  shut := second.shut ∘ first.shut
  noted := List.Subset.trans first.noted second.noted
  done := List.Subset.trans first.done second.done
  waits live := by rw [second.waits live, first.waits fun closed => live (second.shut closed)]

theorem of_same (backend : x'.backend = x.backend) (shut : x.state = .closed → x'.state = .closed)
    (noted : x.noted ⊆ x'.noted) (done : x'.done = x.done) : x.AgesTo x' :=
  ⟨backend, shut, noted, done ▸ fun _ => id, fun _ => done⟩

theorem refl (x : Connection) : x.AgesTo x := of_same rfl id (fun _ => id) rfl

end Connection.AgesTo

namespace World

/-- The connection has not gone off the roster of the backend. -/
def Listed (w : World σ) (b : BackendId) (c : ConnectionId) : Prop :=
  .untrack b ∉ (w.connection c).done ∧ ¬w.GivenUp c

/-- The roster of a backend is right. -/
structure Rostered (w : World σ) (b : BackendId) (x : Backend) : Prop where
  made : x.made.Nodup
  noted : ∀ c ∈ x.made, ∃ y, w.connections.find? c = some y ∧ y.backend = b ∧ .untrack b ∈ y.noted
  once : x.live.Nodup
  live : ∀ c, c ∈ x.live ↔ c ∈ x.made ∧ w.Listed b c
  single : x.kind = .mux → x.live.length ≤ 1

/-- Nothing has been done on the closing of a connection that is not closed, and none is given up that is
not known. -/
structure Waiting (w : World σ) (b : BackendId) : Prop where
  waits : ∀ c y, w.connections.find? c = some y → y.state ≠ .closed → y.done = []
  known : ∀ c, w.GivenUp c → ∃ y, w.connections.find? c = some y
  rosters : ∀ x, w.backends.find? b = some x → w.Rostered b x

def Alters (w w' : World σ) (c : ConnectionId) (f : Connection → Connection) : Prop :=
  ∀ c', w'.connections.find? c' =
    if c = c' then (w.connections.find? c).map f else w.connections.find? c'

namespace Alters

variable {f : Connection → Connection} {y : Connection}

theorem row (alters : w.Alters w' c f) (hy : w.connections.find? c' = some y) :
    w'.connections.find? c' = some (if c = c' then f y else y) := by
  rw [alters]
  split
  · next here => simp [here, hy]
  · exact hy

theorem new (alters : w.Alters w' c f) (hy : w.connections.find? c' = none) :
    w'.connections.find? c' = none := by
  rw [alters]
  split
  · next here => simp [here, hy]
  · exact hy

theorem ages (alters : w.Alters w' c f)
    (ages : ∀ y, w.connections.find? c = some y → y.AgesTo (f y)) (c' : ConnectionId)
    (y : Connection) (hy : w.connections.find? c' = some y) :
    ∃ y', w'.connections.find? c' = some y' ∧ y.AgesTo y' := by
  refine ⟨_, alters.row hy, ?_⟩
  split
  · next here => exact ages y (here ▸ hy)
  · exact .refl y

end Alters

end World

/-- A backend goes on with a roster from which some may have gone. -/
structure Backend.StrikesTo (w' : World σ) (b : BackendId) (x x' : Backend) : Prop where
  made : x'.made = x.made
  kind : x'.kind = x.kind
  live : x'.live.Sublist x.live
  struck : ∀ c ∈ x.live, c ∈ x'.live ↔ w'.Listed b c

/-- Every connection goes on, and the roster of the backend stays right. -/
structure Rosters (b : BackendId) (w w' : World σ) : Prop where
  rows : ∀ c y, w.connections.find? c = some y →
    ∃ y', w'.connections.find? c = some y' ∧ y.AgesTo y'
  waiting : w.Waiting b → w'.Waiting b

namespace Rosters

theorem refl (w : World σ) : Rosters b w w := ⟨fun _ y hy => ⟨y, hy, .refl y⟩, id⟩

theorem trans (first : Rosters b w w') (second : Rosters b w' w'') : Rosters b w w'' where
  rows c y hy := by
    obtain ⟨y', hy', ages⟩ := first.rows c y hy
    obtain ⟨y'', hy'', ages'⟩ := second.rows c y' hy'
    exact ⟨y'', hy'', ages.trans ages'⟩
  waiting := second.waiting ∘ first.waiting

theorem of_strikes
    (rows : ∀ c y, w.connections.find? c = some y →
      ∃ y', w'.connections.find? c = some y' ∧ y.AgesTo y')
    (new : ∀ c y', w.connections.find? c = none → w'.connections.find? c = some y' → y'.done = [])
    (kept : ∀ c, w.GivenUp c → w'.GivenUp c)
    (known : ∀ c, w'.GivenUp c → w.GivenUp c ∨ ∃ y, w'.connections.find? c = some y)
    (backend : w.Waiting b → ∀ x', w'.backends.find? b = some x' →
      x'.live = [] ∧ x'.made = [] ∨
        ∃ x, w.backends.find? b = some x ∧ x.StrikesTo w' b x') : Rosters b w w' where
  rows := rows
  waiting was := by
    refine ⟨fun c y' hy' live => ?_, fun c given => ?_, fun x' hx' => ?_⟩
    · cases hy : w.connections.find? c with
      | none => exact new c y' hy hy'
      | some y =>
          obtain ⟨y'', hy'', ages⟩ := rows c y hy
          obtain rfl := Option.some.inj (hy'.symm.trans hy'')
          rw [ages.waits live]
          exact was.waits c y hy fun closed => live (ages.shut closed)
    · rcases known c given with before | here
      · obtain ⟨y, hy⟩ := was.known c before
        obtain ⟨y', hy', -⟩ := rows c y hy
        exact ⟨y', hy'⟩
      · exact here
    · rcases backend was x' hx' with ⟨live, made⟩ | ⟨x, hx, strikes⟩
      · constructor <;> simp [live, made]
      obtain ⟨made, noted, once, lists, single⟩ := was.rosters x hx
      have relists : ∀ c ∈ x.made, w'.Listed b c → w.Listed b c := by
        rintro c among ⟨undone, spared⟩
        obtain ⟨y, hy, -⟩ := noted c among
        obtain ⟨y', hy', ages⟩ := rows c y hy
        rw [World.connection_of_find? hy'] at undone
        refine ⟨?_, fun given => spared (kept c given)⟩
        rw [World.connection_of_find? hy]
        exact fun done => undone (ages.done done)
      refine ⟨strikes.made ▸ made, fun c among => ?_, strikes.live.nodup once, fun c => ?_,
        fun mux => ?_⟩
      · obtain ⟨y, hy, own, hook⟩ := noted c (strikes.made ▸ among)
        obtain ⟨y', hy', ages⟩ := rows c y hy
        exact ⟨y', hy', ages.backend.trans own, ages.noted hook⟩
      · rw [strikes.made]
        constructor
        · intro among
          have before := strikes.live.subset among
          exact ⟨((lists c).mp before).1, (strikes.struck c before).mp among⟩
        · rintro ⟨among, listed⟩
          have before := (lists c).mpr ⟨among, relists c among listed⟩
          exact (strikes.struck c before).mpr listed
      · exact Nat.le_trans strikes.live.length_le (single (strikes.kind ▸ mux))

theorem of_rows
    (rows : ∀ c y, w.connections.find? c = some y →
      ∃ y', w'.connections.find? c = some y' ∧ y.AgesTo y' ∧
        (.untrack b ∈ y'.done ↔ .untrack b ∈ y.done))
    (new : ∀ c y', w.connections.find? c = none → w'.connections.find? c = some y' → y'.done = [])
    (given : ∀ c, w'.GivenUp c ↔ w.GivenUp c)
    (backend : ∀ x', w'.backends.find? b = some x' →
      x'.live = [] ∧ x'.made = [] ∨
        ∃ x, w.backends.find? b = some x ∧ x'.live = x.live ∧ x'.made = x.made ∧
          x'.kind = x.kind) : Rosters b w w' := by
  refine of_strikes (fun c y hy => ?_) new (fun c => (given c).mpr)
    (fun c later => .inl ((given c).mp later)) fun was x' hx' => ?_
  · obtain ⟨y', hy', ages, -⟩ := rows c y hy
    exact ⟨y', hy', ages⟩
  · refine (backend x' hx').imp_right ?_
    rintro ⟨x, hx, live, made, kind⟩
    refine ⟨x, hx, made, kind, live ▸ .refl _, fun c among => ?_⟩
    obtain ⟨made, undone, spared⟩ := ((was.rosters x hx).live c).mp among
    obtain ⟨y, hy, -⟩ := (was.rosters x hx).noted c made
    obtain ⟨y', hy', -, same⟩ := rows c y hy
    rw [World.connection_of_find? hy] at undone
    rw [live, World.Listed, World.connection_of_find? hy', same, given]
    exact iff_of_true among ⟨undone, spared⟩

theorem of_backends (connections : w'.connections = w.connections)
    (history : w'.history = w.history)
    (backend : ∀ x', w'.backends.find? b = some x' →
      x'.live = [] ∧ x'.made = [] ∨
        ∃ x, w.backends.find? b = some x ∧ x'.live = x.live ∧ x'.made = x.made ∧
          x'.kind = x.kind) : Rosters b w w' := by
  refine of_rows (fun c y hy => ⟨y, connections ▸ hy, .refl y, .rfl⟩) (fun c y' hy hy' => ?_)
    (fun c => by rw [World.givenUp_congr history]) backend
  rw [connections, hy] at hy'
  cases hy'

theorem of_same (connections : w'.connections = w.connections) (history : w'.history = w.history)
    (backends : w'.backends = w.backends) : Rosters b w w' :=
  of_backends connections history fun x hx => .inr ⟨x, backends ▸ hx, rfl, rfl, rfl⟩

theorem mark (w : World σ) {o : Occurrence} (other : ∀ c, o ≠ .discarded c) :
    Rosters b w (w.mark o) := by
  refine of_rows (fun c y hy => ⟨y, hy, .refl y, .rfl⟩) (fun c y' hy hy' => ?_)
    (fun c => ?_) fun x hx => .inr ⟨x, hx, rfl, rfl, rfl⟩
  · cases hy.symm.trans hy'
  · rw [World.givenUp_mark, or_iff_left (other c)]

theorem log (w : World σ) (s : Severity) (message : String) (fields : List (String × String)) :
    Rosters b w (w.log s message fields) :=
  of_same (w.log_connections _ _ _) (w.log_history _ _ _) (w.log_backends _ _ _)

theorem update (w : World σ) {f : Connection → Connection}
    (ages : ∀ y, w.connections.find? c = some y →
      y.AgesTo (f y) ∧ (.untrack b ∈ (f y).done ↔ .untrack b ∈ y.done)) :
    Rosters b w (w.updateConnection c f) := by
  have alters : w.Alters (w.updateConnection c f) c f := fun _ => Table.find?_update _ _ _ _
  refine of_rows (fun c' y hy => ?_) (fun c' y' hy hy' => ?_) (fun _ => .rfl)
    fun x hx => .inr ⟨x, hx, rfl, rfl, rfl⟩
  · refine ⟨_, alters.row hy, ?_⟩
    split
    · next here => exact ages y (here ▸ hy)
    · exact ⟨.refl y, .rfl⟩
  · cases (alters.new hy).symm.trans hy'

theorem alter (w : World σ) {f : Backend → Backend}
    (same : ∀ x, (f x).live = x.live ∧ (f x).made = x.made ∧ (f x).kind = x.kind) :
    Rosters b w (w.updateBackend b' f) := by
  refine of_backends rfl rfl fun x' hx' => .inr ?_
  rw [World.updateBackend, Table.find?_update] at hx'
  split at hx'
  · next here =>
      subst here
      obtain ⟨x, hx, rfl⟩ := Option.map_eq_some_iff.mp hx'
      exact ⟨x, hx, same x⟩
  · exact ⟨x', hx', rfl, rfl, rfl⟩

theorem addBackend (w : World σ) (part : BackendPart) :
    Rosters b w { w with backends := (w.backends.add { part }).2 } := by
  refine of_backends rfl rfl fun x' hx' => ?_
  rw [Table.find?_add] at hx'
  split at hx'
  · obtain rfl := Option.some.inj hx'
    exact .inl ⟨rfl, rfl⟩
  · exact .inr ⟨x', hx', rfl, rfl, rfl⟩

theorem share (w : World σ) (f : Nat → Nat) (k : Kept) : Rosters b w (w.reshare f k) := by
  cases k with
  | backend b' => exact alter w fun _ => ⟨rfl, rfl, rfl⟩
  | _ => exact of_same rfl rfl rfl

theorem erase (w : World σ) (k : Kept) : Rosters b w (w.erase k) := by
  cases k with
  | backend b' =>
      refine of_backends rfl rfl fun x' hx' => .inr ⟨x', ?_, rfl, rfl, rfl⟩
      simp only [World.erase, Table.find?_erase] at hx'
      split at hx'
      · cases hx'
      · exact hx'
  | _ => exact of_same rfl rfl rfl

theorem addConnection (w : World σ) {x : Connection} (fresh : x.done = []) :
    Rosters b w { w with connections := (w.connections.add x).2 } := by
  have row := w.connections.find?_add x
  refine of_rows (fun c y hy => ⟨y, ?_, .refl y, .rfl⟩) (fun c y' hy hy' => ?_) (fun _ => .rfl)
    fun x hx => .inr ⟨x, hx, rfl, rfl, rfl⟩
  · rw [row, if_neg]
    · exact hy
    · rintro rfl
      simp [Table.find?_next] at hy
  · rw [row] at hy'
    split at hy'
    · exact Option.some.inj hy' ▸ fresh
    · cases hy.symm.trans hy'

/-! ## Going off the roster -/

theorem mem_untrack {x : Backend} : c' ∈ (x.untrack c).live ↔ c' ∈ x.live ∧ c' ≠ c := by
  simp [Backend.untrack]

theorem ages_done {y : Connection} (closed : y.state = .closed) (hook : CloseHook) :
    y.AgesTo { y with done := y.done ++ [hook] } :=
  ⟨rfl, id, fun _ => id, List.subset_append_left _ _, fun live => absurd closed live⟩

theorem untrack {f : Connection → Connection} (alters : w.Alters w' c f)
    (ages : ∀ y, w.connections.find? c = some y → y.AgesTo (f y))
    (done : ∀ y, w.connections.find? c = some y → .untrack b ∈ (f y).done)
    (history : w'.history = w.history) (backends : w'.backends = w.backends.update b (·.untrack c)) :
    Rosters b w w' := by
  refine of_strikes (alters.ages ages) (fun c' y' hy hy' => ?_) (fun c' => ?_) (fun c' => ?_)
    fun was x' hx' => .inr ?_
  · cases (alters.new hy).symm.trans hy'
  · rw [World.givenUp_congr history]
    exact id
  · rw [World.givenUp_congr history]
    exact .inl
  · rw [backends, Table.find?_update, if_pos rfl] at hx'
    obtain ⟨x, hx, rfl⟩ := Option.map_eq_some_iff.mp hx'
    refine ⟨x, hx, rfl, rfl, List.filter_sublist, fun c' among => ?_⟩
    obtain ⟨made, undone, spared⟩ := ((was.rosters x hx).live c').mp among
    obtain ⟨y, hy, -⟩ := (was.rosters x hx).noted c' made
    rw [World.connection_of_find? hy] at undone
    rw [mem_untrack, World.Listed, World.connection_of_find? (alters.row hy),
      World.givenUp_congr history]
    by_cases here : c = c'
    · subst here
      simp [done y hy]
    · simp [here, Ne.symm here, among, undone, spared]

theorem runHook {w : World σ} (closed : (w.connection c).state = .closed) (hook : CloseHook) :
    Rosters b w ((Connection.runHook c hook).run w).2 := by
  let note (y : Connection) : Connection := { y with done := y.done ++ [hook] }
  have ages : ∀ y, w.connections.find? c = some y → y.AgesTo (note y) := fun y hy =>
    ages_done (World.connection_of_find? hy ▸ closed) hook
  have noted : hook ≠ .untrack b → Rosters b w (w.updateConnection c note) := fun other =>
    update w fun y hy => ⟨ages y hy, by simp [note, other.symm]⟩
  cases hook with
  | untrack b' =>
      by_cases here : b' = b
      · subst here
        exact untrack (f := note) (fun _ => Table.find?_update _ _ _ _) ages
          (fun y _ => by simp [note]) rfl rfl
      · refine (noted (by simpa using here)).trans (of_backends rfl rfl fun x hx => .inr ?_)
        refine ⟨x, ?_, rfl, rfl, rfl⟩
        change (w.backends.update b' _).find? b = some x at hx
        rwa [Table.find?_update, if_neg here] at hx
  | forgetApi b' => exact (noted nofun).trans (alter _ fun x => x.forgetApi_keeps c)

theorem discarded {f : Backend → Backend} (connections : w'.connections = w.connections)
    (history : w'.history = w.history) (backends : w'.backends = w.backends.update b' f)
    (untracks : ∀ x, (f x).live = (x.untrack c).live ∧ (f x).made = x.made ∧ (f x).kind = x.kind)
    {y : Connection} (hy : w.connections.find? c = some y) (own : y.backend = b') :
    Rosters b w (Connection.discarded w' c) := by
  let shut (y : Connection) : Connection := { y.closed with attached := none }
  have run : Connection.discarded w' c =
      World.mark { w' with connections := w.connections.set c (shut y) } (.discarded c) := by
    unfold Connection.discarded
    rw [connections, hy]
  rw [run]
  have alters : w.Alters
      (World.mark { w' with connections := w.connections.set c (shut y) } (.discarded c)) c shut := by
    intro c'
    rw [hy]
    exact Table.find?_set _ _ _ _
  have given : ∀ c', (World.mark { w' with connections := w.connections.set c (shut y) }
      (.discarded c)).GivenUp c' ↔ w.GivenUp c' ∨ c' = c := by
    intro c'
    rw [World.givenUp_mark, ← World.givenUp_congr history]
    simp [World.GivenUp, World.chronicle, eq_comm]
  refine of_strikes (alters.ages fun y _ => .of_same rfl (fun _ => rfl) (fun _ => id) rfl)
    (fun c' y' hy hy' => ?_) (fun c' before => (given c').mpr (.inl before)) (fun c' later => ?_)
    fun was x' hx' => .inr ?_
  · cases (alters.new hy).symm.trans hy'
  · refine ((given c').mp later).imp_right ?_
    rintro rfl
    exact ⟨_, alters.row hy⟩
  -- The connection is on the roster of no backend but its own.
  have listed : ∀ x, w.backends.find? b = some x → ∀ c' ∈ x.live,
      (World.Listed (World.mark { w' with connections := w.connections.set c (shut y) }
        (.discarded c)) b c' ↔ c' ≠ c) ∧ (c' = c → b' = b) := by
    intro x hx c' among
    obtain ⟨made, undone, spared⟩ := ((was.rosters x hx).live c').mp among
    obtain ⟨z, hz, home, -⟩ := (was.rosters x hx).noted c' made
    rw [World.connection_of_find? hz] at undone
    rw [World.Listed, World.connection_of_find? (alters.row hz), given]
    refine ⟨?_, fun here => ?_⟩
    · by_cases here : c = c'
      · simp [here]
      · simp [here, Ne.symm here, undone, spared]
    · subst here
      obtain rfl := Option.some.inj (hy.symm.trans hz)
      exact own.symm.trans home
  change w'.backends.find? b = some x' at hx'
  rw [backends, Table.find?_update] at hx'
  split at hx'
  · next here =>
      subst here
      obtain ⟨x, hx, rfl⟩ := Option.map_eq_some_iff.mp hx'
      obtain ⟨live, made, kind⟩ := untracks x
      refine ⟨x, hx, made, kind, live ▸ List.filter_sublist, fun c' among => ?_⟩
      rw [live, mem_untrack, (listed x hx c' among).1]
      simp [among]
  · next other =>
      refine ⟨x', hx', rfl, rfl, .refl _, fun c' among => ?_⟩
      have beside : c' ≠ c := fun here => other ((listed x' hx' c' among).2 here)
      simp [among, (listed x' hx' c' among).1, beside]

end Rosters

/-! ## Going on the roster -/

namespace Connection

theorem run_onClosed_live (hook : CloseHook) (live : (w.connection c).state ≠ .closed) :
    ((onClosed c hook).run w).2 =
      (w.updateConnection c fun x => { x with noted := x.noted ++ [hook] }).updateConnection c
        fun x => { x with hooks := x.hooks ++ [hook] } := by
  obtain ⟨x, hx, same⟩ := found_of_live live
  have still : ((w.updateConnection c fun x =>
      { x with noted := x.noted ++ [hook] }).connection c).state ≠ .closed := by
    simpa [World.connection, Table.get, World.updateConnection, Table.find?_update, hx] using live
  unfold onClosed
  rw [run_bind, run_modify, run_bind, run_get, if_neg still, run_modify]

end Connection

namespace Backend

theorem run_make (b : BackendId) (h : DeviceHandle) (address : String) (sink : Sink) (w : World σ) :
    ∃ w', (make b h address sink).run w = (⟨w.connections.next⟩, w') ∧
      (∀ c, w'.connections.find? c = if ⟨w.connections.next⟩ = c then
        some { device := h, backend := b, address, sink, noted := [.untrack b],
               hooks := [.untrack b] }
        else w.connections.find? c) ∧
      (∀ b', w'.backends.find? b' = if b = b' then (w.backends.find? b).map fun x =>
          (x.noteMade ⟨w.connections.next⟩).track ⟨w.connections.next⟩
        else w.backends.find? b') ∧
      w'.history = w.history := by
  let x : Connection := { device := h, backend := b, address, sink }
  let c : ConnectionId := ⟨w.connections.next⟩
  let added : World σ := { w with connections := (w.connections.add x).2 }
  let created := added.log .debug "Connection created"
    [("conn", c.label), ("device", h.label), ("backend", b.label), ("address", address)]
  let tracked := (created.updateBackend b (·.noteMade c)).updateBackend b (·.track c)
  have known : tracked.connections = added.connections := added.log_connections _ _ _
  have row : tracked.connections.find? c = some x := by
    rw [known]
    exact (Table.find?_add _ _ _).trans (if_pos rfl)
  have live : (tracked.connection c).state ≠ .closed := by
    rw [World.connection_of_find? row]
    nofun
  refine ⟨((Connection.onClosed c (.untrack b)).run tracked).2, rfl, fun c' => ?_, fun b' => ?_, ?_⟩
  · rw [Connection.run_onClosed_live _ live]
    simp only [World.updateConnection, Table.find?_update, row]
    by_cases here : (⟨w.connections.next⟩ : ConnectionId) = c'
    · simp [c, x, here]
    · simp [c, here, known, added, Table.find?_add]
  · rw [Connection.run_onClosed_live _ live]
    have before : created.backends = added.backends := added.log_backends _ _ _
    change tracked.backends.find? b' = _
    simp only [tracked, World.updateBackend, Table.find?_update, before]
    by_cases here : b = b'
    · subst here
      simp [Option.map_map, Function.comp_def, c, added]
    · simp [here, added]
  · rw [Connection.run_onClosed_live _ live]
    have past : created.history = added.history := added.log_history _ _ _
    simp only [World.updateConnection, tracked, World.updateBackend, past, added]

end Backend

namespace World.Rostered

variable {x : Backend}

theorem later (rostered : w.Rostered b x)
    (rows : ∀ c ∈ x.made, w'.connections.find? c = w.connections.find? c)
    (given : ∀ c, w'.GivenUp c ↔ w.GivenUp c) : w'.Rostered b x where
  made := rostered.made
  noted c among := by
    rw [rows c among]
    exact rostered.noted c among
  once := rostered.once
  live c := by
    refine (rostered.live c).trans (and_congr_right fun among => ?_)
    simp only [World.Listed, World.connection, Table.get, rows c among, given]
  single := rostered.single

theorem make (rostered : w.Rostered b x) (new : c ∉ x.made)
    (noted : ∃ y, w.connections.find? c = some y ∧ y.backend = b ∧ .untrack b ∈ y.noted)
    (listed : w.Listed b c) (room : x.kind = .mux → x.live = []) :
    w.Rostered b ((x.noteMade c).track c) := by
  have off : c ∉ x.live := fun among => new ((rostered.live c).mp among).1
  refine ⟨?_, fun c' among => ?_, ?_, fun c' => ?_, fun mux => ?_⟩
  · simpa [Backend.track, Backend.noteMade, List.nodup_append, rostered.made] using
      fun a among (here : a = c) => new (here ▸ among)
  · rcases List.mem_append.mp among with before | here
    · exact rostered.noted c' before
    · exact List.mem_singleton.mp here ▸ noted
  · simpa [Backend.track, Backend.noteMade, List.nodup_append, rostered.once] using
      fun a among (here : a = c) => off (here ▸ among)
  · simp only [Backend.track, Backend.noteMade, List.mem_append, List.mem_singleton,
      rostered.live]
    constructor
    · rintro (⟨among, lists⟩ | rfl)
      · exact ⟨.inl among, lists⟩
      · exact ⟨.inr rfl, listed⟩
    · rintro ⟨among | here, lists⟩
      · exact .inl ⟨among, lists⟩
      · exact .inr here
  · simp [Backend.track, Backend.noteMade, room mux]

end World.Rostered

theorem Rosters.make (h : DeviceHandle) (address : String) (sink : Sink)
    (room : ∀ x, w.backends.find? b' = some x → x.kind = .mux → x.live = []) :
    Rosters b w ((Backend.make b' h address sink).run w).2 := by
  obtain ⟨w', runs, row, backend, history⟩ := Backend.run_make b' h address sink w
  rw [runs]
  generalize hc : (⟨w.connections.next⟩ : ConnectionId) = c at row backend
  have unknown : w.connections.find? c = none := hc ▸ w.connections.find?_next
  have here := (row c).trans (if_pos rfl)
  have rows : ∀ c' y, w.connections.find? c' = some y → w'.connections.find? c' = some y := by
    intro c' y hy
    rw [row, if_neg]
    · exact hy
    · rintro rfl
      cases unknown.symm.trans hy
  have given : ∀ c', w'.GivenUp c' ↔ w.GivenUp c' := fun c' => by
    rw [World.givenUp_congr history]
  refine ⟨fun c' y hy => ⟨y, rows c' y hy, .refl y⟩, fun was => ?_⟩
  have later : ∀ x, w.backends.find? b = some x → w'.Rostered b x ∧ c ∉ x.made := by
    intro x hx
    have rostered := was.rosters x hx
    refine ⟨rostered.later (fun c' among => ?_) given, fun among => ?_⟩
    · obtain ⟨y, hy, -⟩ := rostered.noted c' among
      rw [hy]
      exact rows c' y hy
    · obtain ⟨y, hy, -⟩ := rostered.noted c among
      cases unknown.symm.trans hy
  refine ⟨fun c' y hy => ?_, fun c' late => ?_, fun x' hx' => ?_⟩
  · rw [row] at hy
    split at hy
    · obtain rfl := Option.some.inj hy
      exact fun _ => rfl
    · exact was.waits c' y hy
  · obtain ⟨y, hy⟩ := was.known c' ((given c').mp late)
    exact ⟨y, rows c' y hy⟩
  · rw [backend] at hx'
    by_cases own : b' = b
    · subst own
      rw [if_pos rfl] at hx'
      obtain ⟨x, hx, rfl⟩ := Option.map_eq_some_iff.mp hx'
      obtain ⟨rostered, new⟩ := later x hx
      refine rostered.make new ⟨_, here, rfl, by simp⟩ ⟨?_, fun late => ?_⟩ (room x hx)
      · rw [World.connection_of_find? here]
        simp
      · obtain ⟨y, hy⟩ := was.known c ((given c).mp late)
        cases unknown.symm.trans hy
    · rw [if_neg own] at hx'
      exact (later x' hx').1

end DroneControl
