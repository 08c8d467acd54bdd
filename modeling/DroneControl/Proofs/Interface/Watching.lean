import DroneControl.Proofs.Run.Scope
import Mathlib.Data.Nat.Basic

/-!
# What leaves an interface alone

Most of what happens in a world is none of an interface's business: its row stays as it is, nothing in
the history concerns it, and the loop does not come to hold work for it.  A relation that holds whenever
an interface is left alone is kept by everything but the operations of that interface and the turns of
the loop.
-/

set_option synthInstance.maxSize 2048

namespace DroneControl

variable {σ : Type}

/-- Time goes on, and no timer is taken for another. -/
structure Loop.GoesOn (l l' : Loop) : Prop where
  clock : l.clock ≤ l'.clock
  named : l.timers.next ≤ l'.timers.next
  /-- A timer keeps its job and its period for as long as it is there. -/
  lasting : ∀ t timer', t.number < l.timers.next → l'.timers.find? t = some timer' →
    ∃ timer, l.timers.find? t = some timer ∧ timer'.job = timer.job ∧ timer'.period = timer.period

/-- The loop does not come to hold work for the interface. -/
structure Loop.Spares (i : InterfaceId) (l l' : Loop) : Prop extends Loop.GoesOn l l' where
  timers : ∀ t timer, l'.timers.find? t = some timer → timer.job = .retry i →
    l.timers.find? t = some timer
  queue : ∀ task ∈ l'.queue, task ∈ l.queue ∨ (∃ job, task = .run job ∧ job ≠ .retry i) ∨
    ∃ t, task = .wake t ∧ l.timers.next ≤ t.number ∧ t.number < l'.timers.next

/-- The interface is left alone. It may find or lose somebody who keeps it, and may go. -/
structure Spares (i : InterfaceId) (w w' : World σ) : Prop where
  known : w.interfaces.next ≤ w'.interfaces.next
  row : ∀ x', w'.interfaces.find? i = some x' →
    ∃ x, w.interfaces.find? i = some x ∧ x' = { x with sharers := x'.sharers }
  history : ∃ more, w'.history = more ++ w.history ∧ ∀ y ∈ more, ¬y.what.concerns i
  loop : w.loop.Spares i w'.loop

/-! ## The loop -/

namespace Loop

variable {i : InterfaceId} {l : Loop} {job : Job}

theorem GoesOn.refl (l : Loop) : l.GoesOn l where
  clock := le_rfl
  named := le_rfl
  lasting _ timer' _ found := ⟨timer', found, rfl, rfl⟩

theorem GoesOn.trans {l l' l'' : Loop} (h : l.GoesOn l') (h' : l'.GoesOn l'') :
    l.GoesOn l'' where
  clock := Nat.le_trans h.clock h'.clock
  named := Nat.le_trans h.named h'.named
  lasting t timer'' old found := by
    obtain ⟨timer', found', job', period'⟩ := h'.lasting t timer'' (Nat.lt_of_lt_of_le old h.named) found
    obtain ⟨timer, found, job, period⟩ := h.lasting t timer' old found'
    exact ⟨timer, found, job'.trans job, period'.trans period⟩

theorem GoesOn.requeue (l : Loop) (queue : List Task) : l.GoesOn { l with queue } :=
  ⟨le_rfl, le_rfl, (refl l).lasting⟩

theorem GoesOn.forward (l : Loop) (ms : Nat) : l.GoesOn (l.forward ms) :=
  ⟨Nat.le_add_right _ _, le_rfl, (refl l).lasting⟩

theorem Spares.refl (l : Loop) : l.Spares i l where
  toGoesOn := .refl l
  timers _ _ found _ := found
  queue _ among := .inl among

theorem Spares.defer (other : job ≠ .retry i) : l.Spares i (l.defer job) where
  toGoesOn := .requeue l _
  timers _ _ found _ := found
  queue task among := by
    rcases List.mem_append.mp among with old | new
    · exact .inl old
    · exact .inr (.inl ⟨job, List.mem_singleton.mp new, other⟩)

theorem GoesOn.add (l : Loop) (timer : Timer) (queue : List Task) :
    l.GoesOn { l with timers := (l.timers.add timer).2, queue } where
  clock := le_rfl
  named := by simp [Table.next_add]
  lasting t timer' old found := by
    rw [Table.find?_add, if_neg] at found
    · exact ⟨timer', found, rfl, rfl⟩
    · rintro rfl
      exact lt_irrefl _ old

theorem Spares.after (other : job ≠ .retry i) (delay : Nat) :
    l.Spares i (l.after delay job).2 where
  toGoesOn := .add l _ _
  timers t timer found retries := by
    simp only [Loop.after, Table.find?_add] at found
    split at found
    · obtain rfl := Option.some.inj found
      exact absurd retries other
    · exact found
  queue task among := by
    simp only [Loop.after] at among
    split at among
    · rcases List.mem_append.mp among with old | new
      · exact .inl old
      · refine .inr (.inr ⟨_, List.mem_singleton.mp new, le_rfl, ?_⟩)
        simp only [Loop.after, Table.next_add]
        exact Nat.lt_succ_self _
    · exact .inl among

theorem Spares.periodic (other : job ≠ .retry i) (period : Nat) :
    l.Spares i (l.periodic period job).2 where
  toGoesOn := .add l _ _
  timers t timer found retries := by
    simp only [Loop.periodic, Table.find?_add] at found
    split at found
    · obtain rfl := Option.some.inj found
      exact absurd retries other
    · exact found
  queue _ among := .inl among

theorem find?_cancel {t t' : TimerId} {timer : Timer}
    (found : (l.cancel t).timers.find? t' = some timer) : l.timers.find? t' = some timer := by
  simp only [Loop.cancel, Table.find?_erase] at found
  split at found
  · exact nomatch found
  · exact found

theorem cancel?_queue (old : Option TimerId) : (l.cancel? old).queue = l.queue := by
  cases old <;> rfl

theorem cancel?_clock (old : Option TimerId) : (l.cancel? old).clock = l.clock := by
  cases old <;> rfl

theorem cancel?_next (old : Option TimerId) : (l.cancel? old).timers.next = l.timers.next := by
  cases old <;> rfl

theorem find?_cancel? {old : Option TimerId} {t : TimerId} {timer : Timer}
    (found : (l.cancel? old).timers.find? t = some timer) :
    l.timers.find? t = some timer ∧ old ≠ some t := by
  cases old with
  | none => exact ⟨found, fun same => by cases same⟩
  | some t' =>
    simp only [cancel?, cancel, Table.find?_erase] at found
    split at found
    · cases found
    · next ne => exact ⟨found, fun same => ne (Option.some.inj same)⟩

theorem GoesOn.cancel (t : TimerId) : l.GoesOn (l.cancel t) where
  clock := le_rfl
  named := le_rfl
  lasting _ timer' _ found := ⟨timer', find?_cancel found, rfl, rfl⟩

theorem Spares.cancel (t : TimerId) : l.Spares i (l.cancel t) where
  toGoesOn := .cancel t
  timers _ _ found _ := find?_cancel found
  queue _ among := .inl among

theorem Spares.cancel? (old : Option TimerId) : l.Spares i (l.cancel? old) := by
  cases old with
  | none => exact .refl l
  | some t => exact .cancel t

theorem cancelCall_eq (l : Loop) (t : TimerId) :
    l.cancelCall t = l ∨ l.cancelCall t = l.cancel t ∧
      ∃ timer, l.timers.find? t = some timer ∧ ∃ listener, timer.job = .call listener := by
  unfold Loop.cancelCall
  split
  · next listener there =>
    obtain ⟨timer, found, job⟩ := Option.map_eq_some_iff.mp there
    exact .inr ⟨rfl, timer, found, listener, job⟩
  · exact .inl rfl

theorem Spares.cancelCall (t : TimerId) : l.Spares i (l.cancelCall t) := by
  rcases l.cancelCall_eq t with same | ⟨same, -⟩
  · rw [same]
    exact .refl l
  · rw [same]
    exact .cancel t

theorem mem_due {t : TimerId} :
    t ∈ l.due ↔ ∃ timer, l.timers.find? t = some timer ∧ timer.deadline ≤ l.clock := by
  simp [Loop.due, Table.mem_toList]

end Loop

/-! ## Worlds -/

namespace Spares

variable {i : InterfaceId} {w w' : World σ}

theorem of_rows (known : w.interfaces.next ≤ w'.interfaces.next)
    (row : ∀ x', w'.interfaces.find? i = some x' →
      ∃ x, w.interfaces.find? i = some x ∧ x' = { x with sharers := x'.sharers })
    (history : w'.history = w.history) (loop : w'.loop = w.loop) : Spares i w w' where
  known := known
  row := row
  history := ⟨[], history, nofun⟩
  loop := by rw [loop]; exact .refl w.loop

theorem of_same (interfaces : w'.interfaces = w.interfaces) (history : w'.history = w.history)
    (loop : w'.loop = w.loop) : Spares i w w' :=
  .of_rows (interfaces ▸ le_rfl) (fun x' found => ⟨x', interfaces ▸ found, rfl⟩) history loop

theorem refl (w : World σ) : Spares i w w := .of_same rfl rfl rfl

theorem of_loop (interfaces : w'.interfaces = w.interfaces) (history : w'.history = w.history)
    (loop : w.loop.Spares i w'.loop) : Spares i w w' where
  known := interfaces ▸ le_rfl
  row x' found := ⟨x', interfaces ▸ found, rfl⟩
  history := ⟨[], history, nofun⟩
  loop := loop

theorem mark (w : World σ) {o : Occurrence} (aside : ¬o.concerns i) :
    Spares i w (w.mark o) where
  known := le_rfl
  row x' found := ⟨x', found, rfl⟩
  history := ⟨[_], rfl, by simpa using aside⟩
  loop := .refl w.loop

theorem share (w : World σ) (f : Nat → Nat) (k : Kept) : Spares i w (w.reshare f k) := by
  cases k with
  | interface i' =>
    refine .of_rows (Nat.le_of_eq (Table.next_update _ _ _).symm) (fun x' found => ?_) rfl rfl
    simp only [World.reshare, World.updateInterface, Table.find?_update] at found
    split at found
    · next same =>
      subst same
      obtain ⟨x, there, rfl⟩ := Option.map_eq_some_iff.mp found
      exact ⟨x, there, rfl⟩
    · exact ⟨x', found, rfl⟩
  | _ => exact .of_same rfl rfl rfl

theorem erase (w : World σ) (k : Kept) : Spares i w (w.erase k) := by
  cases k with
  | interface i' =>
    refine .of_rows le_rfl (fun x' found => ?_) rfl rfl
    simp only [World.erase, Table.find?_erase] at found
    split at found
    · exact nomatch found
    · exact ⟨x', found, rfl⟩
  | _ => exact .of_same rfl rfl rfl

theorem update_of_ne {i' : InterfaceId} (ne : i' ≠ i) (w : World σ) (f : Interface → Interface) :
    Spares i w (w.updateInterface i' f) := by
  refine .of_rows (Nat.le_of_eq (Table.next_update _ _ _).symm) (fun x' found => ?_) rfl rfl
  simp only [World.updateInterface, Table.find?_update, if_neg ne] at found
  exact ⟨x', found, rfl⟩

theorem add (w : World σ) (x : Interface) (other : i.number ≠ w.interfaces.next) :
    Spares i w { w with interfaces := (w.interfaces.add x).2 } := by
  refine .of_rows (by simp [Table.next_add]) (fun x' found => ?_) rfl rfl
  rw [Table.find?_add, if_neg] at found
  · exact ⟨x', found, rfl⟩
  · rintro rfl
    exact other rfl

theorem discarded (w : World σ) (c : ConnectionId) : Spares i w (Connection.discarded w c) := by
  unfold Connection.discarded
  split
  · next x _ =>
    exact ⟨le_rfl, fun x' found => ⟨x', found, rfl⟩, ⟨[_], rfl, by simp [Occurrence.concerns]⟩,
      .refl w.loop⟩
  · exact .refl w

end Spares

/-! ## Relations that hold whenever an interface is left alone -/

class Watches (i : outParam InterfaceId) (R : World σ → World σ → Prop) : Prop where
  spares : ∀ {w w'}, Spares i w w' → R w w'
  trans : ∀ {w₁ w₂ w₃}, R w₁ w₂ → R w₂ w₃ → R w₁ w₃

namespace Watches

variable {i : InterfaceId} {R : World σ → World σ → Prop} [watches : Watches i R]

instance heeds : Heeds R ⟨[.interfaces, .loop, .history], [.traffic]⟩ where
  trans := watches.trans
  aside same := watches.spares (.of_same (same .interfaces (by decide)) (same .history (by decide))
    (same .loop (by decide)))
  mark w _ other := watches.spares
    (.mark w fun about => other (by simp [Occurrence.topic_of_concerns about]))

instance footing : Footing (Keeps R) := Heeds.footing

instance base : Base (Keeps R) where
  share f k w := watches.spares (.share w f k)
  retire k w := by
    have hushed : Spares i w (w.hush k) := .of_loop rfl rfl (.cancel? _)
    exact watches.trans (watches.spares hushed) (watches.spares (.erase (w.hush k) k))
  cancelCall t _ := watches.spares (.of_loop rfl rfl (.cancelCall t))

instance ground : Ground (Keeps R) where
  toOverlooksBackends := Heeds.overlooksBackends
  toOverlooksDiscoveries := Heeds.overlooksDiscoveries
  controller _ _ _ w := Heeds.of_controllers w (by decide) _
  schedule delay _ other _ := watches.spares (.of_loop rfl rfl (.after (other i) delay))
  schedulePeriodic period _ other _ := watches.spares (.of_loop rfl rfl (.periodic (other i) period))
  defer _ other _ := watches.spares (.of_loop rfl rfl (.defer (other i)))
  cancelTimer t _ := watches.spares (.of_loop rfl rfl (.cancel t))
  markControl o about w := Heeds.mark w o (by simp [about])

instance overlooksProxies : OverlooksProxies (Keeps R) := Heeds.overlooksProxies

theorem overlooks {i' : InterfaceId} (ne : i' ≠ i) : Overlooks (Keeps R) i' where
  row _ _ w := watches.spares (.update_of_ne ne w _)
  retry delay _ := watches.spares (.of_loop rfl rfl (.after (by simpa using ne) delay))
  cancel t _ := watches.spares (.of_loop rfl rfl (.cancel t))
  mark o about w := by
    refine watches.spares (.mark w fun own => ne ?_)
    cases o <;> first | exact about.symm.trans own | cases about

instance overlooksDevices : OverlooksDevices (Keeps R) := Heeds.overlooksDevices

instance overlooksConnection (c : ConnectionId) : OverlooksConnection (Keeps R) c :=
  Heeds.overlooksConnection c

instance connectionLives : ConnectionLives (Keeps R) := Heeds.connectionLives

instance connectionNotes : ConnectionNotes (Keeps R) := Connection.notes_of_overlooks

theorem of_own {α : Type} {a : InterfaceId → Act σ α} (own : Holds (Keeps R) (a i))
    (others : ∀ i', Overlooks (Keeps R) i' → Holds (Keeps R) (a i')) (i' : InterfaceId) :
    Holds (Keeps R) (a i') := by
  by_cases same : i' = i
  · exact same ▸ own
  · exact others i' (overlooks same)

theorem interfaceLives (add : ∀ device pipe sink traceCell,
      Keeps R InterfaceId (modifyGet fun w =>
        let (i, interfaces) := w.interfaces.add { device, pipe, sink, traceCell }
        (i, { w with interfaces }))) (close : Holds (Keeps R) (Interface.close i)) :
    InterfaceLives (Keeps R) where
  createInterface h p sink cell := by
    have added := Holds.mk (add h p sink cell)
    unfold Interface.create
    infer_instance
  closeInterface := of_own close fun _ _ => Interface.close_of_steps

instance registryLives [InterfaceLives (Keeps R)] : RegistryLives (Keeps R) :=
  Registry.lives_of_overlooks

instance alone [InterfaceLives (Keeps R)] : Alone (Keeps R) where

section

variable {env : Env σ} [Upheld (Keeps R) env]

theorem interfaceCalls (send : ∀ c, Holds (Keeps R) (Interface.send env i c).run)
    (receive : ∀ frame, Holds (Keeps R) (Interface.receive env i frame)) :
    InterfaceCalls (Keeps R) env where
  send i' c := of_own (a := fun i => (Interface.send env i c).run) (send c)
    (fun _ _ => Interface.send_of_steps c) i'
  receive i' frame := of_own (a := fun i => Interface.receive env i frame) (receive frame)
    (fun _ _ => Interface.receive_of_steps frame) i'

variable [InterfaceLives (Keeps R)]

instance entryCalls : EntryCalls (Keeps R) env := Entry.calls_of_overlooks

instance connectionCalls : ConnectionCalls (Keeps R) env := Connection.calls_of_tells

instance givesUp : GivesUp (Keeps R) env := ⟨fun _ => Connection.giveUp_overlooked⟩

instance registryCalls : RegistryCalls (Keeps R) env := Registry.calls_of_overlooks

include watches in
theorem together [InterfaceCalls (Keeps R) env] [LoopCalls (Keeps R) env] :
    Together (Keeps R) env where

end

end Watches

end DroneControl
