import DroneControl.Registry.Devices

/-!
# What an operation leaves behind

The outcome of a sequence is the outcome of its rest in the world that its first step leaves behind.
The equations below say so for each way of going on, and simplification takes an operation apart with
them as far as the world it starts in is known.
-/

namespace DroneControl

variable {σ α β : Type}

@[simp] theorem run_pure (a : α) (w : World σ) : (pure a : Act σ α).run w = (a, w) := rfl

@[simp] theorem run_bind (a : Act σ α) (f : α → Act σ β) (w : World σ) :
    (a >>= f).run w = (f (a.run w).1).run (a.run w).2 := rfl

theorem run_bind_of {a : Act σ α} {f : α → Act σ β} {w w' : World σ} {x : α}
    (h : a.run w = (x, w')) : (a >>= f).run w = (f x).run w' := by
  rw [run_bind, h]

@[simp] theorem run_get (w : World σ) : (get : Act σ (World σ)).run w = (w, w) := rfl

@[simp] theorem run_modify (f : World σ → World σ) (w : World σ) :
    (modify f : Act σ Unit).run w = ((), f w) := rfl

@[simp] theorem run_modifyGet (f : World σ → α × World σ) (w : World σ) :
    (modifyGet f : Act σ α).run w = f w := rfl

@[simp] theorem run_mark (o : Occurrence) (w : World σ) :
    (mark o : Act σ Unit).run w = ((), w.mark o) := rfl

@[simp] theorem run_log (s : Severity) (message : String) (fields : List (String × String))
    (w : World σ) : (log s message fields : Act σ Unit).run w = ((), w.log s message fields) := rfl

/-! ## Actions that may fail -/

@[simp] theorem run_tryPure (a : α) (w : World σ) :
    (pure a : Try σ α).run.run w = (.ok a, w) := rfl

@[simp] theorem run_throw (f : Fault) (w : World σ) :
    (throw f : Try σ α).run.run w = (.error f, w) := rfl

@[simp] theorem run_act (a : Act σ α) (w : World σ) :
    (act a).run.run w = (.ok (a.run w).1, (a.run w).2) := rfl

@[simp] theorem run_throwThen (f : Fault) (next : α → Try σ β) (w : World σ) :
    ((throw f : Try σ α) >>= next).run.run w = (.error f, w) := rfl

@[simp] theorem run_lookThen (next : World σ → Try σ β) (w : World σ) :
    ((get : Try σ (World σ)) >>= next).run.run w = (next w).run.run w := rfl

@[simp] theorem run_actThen (a : Act σ α) (next : α → Try σ β) (w : World σ) :
    (act a >>= next).run.run w = (next (a.run w).1).run.run (a.run w).2 := rfl

@[simp] theorem run_discardThen (a : Act σ α) (next : Unit → Try σ β) (w : World σ) :
    (discard (act a) >>= next).run.run w = (next ()).run.run (a.run w).2 := rfl

@[simp] theorem run_attemptThen (a : Try σ α) (next : Except Fault α → Try σ β) (w : World σ) :
    (attempt a >>= next).run.run w = (next (a.run.run w).1).run.run (a.run.run w).2 := rfl

theorem run_tryThen (a : Try σ α) (next : α → Try σ β) (w : World σ) :
    (a >>= next).run.run w =
      match a.run.run w with
      | (.ok x, w') => (next x).run.run w'
      | (.error f, w') => (.error f, w') := by
  rw [ExceptT.run_bind, run_bind]
  cases a.run.run w with
  | mk result w' => cases result <;> rfl

theorem run_thenThrow (a : Try σ α) (f : Fault) (w : World σ) :
    ((a >>= fun _ => (throw f : Try σ β)).run.run w).2 = (a.run.run w).2 := by
  rw [run_tryThen]
  cases a.run.run w with
  | mk result w' => cases result <;> rfl

theorem run_deviceThen (r : RegistryId) (h : DeviceHandle) (next : Device → Try σ α)
    (w : World σ) :
    (Registry.device r h >>= next).run.run w =
      match (w.registry r).device? h with
      | some d => (next d).run.run w
      | none => (.error (.deviceNotFound h), w) := by
  rw [run_tryThen]
  unfold Registry.device
  rw [run_lookThen]
  cases (w.registry r).device? h <;> rfl

theorem run_onFailure (a : Try σ α) (react : Fault → Act σ Unit) (w : World σ) :
    (onFailure a react).run.run w =
      match a.run.run w with
      | (.ok x, w') => (.ok x, w')
      | (.error f, w') => (.error f, ((react f).run w').2) := by
  unfold onFailure
  rw [run_attemptThen]
  cases a.run.run w with
  | mk result w' => cases result <;> rfl

theorem run_recover (a : Try σ α) (react : Fault → Act σ α) (w : World σ) :
    (recover a react).run w =
      match a.run.run w with
      | (.ok x, w') => (x, w')
      | (.error f, w') => (react f).run w' := by
  unfold recover outcome
  rw [run_bind]
  generalize a.run.run w = r
  obtain ⟨result, w'⟩ := r
  cases result <;> rfl

theorem eq_ok_of_toOption {ε α : Type} {result : Except ε α} {a : α}
    (given : result.toOption = some a) : result = .ok a := by
  cases result with
  | error e => cases given
  | ok a' => exact congrArg Except.ok (Option.some.inj given)

/-! ## Keeping things -/

theorem run_keeping (env : Env σ) (k : Kept) (a : Act σ α) (w : World σ) :
    (keeping env k a).run w =
      ((a.run (w.reshare (· + 1) k)).1,
        ((release env k).run (a.run (w.reshare (· + 1) k)).2).2) := rfl

theorem run_keepingTry (env : Env σ) (k : Kept) (a : Try σ α) (w : World σ) :
    (keepingTry env k a).run.run w =
      ((a.run.run (w.reshare (· + 1) k)).1,
        ((release env k).run (a.run.run (w.reshare (· + 1) k)).2).2) := rfl

theorem run_ifKept (env : Env σ) (k : Kept) (otherwise : α) (a : Act σ α) (w : World σ) :
    (ifKept env k otherwise a).run w =
      if w.isKept k then (keeping env k a).run w else (otherwise, w) := by
  unfold ifKept
  simp only [run_bind, run_get]
  by_cases kept : w.isKept k
  · simp only [kept, if_true]
  · simp only [kept, Bool.false_eq_true, if_false, run_pure]

theorem run_release {env : Env σ} {k : Kept} {item : Item} {w : World σ} (hk : w.item? k = some item)
    (shared : item.sharers ≠ 0) : (release env k).run w = ((), w.reshare (· - 1) k) := by
  unfold release
  simp only [run_bind, run_get, hk]
  cases h : item.sharers with
  | zero => exact absurd h shared
  | succ n => rfl

/-! ## Records and marks -/

namespace World

theorem find?_empty {e : Entity} {α : Type} (i : Id e) : ({} : Table e α).find? i = none :=
  Std.TreeMap.getElem?_emptyc

variable (w : World σ)

theorem log_connections (s : Severity) (message : String) (fields : List (String × String)) :
    (w.log s message fields).connections = w.connections := by
  unfold log
  split <;> rfl

theorem log_history (s : Severity) (message : String) (fields : List (String × String)) :
    (w.log s message fields).history = w.history := by
  unfold log
  split <;> rfl

theorem log_registries (s : Severity) (message : String) (fields : List (String × String)) :
    (w.log s message fields).registries = w.registries := by
  unfold log
  split <;> rfl

theorem log_controllers (s : Severity) (message : String) (fields : List (String × String)) :
    (w.log s message fields).controllers = w.controllers := by
  unfold log
  split <;> rfl

theorem log_backends (s : Severity) (message : String) (fields : List (String × String)) :
    (w.log s message fields).backends = w.backends := by
  unfold log
  split <;> rfl

theorem log_proxies (s : Severity) (message : String) (fields : List (String × String)) :
    (w.log s message fields).proxies = w.proxies := by
  unfold log
  split <;> rfl

theorem log_discoveries (s : Severity) (message : String) (fields : List (String × String)) :
    (w.log s message fields).discoveries = w.discoveries := by
  unfold log
  split <;> rfl

theorem log_eq (s : Severity) (message : String) (fields : List (String × String)) :
    w.log s message fields = { w with journal := (w.log s message fields).journal } := by
  unfold log
  split <;> rfl

theorem log_journal (s : Severity) (message : String) (fields : List (String × String)) :
    ∃ journal, w.log s message fields = { w with journal } :=
  ⟨_, w.log_eq s message fields⟩

@[simp] theorem chronicle_mark (o : Occurrence) :
    (w.mark o).chronicle = w.chronicle ++ [⟨w.loop.clock, o⟩] := by
  simp [chronicle, mark]

theorem chronicle_of_suffix {w w' : World σ} (grown : w.history <:+ w'.history) :
    ∃ more, w'.chronicle = w.chronicle ++ more := by
  obtain ⟨more, grown⟩ := grown
  exact ⟨more.reverse, by simp [chronicle, ← grown]⟩

/-- Something happened at a place in the history. -/
def HappenedAt (w : World σ) (place : Nat) (o : Occurrence) : Prop :=
  (w.chronicle[place]?).map (·.what) = some o

instance (w : World σ) (place : Nat) (o : Occurrence) : Decidable (w.HappenedAt place o) :=
  inferInstanceAs (Decidable (_ = _))

variable {w} {place : Nat} {o : Occurrence}

theorem happenedAt_iff : w.HappenedAt place o ↔
    ∃ newer t older, w.history = newer ++ ⟨t, o⟩ :: older ∧ older.length = place := by
  constructor
  · intro happened
    obtain ⟨⟨t, what⟩, there, rfl⟩ := Option.map_eq_some_iff.mp happened
    obtain ⟨within, here⟩ := List.getElem?_eq_some_iff.mp there
    have parts := List.take_append_drop place w.chronicle
    rw [List.drop_eq_getElem_cons within, here] at parts
    refine ⟨(w.chronicle.drop (place + 1)).reverse, t, (w.chronicle.take place).reverse, ?_, ?_⟩
    · simpa [chronicle] using (congrArg List.reverse parts).symm
    · rw [List.length_reverse, List.length_take_of_le (Nat.le_of_lt within)]
  · rintro ⟨newer, t, older, parts, rfl⟩
    simp [HappenedAt, chronicle, parts]

theorem HappenedAt.later {w' : World σ} (happened : w.HappenedAt place o)
    (grown : w.history <:+ w'.history) : w'.HappenedAt place o := by
  obtain ⟨more, grown⟩ := grown
  obtain ⟨newer, t, older, parts, length⟩ := happenedAt_iff.mp happened
  exact happenedAt_iff.mpr ⟨more ++ newer, t, older, by rw [← grown, parts, List.append_assoc], length⟩

theorem HappenedAt.lt_length (happened : w.HappenedAt place o) : place < w.history.length := by
  obtain ⟨newer, t, older, parts, rfl⟩ := happenedAt_iff.mp happened
  simp only [parts, List.length_append, List.length_cons]
  omega

theorem happenedAt_mark (w : World σ) (o : Occurrence) :
    (w.mark o).HappenedAt w.history.length o :=
  happenedAt_iff.mpr ⟨[], w.loop.clock, w.history, rfl, rfl⟩

theorem happenedAt_mark_iff {o' : Occurrence} : (w.mark o').HappenedAt place o ↔
    w.HappenedAt place o ∨ place = w.history.length ∧ o = o' := by
  have length : w.chronicle.length = w.history.length := List.length_reverse
  rw [HappenedAt, HappenedAt, chronicle_mark, ← length]
  rcases Nat.lt_trichotomy place w.chronicle.length with within | rfl | beyond
  · rw [List.getElem?_append_left within]
    simp [Nat.ne_of_lt within]
  · rw [List.getElem?_concat_length, List.getElem?_eq_none (Nat.le_refl _)]
    simp [eq_comm]
  · rw [List.getElem?_eq_none (by simpa using Nat.succ_le_of_lt beyond), List.getElem?_eq_none (Nat.le_of_lt beyond)]
    simp [Nat.ne_of_gt beyond]

end World

end DroneControl
