import DroneControl.Proofs.Registry.Roll

/-!
# What a discovery source tracks

A source keeps the handle of each device that it added.  The registry may drop the device without the
source hearing of it, and hand the handle out again.  As long as the registry has announced nothing more
of the handle, though, the device that is under it is the one that the source added: entries come into a
table only with an announcement, and stay with their devices.
-/

set_option synthInstance.maxSize 2048

namespace DroneControl

variable {σ : Type} {r r' : RegistryId} {h h' : DeviceHandle} {w w' w'' : World σ} {env : Env σ}

/-! ## Entries and announcements -/

def Inherits (w w' : World σ) : Prop :=
  ∀ r h, w'.roll r h = w.roll r h → ∀ e, (w'.registry r).device? h = some e →
    ∃ d, (w.registry r).device? h = some d ∧ d.Alike e

/-- A device was announced at a place in the history, and it is the one that has the handle, unless the
registry has announced more of the handle since. -/
structure World.Lodged (w : World σ) (r : RegistryId) (h : DeviceHandle) (place : Nat) (d : Device) :
    Prop where
  told : w.HappenedAt place (.announced r h true)
  entry : announcements r h (w.chronicle.drop place) = [true] →
    ∀ e, (w.registry r).device? h = some e → d.Alike e

theorem roll_append {more : List Happening} (grown : w'.chronicle = w.chronicle ++ more) :
    w'.roll r h = w.roll r h ++ announcements r h more := by
  simp only [World.roll, grown, announcements, List.filterMap_append]

theorem roll_between (grown : w.history <:+ w'.history) (grown' : w'.history <:+ w''.history)
    (same : w''.roll r h = w.roll r h) : w'.roll r h = w.roll r h ∧ w''.roll r h = w'.roll r h := by
  obtain ⟨more, grown⟩ := World.chronicle_of_suffix grown
  obtain ⟨more', grown'⟩ := World.chronicle_of_suffix grown'
  have silent : announcements r h more ++ announcements r h more' = [] := by
    simpa [roll_append grown', roll_append grown] using same
  obtain ⟨early, late⟩ := List.append_eq_nil_iff.mp silent
  exact ⟨by rw [roll_append grown, early, List.append_nil],
    by rw [roll_append grown', late, List.append_nil]⟩

theorem announcements_of_told {place : Nat} {there : Bool}
    (told : w.HappenedAt place (.announced r h there)) : announcements r h (w.chronicle.drop place) =
      there :: announcements r h (w.chronicle.drop (place + 1)) := by
  obtain ⟨happening, at_place, what⟩ := Option.map_eq_some_iff.mp told
  obtain ⟨within, here⟩ := List.getElem?_eq_some_iff.mp at_place
  rw [List.drop_eq_getElem_cons within, here]
  simp [announcements, Occurrence.announcement?, what]

theorem World.Lodged.later {place : Nat} {d : Device} (lodged : w.Lodged r h place d)
    (grown : w.history <:+ w'.history) (inherits : Inherits w w') : w'.Lodged r h place d := by
  refine ⟨lodged.told.later grown, fun only e he => ?_⟩
  have within : place ≤ w.chronicle.length := by
    rw [chronicle, List.length_reverse]
    exact lodged.told.lt_length.le
  obtain ⟨more, grown⟩ := chronicle_of_suffix grown
  have split : announcements r h (w'.chronicle.drop place) =
      announcements r h (w.chronicle.drop place) ++ announcements r h more := by
    rw [grown, List.drop_append_of_le_length within, announcements, List.filterMap_append]
    rfl
  have since := announcements_of_told lodged.told
  rw [split, since, List.cons_append, List.cons.injEq, List.append_eq_nil_iff] at only
  obtain ⟨-, nothing, silent⟩ := only
  obtain ⟨d', hd', alike⟩ := inherits r h (by rw [roll_append grown, silent, List.append_nil]) e he
  exact (lodged.entry (by rw [since, nothing]) d' hd').trans alike

/-! ## Sources -/

def World.Tracks (w : World σ) (x : Discovery) (key : DeviceKey) (h : DeviceHandle) : Prop :=
  ∃ place d, (key, h, place) ∈ x.added ∧ w.Lodged x.registry h place d ∧
    (d.info.name, d.info.deviceType) = key ∧ d.backend = x.backend

def World.Tracked (w : World σ) : Prop :=
  ∀ d x, w.discoveries.find? d = some x → ∀ key h, (key, h) ∈ x.devices → w.Tracks x key h

structure Discovery.Stays (x x' : Discovery) : Prop where
  registry : x'.registry = x.registry
  backend : x'.backend = x.backend
  added : x.added ⊆ x'.added

structure Discovery.Sheds (x x' : Discovery) : Prop extends x.Stays x' where
  devices : x'.devices ⊆ x.devices

theorem Discovery.Sheds.refl (x : Discovery) : x.Sheds x := ⟨⟨rfl, rfl, fun _ => id⟩, fun _ => id⟩

/-- The history grows, entries come from entries, and sources go on tracking what they added. -/
structure Traces (w w' : World σ) : Prop where
  grown : w.history <:+ w'.history
  inherits : Inherits w w'
  next : w.discoveries.next ≤ w'.discoveries.next
  sources : ∀ d x', w'.discoveries.find? d = some x' → d.number < w.discoveries.next →
    ∃ x, w.discoveries.find? d = some x ∧ x'.registry = x.registry ∧ x'.backend = x.backend
  tracked : w.Tracked → w'.Tracked

theorem World.Tracks.later {x x' : Discovery} {key : DeviceKey} (tracks : w.Tracks x key h)
    (grown : w.history <:+ w'.history) (inherits : Inherits w w') (stays : x.Stays x') :
    w'.Tracks x' key h := by
  obtain ⟨place, d, added, lodged, named, backend⟩ := tracks
  refine ⟨place, d, stays.added added, ?_, named, backend.trans stays.backend.symm⟩
  rw [stays.registry]
  exact lodged.later grown inherits

theorem Inherits.of_entries
    (entries : ∀ r h e, (w'.registry r).device? h = some e →
      ∃ d, (w.registry r).device? h = some d ∧ d.Alike e) : Inherits w w' :=
  fun r h _ e he => entries r h e he

theorem Inherits.of_same (registries : w'.registries = w.registries) : Inherits w w' :=
  .of_entries fun r h e he =>
    ⟨e, by simpa only [World.registry, registries] using he, .refl e⟩

theorem Inherits.trans (first : Inherits w w') (second : Inherits w' w'')
    (grown : w.history <:+ w'.history) (grown' : w'.history <:+ w''.history) : Inherits w w'' := by
  intro r h same f hf
  obtain ⟨early, late⟩ := roll_between grown grown' same
  obtain ⟨e, he, alike'⟩ := second r h late f hf
  obtain ⟨d, hd, alike⟩ := first r h early e he
  exact ⟨d, hd, alike.trans alike'⟩

namespace Traces

theorem of_rows (grown : w.history <:+ w'.history) (inherits : Inherits w w')
    (next : w.discoveries.next ≤ w'.discoveries.next)
    (rows : ∀ d x', w'.discoveries.find? d = some x' →
      (∃ x, w.discoveries.find? d = some x ∧ x.Sheds x') ∨
        w.discoveries.next ≤ d.number ∧ x'.devices = []) : Traces w w' where
  grown := grown
  inherits := inherits
  next := next
  sources d x' found known := by
    rcases rows d x' found with ⟨x, here, sheds⟩ | ⟨new, -⟩
    · exact ⟨x, here, sheds.registry, sheds.backend⟩
    · omega
  tracked tracked d x' found key h among := by
    rcases rows d x' found with ⟨x, here, sheds⟩ | ⟨-, empty⟩
    · exact (tracked d x here key h (sheds.devices among)).later grown inherits sheds.toStays
    · simp [empty] at among

theorem of_same (discoveries : w'.discoveries = w.discoveries) (grown : w.history <:+ w'.history)
    (inherits : Inherits w w') : Traces w w' :=
  of_rows grown inherits (discoveries ▸ le_rfl) fun _ x found =>
    .inl ⟨x, discoveries ▸ found, .refl x⟩

theorem aside (discoveries : w'.discoveries = w.discoveries) (registries : w'.registries = w.registries)
    (history : w'.history = w.history) : Traces w w' :=
  of_same discoveries (history ▸ List.suffix_rfl) (.of_same registries)

theorem refl (w : World σ) : Traces w w := aside rfl rfl rfl

theorem trans (first : Traces w w') (second : Traces w' w'') : Traces w w'' where
  grown := first.grown.trans second.grown
  inherits := first.inherits.trans second.inherits first.grown second.grown
  next := first.next.trans second.next
  sources d x'' found known := by
    obtain ⟨x', there, registry', backend'⟩ := second.sources d x'' found (by have := first.next; omega)
    obtain ⟨x, here, registry, backend⟩ := first.sources d x' there known
    exact ⟨x, here, registry'.trans registry, backend'.trans backend⟩
  tracked := second.tracked ∘ first.tracked

theorem mark (w : World σ) (o : Occurrence) : Traces w (w.mark o) :=
  of_same rfl (List.suffix_cons _ _) (.of_same rfl)

theorem discarded (w : World σ) (c : ConnectionId) : Traces w (Connection.discarded w c) := by
  unfold Connection.discarded
  split
  · exact of_same rfl (List.suffix_cons _ _) (.of_same rfl)
  · exact .refl w

theorem update (w : World σ) {f : Registry → Registry}
    (same : ∀ x, w.registries.find? r = some x → ∀ h e, (f x).device? h = some e →
      ∃ d, x.device? h = some d ∧ d.Alike e) : Traces w (w.updateRegistry r f) := by
  refine of_same rfl List.suffix_rfl (.of_entries fun r' h e he => ?_)
  cases known : w.registries.find? r with
  | none =>
    have idle : w.updateRegistry r f = w := by
      simp only [World.updateRegistry, Table.update, known]
    exact ⟨e, idle ▸ he, .refl e⟩
  | some x =>
    rw [World.registry_updateRegistry known] at he
    split at he
    · next here =>
      rw [← here, World.registry_of_find? known]
      exact same x known h e he
    · exact ⟨e, he, .refl e⟩

theorem erase (w : World σ) (k : Kept) : Traces w (w.erase k) := by
  cases k with
  | registry r =>
    refine of_same rfl List.suffix_rfl (.of_entries fun r' h e he => ?_)
    simp only [World.erase, World.registry, Table.get, Table.find?_erase] at he ⊢
    split at he
    · simp [default, Registry.device?] at he
    · exact ⟨e, he, .refl e⟩
  | discovery d =>
    refine of_rows List.suffix_rfl (.of_same rfl) le_rfl fun d' x found => ?_
    simp only [World.erase, Table.find?_erase] at found
    split at found
    · cases found
    · exact .inl ⟨x, found, .refl x⟩
  | _ => exact aside rfl rfl rfl

theorem shed (w : World σ) {d : DiscoveryId} {f : Discovery → Discovery}
    (sheds : ∀ x : Discovery, x.Sheds (f x)) : Traces w (w.updateDiscovery d f) := by
  refine of_rows List.suffix_rfl (.of_same rfl) (Table.next_update _ _ _).ge fun d' x' found => ?_
  simp only [World.updateDiscovery, Table.find?_update] at found
  split at found
  · next here =>
    obtain ⟨x, known, rfl⟩ := Option.map_eq_some_iff.mp found
    exact .inl ⟨x, here ▸ known, sheds x⟩
  · exact .inl ⟨x', found, .refl x'⟩

theorem share (w : World σ) (f : Nat → Nat) (k : Kept) : Traces w (w.reshare f k) := by
  cases k with
  | registry r => exact update w fun x _ h e he => ⟨e, he, .refl e⟩
  | discovery d => exact shed w fun x => ⟨⟨rfl, rfl, fun _ => id⟩, fun _ => id⟩
  | _ => exact aside rfl rfl rfl

/-! ## What is not about devices and sources -/

instance heeds : Heeds (σ := σ) Traces ⟨[.discoveries, .registries, .history], []⟩ where
  trans := .trans
  aside same :=
    .aside (same .discoveries (by decide)) (same .registries (by decide)) (same .history (by decide))
  mark w o _ := .mark w o

instance footing : Footing (Keeps (σ := σ) Traces) :=
  Heeds.footing_of_registry fun w _ _ same => .update w fun x _ h e he =>
    ⟨e, by simpa only [Registry.device?, (same x).devices] using he, .refl e⟩

instance base : Base (Keeps (σ := σ) Traces) := Heeds.base_of_kept share erase

instance overlooksProxies : OverlooksProxies (Keeps (σ := σ) Traces) := Heeds.overlooksProxies

instance overlooksBackends : OverlooksBackends (Keeps (σ := σ) Traces) := Heeds.overlooksBackends

instance overlooksTimers : OverlooksTimers (Keeps (σ := σ) Traces) := Heeds.overlooksTimers

instance overlooks (i : InterfaceId) : Overlooks (Keeps (σ := σ) Traces) i := Heeds.overlooks i

instance interfaceLives : InterfaceLives (Keeps (σ := σ) Traces) := Heeds.interfaceLives

instance overlooksLoop : OverlooksLoop (Keeps (σ := σ) Traces) := Heeds.overlooksLoop

instance overlooksConnection (c : ConnectionId) : OverlooksConnection (Keeps (σ := σ) Traces) c :=
  Heeds.overlooksConnection c

instance connectionLives : ConnectionLives (Keeps (σ := σ) Traces) := Heeds.connectionLives

instance connectionNotes : ConnectionNotes (Keeps (σ := σ) Traces) := Connection.notes_of_overlooks

instance holds_mark (o : Occurrence) : Holds (Keeps (σ := σ) Traces) (DroneControl.mark o) :=
  ⟨fun w => .mark w o⟩

instance holds_noteEnd (r : RegistryId) (token : Option Token) :
    Holds (Keeps (σ := σ) Traces) (Registry.noteEnd r token) :=
  Registry.noteEnd_of_mark r token fun w => .mark w _

instance rewrites : Rewrites (σ := σ) Device.Alike Traces where
  trans := .trans
  rewrite {w r h d} hd e alike := by
    refine .update w fun x known h' e' he' => ?_
    rw [World.registry_of_find? known] at hd
    rw [Registry.device?_setDevice] at he'
    split at he'
    · next same =>
      cases he'
      exact ⟨d, same ▸ hd, alike⟩
    · exact ⟨e', he', .refl e'⟩
  mark w o _ := .mark w o

end Traces

/-! ## Registries -/

namespace Registry

variable [Upheld (Keeps Traces) env]

instance finishRemoval_traces (r : RegistryId) (h : DeviceHandle) :
    Holds (Keeps Traces) (finishRemoval env r h) := by
  have erased : Holds (Keeps (σ := σ) Traces) (modify (·.updateRegistry r (·.eraseDevice h))) := by
    refine ⟨fun w => .update w fun x _ h' e he => ?_⟩
    rw [device?_eraseDevice] at he
    split at he
    · cases he
    · exact ⟨e, he, .refl e⟩
  unfold finishRemoval
  refine Holds.bind (h := fun w => ?_)
  dsimp only
  split <;> infer_instance

omit [Upheld (Keeps Traces) env] in
theorem traces_of_added {x : Registry} {d : Device} (known : w.registries.find? r = some (w.registry r))
    (devices : ∀ h', x.device? h' = if h = h' then some d else (w.registry r).device? h')
    (registries : w'.registries = w.registries.update r fun _ => x)
    (discoveries : w'.discoveries = w.discoveries) {t : Nat}
    (history : w'.history = ⟨t, .announced r h true⟩ :: w.history) :
    Traces w w' ∧ w'.Lodged r h w.history.length d := by
  have chronicle : w'.chronicle = w.chronicle ++ [⟨t, .announced r h true⟩] := by
    simp [World.chronicle, history]
  have length : w.chronicle.length = w.history.length := List.length_reverse
  have table : ∀ r', w'.registry r' = if r = r' then x else w.registry r' := by
    intro r'
    rw [← World.registry_updateRegistry known fun _ => x]
    simp only [World.registry, registries, World.updateRegistry]
  refine ⟨.of_same discoveries (history ▸ List.suffix_cons _ _) fun r' h' silent e he => ?_, ?_, ?_⟩
  · rw [table] at he
    split at he
    · next here =>
      subst here
      rw [devices] at he
      split at he
      · next same =>
        subst same
        rw [roll_append chronicle] at silent
        simp [announcements, Occurrence.announcement?] at silent
      · exact ⟨e, he, .refl e⟩
    · exact ⟨e, he, .refl e⟩
  · rw [World.HappenedAt, chronicle, ← length, List.getElem?_concat_length]
    rfl
  · intro _ e he
    rw [table, if_pos rfl, devices, if_pos rfl] at he
    exact Option.some.inj he ▸ .refl d

variable (env) in
theorem run_addDevice_traces (r : RegistryId) (info : DeviceInfo) (b : BackendId) (w : World σ) :
    Traces w ((addDevice env r info b).run.run w).2 ∧
      ∀ h, ((addDevice env r info b).run.run w).1 = .ok h →
        ((addDevice env r info b).run.run w).2.Lodged r h w.history.length { info, backend := b } := by
  unfold addDevice
  rw [run_lookThen]
  dsimp only
  split
  · exact ⟨.refl w, by rintro _ ⟨⟩⟩
  split
  · exact ⟨.refl w, by rintro _ ⟨⟩⟩
  next registered =>
  rw [Decidable.not_not] at registered
  cases taken : (w.registry r).allocate with
  | none => exact ⟨.refl w, by rintro _ ⟨⟩⟩
  | some allocated =>
    obtain ⟨h, x⟩ := allocated
    obtain ⟨unused, cursor, rfl⟩ := allocate_eq_some taken
    dsimp only
    rw [run_actThen, run_modify, run_actThen, run_log, run_actThen, run_mark, run_actThen, run_tryPure]
    generalize announced : World.mark _ _ = w₁
    obtain ⟨traces, lodged⟩ : Traces w w₁ ∧
        w₁.Lodged r h w.history.length { info, backend := b } :=
      traces_of_added (known_of_backend registered)
        (device?_setDevice { w.registry r with cursor } h · { info, backend := b })
        (by rw [← announced]; exact World.log_registries _ _ _ _)
        (by rw [← announced]; exact World.log_discoveries _ _ _ _)
        (by rw [← announced, World.mark, World.log_history]; rfl)
    have told : Traces w₁ ((env.tell (w.registry r).listener (.deviceAdded h info)).run w₁).2 :=
      Served.tell (Q := Keeps Traces) _ _ w₁
    refine ⟨traces.trans told, ?_⟩
    rintro _ ⟨⟩
    exact lodged.later told.grown told.inherits

theorem destroy_traces (r : RegistryId) : Holds (Keeps Traces) (destroy env r).run := by
  have emptied : Holds (Keeps (σ := σ) Traces) (modify (·.updateRegistry r fun x =>
      { x with closed := true, discoveries := [], token := none, backends := [], devices := {} })) :=
    ⟨fun w => .update w fun x _ h e he => by simp [device?] at he⟩
  unfold destroy
  refine Holds.tryBind (h := fun w => ?_)
  dsimp only
  cases busyDevice? (w.registry r) <;> infer_instance

omit [Upheld (Keeps Traces) env] in
theorem create_traces (options : RegistryOptions) (l : ListenerId) (token : Option Token) :
    Holds (Keeps (σ := σ) Traces) (create options l token) := by
  refine create_of_row (fun _ _ w => .mark w _) (fun x new w => ?_) options l token
  refine .of_same rfl List.suffix_rfl (.of_entries fun r h e he => ?_)
  simp only [run_modifyGet, World.registry, Table.get, Table.find?_add] at he ⊢
  split at he
  · simp [device?, new.1] at he
  · exact ⟨e, he, .refl e⟩

end Registry

namespace Discovery

/-! ## Sources -/

theorem run_register (r : RegistryId) (d : DiscoveryId) (w : World σ) :
    let w' := ((Registry.registerDiscovery r d).run.run w).2
    Inherits w w' ∧ w'.history = w.history ∧ w'.discoveries = w.discoveries := by
  unfold Registry.registerDiscovery
  rw [run_lookThen]
  dsimp only
  split
  · exact ⟨.of_same rfl, rfl, rfl⟩
  split
  · exact ⟨.of_same rfl, rfl, rfl⟩
  have registered : Traces w (w.updateRegistry r fun x =>
      { x with discoveries := x.discoveries ++ [d] }) := .update w fun x _ h e he => ⟨e, he, .refl e⟩
  exact ⟨registered.inherits, rfl, rfl⟩

theorem run_create (r : RegistryId) (name : String) (b : BackendId) (w : World σ) :
    let w' := ((create r name b).run.run w).2
    Inherits w w' ∧ w'.history = w.history ∧ w.discoveries.next ≤ w'.discoveries.next ∧
      ∀ d x, w'.discoveries.find? d = some x →
        w.discoveries.find? d = some x ∨
          w.discoveries.next ≤ d.number ∧ x.devices = [] ∧ x.added = [] := by
  unfold create
  rw [run_lookThen]
  dsimp only
  cases Registry.backendKind? w r b with
  | none => exact ⟨.of_same rfl, rfl, Nat.le_refl _, fun _ _ => .inl⟩
  | some kind =>
    dsimp only
    rw [run_actThen, run_modifyGet]
    generalize reserves : ({ w with discoveries := w.discoveries.reserve.2 } : World σ) = w₁
    have reserved : Inherits w w₁ := by
      rw [← reserves]
      exact .of_same rfl
    have history : w₁.history = w.history := by rw [← reserves]
    obtain ⟨inherits, noted, same⟩ := run_register r w.discoveries.reserve.1 w₁
    rw [run_tryThen]
    dsimp only
    generalize (Registry.registerDiscovery r w.discoveries.reserve.1).run.run w₁ = outcome
      at inherits noted same ⊢
    obtain ⟨result, w₂⟩ := outcome
    have before : Inherits w w₂ :=
      reserved.trans inherits (history ▸ List.suffix_rfl) (noted ▸ List.suffix_rfl)
    have rows : w₂.discoveries = w.discoveries.reserve.2 := by rw [same, ← reserves]
    cases result with
    | error f =>
      dsimp only
      rw [rows]
      exact ⟨before, noted.trans history, Nat.le_succ _, fun _ _ => .inl⟩
    | ok _ =>
      dsimp only
      rw [run_actThen, run_log, run_actThen, run_modify, run_tryPure]
      generalize logged : World.log _ _ _ _ = w₃
      have recorded : w₃.history = w₂.history := by rw [← logged]; exact World.log_history _ _ _ _
      have registries : w₃.registries = w₂.registries := by
        rw [← logged]
        exact World.log_registries _ _ _ _
      have sources : w₃.discoveries = w.discoveries.reserve.2 := by
        rw [← logged, World.log_discoveries, rows]
      have told : w₃.history = w.history := recorded.trans (noted.trans history)
      refine ⟨?_, told, ?_, fun d x found => ?_⟩
      · refine before.trans (.of_same ?_) (noted.trans history ▸ List.suffix_rfl) ?_
        · exact registries
        · exact recorded ▸ List.suffix_rfl
      · dsimp only
        rw [sources]
        exact le_trans (Nat.le_succ _) (Nat.le_max_left _ _)
      · dsimp only at found
        rw [sources, Table.find?_set] at found
        split at found
        · next new =>
          cases found
          exact .inr ⟨new ▸ le_rfl, rfl, rfl⟩
        · exact .inl found

theorem create_traces (r : RegistryId) (name : String) (b : BackendId) :
    Holds (Keeps (σ := σ) Traces) (create r name b).run := by
  refine ⟨fun w => ?_⟩
  obtain ⟨inherits, history, next, rows⟩ := run_create r name b w
  refine .of_rows (history ▸ List.suffix_rfl) inherits next fun d x found => ?_
  rcases rows d x found with here | ⟨new, empty, -⟩
  · exact .inl ⟨x, here, .refl x⟩
  · exact .inr ⟨new, empty⟩

theorem remember_traces {d : DiscoveryId} {x : Discovery} {key : DeviceKey} {place : Nat} {e : Device}
    (known : w.discoveries.find? d = some x) (lodged : w.Lodged x.registry h place e)
    (named : (e.info.name, e.info.deviceType) = key) (backend : e.backend = x.backend) :
    Traces w (w.updateDiscovery d (·.remember key h place)) := by
  have row : ∀ d' x', (w.updateDiscovery d (·.remember key h place)).discoveries.find? d' = some x' →
      if d = d' then x' = x.remember key h place else w.discoveries.find? d' = some x' := by
    intro d' x' found
    simp only [World.updateDiscovery, Table.find?_update, known] at found
    split at found <;> simp_all
  have stays : x.Stays (x.remember key h place) := ⟨rfl, rfl, List.subset_append_left _ _⟩
  refine ⟨List.suffix_rfl, .of_same rfl, (Table.next_update _ _ _).ge, ?_, ?_⟩
  · intro d' x' found _
    have := row d' x' found
    split at this
    · next same => exact ⟨x, same ▸ known, this ▸ rfl, this ▸ rfl⟩
    · exact ⟨x', this, rfl, rfl⟩
  · intro tracked d' x' found key' h' among
    have := row d' x' found
    split at this
    · next same =>
      subst this
      rcases List.mem_append.mp among with before | now
      · exact (tracked d x known key' h' (List.mem_filter.mp before).1).later List.suffix_rfl
          (.of_same rfl) stays
      · obtain ⟨rfl, rfl⟩ := Prod.mk.inj (List.mem_singleton.mp now)
        refine ⟨place, e, List.mem_append_right _ List.mem_cons_self, ?_, named, backend⟩
        exact lodged.later List.suffix_rfl (.of_same rfl)
    · exact (tracked d' x' this key' h' among).later List.suffix_rfl (.of_same rfl)
        (Sheds.refl x').toStays

def adding (env : Env σ) (d : DiscoveryId) (x : Discovery) (s : Sighting) (place : Nat) :
    Try σ DeviceHandle := do
  let h ← onFailure (Registry.addDevice env x.registry (s.info x.backendKind) x.backend) fun f =>
    log .warn "Failed to add discovered device" [("discovery", d.label), ("error", f.message)]
  act (modify (·.updateDiscovery d (·.remember (s.name, s.deviceType) h place)))
  act (mark (.adopted d h place))
  return h

theorem known_of_running {d : DiscoveryId} (running : (w.discovery d).running = true) :
    w.discoveries.find? d = some (w.discovery d) := by
  unfold World.discovery Table.get at running ⊢
  cases row : w.discoveries.find? d with
  | none =>
    rw [row] at running
    cases running
  | some x => rfl

theorem withRegistry_of_registry {α : Type} {R : World σ → World σ → Prop} [Base (Keeps R)]
    [Upheld (Keeps R) env] (trans : ∀ {w₁ w₂ w₃ : World σ}, R w₁ w₂ → R w₂ w₃ → R w₁ w₃)
    (d : DiscoveryId) {action : RegistryId → Try σ α}
    (acts : ∀ w, R w ((action (w.discovery d).registry).run.run w).2) :
    Holds (Keeps R) (withRegistry env d action).run := by
  refine ⟨fun w => ?_⟩
  unfold withRegistry
  rw [run_lookThen]
  dsimp only
  split
  swap
  · exact Closed.pure (Q := Keeps R) () w
  have retained : Holds (Keeps R) (retain (.registry (w.discovery d).registry)) := inferInstance
  have released : Holds (Keeps R) (release env (.registry (w.discovery d).registry)) := inferInstance
  have acting := acts (w.reshare (· + 1) (.registry (w.discovery d).registry))
  rw [run_keepingTry]
  exact trans (retained.holds w) (trans acting (released.holds _))

theorem addDevice_of_adding {R : World σ → World σ → Prop} [Base (Keeps R)] [Upheld (Keeps R) env]
    (trans : ∀ {w₁ w₂ w₃ : World σ}, R w₁ w₂ → R w₂ w₃ → R w₁ w₃) (d : DiscoveryId) (s : Sighting)
    (adds : ∀ (w : World σ) x, w.discoveries.find? d = some x → x.running = true →
      x.handle? (s.name, s.deviceType) = none → R w ((adding env d x s w.history.length).run.run w).2) :
    Holds (Keeps R) (addDevice env d s).run := by
  have idle : ∀ w, R w w := Closed.pure (Q := Keeps R) ()
  refine withRegistry_of_registry (R := R) trans d fun w => ?_
  rw [run_lookThen]
  dsimp only
  split
  · exact idle w
  next running =>
  rw [Bool.not_eq_true, Bool.not_eq_false'] at running
  split
  · exact idle w
  cases untracked : (w.discovery d).handle? (s.name, s.deviceType) with
  | some h =>
    have logged : Holds (Keeps R) (log .debug "Device already known"
        [("discovery", d.label), ("name", s.name), ("handle", h.label)]) := inferInstance
    exact logged.holds w
  | none => exact adds w _ (known_of_running running) running untracked

variable [Upheld (Keeps Traces) env]

theorem adding_traces {d : DiscoveryId} {x : Discovery} (known : w.discoveries.find? d = some x)
    (s : Sighting) : Traces w ((adding env d x s w.history.length).run.run w).2 := by
  obtain ⟨traces, lodged⟩ :=
    Registry.run_addDevice_traces env x.registry (s.info x.backendKind) x.backend w
  unfold adding
  rw [run_tryThen, run_onFailure]
  generalize (Registry.addDevice env x.registry (s.info x.backendKind) x.backend).run.run w =
    outcome at traces lodged ⊢
  obtain ⟨result, w₁⟩ := outcome
  cases result with
  | error f =>
    have logged : Holds (Keeps (σ := σ) Traces) (log .warn "Failed to add discovered device"
      [("discovery", d.label), ("error", f.message)]) := inferInstance
    exact traces.trans (logged.holds w₁)
  | ok h =>
    dsimp only
    rw [run_actThen, run_modify, run_actThen, run_mark, run_tryPure]
    refine traces.trans (.trans ?_ (.mark _ _))
    cases still : w₁.discoveries.find? d with
    | none =>
      have idle : w₁.updateDiscovery d (·.remember (s.name, s.deviceType) h w.history.length) = w₁ := by
        simp only [World.updateDiscovery, Table.update, still]
      rw [idle]
      exact .refl w₁
    | some x₁ =>
      obtain ⟨x', here, registry, backend⟩ := traces.sources d x₁ still (Table.lt_next known)
      obtain rfl := Option.some.inj (known.symm.trans here)
      exact remember_traces still (registry ▸ lodged h rfl) rfl backend.symm

omit [Upheld (Keeps Traces) env] in
theorem holds_shed (d : DiscoveryId) {f : Discovery → Discovery}
    (sheds : ∀ x : Discovery, x.Sheds (f x)) :
    Holds (Keeps (σ := σ) Traces) (modify (·.updateDiscovery d f)) :=
  ⟨fun w => .shed w sheds⟩

theorem calls_trace [RegistryCalls (Keeps Traces) env] : DiscoveryCalls (Keeps Traces) env where
  removeAll _ _ _ := inferInstance
  stopDiscovery d := by
    have emptied : Holds (Keeps (σ := σ) Traces) (modify (·.updateDiscovery d fun x =>
        { x with running := false, devices := [] })) :=
      holds_shed d fun x => ⟨⟨rfl, rfl, fun _ => id⟩, List.nil_subset _⟩
    unfold stop
    dsimp only
    infer_instance
  discover d s := addDevice_of_adding .trans d s fun _ _ known _ _ => adding_traces known s
  lose d name t := by
    have forgotten : Holds (Keeps (σ := σ) Traces)
        (modify (·.updateDiscovery d (·.forget (name, t)))) :=
      holds_shed d fun x => ⟨⟨rfl, rfl, fun _ => id⟩, List.filter_sublist.subset⟩
    refine withRegistry_holds d _ fun r => ?_
    refine Holds.tryBind (h := fun w => ?_)
    cases (w.discovery d).handle? (name, t) with
    | none => infer_instance
    | some handle =>
      refine Holds.tryBind (h := fun result => ?_)
      cases result <;> infer_instance

end Discovery

/-! ## Runs -/

namespace Traces

instance discoveryLives : DiscoveryLives (Keeps (σ := σ) Traces) where
  createDiscovery := Discovery.create_traces
  setTypes d types := Discovery.holds_shed d fun x => ⟨⟨rfl, rfl, fun _ => id⟩, fun _ => id⟩
  startDiscovery d := by
    have started : Holds (Keeps (σ := σ) Traces) (modify (·.updateDiscovery d fun x =>
        { x with running := true })) :=
      Discovery.holds_shed d fun x => ⟨⟨rfl, rfl, fun _ => id⟩, fun _ => id⟩
    unfold Discovery.start
    infer_instance

instance registryLives : RegistryLives (Keeps (σ := σ) Traces) where
  createRegistry := Registry.create_traces
  createDeviceInterface _ _ _ := inferInstance
  createController r h l token := by
    have added : ∀ x, Holds (Keeps (σ := σ) Traces) (modifyGet fun w =>
        let (k, controllers) := w.controllers.add x
        (k, { w with controllers })) := fun _ => ⟨fun _ => .aside rfl rfl rfl⟩
    unfold Controller.create
    infer_instance

instance alone : Alone (Keeps (σ := σ) Traces) where

theorem together (_ : Upheld (Keeps Traces) env) : Together (Keeps Traces) env := by
  have : EntryCalls (Keeps Traces) env := Entry.calls_of_rewrites
  have : ConnectionCalls (Keeps Traces) env := Connection.calls_of_tells
  have : GivesUp (Keeps Traces) env := ⟨fun _ => Connection.giveUp_overlooked⟩
  have : RegistryCalls (Keeps Traces) env :=
    ⟨fun r info b => ⟨fun w => (Registry.run_addDevice_traces env r info b w).1⟩,
      fun r h => Registry.removeDevice_holds r h, fun k => Registry.connect_holds k, Registry.destroy_traces,
      fun b h info agent l => ConnectionStarts.start b h info agent (.listener l)⟩
  have : DiscoveryCalls (Keeps Traces) env := Discovery.calls_trace
  have : InterfaceCalls (Keeps Traces) env := Interface.calls_of_steps
  have : InterfaceRetries (Keeps Traces) env := Interface.retries_of_steps
  have : LoopCalls (Keeps Traces) env := Loop.calls_of_steps
  have : CommandCalls (Keeps Traces) env := Heeds.commandCalls
  exact {}

end Traces

theorem World.tracked_empty (host : σ) (verbosity : Option Severity) :
    ({ host, verbosity } : World σ).Tracked := by
  intro d x found
  cases (World.find?_empty d).symm.trans found

theorem eq_singleton_of_turns {l : List Bool} (turns : l.IsChain (· ≠ ·)) (first : l.head? = some true)
    (never : false ∉ l) : l = [true] := by
  cases l with
  | nil => cases first
  | cons b rest =>
    obtain rfl := Option.some.inj first
    cases rest with
    | nil => rfl
    | cons b' rest =>
      have next := (List.isChain_cons_cons.mp turns).1
      cases b' <;> simp_all

theorem World.Agrees.once {place : Nat} (agrees : w.Agrees r h)
    (told : w.HappenedAt place (.announced r h true))
    (never : false ∉ announcements r h (w.chronicle.drop place)) :
    announcements r h (w.chronicle.drop place) = [true] ∧ (w.roll r h).getLast? = some true := by
  have parts : w.roll r h = announcements r h (w.chronicle.take place) ++
      announcements r h (w.chronicle.drop place) := by
    rw [announcements, announcements, ← List.filterMap_append, List.take_append_drop]
    rfl
  have first : (announcements r h (w.chronicle.drop place)).head? = some true := by
    rw [announcements_of_told told]
    rfl
  have turns := agrees.alternates.turns
  rw [parts] at turns
  have once := eq_singleton_of_turns (List.isChain_append.mp turns).2.1 first never
  exact ⟨once, by rw [parts, once, List.getLast?_concat]⟩

/-- Between calls a source tracks no handles but those that it got for devices it added, each from an
announcement at a place in the history.  As long as the registry is not destroyed, and has not announced
since that the device is gone, the handle is that of a device with the name and type, on the backend of
the source. -/
theorem Reached.source_tracks (reached : Reached w) {d : DiscoveryId} {x : Discovery}
    (known : w.discoveries.find? d = some x) {key : DeviceKey} (tracked : (key, h) ∈ x.devices) :
    ∃ place, (key, h, place) ∈ x.added ∧
      (w.chronicle[place]?).map (·.what) = some (.announced x.registry h true) ∧
      (false ∉ announcements x.registry h (w.chronicle.drop place) →
        ∀ y, w.registries.find? x.registry = some y → y.closed = false →
          ∃ e, y.device? h = some e ∧ e.info.name = key.1 ∧ e.info.deviceType = key.2 ∧
            e.backend = x.backend) := by
  obtain ⟨host, verbosity, traces⟩ := reached.related fun _ u _ => Traces.together u
  obtain ⟨host', verbosity', tallies⟩ :=
    reached.related (R := Tallies x.registry h) fun _ _ quiet => Attends.together quiet
  have agrees := tallies (World.agrees_empty host' verbosity' _ _)
  obtain ⟨place, dev, added, lodged, named, backend⟩ :=
    traces.tracked (World.tracked_empty host verbosity) d x known key h tracked
  refine ⟨place, added, lodged.told, fun never y here serving => ?_⟩
  obtain ⟨once, last⟩ := agrees.once lodged.told never
  obtain ⟨e, he⟩ := Option.isSome_iff_exists.mp ((agrees.table y here serving).mpr last)
  have alike := lodged.entry once e (by rw [World.registry_of_find? here, he])
  refine ⟨e, he, ?_, ?_, alike.backend.trans backend⟩
  · rw [alike.name, ← named]
  · rw [alike.deviceType, ← named]

def sightings : Act Unit (Except Fault Unit) := do
  let r ← Registry.create {} ⟨1⟩ none
  let _ ← (Backend.createNet silentHost r ⟨1⟩ 0 none).run
  let _ ← (Discovery.create r "scan" ⟨1⟩).run
  Discovery.start ⟨1⟩
  let _ ← (Discovery.addDevice silentHost ⟨1⟩ ⟨"A", .anafi4k, "", 0, ""⟩).run
  let _ ← (Discovery.addDevice silentHost ⟨1⟩ ⟨"B", .anafi4k, "", 0, ""⟩).run
  (Registry.removeDevice silentHost r ⟨2⟩).run

theorem sightings_reached : Reached (sightings.run { host := () }).2 := by
  refine ⟨silentHost, (), none, _, sightings, silentHost_hosted, ?_, rfl⟩
  refine .bind (.basic (.inr (.createRegistry _ _ _))) fun r => ?_
  refine .bind (.basic (.inr (.createNet _ _ _ _))) fun _ => ?_
  refine .bind (.basic (.inr (.createDiscovery _ _ _))) fun _ => ?_
  refine .bind (.basic (.inr (.startDiscovery _))) fun _ => ?_
  refine .bind (.basic (.inr (.discover _ _))) fun _ => ?_
  refine .bind (.basic (.inr (.discover _ _))) fun _ => ?_
  exact .basic (.inr (.removeDevice _ _))

theorem sightings_source_tracks :
    ∃ x y, (sightings.run { host := () }).2.discoveries.find? ⟨1⟩ = some x ∧
      (sightings.run { host := () }).2.registries.find? ⟨1⟩ = some y ∧ x.registry = ⟨1⟩ ∧
      x.devices = [(("A", .anafi4k), ⟨1⟩), (("B", .anafi4k), ⟨2⟩)] ∧ y.device? ⟨2⟩ = none ∧
      ∃ e, y.device? ⟨1⟩ = some e ∧ e.info.name = "A" ∧ e.info.deviceType = .anafi4k ∧
        e.backend = x.backend := by
  have source : ((sightings.run { host := () }).2.discoveries.find? ⟨1⟩).map
      (fun x => (x.registry, x.devices, x.added)) =
      some (⟨1⟩, [(("A", .anafi4k), ⟨1⟩), (("B", .anafi4k), ⟨2⟩)],
        [(("A", .anafi4k), ⟨1⟩, 1), (("B", .anafi4k), ⟨2⟩, 3)]) := by
    decide +kernel
  have table : ((sightings.run { host := () }).2.registries.find? ⟨1⟩).map
      (fun y => (y.closed, (y.device? ⟨2⟩).isSome)) = some (false, false) := by
    decide +kernel
  obtain ⟨x, known, parts⟩ := Option.map_eq_some_iff.mp source
  simp only [Prod.mk.injEq] at parts
  obtain ⟨registry, devices, added⟩ := parts
  obtain ⟨y, here, rest⟩ := Option.map_eq_some_iff.mp table
  obtain ⟨serving, gone⟩ := Prod.mk.inj rest
  refine ⟨x, y, known, here, registry, devices, Option.not_isSome_iff_eq_none.mp (by simp [gone]), ?_⟩
  have tracked : (("A", .anafi4k), ⟨1⟩) ∈ x.devices := by simp [devices]
  obtain ⟨place, among, -, present⟩ := sightings_reached.source_tracks known tracked
  obtain rfl : place = 1 := by simpa [added] using among
  rw [registry] at present
  exact present (by decide +kernel) y here serving

end DroneControl
