import DroneControl.Proofs.Discovery.Dropping

/-!
# What a stopped source leaves

A source that is told to stop forgets what it tracks and has it removed.  But while it adds a device its
registry calls on others, who may tell the source to stop, or to add a device of the same name and type;
the first device is then remembered by a source that does not run, or in place of the second.  Whatever
else a source has added, and does not track, it has asked its registry to remove.
-/

set_option synthInstance.maxSize 2048

namespace DroneControl

variable {σ : Type} {d : DiscoveryId} {x : Discovery} {key : DeviceKey} {h : DeviceHandle} {place : Nat}
  {w w' w'' : World σ} {env : Env σ}

namespace World

/-- The source was told to stop after the device was announced that it added under the handle, and before
it remembered that. -/
def Overtaken (w : World σ) (d : DiscoveryId) (x : Discovery) (key : DeviceKey) (h : DeviceHandle) :
    Prop :=
  ∃ place halt adoption, (key, h, place) ∈ x.added ∧
    w.HappenedAt place (.announced x.registry h true) ∧ place < halt ∧ w.HappenedAt halt (.halted d) ∧
    halt < adoption ∧ w.HappenedAt adoption (.adopted d h place)

/-- The source remembered the device that was announced at the place, but then another one of that name
and type instead, which had been announced before. -/
def Replaced (w : World σ) (d : DiscoveryId) (x : Discovery) (key : DeviceKey) (h : DeviceHandle)
    (place : Nat) : Prop :=
  ∃ adoption h' place' adoption', w.HappenedAt adoption (.adopted d h place) ∧
    (key, h', place') ∈ x.added ∧ place' < adoption ∧ adoption < adoption' ∧
    w.HappenedAt adoption' (.adopted d h' place')

/-- The source was done with the device some time after it was announced at the place. -/
def Dropped (w : World σ) (d : DiscoveryId) (r : RegistryId) (h : DeviceHandle) (place : Nat) : Prop :=
  ∃ drop since refusal, place < drop ∧ w.HappenedAt drop (.dropped d r h since refusal)

/-- The source was done with a device under the handle, whose removal had begun before the one that was
announced at the place. -/
def Outlived (w : World σ) (d : DiscoveryId) (r : RegistryId) (h : DeviceHandle) (place : Nat) : Prop :=
  ∃ drop since refusal, since ≤ place ∧ place < drop ∧
    w.HappenedAt drop (.dropped d r h since refusal)

/-- The registry did not remove the device for the source, since it did not know the backend. -/
def Refused (w : World σ) (d : DiscoveryId) (r : RegistryId) (h : DeviceHandle) (place : Nat) : Prop :=
  ∃ drop since b, place < since ∧
    w.HappenedAt drop (.dropped d r h since (some (Registry.unknownBackend b)))

/-- The source added a device that it does not track, and nothing accounts for that. -/
def Owes (w : World σ) (d : DiscoveryId) (key : DeviceKey) (h : DeviceHandle) (place : Nat) : Prop :=
  ∃ x, w.discoveries.find? d = some x ∧ (key, h, place) ∈ x.added ∧ (key, h) ∉ x.devices ∧
    ¬w.Replaced d x key h place ∧ ¬w.Dropped d x.registry h place

/-- What sources track and have added.  Those that do not run track only devices that were overtaken. -/
structure Rested (w : World σ) : Prop where
  rests : ∀ d x, w.discoveries.find? d = some x → x.running = false →
    ∀ key h, (key, h) ∈ x.devices → w.Overtaken d x key h
  told : ∀ d x, w.discoveries.find? d = some x → ∀ key h place, (key, h, place) ∈ x.added →
    w.HappenedAt place (.announced x.registry h true)
  keyed : ∀ d x, w.discoveries.find? d = some x → ∀ key h h', (key, h) ∈ x.devices →
    (key, h') ∈ x.devices → h = h'

theorem Overtaken.later {x' : Discovery} (overtaken : w.Overtaken d x key h)
    (grown : w.history <:+ w'.history) (registry : x'.registry = x.registry)
    (added : x.added ⊆ x'.added) : w'.Overtaken d x' key h := by
  obtain ⟨place, halt, adoption, among, announced, after, halted, before, adopted⟩ := overtaken
  exact ⟨place, halt, adoption, added among, registry ▸ announced.later grown, after,
    halted.later grown, before, adopted.later grown⟩

theorem Replaced.later {x' : Discovery} (replaced : w.Replaced d x key h place)
    (grown : w.history <:+ w'.history) (added : x.added ⊆ x'.added) :
    w'.Replaced d x' key h place := by
  obtain ⟨adoption, h', place', adoption', adopted, among, before, after, adopted'⟩ := replaced
  exact ⟨adoption, h', place', adoption', adopted.later grown, added among, before, after,
    adopted'.later grown⟩

theorem Dropped.later {r : RegistryId} (dropped : w.Dropped d r h place)
    (grown : w.history <:+ w'.history) : w'.Dropped d r h place := by
  obtain ⟨drop, since, refusal, after, happened⟩ := dropped
  exact ⟨drop, since, refusal, after, happened.later grown⟩

theorem Owes.earlier {x' : Discovery} (owes : w'.Owes d key h place)
    (found : w'.discoveries.find? d = some x') (known : w.discoveries.find? d = some x)
    (grown : w.history <:+ w'.history) (registry : x'.registry = x.registry)
    (sub : x.added ⊆ x'.added) (added : (key, h, place) ∈ x.added) (untracked : (key, h) ∉ x.devices) :
    w.Owes d key h place := by
  obtain ⟨x', here, -, -, kept, there⟩ := owes
  obtain rfl := Option.some.inj (found.symm.trans here)
  exact ⟨x, known, added, untracked, fun replaced => kept (replaced.later grown sub),
    fun dropped => there (registry ▸ dropped.later grown)⟩

end World

theorem World.row_of_updateDiscovery {d' : DiscoveryId} {x' : Discovery} {f : Discovery → Discovery}
    (found : (w.updateDiscovery d f).discoveries.find? d' = some x') :
    (d = d' ∧ ∃ x, w.discoveries.find? d' = some x ∧ x' = f x) ∨ w.discoveries.find? d' = some x' := by
  simp only [updateDiscovery, Table.find?_update] at found
  split at found
  · next here =>
    obtain ⟨x, known, rfl⟩ := Option.map_eq_some_iff.mp found
    exact .inl ⟨here, x, here ▸ known, rfl⟩
  · exact .inr found

/-- The source adopts the device that was announced at the place. -/
def World.adopt (w : World σ) (d : DiscoveryId) (key : DeviceKey) (h : DeviceHandle) (place : Nat) :
    World σ :=
  (w.updateDiscovery d (·.remember key h place)).mark (.adopted d h place)

namespace World

theorem adopt_grown (w : World σ) (d : DiscoveryId) (key : DeviceKey) (h : DeviceHandle) (place : Nat) :
    w.history <:+ (w.adopt d key h place).history :=
  List.suffix_cons _ _

theorem happenedAt_adopt (w : World σ) (d : DiscoveryId) (key : DeviceKey) (h : DeviceHandle)
    (place : Nat) : (w.adopt d key h place).HappenedAt w.history.length (.adopted d h place) :=
  happenedAt_mark _ _

theorem row_of_adopt (known : w.discoveries.find? d = some x) {d' : DiscoveryId} {x' : Discovery}
    (found : (w.adopt d key h place).discoveries.find? d' = some x') :
    d = d' ∧ x' = x.remember key h place ∨ w.discoveries.find? d' = some x' := by
  rcases row_of_updateDiscovery found with ⟨rfl, y, here, rfl⟩ | same
  · obtain rfl := Option.some.inj (known.symm.trans here)
    exact .inl ⟨rfl, rfl⟩
  · exact .inr same

end World

/-- The history grows, sources stop only when they are told to, and note what they adopt. -/
structure Proceeds (w w' : World σ) : Prop where
  grown : w.history <:+ w'.history
  next : w.discoveries.next ≤ w'.discoveries.next
  sources : ∀ d x', w'.discoveries.find? d = some x' → d.number < w.discoveries.next →
    ∃ x, w.discoveries.find? d = some x ∧ x'.registry = x.registry ∧ x.added ⊆ x'.added ∧
      (x.running = true → x'.running = false →
        ∃ halt, w.history.length ≤ halt ∧ w'.HappenedAt halt (.halted d))
  adopted : ∀ d x', w'.discoveries.find? d = some x' → ∀ key h place, (key, h, place) ∈ x'.added →
    (∃ x, w.discoveries.find? d = some x ∧ (key, h, place) ∈ x.added) ∨
      ∃ adoption, w.history.length ≤ adoption ∧ w'.HappenedAt adoption (.adopted d h place)
  rested : w.Rested → w'.Rested

structure Halts (w w' : World σ) : Prop extends Proceeds w w' where
  owed : w.Rested → ∀ d key h place, w'.Owes d key h place → w.Owes d key h place

structure Discovery.GoesOn (x x' : Discovery) : Prop where
  registry : x'.registry = x.registry
  added : x'.added = x.added
  devices : x'.devices = x.devices
  running : x.running = true → x'.running = true

theorem Discovery.GoesOn.refl (x : Discovery) : x.GoesOn x := ⟨rfl, rfl, rfl, id⟩

/-- A source stops only if it is told to, and notes what it adopts.  When it does not run it tracks what it
did already, or was overtaken. -/
structure World.Passes (w w' : World σ) (d : DiscoveryId) (x x' : Discovery) : Prop where
  registry : x'.registry = x.registry
  added : x.added ⊆ x'.added
  stops : x.running = true → x'.running = false →
    ∃ halt, w.history.length ≤ halt ∧ w'.HappenedAt halt (.halted d)
  adopts : ∀ key h place, (key, h, place) ∈ x'.added → (key, h, place) ∈ x.added ∨
    w'.HappenedAt place (.announced x.registry h true) ∧
      ∃ adoption, w.history.length ≤ adoption ∧ w'.HappenedAt adoption (.adopted d h place)
  rests : x'.running = false → ∀ key h, (key, h) ∈ x'.devices →
    x.running = false ∧ (key, h) ∈ x.devices ∨ w'.Overtaken d x' key h
  keyed : (∀ key h h', (key, h) ∈ x.devices → (key, h') ∈ x.devices → h = h') →
    ∀ key h h', (key, h) ∈ x'.devices → (key, h') ∈ x'.devices → h = h'

theorem Discovery.GoesOn.passes {x' : Discovery} (goes : x.GoesOn x') : w.Passes w' d x x' where
  registry := goes.registry
  added := goes.added ▸ List.Subset.refl _
  stops runs stopped := by cases stopped.symm.trans (goes.running runs)
  adopts _ _ _ among := .inl (goes.added ▸ among)
  rests stopped _ _ among := by
    refine .inl ⟨Bool.eq_false_iff.mpr fun runs => ?_, goes.devices ▸ among⟩
    cases stopped.symm.trans (goes.running runs)
  keyed keyed := goes.devices ▸ keyed

theorem Proceeds.trans (first : Proceeds w w') (second : Proceeds w' w'') : Proceeds w w'' where
  grown := first.grown.trans second.grown
  next := first.next.trans second.next
  sources d x'' found known := by
    obtain ⟨x', there, registry', added', late⟩ :=
      second.sources d x'' found (by have := first.next; omega)
    obtain ⟨x, here, registry, added, early⟩ := first.sources d x' there known
    refine ⟨x, here, registry'.trans registry, List.Subset.trans added added', fun runs stopped => ?_⟩
    cases running : x'.running with
    | true =>
      obtain ⟨halt, after, halted⟩ := late running stopped
      exact ⟨halt, first.grown.length_le.trans after, halted⟩
    | false =>
      obtain ⟨halt, after, halted⟩ := early runs running
      exact ⟨halt, after, halted.later second.grown⟩
  adopted d x'' found key h place among := by
    rcases second.adopted d x'' found key h place among with ⟨x', there, before⟩ | ⟨t, after, noted⟩
    · rcases first.adopted d x' there key h place before with old | ⟨t, after, noted⟩
      · exact .inl old
      · exact .inr ⟨t, after, noted.later second.grown⟩
    · exact .inr ⟨t, first.grown.length_le.trans after, noted⟩
  rested := second.rested ∘ first.rested

namespace Proceeds

/-- Sources that are new have added nothing, and the others go on as sources do. -/
theorem of_passes (grown : w.history <:+ w'.history)
    (next : w.discoveries.next ≤ w'.discoveries.next)
    (rows : ∀ d x', w'.discoveries.find? d = some x' →
      (∃ x, w.discoveries.find? d = some x ∧ w.Passes w' d x x') ∨
        w.discoveries.next ≤ d.number ∧ x'.devices = [] ∧ x'.added = []) : Proceeds w w' where
  grown := grown
  next := next
  sources d x' found known := by
    rcases rows d x' found with ⟨x, here, passes⟩ | ⟨new, -⟩
    · exact ⟨x, here, passes.registry, passes.added, passes.stops⟩
    · omega
  adopted d x' found key h place among := by
    rcases rows d x' found with ⟨x, here, passes⟩ | ⟨-, -, empty⟩
    · exact (passes.adopts key h place among).imp (fun before => ⟨x, here, before⟩) And.right
    · simp [empty] at among
  rested rested := by
    refine ⟨fun d x' found stopped key h among => ?_, fun d x' found key h place among => ?_,
      fun d x' found => ?_⟩ <;>
      rcases rows d x' found with ⟨x, here, passes⟩ | ⟨-, empty, none⟩
    · rcases passes.rests stopped key h among with ⟨rests, before⟩ | overtaken
      · exact (rested.rests d x here rests key h before).later grown passes.registry passes.added
      · exact overtaken
    · simp [empty] at among
    · rw [passes.registry]
      rcases passes.adopts key h place among with before | ⟨told, -⟩
      · exact (rested.told d x here key h place before).later grown
      · exact told
    · simp [none] at among
    · exact passes.keyed (rested.keyed d x here)
    · simp [empty]

theorem of_update {f : Discovery → Discovery} (grown : w.history <:+ w'.history)
    (discoveries : w'.discoveries = (w.updateDiscovery d f).discoveries)
    (passes : ∀ x, w.discoveries.find? d = some x → w.Passes w' d x (f x)) : Proceeds w w' := by
  refine of_passes grown (discoveries ▸ (Table.next_update _ _ _).ge) fun d' x' found => .inl ?_
  rw [discoveries] at found
  rcases World.row_of_updateDiscovery found with ⟨rfl, x, known, rfl⟩ | same
  · exact ⟨x, known, passes x known⟩
  · exact ⟨x', same, (Discovery.GoesOn.refl x').passes⟩

end Proceeds

namespace Halts

theorem of_rows (grown : w.history <:+ w'.history)
    (next : w.discoveries.next ≤ w'.discoveries.next)
    (rows : ∀ d x', w'.discoveries.find? d = some x' →
      (∃ x, w.discoveries.find? d = some x ∧ x.GoesOn x') ∨
        w.discoveries.next ≤ d.number ∧ x'.devices = [] ∧ x'.added = []) : Halts w w' where
  toProceeds := .of_passes grown next fun d x' found =>
    (rows d x' found).imp_left fun ⟨x, here, goes⟩ => ⟨x, here, goes.passes⟩
  owed _ d key h place owes := by
    obtain ⟨x', found, among, untracked, -⟩ := id owes
    rcases rows d x' found with ⟨x, here, goes⟩ | ⟨-, -, empty⟩
    · exact owes.earlier found here grown goes.registry (goes.added ▸ List.Subset.refl _)
        (goes.added ▸ among) (goes.devices ▸ untracked)
    · simp [empty] at among

theorem aside (discoveries : w'.discoveries = w.discoveries) (grown : w.history <:+ w'.history) :
    Halts w w' :=
  of_rows grown (discoveries ▸ le_rfl) fun _ x found =>
    .inl ⟨x, discoveries ▸ found, .refl x⟩

theorem same (discoveries : w'.discoveries = w.discoveries) (history : w'.history = w.history) :
    Halts w w' :=
  aside discoveries (history ▸ List.suffix_rfl)

theorem refl (w : World σ) : Halts w w := same rfl rfl

theorem mark (w : World σ) (o : Occurrence) : Halts w (w.mark o) :=
  aside rfl (List.suffix_cons _ _)

theorem trans (first : Halts w w') (second : Halts w' w'') : Halts w w'' where
  toProceeds := first.toProceeds.trans second.toProceeds
  owed rested d key h place owes :=
    first.owed rested d key h place (second.owed (first.rested rested) d key h place owes)

theorem update (w : World σ) {d : DiscoveryId} {f : Discovery → Discovery}
    (goes : ∀ x : Discovery, x.GoesOn (f x)) : Halts w (w.updateDiscovery d f) := by
  refine of_rows List.suffix_rfl (Table.next_update _ _ _).ge fun d' x' found => ?_
  rcases World.row_of_updateDiscovery found with ⟨-, x, known, rfl⟩ | same
  · exact .inl ⟨x, known, goes x⟩
  · exact .inl ⟨x', same, .refl x'⟩

theorem erase (w : World σ) (k : Kept) : Halts w (w.erase k) := by
  cases k with
  | discovery d =>
    refine of_rows List.suffix_rfl le_rfl fun d' x found => ?_
    simp only [World.erase, Table.find?_erase] at found
    split at found
    · cases found
    · exact .inl ⟨x, found, .refl x⟩
  | _ => exact same rfl rfl

theorem share (w : World σ) (f : Nat → Nat) (k : Kept) : Halts w (w.reshare f k) := by
  cases k with
  | discovery d => exact update w fun x => { Discovery.GoesOn.refl x with }
  | _ => exact same rfl rfl

theorem discarded (w : World σ) (c : ConnectionId) : Halts w (Connection.discarded w c) := by
  unfold Connection.discarded
  split
  · exact aside rfl (List.suffix_cons _ _)
  · exact .refl w

/-! ## What is not about sources -/

instance heeds : Heeds (σ := σ) Halts ⟨[.discoveries, .history], []⟩ where
  trans := .trans
  aside same := .same (same .discoveries (by decide)) (same .history (by decide))
  mark w o _ := .mark w o

instance footing : Footing (Keeps (σ := σ) Halts) := Heeds.footing

instance base : Base (Keeps (σ := σ) Halts) := Heeds.base_of_kept share erase

instance overlooksProxies : OverlooksProxies (Keeps (σ := σ) Halts) := Heeds.overlooksProxies

instance overlooksBackends : OverlooksBackends (Keeps (σ := σ) Halts) := Heeds.overlooksBackends

instance overlooksTimers : OverlooksTimers (Keeps (σ := σ) Halts) := Heeds.overlooksTimers

instance overlooks (i : InterfaceId) : Overlooks (Keeps (σ := σ) Halts) i := Heeds.overlooks i

instance interfaceLives : InterfaceLives (Keeps (σ := σ) Halts) := Heeds.interfaceLives

instance overlooksDevices : OverlooksDevices (Keeps (σ := σ) Halts) := Heeds.overlooksDevices

instance overlooksLoop : OverlooksLoop (Keeps (σ := σ) Halts) := Heeds.overlooksLoop

instance overlooksConnection (c : ConnectionId) : OverlooksConnection (Keeps (σ := σ) Halts) c :=
  Heeds.overlooksConnection c

instance connectionLives : ConnectionLives (Keeps (σ := σ) Halts) := Heeds.connectionLives

instance connectionNotes : ConnectionNotes (Keeps (σ := σ) Halts) := Connection.notes_of_overlooks

instance registryLives : RegistryLives (Keeps (σ := σ) Halts) := Registry.lives_of_overlooks

instance holds_mark (o : Occurrence) : Holds (Keeps (σ := σ) Halts) (DroneControl.mark o) :=
  ⟨fun w => .mark w o⟩

end Halts

/-! ## Sources -/

namespace Discovery

theorem create_halts (r : RegistryId) (name : String) (b : BackendId) :
    Holds (Keeps (σ := σ) Halts) (create r name b).run := by
  refine ⟨fun w => ?_⟩
  obtain ⟨-, history, next, rows⟩ := run_create r name b w
  refine .of_rows (history ▸ List.suffix_rfl) next fun d x found => ?_
  exact (rows d x found).imp_left fun here => ⟨x, here, .refl x⟩

theorem not_mem_of_handle? (untracked : x.handle? key = none) (h : DeviceHandle) :
    (key, h) ∉ x.devices := by
  intro tracked
  have other := List.lookup_eq_none_iff.mp untracked _ tracked
  simp at other

theorem mem_of_handle? (tracked : x.handle? key = some h) : (key, h) ∈ x.devices := by
  obtain ⟨before, after, parts, -⟩ := List.lookup_eq_some_iff.mp tracked
  simp [parts]

theorem known_of_handle? (tracked : (w.discovery d).handle? key = some h) :
    w.discoveries.find? d = some (w.discovery d) := by
  unfold World.discovery Table.get at tracked ⊢
  cases row : w.discoveries.find? d with
  | none =>
    rw [row] at tracked
    cases tracked
  | some y => rfl

theorem halt_proceeds (w : World σ) (d : DiscoveryId) :
    Proceeds w ((w.updateDiscovery d fun x => { x with running := false, devices := [] }).mark
      (.halted d)) :=
  .of_update (List.suffix_cons _ _) rfl fun x _ => {
    registry := rfl
    added := List.Subset.refl _
    stops := fun _ _ => ⟨_, le_rfl, World.happenedAt_mark _ _⟩
    adopts := fun _ _ _ => .inl
    rests := by simp
    keyed := by simp }

theorem adopt_proceeds (known : w.discoveries.find? d = some x)
    (told : w.HappenedAt place (.announced x.registry h true))
    (overtaken : x.running = false →
      (w.adopt d key h place).Overtaken d (x.remember key h place) key h) :
    Proceeds w (w.adopt d key h place) := by
  have grown := w.adopt_grown d key h place
  refine .of_update grown rfl fun y here => ?_
  obtain rfl := Option.some.inj (known.symm.trans here)
  refine ⟨rfl, List.subset_append_left _ _, fun runs stopped => ?_, fun key' h' place' among => ?_,
    fun stopped key' h' among => ?_, fun keyed key' h' h'' here there => ?_⟩
  · cases runs.symm.trans stopped
  · rcases List.mem_append.mp among with before | now
    · exact .inl before
    · cases List.mem_singleton.mp now
      exact .inr ⟨told.later grown, _, le_rfl, w.happenedAt_adopt _ _ _ _⟩
  · rcases List.mem_append.mp among with before | now
    · exact .inl ⟨stopped, (List.mem_filter.mp before).1⟩
    · cases List.mem_singleton.mp now
      exact .inr (overtaken stopped)
  · rcases List.mem_append.mp here with before | now <;>
      rcases List.mem_append.mp there with before' | now'
    · exact keyed key' h' h'' (List.mem_filter.mp before).1 (List.mem_filter.mp before').1
    · cases List.mem_singleton.mp now'
      simp [forget] at before
    · cases List.mem_singleton.mp now
      simp [forget] at before'
    · cases List.mem_singleton.mp now
      cases List.mem_singleton.mp now'
      rfl

theorem adopt_owed {w₁ : World σ} {x₁ : Discovery} (halts : Halts w w₁)
    (known : w.discoveries.find? d = some x) (untracked : x.handle? key = none)
    (still : w₁.discoveries.find? d = some x₁)
    (told : w₁.HappenedAt w.history.length (.announced x₁.registry h true)) (rested : w.Rested)
    {d' : DiscoveryId} {key' : DeviceKey} {h' : DeviceHandle} {place' : Nat}
    (owes : (w₁.adopt d key h w.history.length).Owes d' key' h' place') : w.Owes d' key' h' place' := by
  have grown := w₁.adopt_grown d key h w.history.length
  obtain ⟨x', found, among, gone, kept, -⟩ := id owes
  rcases World.row_of_adopt still found with ⟨rfl, rfl⟩ | same
  swap
  · exact halts.owed rested d' key' h' place' (owes.earlier found same grown rfl
      (List.Subset.refl _) among gone)
  have before : (key', h', place') ∈ x₁.added := by
    refine (List.mem_append.mp among).resolve_right fun now => gone ?_
    cases List.mem_singleton.mp now
    exact List.mem_append_right _ List.mem_cons_self
  by_cases tracked : (key', h') ∈ x₁.devices
  swap
  · exact halts.owed rested d key' h' place' (owes.earlier found still grown rfl
      (List.subset_append_left _ _) before tracked)
  -- The pair is forgotten for the one that takes its place, so it was adopted meanwhile.
  have same : key' = key := by
    by_contra other
    exact gone (List.mem_append_left _ (List.mem_filter.mpr ⟨tracked, by simpa using other⟩))
  subst same
  obtain ⟨y, here, registry, more, -⟩ := halts.sources d x₁ still (Table.lt_next known)
  obtain rfl := Option.some.inj (known.symm.trans here)
  rcases halts.adopted d x₁ still _ _ _ before with ⟨y, here, old⟩ | ⟨t, after, adopts⟩
  · obtain rfl := Option.some.inj (known.symm.trans here)
    refine owes.earlier found known (halts.grown.trans grown) registry
      (List.Subset.trans more (List.subset_append_left _ _)) old fun there => ?_
    exact not_mem_of_handle? untracked h' there
  · refine absurd ⟨t, h, w.history.length, w₁.history.length, adopts.later grown,
      List.mem_append_right _ List.mem_cons_self, lt_of_le_of_ne after ?_, adopts.lt_length,
      w₁.happenedAt_adopt _ _ _ _⟩ kept
    rintro rfl
    cases Option.some.inj (told.symm.trans adopts)

variable [Upheld (Keeps Halts) env] [Upheld (Keeps Traces) env]

theorem adding_halts (known : w.discoveries.find? d = some x) (running : x.running = true) (s : Sighting)
    (untracked : x.handle? (s.name, s.deviceType) = none) :
    Halts w ((adding env d x s w.history.length).run.run w).2 := by
  obtain ⟨-, lodged⟩ :=
    Registry.run_addDevice_traces env x.registry (s.info x.backendKind) x.backend w
  have adds : Holds (Keeps Halts) (Registry.addDevice env x.registry (s.info x.backendKind)
    x.backend).run := inferInstance
  have halts := adds.holds w
  unfold adding
  rw [run_tryThen, run_onFailure]
  generalize (Registry.addDevice env x.registry (s.info x.backendKind) x.backend).run.run w =
    outcome at lodged halts ⊢
  obtain ⟨result, w₁⟩ := outcome
  cases result with
  | error f =>
    have logged : Holds (Keeps (σ := σ) Halts) (log .warn "Failed to add discovered device"
      [("discovery", d.label), ("error", f.message)]) := inferInstance
    exact halts.trans (logged.holds w₁)
  | ok h =>
    dsimp only
    rw [run_actThen, run_modify, run_actThen, run_mark, run_tryPure]
    cases still : w₁.discoveries.find? d with
    | none =>
      have idle : w₁.updateDiscovery d (·.remember (s.name, s.deviceType) h w.history.length) = w₁ := by
        simp only [World.updateDiscovery, Table.update, still]
      rw [idle]
      exact halts.trans (.mark w₁ _)
    | some x₁ =>
      obtain ⟨y, here, registry, -, stops⟩ := halts.sources d x₁ still (Table.lt_next known)
      obtain rfl := Option.some.inj (known.symm.trans here)
      have told : w₁.HappenedAt w.history.length (.announced x₁.registry h true) :=
        registry ▸ (lodged h rfl).told
      have grown := w₁.adopt_grown d (s.name, s.deviceType) h w.history.length
      have proceeds : Proceeds w₁ (w₁.adopt d (s.name, s.deviceType) h w.history.length) := by
        refine adopt_proceeds still told fun stopped => ?_
        obtain ⟨halt, after, halted⟩ := stops running stopped
        refine ⟨w.history.length, halt, w₁.history.length, List.mem_append_right _ List.mem_cons_self,
          told.later grown, lt_of_le_of_ne after ?_, halted.later grown, halted.lt_length,
          w₁.happenedAt_adopt _ _ _ _⟩
        rintro rfl
        cases Option.some.inj (told.symm.trans halted)
      exact ⟨halts.toProceeds.trans proceeds, fun rested _ _ _ _ =>
        adopt_owed halts known untracked still told rested⟩

omit [Upheld (Keeps Traces) env] in
theorem forM_drops {r : RegistryId} {f : DeviceKey × DeviceHandle → Act σ Unit}
    [∀ device, Holds (Keeps Halts) (f device)]
    (drops : ∀ device w, ∃ t since refusal, w.history.length ≤ t ∧
      ((f device).run w).2.HappenedAt t (.dropped d r device.2 since refusal))
    (devices : List (DeviceKey × DeviceHandle)) (w : World σ) : ∀ device ∈ devices,
      ∃ t since refusal, w.history.length ≤ t ∧
        ((devices.forM f).run w).2.HappenedAt t (.dropped d r device.2 since refusal) := by
  induction devices generalizing w with
  | nil => simp
  | cons first devices ih =>
    have now : Halts w ((f first).run w).2 := Holds.holds (Q := Keeps Halts) w
    have later : Holds (Keeps Halts) (devices.forM f) := inferInstance
    intro device among
    rcases List.mem_cons.mp among with rfl | rest
    · obtain ⟨t, since, refusal, after, happened⟩ := drops device w
      exact ⟨t, since, refusal, after, happened.later (later.holds _).grown⟩
    · obtain ⟨t, since, refusal, after, happened⟩ := ih ((f first).run w).2 device rest
      exact ⟨t, since, refusal, now.grown.length_le.trans after, happened⟩

omit [Upheld (Keeps Halts) env] [Upheld (Keeps Traces) env] in
theorem run_dismiss (d : DiscoveryId) (r : RegistryId) (h : DeviceHandle) (w : World σ) :
    (dismiss env d r h).run.run w = (((Registry.removeDevice env r h).run.run w).1,
      ((Registry.removeDevice env r h).run.run w).2.mark (.dropped d r h w.history.length
        (refusal? ((Registry.removeDevice env r h).run.run w).1))) := rfl

variable [RegistryCalls (Keeps Halts) env]

omit [Upheld (Keeps Halts) env] [Upheld (Keeps Traces) env] in
theorem evict_drops (d : DiscoveryId) (r : RegistryId) (device : DeviceKey × DeviceHandle)
    (w : World σ) : ∃ t since refusal, w.history.length ≤ t ∧
      ((evict env d r device).run w).2.HappenedAt t (.dropped d r device.2 since refusal) := by
  have removes : Holds (Keeps Halts) (Registry.removeDevice env r device.2).run := inferInstance
  have grown := (removes.holds w).grown
  unfold evict
  rw [run_recover, run_dismiss]
  generalize (Registry.removeDevice env r device.2).run.run w = outcome at grown ⊢
  obtain ⟨result, w₁⟩ := outcome
  have noted := World.happenedAt_mark w₁ (.dropped d r device.2 w.history.length (refusal? result))
  refine ⟨w₁.history.length, w.history.length, refusal? result, grown.length_le, ?_⟩
  cases result with
  | ok _ => exact noted
  | error f =>
    have logged : Holds (Keeps (σ := σ) Halts) (log .warn "Failed to remove device"
      [("discovery", d.label), ("name", device.1.1), ("handle", device.2.label),
        ("error", f.message)]) := inferInstance
    exact noted.later (logged.holds _).grown

variable (env) in
omit [Upheld (Keeps Traces) env] in
theorem removeAll_drops (d : DiscoveryId) (r : RegistryId) (devices : List (DeviceKey × DeviceHandle))
    (w : World σ) : ∀ device ∈ devices, ∃ t since refusal, w.history.length ≤ t ∧
      ((removeAll env d r devices).run w).2.HappenedAt t (.dropped d r device.2 since refusal) := by
  unfold removeAll
  rw [run_bind, run_get]
  dsimp only
  split
  · have released : Holds (Keeps Halts) (release env (.registry r)) := inferInstance
    have drops : ∀ device w, ∃ t since refusal, w.history.length ≤ t ∧
        ((evict env d r device).run w).2.HappenedAt t (.dropped d r device.2 since refusal) :=
      evict_drops d r
    intro device among
    rw [run_keeping]
    obtain ⟨t, since, refusal, after, happened⟩ :=
      forM_drops drops devices (w.reshare (· + 1) (.registry r)) device among
    exact ⟨t, since, refusal, after, happened.later (released.holds _).grown⟩
  · refine forM_drops (fun device w => ?_) devices w
    exact ⟨w.history.length, _, _, le_rfl, World.happenedAt_mark w _⟩

omit [Upheld (Keeps Traces) env] in
theorem stop_halts (d : DiscoveryId) : Holds (Keeps Halts) (stop env d) := by
  refine ⟨fun w => ?_⟩
  unfold stop
  rw [run_bind, run_get]
  dsimp only
  split
  swap
  · exact .refl w
  next running =>
  have known := known_of_running running
  have rest : Holds (Keeps Halts) (do
      removeAll env d (w.discovery d).registry (w.discovery d).devices
      log .debug "Discovery stopped" [("discovery", d.label)]) := inferInstance
  have logged : Holds (Keeps (σ := σ) Halts)
    (log .debug "Discovery stopped" [("discovery", d.label)]) := inferInstance
  have proceeds := halt_proceeds w d
  rw [run_bind, run_modify, run_bind, run_mark]
  generalize halted : (w.updateDiscovery d fun x =>
    { x with running := false, devices := [] }).mark (.halted d) = w₁ at proceeds ⊢
  have halts := rest.holds w₁
  -- The source is done with all that it forgets before it answers, so it owes nothing for that.
  have drops := removeAll_drops env d (w.discovery d).registry (w.discovery d).devices w₁
  rw [run_bind] at halts ⊢
  have later := (logged.holds ((removeAll env d (w.discovery d).registry
    (w.discovery d).devices).run w₁).2).grown
  refine ⟨proceeds.trans halts.toProceeds, fun rested d' key h place owes => ?_⟩
  have owes₁ := halts.owed (proceeds.rested rested) d' key h place owes
  obtain ⟨x₁, found, among, untracked, -⟩ := id owes₁
  have row := found
  rw [← halted] at row
  rcases World.row_of_updateDiscovery row with ⟨rfl, x, here, rfl⟩ | same
  swap
  · exact owes₁.earlier found same proceeds.grown rfl (List.Subset.refl _) among untracked
  obtain rfl := Option.some.inj (known.symm.trans here)
  refine owes₁.earlier found known proceeds.grown rfl (List.Subset.refl _) among fun tracked => ?_
  obtain ⟨t, since, refusal, after, happened⟩ := drops (key, h) tracked
  obtain ⟨x₃, there, -, -, -, spared⟩ := owes
  obtain ⟨x₁', here', registry, -⟩ := halts.sources d x₃ there (Table.lt_next found)
  obtain rfl := Option.some.inj (found.symm.trans here')
  have past := (rested.told d _ known key h place among).lt_length.trans_le proceeds.grown.length_le
  exact spared ⟨t, since, refusal, past.trans_le after, registry ▸ happened.later later⟩

omit [Upheld (Keeps Halts) env] [Upheld (Keeps Traces) env] [RegistryCalls (Keeps Halts) env] in
theorem forget_proceeds (w : World σ) (d : DiscoveryId) (key : DeviceKey) :
    Proceeds w (w.updateDiscovery d (·.forget key)) := by
  have fewer : ∀ x : Discovery, (x.forget key).devices ⊆ x.devices :=
    fun x => List.filter_sublist.subset
  refine .of_update List.suffix_rfl rfl fun x _ => ⟨rfl, List.Subset.refl _, fun runs stopped => ?_,
    fun _ _ _ => .inl, fun stopped _ _ among => .inl ⟨stopped, fewer x among⟩,
    fun keyed key' h h' here there => keyed key' h h' (fewer x here) (fewer x there)⟩
  cases runs.symm.trans stopped

omit [Upheld (Keeps Halts) env] [Upheld (Keeps Traces) env] [RegistryCalls (Keeps Halts) env] in
theorem forget_halts {u : World σ} {since : Nat} {refusal : Option Fault} (halts : Halts w u)
    (known : w.discoveries.find? d = some x) (tracked : (u.discovery d).handle? key = some h) :
    Halts w ((u.mark (.dropped d x.registry h since refusal)).updateDiscovery d (·.forget key)) := by
  have there := known_of_handle? tracked
  obtain ⟨y, here, registry, -⟩ := halts.sources d _ there (Table.lt_next known)
  obtain rfl := Option.some.inj (known.symm.trans here)
  have marked := halts.trans (.mark u (.dropped d x.registry h since refusal))
  refine ⟨marked.toProceeds.trans (forget_proceeds _ d key),
    fun rested d' key' h' place owes => marked.owed rested d' key' h' place ?_⟩
  obtain ⟨x', found, among, gone, -, spared⟩ := id owes
  rcases World.row_of_updateDiscovery found with ⟨rfl, x₁, row, rfl⟩ | same
  swap
  · exact owes.earlier found same List.suffix_rfl rfl (List.Subset.refl _) among gone
  obtain rfl := Option.some.inj (there.symm.trans row)
  refine owes.earlier found row List.suffix_rfl rfl (List.Subset.refl _) among fun tracked' => ?_
  have same : key' = key := by
    by_contra other
    exact gone (List.mem_filter.mpr ⟨tracked', by simpa using other⟩)
  subst same
  have settled := halts.rested rested
  obtain rfl := settled.keyed d _ there key' h' h tracked' (mem_of_handle? tracked)
  refine spared ⟨u.history.length, since, refusal, (settled.told d _ there key' h' place among).lt_length, ?_⟩
  change World.HappenedAt (u.mark _) u.history.length (.dropped d (u.discovery d).registry h' since refusal)
  rw [registry]
  exact World.happenedAt_mark u _

omit [Upheld (Keeps Traces) env] in
theorem removeDevice_halts (d : DiscoveryId) (name : String) (t : DeviceType) :
    Holds (Keeps Halts) (removeDevice env d name t).run := by
  refine withRegistry_of_registry (R := Halts) .trans d fun w => ?_
  rw [run_lookThen]
  cases tracked : (w.discovery d).handle? (name, t) with
  | none => exact .refl w
  | some h =>
    have known : w.discoveries.find? d = some (w.discovery d) := known_of_handle? tracked
    have removes : Holds (Keeps Halts) (Registry.removeDevice env (w.discovery d).registry h).run :=
      inferInstance
    have removed := removes.holds w
    dsimp only
    rw [run_attemptThen, run_dismiss]
    generalize (Registry.removeDevice env (w.discovery d).registry h).run.run w = outcome at removed ⊢
    obtain ⟨result, u⟩ := outcome
    have failed : ∀ f : Fault, Holds (Keeps (σ := σ) Halts) (do
        act (log .warn "Failed to remove discovered device"
          [("discovery", d.label), ("handle", h.label), ("error", f.message)])
        throw f : Try σ Unit).run := fun _ => inferInstance
    dsimp only
    rw [run_lookThen]
    split
    · next still =>
      rw [Bool.and_eq_true, decide_eq_true_eq] at still
      have forgotten : Halts w ((u.mark (.dropped d (w.discovery d).registry h w.history.length
          (refusal? result))).updateDiscovery d (·.forget (name, t))) :=
        forget_halts removed known still.2
      cases result with
      | ok _ => exact forgotten
      | error f => exact forgotten.trans ((failed f).holds _)
    · have marked := removed.trans (.mark u (.dropped d (w.discovery d).registry h w.history.length
        (refusal? result)))
      cases result with
      | ok _ => exact marked
      | error f => exact marked.trans ((failed f).holds _)

end Discovery

/-! ## Runs -/

namespace Halts

instance discoveryLives : DiscoveryLives (Keeps (σ := σ) Halts) where
  createDiscovery := Discovery.create_halts
  setTypes d types := ⟨fun w => .update w fun x => { Discovery.GoesOn.refl x with }⟩
  startDiscovery d := by
    have started : Holds (Keeps (σ := σ) Halts) (modify (·.updateDiscovery d fun x =>
        { x with running := true })) :=
      ⟨fun w => .update w fun x => ⟨rfl, rfl, rfl, fun _ => rfl⟩⟩
    unfold Discovery.start
    infer_instance

instance alone : Alone (Keeps (σ := σ) Halts) where

theorem together [Upheld (Keeps Halts) env] [Upheld (Keeps Traces) env] :
    Together (Keeps Halts) env := by
  have : EntryCalls (Keeps Halts) env := Entry.calls_of_overlooks
  have : ConnectionCalls (Keeps Halts) env := Connection.calls_of_tells
  have : GivesUp (Keeps Halts) env := ⟨fun _ => Connection.giveUp_overlooked⟩
  have : RegistryCalls (Keeps Halts) env := Registry.calls_of_overlooks
  have : DiscoveryCalls (Keeps Halts) env :=
    ⟨fun _ _ _ => inferInstance, Discovery.stop_halts,
      fun d s => Discovery.addDevice_of_adding .trans d s fun _ _ known running untracked =>
        Discovery.adding_halts known running s untracked, Discovery.removeDevice_halts⟩
  have : InterfaceCalls (Keeps Halts) env := Interface.calls_of_steps
  have : InterfaceRetries (Keeps Halts) env := Interface.retries_of_steps
  have : LoopCalls (Keeps Halts) env := Loop.calls_of_steps
  exact {}

end Halts

theorem World.rested_empty (host : σ) (verbosity : Option Severity) :
    ({ host, verbosity } : World σ).Rested where
  rests _ _ found := by cases (World.find?_empty _).symm.trans found
  told _ _ found := by cases (World.find?_empty _).symm.trans found
  keyed _ _ found := by cases (World.find?_empty _).symm.trans found

theorem World.cleared_empty (host : σ) (verbosity : Option Severity) :
    ({ host, verbosity } : World σ).Cleared where
  emptied r h _ := by
    simp only [registry, Table.get, World.find?_empty]
    rfl
  dropped t d r h since refusal happened := by
    simp [HappenedAt, chronicle] at happened

/-- Between calls a source that does not run tracks no devices but those that it was adding when it was
told to stop: the registry had announced the device already, and the source adopted it afterwards.  And
each device that it ever added, as long as the registry is not destroyed and has not announced that the
device is gone, is on its way out, unless it is one of those, or another one of its name and type was
added meanwhile and is remembered instead of it, or it was announced while an earlier device under the
handle was being removed for the source, or the registry did not know its backend any longer and refused
to remove it. -/
theorem Reached.stopped_tracks (reached : Reached w) (known : w.discoveries.find? d = some x)
    (stopped : x.running = false) :
    (∀ key h, (key, h) ∈ x.devices → w.Overtaken d x key h) ∧
      ∀ key h place, (key, h, place) ∈ x.added →
        false ∉ announcements x.registry h (w.chronicle.drop place) →
        ∀ y, w.registries.find? x.registry = some y → y.closed = false →
          ∃ e, y.device? h = some e ∧
            (e.state = .removing ∨ (key, h) ∈ x.devices ∨ w.Replaced d x key h place ∨
              w.Outlived d x.registry h place ∨ w.Refused d x.registry h place) := by
  obtain ⟨host, verbosity, halts⟩ := reached.related_of_hosted (R := Halts) fun env hosted _ => by
    have := hosted.together (Q := Keeps Traces) fun _ u _ => Traces.together u
    exact Halts.together
  have rested := halts.rested (World.rested_empty host verbosity)
  refine ⟨rested.rests d x known stopped, fun key h place added never y here serving => ?_⟩
  obtain ⟨host', verbosity', tallies⟩ :=
    reached.related (R := Tallies x.registry h) fun _ _ quiet => Attends.together quiet
  have agrees := tallies (World.agrees_empty host' verbosity' _ _)
  have told := rested.told d x known key h place added
  obtain ⟨once, last⟩ := agrees.once told never
  obtain ⟨e, he⟩ := Option.isSome_iff_exists.mp ((agrees.table y here serving).mpr last)
  refine ⟨e, he, ?_⟩
  by_cases tracked : (key, h) ∈ x.devices
  · exact .inr (.inl tracked)
  by_cases replaced : w.Replaced d x key h place
  · exact .inr (.inr (.inl replaced))
  by_cases dropped : w.Dropped d x.registry h place
  swap
  · obtain ⟨x', found, -⟩ := halts.owed (World.rested_empty host verbosity) d key h place
      ⟨x, known, added, tracked, replaced, dropped⟩
    cases (World.find?_empty d).symm.trans found
  obtain ⟨drop, since, refusal, after, happened⟩ := dropped
  rcases Nat.lt_or_ge place since with begun | early
  swap
  · exact .inr (.inr (.inr (.inl ⟨drop, since, refusal, early, after, happened⟩)))
  obtain ⟨host'', verbosity'', dwindles⟩ := reached.related fun _ u _ => Dwindles.together u
  have cleared := dwindles.cleared (World.cleared_empty host'' verbosity'')
  obtain ⟨-, settled⟩ := cleared.dropped drop d x.registry h since refusal happened
  have silent : announcements x.registry h (w.chronicle.drop since) = [] := by
    rw [announcements_of_told told] at once
    have later := List.drop_sublist (since - (place + 1)) (w.chronicle.drop (place + 1))
    rw [List.drop_drop, Nat.add_sub_cancel' begun] at later
    exact List.sublist_nil.mp ((List.cons.inj once).2 ▸ later.filterMap _)
  rcases settled silent e (by rw [World.registry_of_find? here, he]) with removing | ⟨b, rfl⟩
  · exact .inl removing
  · exact .inr (.inr (.inr (.inr ⟨drop, since, b, begun, happened⟩)))

def hastyHost : Env Unit where
  tell _ event :=
    match event with
    | .deviceAdded _ _ => Discovery.stop silentHost ⟨1⟩
    | _ => pure ()
  ask _ := pure ()
  order _ := pure ()
  openSession _ _ _ := pure true
  openChannel _ _ _ := pure ⟨1⟩
  reap := reap silentHost

theorem hastyHost_hosted : Hosted hastyHost := by
  refine .around silentHost_hosted ⟨?_, ?_, ?_, ?_, ?_, ?_⟩ rfl
  · intro l event
    unfold hastyHost
    dsimp only
    split
    · exact .basic (.inr (.stopDiscovery _))
    · exact .pure _
  all_goals intros; exact .pure _

def lateSighting : Act Unit (Except Fault DeviceHandle) := do
  let r ← Registry.create {} ⟨1⟩ none
  let _ ← (Backend.createNet hastyHost r ⟨1⟩ 0 none).run
  let _ ← (Discovery.create r "scan" ⟨1⟩).run
  Discovery.start ⟨1⟩
  (Discovery.addDevice hastyHost ⟨1⟩ ⟨"A", .anafi4k, "", 0, ""⟩).run

theorem lateSighting_reached : Reached (lateSighting.run { host := () }).2 := by
  refine ⟨hastyHost, (), none, _, lateSighting, hastyHost_hosted, ?_, rfl⟩
  refine .bind (.basic (.inr (.createRegistry _ _ _))) fun r => ?_
  refine .bind (.basic (.inr (.createNet _ _ _ _))) fun _ => ?_
  refine .bind (.basic (.inr (.createDiscovery _ _ _))) fun _ => ?_
  refine .bind (.basic (.inr (.startDiscovery _))) fun _ => ?_
  exact .basic (.inr (.discover _ _))

theorem lateSighting_stopped_tracks :
    let w := (lateSighting.run { host := () }).2
    ∃ x y e, w.discoveries.find? ⟨1⟩ = some x ∧ x.running = false ∧
      x.devices = [(("A", .anafi4k), ⟨1⟩)] ∧ x.added = [(("A", .anafi4k), ⟨1⟩, 1)] ∧
      w.Overtaken ⟨1⟩ x ("A", .anafi4k) ⟨1⟩ ∧ w.registries.find? x.registry = some y ∧
      y.device? ⟨1⟩ = some e ∧
      (e.state = .removing ∨ (("A", .anafi4k), ⟨1⟩) ∈ x.devices ∨
        w.Replaced ⟨1⟩ x ("A", .anafi4k) ⟨1⟩ 1 ∨ w.Outlived ⟨1⟩ x.registry ⟨1⟩ 1 ∨
        w.Refused ⟨1⟩ x.registry ⟨1⟩ 1) := by
  intro w
  have source : (w.discoveries.find? ⟨1⟩).map (fun x => (x.running, x.registry, x.devices, x.added)) =
      some (false, ⟨1⟩, [(("A", .anafi4k), ⟨1⟩)], [(("A", .anafi4k), ⟨1⟩, 1)]) := by
    decide +kernel
  have table : (w.registries.find? ⟨1⟩).map (·.closed) = some false := by decide +kernel
  have never : false ∉ announcements ⟨1⟩ ⟨1⟩ (w.chronicle.drop 1) := by decide +kernel
  have reached : Reached w := lateSighting_reached
  clear_value w
  obtain ⟨x, known, parts⟩ := Option.map_eq_some_iff.mp source
  simp only [Prod.mk.injEq] at parts
  obtain ⟨stopped, registry, devices, added⟩ := parts
  obtain ⟨y, here, serving⟩ := Option.map_eq_some_iff.mp table
  obtain ⟨overtaken, left⟩ := reached.stopped_tracks known stopped
  rw [registry] at left
  obtain ⟨e, he, accounted⟩ := left ("A", .anafi4k) ⟨1⟩ 1 (by simp [added]) never y here serving
  exact ⟨x, y, e, known, stopped, devices, added, overtaken _ _ (by simp [devices]),
    registry.symm ▸ here, he, registry.symm ▸ accounted⟩

end DroneControl
