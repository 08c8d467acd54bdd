import DroneControl.Proofs.Run.Channels

/-!
# How a multiplexed backend comes to be

The channel is opened first, and whoever opens it may call back meanwhile.  After that nobody is called
until the backend is registered and has its source, or one of these steps fails.  What the steps before
it did is then taken back, and the channel is shut down.
-/

namespace DroneControl

variable {σ : Type} {r : RegistryId} {b : BackendId} {d : DiscoveryId} {u : UplinkId}
  {channel : ChannelId} {w w' w'' : World σ} {env : Env σ}

/-! ## The steps, each by how it ends -/

namespace Registry

theorem registerBackend_cases (r : RegistryId) (b : BackendId) (w : World σ) :
    (∃ f, (registerBackend r b).run.run w = (.error f, w)) ∨
    b ∉ (w.registry r).backends ∧ ∃ journal, (registerBackend r b).run.run w = (.ok (),
      ({ w with journal }.updateRegistry r fun x =>
        { x with backends := x.backends ++ [b] }).reshare (· + 1) (.backend b)) := by
  unfold registerBackend
  rw [run_lookThen]
  dsimp only
  split
  · exact .inl ⟨_, rfl⟩
  split
  · exact .inl ⟨_, rfl⟩
  next absent =>
  rw [run_actThen, run_log, World.log_eq]
  exact .inr ⟨absent, _, rfl⟩

theorem registerDiscovery_cases (r : RegistryId) (d : DiscoveryId) (w : World σ) :
    (∃ f, (registerDiscovery r d).run.run w = (.error f, w)) ∨
    d ∉ (w.registry r).discoveries ∧ (registerDiscovery r d).run.run w = (.ok (),
      w.updateRegistry r fun x => { x with discoveries := x.discoveries ++ [d] }) := by
  unfold registerDiscovery
  rw [run_lookThen]
  dsimp only
  split
  · exact .inl ⟨_, rfl⟩
  split
  · exact .inl ⟨_, rfl⟩
  · next absent => exact .inr ⟨absent, rfl⟩

theorem unregisterBackend_cases (env : Env σ) (r : RegistryId) {x : Backend}
    (known : w.backends.find? b = some x) (shared : x.sharers ≠ 0) (idle : x.live = []) :
    b ∉ (w.registry r).backends ∧
      (unregisterBackend env r b).run.run w = (.error (unknownBackend b), w) ∨
    b ∈ (w.registry r).backends ∧ ∃ journal, (unregisterBackend env r b).run.run w = (.ok (),
      { (w.updateRegistry r fun x =>
        { x with backends := x.backends.filter (· ≠ b) }).reshare (· - 1) (.backend b) with
        journal }) := by
  have row : w.backend b = x := World.backend_of_find? known
  unfold unregisterBackend
  rw [run_lookThen]
  dsimp only
  split
  · next absent => exact .inl ⟨absent, rfl⟩
  next registered =>
  have item : (w.updateRegistry r fun x =>
      { x with backends := x.backends.filter (· ≠ b) }).item? (.backend b) = some (.backend x) :=
    congrArg (Option.map Item.backend) known
  rw [row, idle]
  dsimp only [List.isEmpty_nil]
  rw [if_pos rfl, run_actThen, run_modify, run_actThen, run_release item shared,
    run_act, run_log, World.log_eq]
  exact .inr ⟨Decidable.not_not.mp registered, _, rfl⟩

end Registry

theorem Discovery.create_cases (r : RegistryId) (name : String) (b : BackendId) (w : World σ) :
    (∃ f discoveries, (∀ d, discoveries.find? d = w.discoveries.find? d) ∧
      (create r name b).run.run w = (.error f, { w with discoveries })) ∨
    b ∈ (w.registry r).backends ∧ ⟨w.discoveries.next⟩ ∉ (w.registry r).discoveries ∧
      ∃ journal, (create r name b).run.run w = (.ok ⟨w.discoveries.next⟩,
        { w.updateRegistry r fun x =>
            { x with discoveries := x.discoveries ++ [⟨w.discoveries.next⟩] } with
          journal
          discoveries := w.discoveries.reserve.2.set ⟨w.discoveries.next⟩
            { name, backend := b, backendKind := (w.backend b).kind, registry := r } }) := by
  unfold create Registry.backendKind?
  rw [run_lookThen]
  split
  · exact .inl ⟨_, w.discoveries, fun _ => rfl, rfl⟩
  next kind kindOf =>
  obtain ⟨registered, rfl⟩ : b ∈ (w.registry r).backends ∧ (w.backend b).kind = kind := by
    simpa using kindOf
  rw [run_actThen, run_modifyGet, run_tryThen]
  dsimp only
  rcases Registry.registerDiscovery_cases r w.discoveries.reserve.1
    { w with discoveries := w.discoveries.reserve.2 } with ⟨f, fails⟩ | ⟨absent, registers⟩
  · rw [fails]
    exact .inl ⟨f, w.discoveries.reserve.2, fun _ => rfl, rfl⟩
  · rw [registers]
    dsimp only
    rw [run_actThen, run_log, World.log_eq]
    exact .inr ⟨registered, absent, _, rfl⟩

/-! ## What creation does to the library -/

/-- Registries, sources, connections and other backends are as they were, and the given backend has
no connection and never had one. -/
structure World.Restores (b : BackendId) (w w' : World σ) : Prop where
  registries : ∀ r, w'.registries.find? r = w.registries.find? r
  sources : ∀ d, w'.discoveries.find? d = w.discoveries.find? d
  backends : ∀ b', b' ≠ b → w'.backends.find? b' = w.backends.find? b'
  connections : w'.connections = w.connections
  idle : ∀ x, w'.backends.find? b = some x → x.live = [] ∧ x.made = []

/-- The registry, unless it is gone, has a backend more, which is kept once more. -/
structure World.Registers (r : RegistryId) (b : BackendId) (row : Backend) (w w' : World σ) :
    Prop where
  absent : b ∉ (w.registry r).backends
  registries : ∀ r', w'.registries.find? r' =
    if r = r' then
      (w.registries.find? r).map fun x => { x with backends := x.backends ++ [b] }
    else w.registries.find? r'
  backends : ∀ b', w'.backends.find? b' =
    if b = b' then some { row with sharers := row.sharers + 1 } else w.backends.find? b'
  sources : ∀ d, w'.discoveries.find? d = w.discoveries.find? d
  connections : w'.connections = w.connections
  uplinks : w'.uplinks = w.uplinks
  host : w'.host = w.host

/-- The registry has a backend and a source more, both of them new to it, and all else is as it was. -/
structure World.Gains (r : RegistryId) (b : BackendId) (d : DiscoveryId) (row : Backend)
    (w w' : World σ) : Prop where
  registry : ∃ x, w.registries.find? r = some x ∧ b ∉ x.backends ∧ d ∉ x.discoveries ∧
    w'.registries.find? r =
      some { x with backends := x.backends ++ [b], discoveries := x.discoveries ++ [d] }
  registries : ∀ r', r' ≠ r → w'.registries.find? r' = w.registries.find? r'
  backend : w'.backends.find? b = some row
  backends : ∀ b', b' ≠ b → w'.backends.find? b' = w.backends.find? b'
  unused : w.discoveries.find? d = none
  source : w'.discoveries.find? d =
    some { name := "mux", backend := b, backendKind := row.kind, registry := r }
  sources : ∀ d', d' ≠ d → w'.discoveries.find? d' = w.discoveries.find? d'
  connections : w'.connections = w.connections

namespace World.Restores

theorem trans (first : w.Restores b w') (second : w'.Restores b w'') : w.Restores b w'' where
  registries r := (second.registries r).trans (first.registries r)
  sources d := (second.sources d).trans (first.sources d)
  backends b' other := (second.backends b' other).trans (first.backends b' other)
  connections := second.connections.trans first.connections
  idle := second.idle

theorem gains {row : Backend} (first : w.Restores b w') (second : w'.Gains r b d row w'') :
    w.Gains r b d row w'' where
  registry := first.registries r ▸ second.registry
  registries r' other := (second.registries r' other).trans (first.registries r')
  backend := second.backend
  backends b' other := (second.backends b' other).trans (first.backends b' other)
  unused := (first.sources d).symm.trans second.unused
  source := second.source
  sources d' other := (second.sources d' other).trans (first.sources d')
  connections := second.connections.trans first.connections

end World.Restores

theorem World.Gains.updateBackend {row : Backend} (gains : w.Gains r b d row w')
    (f : Backend → Backend) (kind : (f row).kind = row.kind) (journal : List Note) :
    w.Gains r b d (f row) { w'.updateBackend b f with journal } where
  registry := gains.registry
  registries := gains.registries
  backend := by
    refine (Table.find?_update _ _ _ _).trans ?_
    rw [if_pos rfl, gains.backend]
    rfl
  backends b' other :=
    ((Table.find?_update _ _ _ _).trans (if_neg other.symm)).trans (gains.backends b' other)
  unused := gains.unused
  source := kind ▸ gains.source
  sources := gains.sources
  connections := gains.connections

namespace World.Registers

variable {row : Backend}

theorem aside {discoveries : Table .discovery Discovery} (registers : w.Registers r b row w')
    (journal : List Note)
    (same : ∀ d, discoveries.find? d = w'.discoveries.find? d) :
    w.Registers r b row { w' with journal, discoveries } where
  absent := registers.absent
  registries := registers.registries
  backends := registers.backends
  sources d := (same d).trans (registers.sources d)
  connections := registers.connections
  uplinks := registers.uplinks
  host := registers.host

theorem backend (registers : w.Registers r b row w') :
    w'.backends.find? b = some { row with sharers := row.sharers + 1 } :=
  (registers.backends b).trans (if_pos rfl)

theorem listed_iff (registers : w.Registers r b row w') :
    b ∈ (w'.registry r).backends ↔ w.registries.find? r ≠ none := by
  rw [registry, Table.get, registers.registries, if_pos rfl]
  cases w.registries.find? r <;> simp [default]

theorem unregister (env : Env σ) (registers : w.Registers r b row w') (idle : row.live = [])
    (unused : row.made = []) (react : Fault → Act σ Unit)
    (reacts : ∀ f w, ∃ journal, ((react f).run w).2 = { w with journal }) :
    ∃ undone n, ((recover (Registry.unregisterBackend env r b) react).run w').2 = undone ∧
      w.Restores b undone ∧ undone.host = w.host ∧
      undone.backends.find? b = some { row with sharers := n } ∧
      (w.registries.find? r ≠ none → n = row.sharers) := by
  rw [run_recover]
  rcases Registry.unregisterBackend_cases env r registers.backend (Nat.succ_ne_zero _) idle with
    ⟨absent, fails⟩ | ⟨listed, journal, succeeds⟩
  · obtain ⟨journal, noted⟩ := reacts (Registry.unknownBackend b) w'
    have gone := mt registers.listed_iff.mpr absent
    rw [fails]
    dsimp only
    rw [noted]
    refine ⟨{ w' with journal }, row.sharers + 1, rfl, ⟨fun r' => ?_, registers.sources,
      fun b' other => ?_, registers.connections, fun x found => ?_⟩, registers.host, registers.backend,
      fun there => absurd there gone⟩
    · dsimp only
      rw [registers.registries]
      split
      · next same => rw [← same, Decidable.not_not.mp gone]; rfl
      · rfl
    · exact (registers.backends b').trans (if_neg other.symm)
    · obtain rfl := Option.some.inj (registers.backend.symm.trans found)
      exact ⟨idle, unused⟩
  · have released : ∀ b', (w'.backends.update b fun x => { x with sharers := x.sharers - 1 }).find? b' =
        if b = b' then some row else w.backends.find? b' := by
      intro b'
      rw [Table.find?_update, registers.backend, registers.backends]
      split <;> rfl
    have kept : ∀ x, w.registries.find? r = some x →
        (x.backends ++ [b]).filter (· ≠ b) = x.backends := by
      intro x found
      have absent := registers.absent
      rw [World.registry_of_find? found] at absent
      rw [List.filter_append, List.filter_eq_self.mpr fun b' among => ?_]
      · simp
      · exact decide_eq_true fun same => absent (same ▸ among)
    rw [succeeds]
    refine ⟨_, row.sharers, rfl, ⟨fun r' => ?_, registers.sources, fun b' other => ?_,
      registers.connections, fun x found => ?_⟩, registers.host, ?_, fun _ => rfl⟩
    · dsimp only [reshare, updateBackend, updateRegistry]
      rw [Table.find?_update, registers.registries, registers.registries, if_pos rfl]
      split
      · next same =>
        subst same
        cases found : w.registries.find? r with
        | none => rfl
        | some x => exact congrArg (fun backends => some { x with backends }) (kept x found)
      · rfl
    · exact (released b').trans (if_neg other.symm)
    · obtain rfl := Option.some.inj (((released b).trans (if_pos rfl)).symm.trans found)
      exact ⟨idle, unused⟩
    · exact (released b).trans (if_pos rfl)

end World.Registers

theorem Registry.registers {row : Backend} (r : RegistryId) (known : w.backends.find? b = some row) :
    (∃ f, (registerBackend r b).run.run w = (.error f, w)) ∨
    ∃ w', w.Registers r b row w' ∧ (registerBackend r b).run.run w = (.ok (), w') := by
  refine (registerBackend_cases r b w).imp_right ?_
  rintro ⟨absent, journal, registers⟩
  refine ⟨_, ?_, registers⟩
  refine ⟨absent, fun r' => ?_, fun b' => ?_, fun _ => rfl, rfl, rfl, rfl⟩
  · exact Table.find?_update _ _ _ _
  · refine (Table.find?_update _ _ _ _).trans ?_
    dsimp only [World.updateRegistry]
    rw [known]
    rfl

theorem Discovery.gains {row : Backend} (registers : w.Registers r b row w') :
    (∃ f w₁, w.Registers r b row w₁ ∧ (create r "mux" b).run.run w' = (.error f, w₁)) ∨
    ∃ d w₁, w.Gains r b d { row with sharers := row.sharers + 1 } w₁ ∧
      w₁.uplinks = w.uplinks ∧ w₁.host = w.host ∧
      (create r "mux" b).run.run w' = (.ok d, w₁) := by
  rcases create_cases r "mux" b w' with
    ⟨f, discoveries, same, fails⟩ | ⟨listed, new, journal, creates⟩
  · exact .inl ⟨f, _, registers.aside w'.journal same, fails⟩
  · obtain ⟨x, found⟩ := Option.ne_none_iff_exists'.mp (registers.listed_iff.mp listed)
    have here : w'.registries.find? r = some { x with backends := x.backends ++ [b] } := by
      rw [registers.registries, if_pos rfl, found]
      rfl
    have unlisted := registers.absent
    rw [World.registry_of_find? found] at unlisted
    rw [World.registry_of_find? here] at new
    have kind : (w'.backend b).kind = row.kind := by
      rw [World.backend_of_find? registers.backend]
      rfl
    refine .inr ⟨_, _, ?_, ?_, ?_, creates⟩
    rotate_left
    · exact registers.uplinks
    · exact registers.host
    refine ⟨⟨x, found, unlisted, new, ?_⟩, fun r' other => ?_, registers.backend, fun b' other => ?_,
      (registers.sources _).symm.trans w'.discoveries.find?_next, ?_, fun d' other => ?_,
      registers.connections⟩
    · refine (Table.find?_update _ _ _ _).trans ?_
      rw [if_pos rfl, here]
      rfl
    · refine (Table.find?_update _ _ _ _).trans ?_
      rw [if_neg other.symm, registers.registries, if_neg other.symm]
    · exact (registers.backends b').trans (if_neg other.symm)
    · refine (Table.find?_set _ _ _ _).trans ?_
      rw [if_pos rfl, kind]
      rfl
    · refine (Table.find?_set _ _ _ _).trans ?_
      rw [if_neg other.symm]
      exact registers.sources d'

namespace Backend

variable {row : Backend}

theorem equip_cases (env : Env σ) (r : RegistryId) (channel : ChannelId)
    (known : w.backends.find? b = some row) (idle : row.live = []) (unused : row.made = []) :
    (∃ f w' n, w.Restores b w' ∧ w'.host = w.host ∧
      w'.backends.find? b = some { row with sharers := n } ∧
      (w.registries.find? r ≠ none → n = row.sharers) ∧
      (equip env r b channel).run.run w =
        (.error f, ((env.order (.shutChannel channel)).run w').2)) ∨
    ∃ d w', w.Gains r b d { row with sharers := row.sharers + 1 } w' ∧
      w'.uplinks = w.uplinks ∧ w'.host = w.host ∧
      (equip env r b channel).run.run w = (.ok d, w') := by
  unfold equip
  rw [run_tryThen, run_onFailure]
  rcases Registry.registers r known with ⟨f, fails⟩ | ⟨w₁, registers, succeeds⟩
  · obtain ⟨journal, noted⟩ := w.log_journal .warn "Failed to register MUX backend"
      [("error", f.message)]
    rw [fails]
    dsimp only
    rw [run_bind, run_log, noted]
    refine .inl ⟨f, { w with journal }, row.sharers,
      ⟨fun _ => rfl, fun _ => rfl, fun _ _ => rfl, rfl, fun x found => ?_⟩, rfl, known, fun _ => rfl, rfl⟩
    obtain rfl := Option.some.inj (known.symm.trans found)
    exact ⟨idle, unused⟩
  rw [succeeds]
  dsimp only
  rw [run_onFailure]
  rcases Discovery.gains registers with ⟨f, w₂, registers, fails⟩ | ⟨d, w₂, gained⟩
  · obtain ⟨journal, noted⟩ := w₂.log_journal .warn "Failed to create MUX discovery"
      [("error", f.message)]
    have registers := registers.aside journal fun _ => rfl
    obtain ⟨undone, n, ran, restores, host, back, kept⟩ := registers.unregister env idle unused
      (fun f => log .warn "Failed to unregister MUX backend" [("error", f.message)])
      fun f w => w.log_journal _ _ _
    rw [fails]
    dsimp only
    rw [run_bind, run_log, noted, run_bind, ran]
    exact .inl ⟨f, undone, n, restores, host, back, kept, rfl⟩
  · obtain ⟨gains, uplinks, host, creates⟩ := gained
    rw [creates]
    exact .inr ⟨d, w₂, gains, uplinks, host, rfl⟩

/-- A multiplexed backend as it is made. -/
def bare (r : RegistryId) (channel : ChannelId) (u : UplinkId) : Backend where
  part := .mux { registry := r, channel, uplink := u }

/-- A multiplexed backend that is registered and has its source. -/
def equipped (r : RegistryId) (channel : ChannelId) (u : UplinkId) (d : DiscoveryId) : Backend where
  sharers := 1
  part := .mux { registry := r, channel, uplink := u, discovery := some d }

/-- A backend is given up whose channel is open.  Everything else is as it was when the channel is shut
down, and then the creator lets go of the backend, which nobody else keeps unless the registry is gone. -/
def GivenUp (env : Env σ) (r : RegistryId) (b : BackendId) (channel : ChannelId) (u : UplinkId)
    (w w' : World σ) : Prop :=
  ∃ undone n, w.Restores b undone ∧ undone.host = w.host ∧
    undone.backends.find? b = some { bare r channel u with sharers := n } ∧
    (w.registries.find? r ≠ none → n = 0) ∧
    w' = ((release env (.backend b)).run ((env.order (.shutChannel channel)).run undone).2).2

theorem run_add (part : BackendPart) (w : World σ) : (add part).run w =
    (⟨w.backends.next⟩, { w with backends := (w.backends.add { part }).2 }) := rfl

theorem createMux_of_failure (r : RegistryId) {opener : OpenerId} {fd : Int} {f : Fault}
    (fails : (env.openChannel opener fd u).run.run w = (.error f, w')) :
    ∃ journal, (createMux env r opener fd u).run.run w = (.error f, { w' with journal }) := by
  unfold createMux
  dsimp only
  rw [run_tryThen, run_onFailure, fails]
  dsimp only
  rw [run_log, World.log_eq]
  exact ⟨_, rfl⟩

theorem createMux_cases (env : Env σ) (r : RegistryId) {opener : OpenerId} {fd : Int}
    (opens : (env.openChannel opener fd u).run.run w = (.ok channel, w')) :
    (∃ f w'', GivenUp env r ⟨w'.backends.next⟩ channel u w' w'' ∧
      (createMux env r opener fd u).run.run w = (.error f, w'')) ∨
    ∃ d w'', w'.Gains r ⟨w'.backends.next⟩ d (equipped r channel u d) w'' ∧
      w''.uplinks = w'.uplinks.update u (fun x => { x with backend := some ⟨w'.backends.next⟩ }) ∧
      w''.host = w'.host ∧
      (createMux env r opener fd u).run.run w = (.ok ⟨w'.backends.next⟩, w'') := by
  unfold createMux
  dsimp only
  rw [run_tryThen, run_onFailure, opens]
  dsimp only
  rw [run_actThen, run_add]
  dsimp only
  rw [run_actThen, run_modify, run_tryThen, run_onFailure]
  generalize made : World.updateUplink _ _ _ = w₁
  have known : w₁.backends.find? ⟨w'.backends.next⟩ = some (bare r channel u) := by
    rw [← made]
    exact (Table.find?_add _ _ _).trans (if_pos rfl)
  have first : w'.Restores ⟨w'.backends.next⟩ w₁ := by
    refine ⟨fun r' => ?_, fun d => ?_, fun b' other => ?_, ?_, fun x found => ?_⟩
    rotate_right
    · obtain rfl := Option.some.inj (known.symm.trans found)
      exact ⟨rfl, rfl⟩
    all_goals rw [← made]
    any_goals rfl
    exact (Table.find?_add _ _ _).trans (if_neg other.symm)
  rcases equip_cases env r channel known rfl rfl with
    ⟨f, undone, n, restores, host, back, kept, fails⟩ | ⟨d, w₂, gains, uplinks, host, equips⟩
  · rw [fails]
    refine .inl ⟨f, _, ⟨undone, n, first.trans restores, ?_, back, ?_, rfl⟩, rfl⟩
    · rw [host, ← made]
      rfl
    · rwa [first.registries] at kept
  · obtain ⟨journal, noted⟩ := World.log_journal
      (w₂.updateBackend ⟨w'.backends.next⟩ (·.withMux fun part => { part with discovery := some d }))
      .debug "MUX backend created"
      [("backend", Id.label (⟨w'.backends.next⟩ : BackendId)), ("fd", Text.Decimal.renderInt fd)]
    rw [equips]
    dsimp only
    rw [run_actThen, run_modify, run_actThen, run_log, noted, run_tryPure]
    have gained := (first.gains gains).updateBackend
      (·.withMux fun part => { part with discovery := some d }) rfl journal
    refine .inr ⟨d, _, gained, ?_, ?_, rfl⟩
    · rw [← made] at uplinks
      exact uplinks
    · rw [← made] at host
      exact host

theorem reap_sourceless (hosted : Hosted env) {part : MuxPart} (mux : row.part = .mux part)
    (sourceless : part.discovery = none) (w : World σ) :
    ∃ host journal, ((env.reap (.backend row)).run w).2 = { w with host, journal } := by
  cases hosted with
  | innermost _ reaps => exact Thought.program_quiet (reaps _) w
  | around _ _ reaps =>
    rw [reaps]
    unfold reap reapBackend
    dsimp only
    rw [mux]
    dsimp only
    rw [sourceless]
    exact ⟨w.host, w.journal, rfl⟩

theorem release_restores (hosted : Hosted env) (known : w.backends.find? b = some row)
    (idle : row.live = []) (unused : row.made = []) {part : MuxPart} (mux : row.part = .mux part)
    (sourceless : part.discovery = none) :
    w.Restores b ((release env (.backend b)).run w).2 ∧
      (row.sharers = 0 → ((release env (.backend b)).run w).2.backends.find? b = none) := by
  have item : w.item? (.backend b) = some (.backend row) := congrArg (Option.map Item.backend) known
  unfold release
  rw [run_bind, run_get]
  dsimp only
  rw [item]
  dsimp only [Item.sharers]
  cases alone : row.sharers with
  | zero =>
    dsimp only
    have still : w.retire (.backend b) = w.erase (.backend b) := by
      simp [World.retire, World.hush, item, Item.timer?, Loop.cancel?]
    rw [run_bind, run_modify, still]
    obtain ⟨host, journal, quiet⟩ := reap_sourceless hosted mux sourceless (w.erase (.backend b))
    have gone : (w.backends.erase b).find? b = none := (Table.find?_erase _ _ _).trans (if_pos rfl)
    rw [quiet]
    refine ⟨⟨fun _ => rfl, fun _ => rfl, fun b' other => ?_, rfl, fun x found => ?_⟩, fun _ => gone⟩
    · exact (Table.find?_erase _ _ _).trans (if_neg other.symm)
    · cases gone.symm.trans found
  | succ n =>
    refine ⟨⟨fun _ => rfl, fun _ => rfl, fun b' other => ?_, rfl, fun x found => ?_⟩,
      fun none => absurd none (Nat.succ_ne_zero n)⟩
    · exact (Table.find?_update _ _ _ _).trans (if_neg other.symm)
    · have here := (Table.find?_update _ _ _ _).symm.trans found
      rw [if_pos rfl, known] at here
      obtain rfl := Option.some.inj here
      exact ⟨idle, unused⟩

theorem GivenUp.restores (hosted : Hosted env) (up : GivenUp env r b channel u w w')
    (quiet : ∀ w, ∃ host journal,
      ((env.order (.shutChannel channel)).run w).2 = { w with host, journal }) :
    w.Restores b w' ∧ (w.registries.find? r ≠ none → w'.backends.find? b = none) := by
  obtain ⟨undone, n, restores, -, known, kept, rfl⟩ := up
  obtain ⟨host, journal, shut⟩ := quiet undone
  rw [shut]
  obtain ⟨released, gone⟩ := release_restores (w := { undone with host, journal }) hosted known rfl rfl rfl rfl
  refine ⟨restores.trans ?_, fun there => gone (kept there)⟩
  exact ⟨released.registries, released.sources, released.backends, released.connections, released.idle⟩

end Backend

/-! ## What a backend shares with its channel -/

namespace Uplink

variable {x x' x'' : Uplink} {token : Option Token}

def Lends (x : Uplink) (token : Option Token) : Prop :=
  x.token = if x.released then none else token

theorem GoesTo.refl (x : Uplink) : x.GoesTo x := ⟨id, .inl ⟨rfl, rfl⟩⟩

theorem GoesTo.trans (first : x.GoesTo x') (second : x'.GoesTo x'') : x.GoesTo x'' where
  released := second.released ∘ first.released
  token := by
    rcases second.token with ⟨token, released⟩ | gone
    · rw [token, released]
      exact first.token
    · exact .inr gone

theorem Lends.later (lends : x.Lends token) (goes : x.GoesTo x') : x'.Lends token := by
  rcases goes.token with ⟨same, released⟩ | ⟨gone, released⟩
  · rw [Lends, same, released]
    exact lends
  · rw [Lends, gone, if_pos released]

end Uplink

/-- Uplinks go on as uplinks do, and no backend comes to share another one. -/
structure World.KeepsUplinks (w w' : World σ) : Prop where
  uplink : ∀ {u x}, w.uplinks.find? u = some x → ∃ x', w'.uplinks.find? u = some x' ∧ x.GoesTo x'
  next : w.backends.next ≤ w'.backends.next
  backend : ∀ {b x'}, b.number < w.backends.next → w'.backends.find? b = some x' →
    ∃ x, w.backends.find? b = some x ∧ x'.uplink? = x.uplink?

namespace World.KeepsUplinks

theorem of_uplinks (same : w'.backends = w.backends)
    (uplink : ∀ {u x}, w.uplinks.find? u = some x →
      ∃ x', w'.uplinks.find? u = some x' ∧ x.GoesTo x') : w.KeepsUplinks w' where
  uplink := uplink
  next := Nat.le_of_eq (congrArg Table.next same.symm)
  backend {_ x'} _ found := ⟨x', same ▸ found, rfl⟩

theorem of_backends (same : w'.uplinks = w.uplinks) (next : w.backends.next ≤ w'.backends.next)
    (backend : ∀ {b x'}, b.number < w.backends.next → w'.backends.find? b = some x' →
      ∃ x, w.backends.find? b = some x ∧ x'.uplink? = x.uplink?) : w.KeepsUplinks w' where
  uplink {_ x} found := ⟨x, same ▸ found, .refl x⟩
  next := next
  backend := backend

theorem trans (first : w.KeepsUplinks w') (second : w'.KeepsUplinks w'') : w.KeepsUplinks w'' where
  uplink found := by
    obtain ⟨x', found', goes⟩ := first.uplink found
    obtain ⟨x'', found'', goes'⟩ := second.uplink found'
    exact ⟨x'', found'', goes.trans goes'⟩
  next := Nat.le_trans first.next second.next
  backend known found := by
    obtain ⟨x', found', same'⟩ := second.backend (Nat.lt_of_lt_of_le known first.next) found
    obtain ⟨x, found, same⟩ := first.backend known found'
    exact ⟨x, found, same'.trans same⟩

instance minds : MindsChannels (World.KeepsUplinks (σ := σ)) where
  trans := .trans
  aside _ uplinks backends := .of_uplinks backends fun {_ x} found => ⟨x, uplinks ▸ found, .refl x⟩
  createProxy _ _ _ _ _ := .of_uplinks rfl fun {_ x} found => ⟨x, found, .refl x⟩
  closeProxy _ _ := .of_uplinks rfl fun {_ x} found => ⟨x, found, .refl x⟩
  addUplink w y := by
    refine .of_uplinks rfl fun {u x} found => ⟨x, (Table.find?_add _ _ _).trans ?_, .refl x⟩
    rw [if_neg, found]
    rintro rfl
    cases w.uplinks.find?_next.symm.trans found
  uplink w u f goes := by
    refine .of_uplinks rfl fun {u' x} found => ?_
    rw [updateUplink, Table.find?_update]
    split
    · next same => exact ⟨f x, by rw [same, found]; rfl, goes x⟩
    · exact ⟨x, found, .refl x⟩
  addBackend w y := by
    refine .of_backends rfl (Table.next_add _ _ ▸ Nat.le_succ _) fun {b x'} known found => ?_
    rw [Table.find?_add, if_neg] at found
    · exact ⟨x', found, rfl⟩
    · rintro rfl
      exact Nat.lt_irrefl _ known
  backend w b f same := by
    refine .of_backends rfl (Nat.le_of_eq (Table.next_update _ _ _).symm) fun {b' x'} _ found => ?_
    rw [updateBackend, Table.find?_update] at found
    split at found
    · next here =>
      obtain ⟨x, known, rfl⟩ := Option.map_eq_some_iff.mp found
      exact ⟨x, here ▸ known, same x⟩
    · exact ⟨x', found, rfl⟩
  eraseBackend w b := by
    refine .of_backends rfl (Nat.le_refl _) fun {b' x'} _ found => ?_
    rw [erase, Table.find?_erase] at found
    split at found
    · cases found
    · exact ⟨x', found, rfl⟩

instance overlooksProxies : OverlooksProxies (Keeps (World.KeepsUplinks (σ := σ))) where
  proxy _ _ _ := .of_uplinks rfl fun {_ x} found => ⟨x, found, .refl x⟩

theorem together (hosted : Hosted env) : Together (Keeps World.KeepsUplinks) env :=
  hosted.together fun _ _ _ => MindsChannels.together

end World.KeepsUplinks

namespace Backend

theorem token?_of_uplink {x : Backend} (known : w.backends.find? b = some x)
    (shares : x.uplink? = some u) : token? w b = (w.uplink u).token := by
  rw [token?, World.backend_of_find? known]
  unfold uplink? at shares
  split at shares
  · next part mux =>
    obtain rfl := Option.some.inj shares
    rw [mux]
  · cases shares

theorem token?_later (hosted : Hosted env) {x : Backend} {y : Uplink} {token : Option Token}
    (known : w.backends.find? b = some x) (shares : x.uplink? = some u)
    (uplink : w.uplinks.find? u = some y) (lends : y.Lends token) {α : Type} {a : Act σ α}
    (reaction : Reaction env α a) {x' : Backend}
    (there : (a.run w).2.backends.find? b = some x') :
    token? (a.run w).2 b = if ((a.run w).2.uplink u).released then none else token := by
  have := World.KeepsUplinks.together hosted
  have kept : Keeps World.KeepsUplinks α a := reaction.holds
  have keeps : w.KeepsUplinks (a.run w).2 := kept w
  obtain ⟨x₀, known', same⟩ := keeps.backend (Table.lt_next known) there
  obtain rfl := Option.some.inj (known.symm.trans known')
  obtain ⟨y', uplink', goes⟩ := keeps.uplink uplink
  rw [token?_of_uplink there (same.trans shares), World.uplink_of_find? uplink']
  exact lends.later goes

theorem released_later (hosted : Hosted env) {y : Uplink} (known : w.uplinks.find? u = some y)
    {α : Type} {a : Act σ α} (reaction : Reaction env α a) :
    ((a.run ((Uplink.releaseToken u).run w).2).2.uplink u).released := by
  have := World.KeepsUplinks.together hosted
  have kept : Keeps World.KeepsUplinks α a := reaction.holds
  have released : ((Uplink.releaseToken u).run w).2.uplinks.find? u =
      some { y with token := none, released := true } := by
    refine (Table.find?_update _ _ _ _).trans ?_
    rw [if_pos rfl, known]
    rfl
  obtain ⟨y', known', goes⟩ := (kept _).uplink released
  rw [World.uplink_of_find? known']
  exact goes.released rfl

/-- If a multiplexed backend cannot be created, whatever came to be is given up again: after its channel
was opened nobody was called but to shut the channel down, once, and by then registries and sources
were as just after the opening.  If it can, the registry has one backend and one source more, and the
backend gives what the upper layer handed in until its channel is released, and never afterwards. -/
theorem openMux_all_or_nothing (hosted : Hosted env) (w : World σ) (r : RegistryId)
    (opener : OpenerId) (fd : Int) (token : Option Token) :
    let u : UplinkId := ⟨w.uplinks.next⟩
    let opened := (env.openChannel opener fd u).run.run
      { w with uplinks := (w.uplinks.add { token }).2 }
    let created := (openMux env r opener fd token).run.run w
    let b : BackendId := ⟨opened.2.backends.next⟩
    (∀ f, opened.1 = .error f →
      created.1 = .error f ∧ ∃ journal, created.2 = { opened.2 with journal }) ∧
    ∀ channel, opened.1 = .ok channel →
      (∀ f, created.1 = .error f →
        GivenUp env r b channel u opened.2 created.2 ∧
        ((∀ v, ∃ host journal,
            ((env.order (.shutChannel channel)).run v).2 = { v with host, journal }) →
          opened.2.Restores b created.2 ∧
          (opened.2.registries.find? r ≠ none → created.2.backends.find? b = none))) ∧
      ∀ b', created.1 = .ok b' →
        b' = b ∧ opened.2.backends.find? b = none ∧ created.2.host = opened.2.host ∧
        (∃ d, opened.2.Gains r b d (equipped r channel u d) created.2) ∧
        ∀ {α : Type} {a : Act σ α}, Reaction env α a → ∀ x,
          ((a.run created.2).2.backends.find? b = some x →
            token? (a.run created.2).2 b =
              if ((a.run created.2).2.uplink u).released then none else token) ∧
          ∀ {β : Type} {c : Act σ β}, Reaction env β c →
            let v := (c.run ((Uplink.releaseToken u).run (a.run created.2).2).2).2
            v.backends.find? b = some x → token? v b = none := by
  intro u opened created b
  have opens : (env.openChannel opener fd u).run.run
    { w with uplinks := (w.uplinks.add { token }).2 } = opened := rfl
  have creates : (createMux env r opener fd u).run.run
    { w with uplinks := (w.uplinks.add { token }).2 } = created := rfl
  clear_value opened created
  obtain ⟨result, w₁⟩ := opened
  refine ⟨?_, ?_⟩
  · rintro f rfl
    obtain ⟨journal, fails⟩ := createMux_of_failure r opens
    rw [← creates, fails]
    exact ⟨rfl, journal, rfl⟩
  rintro channel rfl
  rcases createMux_cases env r opens with
    ⟨f, w₂, up, fails⟩ | ⟨d, w₂, gains, uplinks, host, succeeds⟩
  · obtain rfl := creates.symm.trans fails
    exact ⟨fun _ _ => ⟨up, up.restores hosted⟩, nofun⟩
  obtain rfl := creates.symm.trans succeeds
  refine ⟨nofun, ?_⟩
  rintro _ ⟨⟩
  have := World.KeepsUplinks.together hosted
  have opening : Keeps World.KeepsUplinks _ (env.openChannel opener fd u).run :=
    Served.openChannel opener fd u
  have keeps := opening { w with uplinks := (w.uplinks.add { token }).2 }
  rw [opens] at keeps
  obtain ⟨y, row, goes⟩ := keeps.uplink ((Table.find?_add w.uplinks { token } u).trans (if_pos rfl))
  have row' : w₂.uplinks.find? u = some { y with backend := some b } := by
    rw [uplinks, Table.find?_update, if_pos rfl, row]
    rfl
  have lends : y.Lends token := Uplink.Lends.later (show Uplink.Lends { token } token from rfl) goes
  refine ⟨rfl, w₁.backends.find?_next, host, ⟨d, gains⟩, fun {α a} reaction x => ⟨fun there => ?_, ?_⟩⟩
  · exact token?_later hosted gains.backend rfl row' lends reaction there
  · intro β c reaction' v there
    have kept : Keeps World.KeepsUplinks α a := reaction.holds
    obtain ⟨y', known, -⟩ := (kept w₂).uplink row'
    have whole : Reaction env β (a >>= fun _ => Uplink.releaseToken u >>= fun _ => c) :=
      .bind reaction fun _ => .bind (.basic (.inr (.releaseToken u))) fun _ => reaction'
    refine (token?_later hosted gains.backend rfl row' lends whole there).trans ?_
    exact if_pos (released_later hosted known reaction')

end Backend

def spoilingHost : Env Unit :=
  { silentHost with
    order := fun _ => modify (·.note "host" "order" [])
    openChannel := fun opener _ _ => ExceptT.mk do
      if opener = ⟨2⟩ then
        let _ ← (Registry.destroy silentHost ⟨1⟩).run
        return .ok ⟨1⟩
      else return .ok ⟨1⟩
    reap := reap silentHost }

theorem spoilingHost_hosted : Hosted spoilingHost := by
  refine .around silentHost_hosted ⟨fun _ _ => .pure _, fun _ _ => .pure _, fun _ => .pure _,
    fun _ => ?_, fun _ _ _ => .pure _, fun opener _ _ => ?_⟩ rfl
  · exact .basic (.inl (.think fun w => ((), w.host, (w.note "host" "order" []).journal)))
  · dsimp only [spoilingHost]
    split
    · exact .bind (.basic (.inr (.destroyRegistry _))) fun _ => .pure _
    · exact .pure _

def founded : World Unit := ((Registry.create {} ⟨1⟩ none).run { host := () }).2

def openedBy (opener : OpenerId) : Except Fault BackendId × World Unit :=
  (Backend.openMux spoilingHost ⟨1⟩ opener 3 (some "ui")).run.run founded

theorem spoilingHost_opens :
    (openedBy ⟨2⟩).1.isOk = false ∧ (openedBy ⟨2⟩).2.journal.length = 1 ∧
      (openedBy ⟨2⟩).2.backends.find? ⟨1⟩ = none ∧
    Backend.token? (openedBy ⟨1⟩).2 ⟨1⟩ = some "ui" ∧
      Backend.token? ((Uplink.releaseToken ⟨1⟩).run (openedBy ⟨1⟩).2).2 ⟨1⟩ = none := by
  obtain ⟨-, fails⟩ :=
    Backend.openMux_all_or_nothing spoilingHost_hosted founded ⟨1⟩ ⟨2⟩ 3 (some "ui")
  obtain ⟨-, succeeds⟩ :=
    Backend.openMux_all_or_nothing spoilingHost_hosted founded ⟨1⟩ ⟨1⟩ 3 (some "ui")
  obtain ⟨-, restores⟩ := (fails ⟨1⟩ rfl).1 Registry.closedFault rfl
  obtain ⟨-, -, -, ⟨d, gains⟩, lends⟩ := (succeeds ⟨1⟩ rfl).2 ⟨1⟩ rfl
  obtain ⟨gives, takes⟩ := lends (.pure ()) (Backend.equipped ⟨1⟩ ⟨1⟩ ⟨1⟩ d)
  refine ⟨rfl, rfl, (restores fun v => ⟨v.host, _, rfl⟩).2 nofun, ?_, ?_⟩
  · exact gives gains.backend
  · exact takes (.pure ()) gains.backend

end DroneControl
