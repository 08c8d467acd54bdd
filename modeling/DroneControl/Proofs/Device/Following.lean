import DroneControl.Proofs.Device.Passing

/-!
# How an entry follows its connection

The event is told, the entry changes, and the controller passes it on, all before anybody else may act.
A connection that could not have the slot is not heard at all.
-/

namespace DroneControl

open Picture

variable {σ : Type} {r r' : RegistryId} {h h' : DeviceHandle} {p : Picture} {env : Env σ}

theorem Device.claim_eq_some {d d' : Device} {c : ConnectionId} (claims : d.claim c = some d') :
    (∀ own, d.connection = some own → own = c) ∧ d' = { d with connection := some c } := by
  unfold Device.claim at claims
  cases hc : d.connection with
  | none => simp_all
  | some own =>
      simp only [hc, Option.ite_none_right_eq_some, Option.some.injEq] at claims
      obtain ⟨rfl, rfl⟩ := claims
      exact ⟨fun _ same => (Option.some.inj same).symm, by simp [← hc]⟩

theorem Device.claim_eq_none {d : Device} {c : ConnectionId} (claims : d.claim c = none) :
    ∃ own, d.connection = some own ∧ own ≠ c := by
  unfold Device.claim at claims
  cases hc : d.connection with
  | none => simp [hc] at claims
  | some own => exact ⟨own, rfl, by simpa [hc] using claims⟩

/-- The entry has become the connection's own, and that is noted of the event. -/
def World.heed (w : World σ) (r : RegistryId) (h : DeviceHandle) (c : ConnectionId)
    (event : ConnectionEvent) (d : Device) : World σ :=
  (w.updateRegistry r (·.setDevice h d)).mark
    (.heeded r h c event d.observer (Entry.openInterface? w d))

theorem World.heed_goesOn (w : World σ) (r : RegistryId) (h : DeviceHandle) (c : ConnectionId)
    (event : ConnectionEvent) (d : Device) (c' : ConnectionId) : GoesOn c' w (w.heed r h c event d) :=
  .trans (.of_same rfl rfl : GoesOn c' w (w.updateRegistry r (·.setDevice h d))) (.mark _ rfl nofun)

namespace Entry

variable (event : ConnectionEvent)

theorem run_claim (complaint : String) (r : RegistryId) (h : DeviceHandle) (c : ConnectionId)
    (w : World σ) :
    (claim complaint r h c event).run w =
      match (w.registry r).device? h with
      | none => (none, w.mark (.ignored r h c event))
      | some d =>
        match d.claim c with
        | some d => (some d, w.heed r h c event d)
        | none =>
          (none, (w.mark (.ignored r h c event)).log .warn complaint
            [("device", h.label), ("conn", c.label)]) := by
  unfold claim
  simp only [run_bind, run_get]
  cases (w.registry r).device? h with
  | none => rfl
  | some d =>
      dsimp only
      cases d.claim c <;> rfl

theorem picture_setDevice {w : World σ} {d : Device} (hd : (w.registry r').device? h' = some d)
    (e : Device) : (w.updateRegistry r' (·.setDevice h' e)).picture =
      w.picture.setEntry r' h' (some e) :=
  w.picture_setEntry (World.find?_of_entry hd) (fun _ => Registry.device?_setDevice _ _ _ _) rfl

theorem picture_heed {w : World σ} {d : Device} (hd : (w.registry r').device? h' = some d)
    (c : ConnectionId) (e : Device) :
    (w.heed r' h' c event e).picture = w.picture.setEntry r' h' (some e) := by
  unfold World.heed
  rw [World.picture_mark, after_aside _ (by simp [Occurrence.topic]), picture_setDevice hd]

theorem picture_ignored (w : World σ) (c : ConnectionId) :
    (w.mark (.ignored r' h' c event)).picture = w.picture :=
  (w.picture_mark _).trans (after_aside _ (by simp [Occurrence.topic]))

theorem run_claim_of (complaint : String) {c : ConnectionId} {w : World σ} {d d' : Device}
    (hd : (w.registry r').device? h' = some d) (claims : d.claim c = some d') :
    (claim complaint r' h' c event).run w = (some d', w.heed r' h' c event d') := by
  rw [run_claim, hd]
  dsimp only
  rw [claims]

theorem device?_reshare (w : World σ) (f : Nat → Nat) (k : Kept) :
    ((w.reshare f k).registry r').device? h' = (w.registry r').device? h' :=
  congrArg (fun p : Picture => p.entry r' h') (w.picture_reshare f k)

variable (env) in
theorem run_keptClaim_of (complaint : String) {c : ConnectionId} {w : World σ} {d d' : Device}
    (hd : (w.registry r').device? h' = some d) (claims : d.claim c = some d') :
    (ifKept env (.registry r') none (claim complaint r' h' c event)).run w =
      (some d', ((w.reshare (· + 1) (.registry r')).heed r' h' c event d').reshare
        (· - 1) (.registry r')) := by
  have here := World.find?_of_entry hd
  let row : Registry := { w.registry r' with sharers := (w.registry r').sharers + 1 }
  have item : ((w.reshare (· + 1) (.registry r')).heed r' h' c event d').item?
      (.registry r') = some (.registry (row.setDevice h' d')) := by
    simp only [World.item?, World.heed, World.mark, World.updateRegistry, World.reshare,
      Table.find?_update, here, if_true, Option.map_some, row]
  rw [run_ifKept, if_pos (by simp [World.isKept, World.item?, here]), run_keeping,
    run_claim_of event complaint ((device?_reshare w _ _).trans hd) claims,
    run_release item (Nat.succ_ne_zero _)]

variable (env) in
theorem run_keptClaim (complaint : String) {c : ConnectionId} {w : World σ} {d d' : Device}
    (hd : (w.registry r').device? h' = some d) (claims : d.claim c = some d') :
    ∃ w' : World σ,
      (ifKept env (.registry r') none (claim complaint r' h' c event)).run w = (some d', w') ∧
        w'.picture = w.picture.setEntry r' h' (some d') ∧ ∀ c', GoesOn c' w w' := by
  refine ⟨_, run_keptClaim_of env event complaint hd claims, ?_, fun c' => ?_⟩
  · rw [World.picture_reshare, picture_heed event ((device?_reshare w _ _).trans hd),
      World.picture_reshare]
  · have kept : GoesOn c' w (w.reshare (· + 1) (.registry r')) := .of_same rfl rfl
    exact (kept.trans (World.heed_goesOn _ _ _ _ _ _ c')).trans (.of_same rfl rfl)

theorem run_claim_stale (complaint : String) {c : ConnectionId} {w : World σ}
    (stale : ∀ d, (w.registry r').device? h' = some d → d.claim c = none) :
    ∃ w' : World σ, (claim complaint r' h' c event).run w = (none, w') ∧ w'.picture = w.picture ∧
      (∀ c', GoesOn c' w w') ∧ w'.registries = w.registries := by
  have ignored : ∀ c', GoesOn c' w (w.mark (.ignored r' h' c event)) := fun c' => .mark w rfl nofun
  rw [run_claim]
  cases hd : (w.registry r').device? h' with
  | none => exact ⟨_, rfl, picture_ignored event w c, ignored, rfl⟩
  | some d =>
      simp only [stale d hd]
      refine ⟨_, rfl, (World.picture_log _ _ _ _).trans (picture_ignored event w c), fun c' => ?_,
        World.log_registries _ _ _ _⟩
      exact (ignored c').trans (.of_same (World.log_connections _ _ _ _) (World.log_history _ _ _ _))

variable (env) in
theorem run_keptClaim_stale (complaint : String) {c : ConnectionId} {w : World σ}
    (stale : ∀ d, (w.registry r').device? h' = some d → d.claim c = none) :
    ∃ w' : World σ,
      (ifKept env (.registry r') none (claim complaint r' h' c event)).run w = (none, w') ∧
        w'.picture = w.picture ∧ ∀ c', GoesOn c' w w' := by
  rw [run_ifKept]
  split
  · next isKept =>
      obtain ⟨x, hx⟩ := Option.isSome_iff_exists.mp
        (by simpa [World.isKept, World.item?] using isKept : (w.registries.find? r').isSome)
      let kept := w.reshare (· + 1) (.registry r')
      have found : kept.registries.find? r' = some { x with sharers := x.sharers + 1 } := by
        change (w.registries.update r' _).find? r' = _
        rw [Table.find?_update, if_pos rfl, hx]
        rfl
      have stale' : ∀ d, (kept.registry r').device? h' = some d → d.claim c = none := by
        intro d hd
        refine stale d ?_
        rw [World.registry_of_find? hx]
        rw [World.registry_of_find? found] at hd
        exact hd
      obtain ⟨w', claiming, picture, goesOn, registries⟩ := run_claim_stale event complaint stale'
      have item : w'.item? (.registry r') =
          some (.registry { x with sharers := x.sharers + 1 }) := by
        simp [World.item?, registries, found]
      refine ⟨w'.reshare (· - 1) (.registry r'), ?_, ?_, fun c' => ?_⟩
      · rw [run_keeping]
        change (((claim complaint r' h' c event).run kept).1,
          ((release env (.registry r')).run ((claim complaint r' h' c event).run kept).2).2) = _
        rw [claiming, run_release item (Nat.succ_ne_zero _)]
      · rw [World.picture_reshare, picture, World.picture_reshare]
      · have held : GoesOn c' w kept := .of_same rfl rfl
        exact (held.trans (goesOn c')).trans (.of_same rfl rfl)
  · exact ⟨w, rfl, rfl, fun c' => .refl w⟩

/-- What is true when an event has been told to an entry and nobody else has acted yet. -/
structure Telling (p : Picture) (w : World σ) (r : RegistryId) (h : DeviceHandle)
    (c : ConnectionId) (event : ConnectionEvent) : Prop where
  orderly : p.Orderly
  lawful : w.Lawful
  shown : w.picture = p.after (.told c event)
  sink : p.sink c = some (.entry r h)
  spared : ¬p.givenUp c

namespace Telling

variable {w w' : World σ} {c : ConnectionId} {event : ConnectionEvent}

theorem entry (telling : Telling p w r' h' c event) :
    (w.registry r').device? h' = p.entry r' h' := by
  change w.picture.entry r' h' = _
  rw [telling.shown]
  rfl

theorem unseen (telling : Telling p w r' h' c event) (picture : w'.picture = w.picture)
    (goesOn : ∀ c', GoesOn c' w w') : Telling p w' r' h' c event where
  orderly := telling.orderly
  lawful := GoesOn.lawful goesOn telling.lawful
  shown := picture.trans telling.shown
  sink := telling.sink
  spared := telling.spared

theorem unheard (telling : Telling p w r' h' c event) (underway : Underway (p.told c))
    (stale : ∀ d, (w.registry r').device? h' = some d → d.claim c = none) :
    Along r h p w := by
  refine ⟨?_, telling.lawful⟩
  rw [telling.shown]
  exact .unheard telling.orderly telling.sink ⟨underway, telling.spared⟩
    (fun d hd => Device.claim_eq_none (stale d (telling.entry.trans hd))) event

theorem stale_or_claimed (telling : Telling p w r' h' c event) :
    (∀ d, (w.registry r').device? h' = some d → d.claim c = none) ∨
      ∃ d, p.entry r' h' = some d ∧ (∀ own, d.connection = some own → own = c) ∧
        d.claim c = some { d with connection := some c } := by
  rw [telling.entry]
  cases hd : p.entry r' h' with
  | none => exact .inl (by simp)
  | some d =>
      cases claims : d.claim c with
      | none => exact .inl fun d' same => Option.some.inj same ▸ claims
      | some d' =>
          obtain ⟨own, rfl⟩ := Device.claim_eq_some claims
          exact .inr ⟨d, rfl, own, claims⟩

theorem ignored (telling : Telling p w r' h' c event) (underway : Underway (p.told c))
    (stale : ∀ d, (w.registry r').device? h' = some d → d.claim c = none)
    (picture : w'.picture = w.picture) (goesOn : ∀ c', GoesOn c' w w') : Along r h p w' := by
  have later := telling.unseen picture goesOn
  exact later.unheard underway fun d hd => stale d (by rw [telling.entry, ← later.entry, hd])

structure Reaches (p : Picture) (d : Device) (k : Option ControllerId) : Prop where
  observer : ∀ k', k = some k' → d.observer = some k'
  present : ∀ k', k = some k' → (p.device k').isSome
  silent : k = none → ∀ k', d.observer = some k' → p.device k' = none

theorem reaches_present {d : Device} (device : w.picture.device = p.device) :
    Reaches p d (w.present d.observer) where
  observer _ present := (World.present_eq_some.mp present).1
  present _ present := device ▸ (World.present_eq_some.mp present).2
  silent gone _ same := device ▸ World.present_eq_none gone same

/-! ### What an entry hears of its connection -/

variable {d : Device} {k : Option ControllerId}

/-- The attempt has begun. -/
def beginning (telling : Telling p w r' h' c .connecting) (told : p.told c = [])
    (hd : p.entry r' h' = some d) (own : ∀ own, d.connection = some own → own = c)
    (reaches : Reaches p d k) (ready : Bool) : Hearing p r' h' where
  connection := c
  event := .connecting
  milestone := .connecting
  notice := .connecting
  ready := ready
  observer := k
  before := d
  after := { d with connection := some c }
  sink := telling.sink
  spared := telling.spared
  event_milestone := rfl
  notice_milestone := rfl
  continues := told ▸ ⟨.full, by simp [Course.script]⟩
  entry := hd
  claims := own
  own _ same := (Option.some.inj same).symm
  observed _ := id
  passed := reaches.observer
  present := reaches.present
  silent := reaches.silent
  leaves := .rfl
  leaving _ := nofun
  heeds slot := by
    obtain ⟨⟨state, before⟩, pipe, interface⟩ := slot.bare hd own
      ⟨telling.sink, .inl told, telling.spared⟩ (by simp [told])
    rw [told]
    exact ⟨fun _ => ⟨rfl, rfl, state, by simp [pipe], by simp [interface]⟩,
      fun _ => ⟨fun _ => by simp, fun later => absurd later before, by simp⟩,
      fun ended => absurd (.inr (.inl rfl)) ended⟩
  open_interface _ := nofun

/-- The connection is established, and there is whatever interface. -/
def establishing {pipe : PipeId} {api : DeviceApi}
    (telling : Telling p w r' h' c (.connected pipe api)) (told : p.told c = [.connecting])
    (hd : p.entry r' h' = some d) (own : ∀ own, d.connection = some own → own = c)
    (reaches : Reaches p d k) (i : Option InterfaceId) {ready : Bool}
    (opened : d.interface = none → ready = true) : Hearing p r' h' where
  connection := c
  event := .connected pipe api
  milestone := .connected
  notice := .connected api
  ready := ready
  observer := k
  before := d
  after := { established { d with connection := some c } pipe api with interface := i }
  sink := telling.sink
  spared := telling.spared
  event_milestone := rfl
  notice_milestone := rfl
  continues := told ▸ ⟨.full, by simp [Course.script]⟩
  entry := hd
  claims := own
  own _ same := (Option.some.inj same).symm
  observed _ := id
  passed := reaches.observer
  present := reaches.present
  silent := reaches.silent
  leaves := by
    unfold established
    dsimp only
    split <;> simp_all
  leaving _ := nofun
  heeds _ := by
    rw [told]
    refine ⟨fun _ => ⟨rfl, rfl, ?_, fun _ => rfl, fun _ => rfl⟩, fun _ => ⟨?_, fun _ => rfl, ?_⟩,
      fun ended => absurd (.inr (.inr rfl)) ended⟩
    · unfold established
      dsimp only
      split <;> nofun
    · unfold established
      dsimp only
      split <;> nofun
    · exact fun _ => ⟨rfl, by simp [established, Occurrence.pipe?]⟩
  open_interface slot _ := by
    obtain ⟨-, -, interface⟩ := slot.bare hd own
      ⟨telling.sink, .inr (.inl told), telling.spared⟩ (by simp [told])
    exact opened interface

theorem ne_connected {milestones : List Milestone} {m : Milestone}
    (continues : Continues milestones m) (ended : ¬Underway (milestones ++ [m])) :
    m ≠ .connected := by
  rintro rfl
  refine ended ?_
  rcases continues.cases with ⟨-, same⟩ | ⟨told, -⟩ | ⟨-, same⟩ | ⟨-, same⟩ | ⟨-, same⟩
  · contradiction
  · exact .inr (.inr (by simp [told]))
  all_goals contradiction

/-- The connection has ended. -/
def ending (telling : Telling p w r' h' c event) {m : Milestone}
    (reached : event.milestone? = some m) (continues : Continues (p.told c) m)
    (ended : ¬Underway (p.told c ++ [m])) (hd : p.entry r' h' = some d)
    (own : ∀ own, d.connection = some own → own = c) (reaches : Reaches p d k)
    {notice : DeviceEvent} (passes : notice.milestone? = some m)
    (stated : notice.end? = some (decide (d.state = .removing))) (ready : Bool) : Hearing p r' h' where
  connection := c
  event := event
  milestone := m
  notice := notice
  ready := ready
  observer := k
  before := d
  after := { d with connection := some c }.cleared
  sink := telling.sink
  spared := telling.spared
  event_milestone := reached
  notice_milestone := passes
  continues := continues
  entry := hd
  claims := own
  own _ same := by cases same
  observed _ same := by cases same
  passed := reaches.observer
  present := reaches.present
  silent := reaches.silent
  leaves := by
    unfold Device.cleared
    dsimp only
    split <;> simp_all
  leaving removing same := by
    obtain rfl := Option.some.inj (stated.symm.trans same)
    exact decide_eq_true_iff
  heeds _ := by
    refine ⟨fun underway => absurd underway ended, fun underway => absurd underway ended,
      fun _ => ⟨rfl, rfl, rfl, rfl, ?_⟩⟩
    unfold Device.cleared
    dsimp only
    split <;> simp
  open_interface _ same := absurd same (ne_connected continues ended)

end Telling

variable {w : World σ} {c : ConnectionId} [u : Upheld (Keeps (Abides r h)) env]

theorem pass_connecting_along (telling : Telling p w r' h' c .connecting) (told : p.told c = []) :
    Along r h p ((pass env r' h' c .connecting .connecting).run w).2 := by
  unfold pass
  rcases telling.stale_or_claimed with stale | ⟨d, hd, own, claims⟩
  · obtain ⟨w', runs, picture, goesOn⟩ :=
      run_keptClaim_stale env .connecting "Event from a stale connection ignored" stale
    rw [run_bind_of runs]
    exact telling.ignored (.inl told) stale picture goesOn
  · obtain ⟨w', runs, picture, goesOn⟩ := run_keptClaim env .connecting
      "Event from a stale connection ignored" (telling.entry.trans hd) claims
    rw [run_bind_of runs]
    have lawful : w'.Lawful := GoesOn.lawful goesOn telling.lawful
    obtain ⟨ready, along⟩ : ∃ ready, _ → Along r h _ _ :=
      Controller.notify?_along env (k := d.observer) (c := c) (e := .connecting) (by simp)
        lawful
    rw [telling.shown] at picture
    have device : w'.picture.device = p.device := by
      rw [picture]
      rfl
    let x := telling.beginning told hd own (Telling.reaches_present device) ready
    have heard : x.result = w'.picture.notice (w'.present d.observer) c .connecting ready := by
      rw [picture]
      rfl
    have follows : Follows r h p x.result := x.follows telling.orderly fun _ => Option.some_ne_none _
    rw [heard] at follows
    exact (along follows.orderly).from follows

theorem pass_link_along {status : LinkStatus} (telling : Telling p w r' h' c (.link status))
    (told : p.told c = [.connecting, .connected]) :
    Along r h p ((pass env r' h' c (.link status) (.link status)).run w).2 := by
  unfold pass
  rcases telling.stale_or_claimed with stale | ⟨d, hd, own, claims⟩
  · obtain ⟨w', runs, picture, goesOn⟩ :=
      run_keptClaim_stale env (.link status) "Event from a stale connection ignored" stale
    rw [run_bind_of runs]
    exact telling.ignored (.inr (.inr told)) stale picture goesOn
  · obtain ⟨w', runs, picture, goesOn⟩ := run_keptClaim env (.link status)
      "Event from a stale connection ignored" (telling.entry.trans hd) claims
    rw [run_bind_of runs]
    have lawful : w'.Lawful := GoesOn.lawful goesOn telling.lawful
    obtain ⟨ready, along⟩ : ∃ ready, _ → Along r h _ _ :=
      Controller.notify?_along env (k := d.observer) (c := c) (e := .link status) (by simp)
        lawful
    have follows : Follows r h p w'.picture := by
      rw [picture, telling.shown, after_link]
      exact .reclaim telling.orderly telling.sink telling.spared told hd own
    rw [notice_link] at along
    exact (along follows.orderly).from follows

omit u in
variable (env) in
theorem run_establish (pipe : PipeId) (api : DeviceApi) (d : Device) {e : Device} {w : World σ}
    (he : (w.registry r').device? h' = some e) :
    ∃ w' : World σ,
      (establish env r' h' c pipe api d).run w =
        (Controller.notify? env d.observer c (.connected api)).run w' ∧
      w'.picture = w.picture.setEntry r' h' (some (established d pipe api)) ∧
      w'.connections = w.connections ∧ w'.history = w.history := by
  unfold establish
  rw [run_bind, run_modify, run_bind, run_log]
  refine ⟨_, rfl, ?_, World.log_connections _ _ _ _, World.log_history _ _ _ _⟩
  rw [World.picture_log, picture_setDevice he]

theorem connected_along {pipe : PipeId} {api : DeviceApi}
    (telling : Telling p w r' h' c (.connected pipe api)) (told : p.told c = [.connecting]) :
    Along r h p ((connected env r' h' c pipe api).run w).2 := by
  unfold connected
  rw [run_ifKept]
  split
  swap
  · next gone =>
      refine telling.unheard (.inr (.inl told)) fun d hd => ?_
      exact absurd (by simp [World.isKept, World.item?, World.find?_of_entry hd]) gone
  rw [run_keeping]
  dsimp only
  refine Along.run ?_ (release env (.registry r'))
  replace telling : Telling p (w.reshare (· + 1) (.registry r')) r' h' c (.connected pipe api) :=
    telling.unseen (w.picture_reshare _ _) fun _ => .of_same rfl rfl
  rcases telling.stale_or_claimed with stale | ⟨d, hd, own, claims⟩
  · obtain ⟨w', runs, picture, goesOn, -⟩ :=
      run_claim_stale (.connected pipe api) "Connected from a stale connection ignored" stale
    rw [run_bind_of runs]
    exact telling.ignored (.inr (.inl told)) stale picture goesOn
  · have slot := telling.entry.trans hd
    have picture := picture_heed (.connected pipe api) slot c { d with connection := some c }
    have goesOn := World.heed_goesOn (w.reshare (· + 1) (.registry r')) r' h' c (.connected pipe api)
      { d with connection := some c }
    rw [run_bind_of (run_claim_of (.connected pipe api) "Connected from a stale connection ignored"
      slot claims)]
    dsimp only
    generalize (w.reshare (· + 1) (.registry r')).heed r' h' c (.connected pipe api)
      { d with connection := some c } = claimed at picture goesOn
    have he : (claimed.registry r').device? h' = some { d with connection := some c } := by
      change claimed.picture.entry r' h' = _
      rw [picture, setEntry_self]
    obtain ⟨w', runs, picture', connections', history'⟩ :=
      run_establish env (c := c) pipe api { d with connection := some c } he
    rw [runs]
    have result : w'.picture = (p.after (.told c (.connected pipe api))).setEntry r' h'
        (some (established { d with connection := some c } pipe api)) := by
      rw [picture', picture, telling.shown, setEntry_setEntry]
    have device : w'.picture.device = p.device := by
      rw [result]
      rfl
    have entry : (w'.registry r').device? h' =
        some (established { d with connection := some c } pipe api) := by
      change w'.picture.entry r' h' = _
      rw [result, setEntry_self]
    have reaches : Telling.Reaches p d (w'.present d.observer) := Telling.reaches_present device
    -- Whoever is there gets an interface first if there is none yet.
    refine Controller.notify?_connected_along entry rfl ?_ ?_ ?_ ?_ ?_
    · exact GoesOn.lawful
        (fun c' => (goesOn c').trans (.of_same connections' history')) telling.lawful
    · intro k' hk x hx
      have sits : p.device k' = some (x.registry, x.device) := by
        rw [← device]
        simp [World.picture, hx]
      exact telling.orderly.faithful k' _ _ _ _ (telling.orderly.seated k' _ _ sits)
        (telling.orderly.observed r' h' d k' hd hk)
    · intro gone
      rw [result]
      let x := telling.establishing told hd own (gone ▸ reaches) d.interface
        fun _ => (rfl : true = true)
      exact x.follows telling.orderly fun _ => Option.some_ne_none _
    · intro k' i present bare
      rw [result, setEntry_setEntry]
      let x := telling.establishing told hd own (present ▸ reaches) (some i)
        fun _ => (rfl : true = true)
      exact x.follows telling.orderly fun _ => Option.some_ne_none _
    · intro k' ready present busy
      rw [result]
      have opened : d.interface = none → ready = true := by
        intro bare
        change d.interface.isSome at busy
        simp [bare] at busy
      let x := telling.establishing told hd own (present ▸ reaches) d.interface opened
      exact x.follows telling.orderly fun _ => Option.some_ne_none _

/-! ## The end of a connection -/

/-- Connections and entries, controllers and backends are as they were, and the picture is. -/
structure Unseen (w w' : World σ) : Prop where
  connections : w'.connections = w.connections
  registries : w'.registries = w.registries
  controllers : w'.controllers = w.controllers
  backends : w'.backends = w.backends
  picture : w'.picture = w.picture
  goesOn : ∀ c, GoesOn c w w'

theorem Unseen.closed : Closed (Keeps (σ := σ) Unseen) := by
  refine Keeps.closed (fun w => ⟨rfl, rfl, rfl, rfl, rfl, fun _ => .refl w⟩) fun first second => ?_
  exact ⟨second.connections.trans first.connections, second.registries.trans first.registries,
    second.controllers.trans first.controllers, second.backends.trans first.backends,
    second.picture.trans first.picture, fun c => (first.goesOn c).trans (second.goesOn c)⟩

theorem Unseen.of_same {w w' : World σ} (connections : w'.connections = w.connections)
    (history : w'.history = w.history) (registries : w'.registries = w.registries)
    (controllers : w'.controllers = w.controllers) (backends : w'.backends = w.backends) :
    Unseen w w' :=
  ⟨connections, registries, controllers, backends,
    World.picture_congr connections history registries controllers,
    fun _ => .of_same connections history⟩

theorem Unseen.log (s : Severity) (message : String) (fields : List (String × String)) :
    Holds (Keeps Unseen) (log s message fields : Act σ Unit) := by
  refine ⟨fun w => ?_⟩
  simp only [run_log, World.log]
  split <;> exact .of_same rfl rfl rfl rfl rfl

omit u in
theorem release_unseen (quiet : Quiet env) (i : InterfaceId) :
    Holds (Keeps Unseen) (release env (.interface i)) := by
  refine ⟨fun w => ?_⟩
  obtain ⟨_, _, _, _, same⟩ := quiet.run_release_interface i w
  rw [same]
  exact .of_same rfl rfl rfl rfl rfl

omit u in
theorem dropInterface_unseen (quiet : Quiet env) (d : Device) :
    Holds (Keeps Unseen) (dropInterface env d) := by
  have := Unseen.closed (σ := σ)
  have logged := Unseen.log (σ := σ)
  have updated : ∀ i f, Holds (Keeps Unseen) (modify (·.updateInterface i f) : Act σ Unit) :=
    fun _ _ => ⟨fun _ => .of_same rfl rfl rfl rfl rfl⟩
  have canceled : ∀ t, Holds (Keeps Unseen) (cancelTimer? t : Act σ Unit) :=
    fun t => ⟨fun _ => by cases t <;> exact .of_same rfl rfl rfl rfl rfl⟩
  have cleared : ∀ p, Holds (Keeps Unseen) (Pipe.clearReceiver p : Act σ Unit) :=
    fun _ => ⟨fun _ => .of_same rfl rfl rfl rfl rfl⟩
  have marked : ∀ i, Holds (Keeps Unseen) (mark (.closed i) : Act σ Unit) :=
    fun i => ⟨fun w => ⟨rfl, rfl, rfl, rfl, (w.picture_mark _).trans (after_aside _ (by simp [Occurrence.topic])),
      fun _ => .mark w rfl (by simp)⟩⟩
  have closes : ∀ i, Holds (Keeps Unseen) (Interface.close i : Act σ Unit) := by
    intro i
    have grounded : Holds (Keeps Unseen) (Interface.clearFlight i : Act σ Unit) := by
      unfold Interface.clearFlight Interface.setTimer
      infer_instance
    unfold Interface.close
    infer_instance
  have released := release_unseen quiet
  unfold dropInterface
  cases d.interface <;> infer_instance

omit u in
variable (env) in
theorem run_clear (quiet : Quiet env) (passed : Bool → DeviceEvent) (d : Device) {e : Device}
    (he : (w.registry r').device? h' = some e) :
    ∃ w' : World σ,
      (clear env r' h' c passed d).run w =
        (do
          Controller.notify? env d.observer c (passed (d.state = .removing))
          if d.state = .removing then Registry.finishRemoval env r' h' : Act σ Unit).run w' ∧
      w'.picture = w.picture.setEntry r' h' (some d.cleared) ∧ ∀ c', GoesOn c' w w' := by
  unfold clear
  rw [run_bind, run_modify, run_bind]
  have unseen := (dropInterface_unseen quiet d).holds (w.updateRegistry r' (·.setDevice h' d.cleared))
  have rewritten (c' : ConnectionId) :
      GoesOn c' w (w.updateRegistry r' (·.setDevice h' d.cleared)) := .of_same rfl rfl
  refine ⟨_, rfl, ?_, fun c' => (rewritten c').trans (unseen.goesOn c')⟩
  rw [unseen.picture, picture_setDevice he]

end Entry

theorem Registry.run_finishRemoval (quiet : Quiet env) {w : World σ} {d : Device}
    (hd : (w.registry r').device? h' = some d) :
    ∃ w' : World σ,
      (finishRemoval env r' h').run w =
        (env.tell (w.registry r').listener (.deviceRemoved h')).run w' ∧
      w'.picture = ((w.picture.setEntry r' h' none).after (.removed r' h')).after
        (.announced r' h' false) ∧
      ∀ c, GoesOn c w w' := by
  unfold finishRemoval
  rw [run_bind, run_get]
  dsimp only
  rw [hd]
  dsimp only
  rw [run_bind, run_modify, run_bind, run_mark, run_bind, run_bind, run_bind]
  generalize hoff : (w.updateRegistry r' (·.eraseDevice h')).mark (.removed r' h') = off
  have picture : off.picture = (w.picture.setEntry r' h' none).after (.removed r' h') := by
    rw [← hoff, World.picture_mark, w.picture_setEntry (World.find?_of_entry hd)
      (fun _ => Registry.device?_eraseDevice _ _ _) rfl]
  have erased (c : ConnectionId) : GoesOn c w off := by
    rw [← hoff]
    have goesOn : GoesOn c w (w.updateRegistry r' (·.eraseDevice h')) := .of_same rfl rfl
    exact goesOn.trans (.mark _ rfl (by simp))
  have := Entry.Unseen.closed (σ := σ)
  have logged := Entry.Unseen.log (σ := σ)
  have released : Holds (Keeps Entry.Unseen) (release? env (d.interface.map .interface)) := by
    cases d.interface with
    | none => exact ⟨fun _ => .of_same rfl rfl rfl rfl rfl⟩
    | some i => exact Entry.release_unseen quiet i
  have first := (logged .info "Device removed" [("device", h'.label), ("id", d.info.id)]).holds off
  have unseen := released.holds
    ((log .info "Device removed" [("device", h'.label), ("id", d.info.id)] : Act σ Unit).run off).2
  refine ⟨_, rfl, ?_, fun c => ?_⟩
  · rw [run_mark, World.picture_mark, unseen.picture, first.picture, picture]
  · refine (((erased c).trans (first.goesOn c)).trans (unseen.goesOn c)).trans ?_
    exact .mark _ rfl (by simp)

theorem Registry.finishRemoval_along [u : Upheld (Keeps (Abides r h)) env] {w : World σ}
    (quiet : Quiet env) (almost : Almost r h p w.picture) (lawful : w.Lawful)
    (apart : ¬(r' = r ∧ h' = h) → Follows r h p w.picture)
    (going : ∀ d, w.picture.entry r' h' = some d → r' = r ∧ h' = h → ¬w.picture.disturbed r h →
      p.Steady r h → d.connection = none ∧ ¬p.Leaving r h) :
    Along r h p ((finishRemoval env r' h').run w).2 := by
  cases hd : (w.registry r').device? h' with
  | none =>
      unfold finishRemoval
      rw [run_bind, run_get]
      dsimp only
      rw [hd]
      refine ⟨?_, lawful⟩
      by_cases here : r' = r ∧ h' = h
      · obtain ⟨rfl, rfl⟩ := here
        exact almost.follows (.of_unknown hd)
      · exact apart here
  | some d =>
      obtain ⟨w', runs, picture, goesOn⟩ := run_finishRemoval quiet hd
      rw [runs]
      have gone : Along r h p w' := by
        refine ⟨?_, GoesOn.lawful goesOn lawful⟩
        rw [picture]
        exact almost.remove apart hd (going d hd)
      exact gone.after (u.tell _ _ _)

namespace Entry

variable {w : World σ} {c : ConnectionId} [u : Upheld (Keeps (Abides r h)) env]

theorem noteMissing_unseen (r : RegistryId) (h : DeviceHandle) (w : World σ) :
    ∃ w', (noteMissing r h).run w = ((), w') ∧ w'.picture = w.picture ∧ ∀ c', GoesOn c' w w' := by
  unfold noteMissing
  rw [run_bind, run_get]
  split
  · exact ⟨_, rfl, w.picture_log _ _ _, fun _ => .of_same (w.log_connections _ _ _) (w.log_history _ _ _)⟩
  · exact ⟨w, rfl, rfl, fun _ => .refl w⟩

theorem removed_along {w : World σ} (quiet : Quiet env) (x : Hearing p r' h') (orderly : p.Orderly)
    (removing : x.after.state = .removing) (alone : x.after.connection = none)
    (passing : Along r h x.result w) : Along r h p ((Registry.finishRemoval env r' h').run w).2 := by
  refine Registry.finishRemoval_along quiet ?_ passing.lawful (fun apart => ?_)
    fun e he here calm steady => ?_
  · exact (x.almost orderly).trans (x.tended orderly) passing.follows.toAlmost
  · exact (x.follows_beside orderly apart).trans passing.follows
  · obtain ⟨rfl, rfl⟩ := here
    have leaving : x.result.Leaving r' h' := ⟨x.after, x.entry_result, removing, alone⟩
    obtain ⟨-, -, stays⟩ := passing.follows.slot calm
      ⟨x.slot_result orderly steady.slot, x.settled_result steady.slot, x.tended_result steady.slot⟩
    refine ⟨?_, x.not_leaving steady.slot⟩
    rcases stays leaving with ⟨e', he', -, alone⟩ | ⟨-, gone⟩
    · obtain rfl := Option.some.inj (he.symm.trans he')
      exact alone
    · exact absurd (passing.follows.orderly.served _ _ _ he) gone

theorem clear_along (quiet : Quiet env) {event : ConnectionEvent} {m : Milestone} {v : World σ}
    (telling : Telling p w r' h' c event) (reached : event.milestone? = some m)
    (continues : Continues (p.told c) m) (ended : ¬Underway (p.told c ++ [m]))
    {passed : Bool → DeviceEvent} (passes : ∀ removing, (passed removing).milestone? = some m)
    (stated : ∀ removing, (passed removing).end? = some removing) {d : Device}
    (hd : p.entry r' h' = some d) (own : ∀ own, d.connection = some own → own = c)
    (picture : v.picture = w.picture.setEntry r' h' (some { d with connection := some c }))
    (claimed_goesOn : ∀ c', GoesOn c' w v) :
    Along r h p ((clear env r' h' c passed { d with connection := some c }).run v).2 := by
  have claimed : (v.registry r').device? h' = some { d with connection := some c } := by
    change v.picture.entry r' h' = _
    rw [picture, setEntry_self]
  obtain ⟨w', runs, picture', goesOn⟩ :=
    run_clear env (c := c) quiet passed { d with connection := some c } claimed
  rw [runs, run_bind]
  have result : w'.picture = (p.after (.told c event)).setEntry r' h'
      (some { d with connection := some c }.cleared) := by
    rw [picture', picture, telling.shown, setEntry_setEntry]
  have device : w'.picture.device = p.device := by
    rw [result]
    rfl
  have lawful : w'.Lawful := GoesOn.lawful
    (fun c' => (claimed_goesOn c').trans (goesOn c')) telling.lawful
  have other : ∀ api, passed (d.state = .removing) ≠ .connected api := fun api same =>
    Telling.ne_connected continues ended
      (Option.some.inj ((passes _).symm.trans (congrArg _ same)))
  obtain ⟨ready, along⟩ : ∃ ready, _ → Along r h _ _ :=
    Controller.notify?_along env (k := d.observer) (c := c) (e := passed (d.state = .removing))
      other lawful
  let x := telling.ending reached continues ended hd own (Telling.reaches_present device)
    (passes (d.state = .removing)) (stated (d.state = .removing)) ready
  have heard : x.result =
      w'.picture.notice (w'.present d.observer) c (passed (d.state = .removing)) ready := by
    rw [result]
    rfl
  rw [← heard] at along
  have passing := along (x.orderly telling.orderly)
  split
  · next removing =>
      have still : { d with connection := some c }.cleared.state = .removing := by
        unfold Device.cleared
        exact if_pos removing
      exact removed_along quiet x telling.orderly still rfl passing
  · next staying =>
      refine passing.from (x.follows telling.orderly fun removing => ?_)
      change { d with connection := some c }.cleared.state = .removing at removing
      unfold Device.cleared at removing
      dsimp only at removing staying
      split at removing
      · contradiction
      · contradiction

theorem closed_along (quiet : Quiet env) {event : ConnectionEvent} {m : Milestone}
    (telling : Telling p w r' h' c event) (reached : event.milestone? = some m)
    (continues : Continues (p.told c) m) (ended : ¬Underway (p.told c ++ [m]))
    {passed : Bool → DeviceEvent} (passes : ∀ removing, (passed removing).milestone? = some m)
    (stated : ∀ removing, (passed removing).end? = some removing) :
    Along r h p ((closed env r' h' c event passed).run w).2 := by
  unfold closed
  rw [run_ifKept]
  split
  swap
  · next gone =>
      refine telling.unheard continues.underway fun d hd => ?_
      exact absurd (by simp [World.isKept, World.item?, World.find?_of_entry hd]) gone
  rw [run_keeping]
  dsimp only
  -- The registry is held until the end; what is done in between starts from a world that looks alike.
  refine Along.run ?_ (release env (.registry r'))
  replace telling : Telling p (w.reshare (· + 1) (.registry r')) r' h' c event :=
    telling.unseen (w.picture_reshare _ _) fun _ => .of_same rfl rfl
  obtain ⟨noted, runs, picture, goesOn⟩ :=
    noteMissing_unseen r' h' (w.reshare (· + 1) (.registry r'))
  rw [run_bind_of runs]
  replace telling := telling.unseen picture goesOn
  clear runs picture goesOn
  rcases telling.stale_or_claimed with stale | ⟨d, hd, own, claims⟩
  · obtain ⟨w', runs, picture, goesOn, -⟩ :=
      run_claim_stale event "Close of a stale connection ignored" stale
    rw [run_bind_of runs]
    exact telling.ignored continues.underway stale picture goesOn
  · have slot := telling.entry.trans hd
    rw [run_bind_of (run_claim_of event "Close of a stale connection ignored" slot claims)]
    dsimp only
    exact clear_along quiet telling reached continues ended passes stated hd own
      (picture_heed event slot c _) (World.heed_goesOn noted r' h' c event _)

end Entry

end DroneControl
