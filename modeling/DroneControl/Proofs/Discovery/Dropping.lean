import DroneControl.Proofs.Discovery.Tracking

/-!
# What sources are done with

A device that is to be removed goes at once, or stays in the table on its way out until its connection
has closed.  It cannot come back from there, since an entry on its way out has a connection whenever
somebody is called back.  So once a source is done with a device, the device is gone or on its way out,
unless the registry did not know its backend any longer and refused.
-/

set_option synthInstance.maxSize 2048

namespace DroneControl

variable {σ : Type} {r : RegistryId} {h : DeviceHandle} {w w' w'' : World σ} {env : Env σ}

namespace Device

/-- The device is on its way out, and has no connection to wait for. -/
def Loose (d : Device) : Prop := d.state = .removing ∧ d.connection = none

structure GoesOut (d e : Device) : Prop where
  removing : d.state = .removing → e.state = .removing
  loose : e.Loose → d.Loose

theorem GoesOut.refl (d : Device) : d.GoesOut d := ⟨id, id⟩

theorem not_loose_of_ne {d : Device} (staying : d.state ≠ .removing) : ¬d.Loose :=
  fun loose => staying loose.1

theorem not_loose_of_some {d : Device} {c : ConnectionId} (owned : d.connection = some c) :
    ¬d.Loose := by
  rintro ⟨-, alone⟩
  cases owned.symm.trans alone

instance GoesOut.connects : Connects GoesOut where
  claim claims := by
    obtain ⟨-, rfl⟩ := claim_eq_some claims
    exact ⟨id, fun loose => absurd loose (not_loose_of_some rfl)⟩
  established d p api := by
    refine ⟨fun removing => by simp [Entry.established, removing], fun ⟨state, alone⟩ => ?_⟩
    by_cases removing : d.state = .removing
    · exact ⟨removing, alone⟩
    · simp [Entry.established, removing] at state
  equipped _ _ := ⟨id, id⟩

end Device

theorem World.registry_updateRegistry_cases (w : World σ) (r r' : RegistryId)
    (f : Registry → Registry) :
    (w.updateRegistry r f).registry r' = w.registry r' ∨
      ∃ x, w.registries.find? r = some x ∧ w.registry r' = x ∧
        (w.updateRegistry r f).registry r' = f x := by
  cases known : w.registries.find? r with
  | none =>
    left
    simp only [updateRegistry, Table.update, known]
  | some x =>
    rw [registry_updateRegistry known]
    by_cases here : r = r'
    · exact .inr ⟨x, rfl, here ▸ registry_of_find? known, if_pos here⟩
    · exact .inl (if_neg here)

theorem World.entry_of_table {x : Registry} {d : Device}
    (table : ∀ r', w'.registry r' = if r = r' then x else w.registry r')
    (devices : ∀ h', x.device? h' = if h = h' then some d else (w.registry r).device? h')
    {r' : RegistryId} {h' : DeviceHandle} {e : Device} (he : (w'.registry r').device? h' = some e) :
    r = r' ∧ h = h' ∧ e = d ∨ (w.registry r').device? h' = some e := by
  rw [table] at he
  split at he
  · next here =>
    subst here
    rw [devices] at he
    split at he
    · next same => exact .inl ⟨rfl, same, (Option.some.inj he).symm⟩
    · exact .inr he
  · exact .inr he

/-- Registries that are destroyed have no devices, and what a source is done with is gone or on its way
out, as long as nothing was announced of its handle since the removal began. -/
structure World.Cleared (w : World σ) : Prop where
  emptied : ∀ r h, (w.registry r).closed = true → (w.registry r).device? h = none
  dropped : ∀ t d r h since refusal, w.HappenedAt t (.dropped d r h since refusal) →
    since ≤ t ∧ (announcements r h (w.chronicle.drop since) = [] →
      ∀ e, (w.registry r).device? h = some e →
        e.state = .removing ∨ ∃ b, refusal = some (Registry.unknownBackend b))

/-- A device on its way out stays so until something is announced of its handle. -/
structure Lingers (w w' : World σ) : Prop where
  grown : w.history <:+ w'.history
  removing : ∀ r h, w'.roll r h = w.roll r h → ∀ e, (w'.registry r).device? h = some e →
    ∃ d, (w.registry r).device? h = some d ∧ (d.state = .removing → e.state = .removing)
  cleared : w.Cleared → w'.Cleared

/-- And no other device comes to be on its way out without a connection. -/
structure Dwindles (w w' : World σ) : Prop extends Lingers w w' where
  loose : ∀ r h e, (w'.registry r).device? h = some e → e.Loose →
    ∃ d, (w.registry r).device? h = some d ∧ d.Loose

theorem World.Cleared.later (cleared : w.Cleared) (grown : w.history <:+ w'.history)
    (fresh : ∀ t d r h since refusal, w'.HappenedAt t (.dropped d r h since refusal) →
      w.HappenedAt t (.dropped d r h since refusal))
    (removing : ∀ r h, w'.roll r h = w.roll r h → ∀ e, (w'.registry r).device? h = some e →
      ∃ d, (w.registry r).device? h = some d ∧ (d.state = .removing → e.state = .removing))
    (closed : ∀ r h e, (w'.registry r).closed = true → (w'.registry r).device? h = some e →
      (w.registry r).closed = true ∧ ∃ d, (w.registry r).device? h = some d) : w'.Cleared where
  emptied r h shut := by
    rw [Option.eq_none_iff_forall_ne_some]
    intro e he
    obtain ⟨already, d, hd⟩ := closed r h e shut he
    cases (cleared.emptied r h already).symm.trans hd
  dropped t d r h since refusal happened := by
    have before := fresh t d r h since refusal happened
    obtain ⟨early, settled⟩ := cleared.dropped t d r h since refusal before
    refine ⟨early, fun silent e he => ?_⟩
    obtain ⟨more, grown⟩ := chronicle_of_suffix grown
    have within : since ≤ w.chronicle.length := by
      have := before.lt_length
      rw [chronicle, List.length_reverse]
      omega
    rw [grown, List.drop_append_of_le_length within, announcements, List.filterMap_append,
      List.append_eq_nil_iff] at silent
    obtain ⟨d, hd, removing⟩ := removing r h
      (by rw [roll_append grown, announcements, silent.2, List.append_nil]) e he
    exact (settled silent.1 d hd).imp_left removing

namespace Lingers

theorem trans (first : Lingers w w') (second : Lingers w' w'') : Lingers w w'' where
  grown := first.grown.trans second.grown
  removing r h same f hf := by
    obtain ⟨early, late⟩ := roll_between first.grown second.grown same
    obtain ⟨e, he, stays'⟩ := second.removing r h late f hf
    obtain ⟨d, hd, stays⟩ := first.removing r h early e he
    exact ⟨d, hd, stays' ∘ stays⟩
  cleared := second.cleared ∘ first.cleared

theorem of_entries (history : w'.history = w.history)
    (entries : ∀ r h e, (w'.registry r).device? h = some e →
      ((w'.registry r).closed = true → (w.registry r).closed = true) ∧
        ∃ d, (w.registry r).device? h = some d ∧ (d.state = .removing → e.state = .removing)) :
    Lingers w w' where
  grown := history ▸ List.suffix_rfl
  removing r h _ e he := (entries r h e he).2
  cleared cleared := by
    refine cleared.later (history ▸ List.suffix_rfl) (fun t d r h since refusal happened => ?_)
      (fun r h _ e he => (entries r h e he).2) fun r h e shut he => ?_
    · simpa only [World.HappenedAt, World.chronicle, history] using happened
    · obtain ⟨closed, d, hd, -⟩ := entries r h e he
      exact ⟨closed shut, d, hd⟩

end Lingers

namespace Dwindles

theorem of_entries (history : w'.history = w.history)
    (entries : ∀ r h e, (w'.registry r).device? h = some e →
      ((w'.registry r).closed = true → (w.registry r).closed = true) ∧
        ∃ d, (w.registry r).device? h = some d ∧ d.GoesOut e) : Dwindles w w' := by
  refine ⟨.of_entries history fun r h e he => ?_, fun r h e he loose => ?_⟩
  · obtain ⟨closed, d, hd, goes⟩ := entries r h e he
    exact ⟨closed, d, hd, goes.removing⟩
  · obtain ⟨-, d, hd, goes⟩ := entries r h e he
    exact ⟨d, hd, goes.loose loose⟩

theorem aside (registries : w'.registries = w.registries) (history : w'.history = w.history) :
    Dwindles w w' := by
  have same : ∀ r, w'.registry r = w.registry r := fun r => by
    simp only [World.registry, registries]
  exact of_entries history fun r h e he => ⟨fun shut => same r ▸ shut, e, same r ▸ he, .refl e⟩

theorem refl (w : World σ) : Dwindles w w := aside rfl rfl

theorem trans (first : Dwindles w w') (second : Dwindles w' w'') : Dwindles w w'' where
  toLingers := first.toLingers.trans second.toLingers
  loose r h f hf loose := by
    obtain ⟨e, he, loose⟩ := second.loose r h f hf loose
    exact first.loose r h e he loose

theorem mark (w : World σ) {o : Occurrence} (other : ∀ d r h since refusal,
    o ≠ .dropped d r h since refusal) : Dwindles w (w.mark o) := by
  refine ⟨⟨List.suffix_cons _ _, fun _ _ _ e he => ⟨e, he, id⟩, fun cleared => ?_⟩,
    fun _ _ e he loose => ⟨e, he, loose⟩⟩
  refine cleared.later (List.suffix_cons _ _) (fun t d r h since refusal happened => ?_)
    (fun _ _ _ e he => ⟨e, he, id⟩) fun _ _ e shut he => ⟨shut, e, he⟩
  rcases World.happenedAt_mark_iff.mp happened with earlier | ⟨-, same⟩
  · exact earlier
  · exact absurd same.symm (other d r h since refusal)

theorem update (w : World σ) {f : Registry → Registry}
    (entries : ∀ x, w.registries.find? r = some x → ∀ h e, (f x).device? h = some e →
      ((f x).closed = true → x.closed = true) ∧ ∃ d, x.device? h = some d ∧ d.GoesOut e) :
    Dwindles w (w.updateRegistry r f) := by
  refine of_entries rfl fun r' h e he => ?_
  rcases World.registry_updateRegistry_cases w r r' f with same | ⟨x, known, here, now⟩
  · rw [same] at he ⊢
    exact ⟨id, e, he, .refl e⟩
  · rw [now] at he ⊢
    exact here ▸ entries x known h e he

theorem erase (w : World σ) (k : Kept) : Dwindles w (w.erase k) := by
  cases k with
  | registry r =>
    refine of_entries rfl fun r' h e he => ?_
    simp only [World.erase, World.registry, Table.get, Table.find?_erase] at he ⊢
    split at he
    · simp [default, Registry.device?] at he
    · next other =>
      rw [if_neg other]
      exact ⟨id, e, he, .refl e⟩
  | _ => exact aside rfl rfl

theorem share (w : World σ) (f : Nat → Nat) (k : Kept) : Dwindles w (w.reshare f k) := by
  cases k with
  | registry r => exact update w fun x _ h e he => ⟨id, e, he, .refl e⟩
  | _ => exact aside rfl rfl

/-! ## What is not about registries -/

instance heeds : Heeds (σ := σ) Dwindles ⟨[.registries, .history], [.source]⟩ where
  trans := .trans
  aside same := .aside (same .registries (by decide)) (same .history (by decide))
  mark w o other := .mark w (by
    rintro d r h since refusal rfl
    exact other List.mem_cons_self)

instance footing : Footing (Keeps (σ := σ) Dwindles) :=
  Heeds.footing_of_registry fun w _ _ same => .update w fun x _ h e he =>
    ⟨fun shut => (same x).closed ▸ shut, e,
      by simpa only [Registry.device?, (same x).devices] using he, .refl e⟩

instance base : Base (Keeps (σ := σ) Dwindles) := Heeds.base_of_kept share erase

instance overlooksProxies : OverlooksProxies (Keeps (σ := σ) Dwindles) := Heeds.overlooksProxies

instance overlooksBackends : OverlooksBackends (Keeps (σ := σ) Dwindles) := Heeds.overlooksBackends

instance overlooksSources : OverlooksSources (Keeps (σ := σ) Dwindles) := Heeds.overlooksSources

instance overlooksTimers : OverlooksTimers (Keeps (σ := σ) Dwindles) := Heeds.overlooksTimers

instance overlooks (i : InterfaceId) : Overlooks (Keeps (σ := σ) Dwindles) i := Heeds.overlooks i

instance interfaceLives : InterfaceLives (Keeps (σ := σ) Dwindles) := Heeds.interfaceLives

instance overlooksLoop : OverlooksLoop (Keeps (σ := σ) Dwindles) := Heeds.overlooksLoop

instance overlooksConnection (c : ConnectionId) : OverlooksConnection (Keeps (σ := σ) Dwindles) c :=
  Heeds.overlooksConnection c

instance connectionLives : ConnectionLives (Keeps (σ := σ) Dwindles) := Heeds.connectionLives

instance connectionNotes : ConnectionNotes (Keeps (σ := σ) Dwindles) := Connection.notes_of_overlooks

instance rewrites : Rewrites (σ := σ) Device.GoesOut Dwindles where
  trans := .trans
  rewrite {w r h d} hd e goes := by
    refine .update w fun x known h' e' he' => ?_
    rw [World.registry_of_find? known] at hd
    rw [Registry.device?_setDevice] at he'
    refine ⟨id, ?_⟩
    split at he'
    · next same =>
      cases he'
      exact ⟨d, same ▸ hd, goes⟩
    · exact ⟨e', he', .refl e'⟩
  mark w o about := .mark w (by
    rintro d r h since refusal rfl
    simp [Occurrence.topic] at about)

theorem added {x : Registry} {d : Device} (known : w.registries.find? r = some (w.registry r))
    (idle : d.state = .idle) (devices : ∀ h', x.device? h' = if h = h' then some d else (w.registry r).device? h')
    (closed : x.closed = false) (registries : w'.registries = w.registries.update r fun _ => x)
    (history : w'.history = w.history) : Dwindles w (w'.mark (.announced r h true)) := by
  have table : ∀ r', (w'.mark (.announced r h true)).registry r' =
      if r = r' then x else w.registry r' := by
    intro r'
    rw [← World.registry_updateRegistry known fun _ => x]
    simp only [World.registry, World.mark, registries, World.updateRegistry]
  have grown : w.history <:+ (w'.mark (.announced r h true)).history :=
    history ▸ List.suffix_cons _ _
  have told : (w'.mark (.announced r h true)).roll r h = w.roll r h ++ [true] := by
    rw [roll_append (w := w) (World.chronicle_mark w' _ |>.trans (by
      rw [World.chronicle, history, ← World.chronicle]))]
    simp [announcements, Occurrence.announcement?]
  have removing : ∀ r₁ h₁, (w'.mark (.announced r h true)).roll r₁ h₁ = w.roll r₁ h₁ → ∀ e,
      ((w'.mark (.announced r h true)).registry r₁).device? h₁ = some e →
        ∃ d, (w.registry r₁).device? h₁ = some d ∧ (d.state = .removing → e.state = .removing) := by
    intro r₁ h₁ same e he
    rcases World.entry_of_table table devices he with ⟨rfl, rfl, rfl⟩ | before
    · simp [told] at same
    · exact ⟨e, before, id⟩
  refine ⟨⟨grown, removing, fun cleared => ?_⟩, fun r₁ h₁ e he loose => ?_⟩
  · refine cleared.later grown (fun t d' r' h' since refusal happened => ?_) removing
      fun r₁ h₁ e shut he => ?_
    · rcases World.happenedAt_mark_iff.mp happened with earlier | ⟨-, same⟩
      · simpa only [World.HappenedAt, World.chronicle, history] using earlier
      · cases same
    · rw [table] at shut
      split at shut
      · cases closed.symm.trans shut
      · next other =>
        rcases World.entry_of_table table devices he with ⟨here, -⟩ | before
        · exact absurd here other
        · exact ⟨shut, e, before⟩
  · rcases World.entry_of_table table devices he with ⟨rfl, rfl, rfl⟩ | before
    · exact absurd loose (Device.not_loose_of_ne (by simp [idle]))
    · exact ⟨e, before, loose⟩

theorem holds_mark {o : Occurrence} (other : o.topic ≠ .source) :
    Holds (Keeps (σ := σ) Dwindles) (DroneControl.mark o) :=
  ⟨fun w => .mark w fun _ _ _ _ _ same => other (same ▸ rfl)⟩

end Dwindles

/-! ## Registries -/

theorem announcements_ne_nil {t since : Nat} {there : Bool} (late : since ≤ t)
    (happened : w.HappenedAt t (.announced r h there)) :
    announcements r h (w.chronicle.drop since) ≠ [] := by
  obtain ⟨happening, at_t, what⟩ := Option.map_eq_some_iff.mp happened
  have among : happening ∈ w.chronicle.drop since := by
    refine List.mem_of_getElem? (i := t - since) ?_
    rw [List.getElem?_drop, Nat.add_sub_cancel' late, at_t]
  refine List.ne_nil_of_mem (List.mem_filterMap.mpr ⟨happening, among, ?_⟩) (a := there)
  simp [what, Occurrence.announcement?]

theorem roll_of_silent (grown : w.history <:+ w'.history)
    (silent : announcements r h (w'.chronicle.drop w.history.length) = []) :
    w'.roll r h = w.roll r h := by
  obtain ⟨more, grown⟩ := World.chronicle_of_suffix grown
  have length : w.chronicle.length = w.history.length := List.length_reverse
  rw [grown, ← length, List.drop_left] at silent
  rw [roll_append grown, silent, List.append_nil]

namespace Registry

variable [Upheld (Keeps Dwindles) env]

variable (env) in
theorem finishRemoval_dwindles (r : RegistryId) (h : DeviceHandle) (w : World σ) :
    let w' := ((finishRemoval env r h).run w).2
    Dwindles w w' ∧ (∀ e, (w'.registry r).device? h = some e → ¬e.Loose) ∧
      (((w.registry r).device? h).isSome →
        announcements r h (w'.chronicle.drop w.history.length) ≠ []) := by
  unfold finishRemoval
  rw [run_bind, run_get]
  dsimp only
  cases hd : (w.registry r).device? h with
  | none =>
    refine ⟨.refl w, fun e he => ?_, fun there => by cases there⟩
    cases hd.symm.trans he
  | some d =>
    dsimp only
    generalize hw₁ : w.updateRegistry r (·.eraseDevice h) = w₁
    have erased : Dwindles w w₁ := by
      rw [← hw₁]
      refine .update w fun x _ h' e he => ?_
      rw [device?_eraseDevice] at he
      split at he
      · cases he
      · exact ⟨id, e, he, .refl e⟩
    have gone : (w₁.registry r).device? h = none := by
      rw [← hw₁, World.registry_updateRegistry (World.find?_of_entry hd), if_pos rfl,
        device?_eraseDevice, if_pos rfl]
    have marked : Dwindles w₁ (w₁.mark (.removed r h)) :=
      .mark w₁ fun _ _ _ _ _ same => by cases same
    have logged : Holds (Keeps (σ := σ) Dwindles)
      (log .info "Device removed" [("device", h.label), ("id", d.info.id)]) := inferInstance
    have released : Holds (Keeps Dwindles) (release? env (d.interface.map .interface)) := inferInstance
    have early := marked.trans ((logged.holds _).trans (released.holds _))
    rw [run_bind, run_modify, hw₁, run_bind, run_mark, run_bind, run_bind]
    generalize ((release? env (d.interface.map .interface)).run _).2 = w₂ at early ⊢
    rw [run_bind, run_mark]
    have announced : Dwindles w₂ (w₂.mark (.announced r h false)) :=
      .mark w₂ fun _ _ _ _ _ same => by cases same
    have told : Dwindles (w₂.mark (.announced r h false))
        ((env.tell (w.registry r).listener (.deviceRemoved h)).run (w₂.mark (.announced r h false))).2 :=
      Served.tell (Q := Keeps Dwindles) _ _ _
    have after := early.trans (announced.trans told)
    refine ⟨erased.trans after, fun e he loose => ?_, fun _ => ?_⟩
    · obtain ⟨d', hd', -⟩ := after.loose r h e he loose
      cases gone.symm.trans hd'
    · exact announcements_ne_nil (erased.trans early).grown.length_le
        ((World.happenedAt_mark w₂ _).later told.grown)

instance holds_finishRemoval (r : RegistryId) (h : DeviceHandle) :
    Holds (Keeps Dwindles) (finishRemoval env r h) :=
  ⟨fun w => (finishRemoval_dwindles env r h w).1⟩

variable [ConnectionCalls (Keeps Dwindles) env]

variable (env) in
theorem removeDevice_dwindles (r : RegistryId) (h : DeviceHandle) (w : World σ) :
    let run := (removeDevice env r h).run.run w
    Dwindles w run.2 ∧ (announcements r h (run.2.chronicle.drop w.history.length) = [] →
      ∀ e, (run.2.registry r).device? h = some e →
        e.state = .removing ∨ ∃ b, Discovery.refusal? run.1 = some (unknownBackend b)) := by
  unfold removeDevice
  rw [run_deviceThen]
  cases hd : (w.registry r).device? h with
  | none =>
    refine ⟨.refl w, fun _ e he => ?_⟩
    cases hd.symm.trans he
  | some d =>
    dsimp only
    by_cases removing : d.state = .removing
    · rw [if_pos removing]
      have logged : Holds (Keeps (σ := σ) Dwindles)
        (log .debug "Device removal already in progress" [("device", h.label)]) := inferInstance
      refine ⟨logged.holds w, fun _ e he => .inl ?_⟩
      change ((w.log _ _ _).registry r).device? h = some e at he
      rw [World.registry, World.log_registries] at he
      obtain rfl := Option.some.inj (hd.symm.trans he)
      exact removing
    · rw [if_neg removing]
      cases hc : d.connection with
      | none =>
        obtain ⟨dwindles, -, announced⟩ := finishRemoval_dwindles env r h w
        exact ⟨dwindles, fun silent => absurd silent (announced (by rw [hd]; rfl))⟩
      | some c =>
        dsimp only
        rw [run_backendOfThen]
        by_cases registered : d.backend ∈ (w.registry r).backends
        swap
        · rw [if_neg registered]
          exact ⟨.refl w, fun _ _ _ => .inr ⟨_, rfl⟩⟩
        rw [if_pos registered, run_actThen, updateEntry, run_modify]
        generalize hw₁ : w.updateRegistry r _ = w₁
        have going : Dwindles w w₁ := by
          rw [← hw₁]
          refine Rewrites.update w fun d' hd' => ⟨fun _ => rfl, fun loose => ?_⟩
          obtain rfl := Option.some.inj (hd.symm.trans hd')
          exact absurd loose (Device.not_loose_of_some hc)
        have leaves : ∀ e, (w₁.registry r).device? h = some e → e.state = .removing := by
          intro e he
          rw [← hw₁, World.registry_updateRegistry (World.find?_of_entry hd), if_pos rfl,
            device?_updateDevice, if_pos rfl, hd] at he
          obtain rfl := Option.some.inj he
          rfl
        -- Whoever is called from here on finds the entry on its way out.
        have concludes : ∀ w₂, Dwindles w₁ w₂ → Dwindles w w₂ ∧
            (announcements r h (w₂.chronicle.drop w.history.length) = [] →
              ∀ e, (w₂.registry r).device? h = some e → e.state = .removing) := by
          intro w₂ after
          refine ⟨going.trans after, fun silent e he => ?_⟩
          have same := roll_of_silent (going.trans after).grown silent
          obtain ⟨-, late⟩ := roll_between going.grown after.grown same
          obtain ⟨d', hd', stays⟩ := after.removing r h late e he
          exact stays (leaves d' hd')
        refine (concludes _ ?_).imp id fun gone silent e he => .inl (gone silent e he)
        refine @Holds.holds _ (Keeps Dwindles) _ _ ?_ w₁
        have := Dwindles.holds_mark (σ := σ) (o := .leaving r h c d.observer)
          (by simp [Occurrence.topic])
        refine Holds.tryBind (h := fun _ => Holds.tryBind (h := fun _ => ?_))
        refine keepingTry_holds _ _ (h := ?_)
        refine Holds.tryBind (h := fun result => ?_)
        cases result <;> infer_instance

instance holds_removeDevice (r : RegistryId) (h : DeviceHandle) :
    Holds (Keeps Dwindles) (removeDevice env r h).run :=
  ⟨fun w => (removeDevice_dwindles env r h w).1⟩

omit [Upheld (Keeps Dwindles) env] [ConnectionCalls (Keeps Dwindles) env] in
theorem settleStart_dwindles (r : RegistryId) (h : DeviceHandle) (started : Except Fault ConnectionId)
    (w : World σ) (held : ∀ d, (w.registry r).device? h = some d → ¬d.Loose) :
    Dwindles w ((settleStart r h started : Try σ Unit).run.run w).2 := by
  unfold settleStart
  rw [run_lookThen]
  cases hd : (w.registry r).device? h with
  | none =>
    cases started with
    | ok _ => exact .refl w
    | error _ => exact .refl w
  | some d =>
    cases started with
    | ok c =>
      dsimp only
      split
      · change Dwindles w (w.updateRegistry r (·.updateDevice h fun d => { d with connection := some c }))
        exact Rewrites.update w fun d' _ =>
          ⟨id, fun loose => absurd loose (Device.not_loose_of_some rfl)⟩
      · exact .refl w
    | error f =>
      dsimp only
      rw [run_actThen, run_log]
      generalize hw₁ : w.log .warn "Failed to start connection"
        [("device", h.label), ("error", f.message)] = w₁
      have logged : Dwindles w w₁ := by
        rw [← hw₁]
        exact .aside (World.log_registries _ _ _ _) (World.log_history _ _ _ _)
      have there : (w₁.registry r).device? h = some d := by
        rw [← hw₁, World.registry, World.log_registries]
        exact hd
      split
      · next alone =>
        rw [run_actThen, updateEntry, run_modify]
        refine logged.trans (Rewrites.update w₁ fun d' hd' => ?_)
        obtain rfl := Option.some.inj (there.symm.trans hd')
        refine ⟨fun removing => ?_, fun loose => absurd loose (Device.not_loose_of_ne fun same => by cases same)⟩
        exact absurd ⟨removing, Option.isNone_iff_eq_none.mp alone⟩ (held _ hd)
      · exact logged

variable (env) in
omit [ConnectionCalls (Keeps Dwindles) env] in
theorem connectDevice_dwindles [ConnectionStarts (Keeps Dwindles) env] (r : RegistryId)
    (h : DeviceHandle) (k : ControllerId) : Holds (Keeps Dwindles) (connectDevice env r h k).run := by
  refine ⟨fun w => ?_⟩
  unfold connectDevice
  rw [run_deviceThen]
  cases hd : (w.registry r).device? h with
  | none => exact .refl w
  | some d =>
    dsimp only
    by_cases idle : d.state = .idle
    swap
    · rw [if_pos idle]
      exact .refl w
    rw [if_neg (not_not.mpr idle), run_backendOfThen]
    by_cases registered : d.backend ∈ (w.registry r).backends
    swap
    · rw [if_neg registered]
      exact .refl w
    rw [if_pos registered, run_lookThen, run_actThen, updateEntry, run_modify, run_actThen, run_log]
    generalize hw₁ : w.updateRegistry r _ = w₁
    have going : Dwindles w w₁ := by
      rw [← hw₁]
      refine Rewrites.update w fun d' hd' => ⟨fun removing => ?_, fun loose => ?_⟩
      · obtain rfl := Option.some.inj (hd.symm.trans hd')
        cases idle.symm.trans removing
      · exact absurd loose (Device.not_loose_of_ne fun same => by cases same)
    -- While the backend is asked the entry may be removed, but it does not wait to go without a connection.
    have held : ∀ e, (w₁.registry r).device? h = some e → ¬e.Loose := by
      intro e he
      rw [← hw₁, World.registry_updateRegistry (World.find?_of_entry hd), if_pos rfl,
        device?_updateDevice, if_pos rfl, hd] at he
      obtain rfl := Option.some.inj he
      exact Device.not_loose_of_ne nofun
    have start : Holds (Keeps Dwindles) (do
        log .debug "Connecting device"
          [("device", h.label), ("backend", d.backend.label), ("kind", (w.backend d.backend).kind.tag)]
        retain (.backend d.backend)
        (Backend.start env d.backend h d.info (w.registry r).agent (.entry r h)).run) := inferInstance
    have release : Holds (Keeps Dwindles) (release env (.backend d.backend)) := inferInstance
    have opening := start.holds w₁
    rw [run_keepingTry, run_attemptThen]
    rw [run_bind, run_log, run_bind] at opening
    change Dwindles w₁ ((Backend.start env d.backend h d.info (w.registry r).agent
      (.entry r h)).run.run ((w₁.log _ _ _).reshare (· + 1) (.backend d.backend))).2 at opening
    generalize (Backend.start env d.backend h d.info (w.registry r).agent
      (.entry r h)).run.run _ = outcome at opening ⊢
    have settled := settleStart_dwindles r h outcome.1 outcome.2 fun e he loose => by
      obtain ⟨d', hd', loose'⟩ := opening.loose r h e he loose
      exact held d' hd' loose'
    exact going.trans (opening.trans (settled.trans (release.holds _)))

omit [ConnectionCalls (Keeps Dwindles) env]

theorem addDevice_dwindles (r : RegistryId) (info : DeviceInfo) (b : BackendId) :
    Holds (Keeps Dwindles) (addDevice env r info b).run := by
  refine ⟨fun w => ?_⟩
  unfold addDevice
  rw [run_lookThen]
  dsimp only
  split
  · exact .refl w
  next serves =>
  split
  · exact .refl w
  next registered =>
  rw [Decidable.not_not] at registered
  cases taken : (w.registry r).allocate with
  | none => exact .refl w
  | some allocated =>
    obtain ⟨h, x⟩ := allocated
    obtain ⟨unused, cursor, rfl⟩ := allocate_eq_some taken
    dsimp only
    rw [run_actThen, run_modify, run_actThen, run_log, run_actThen, run_mark]
    generalize added : World.log _ _ _ _ = w₁
    have rest : Holds (Keeps Dwindles) (do
        act (env.tell (w.registry r).listener (.deviceAdded h info))
        return h : Try σ DeviceHandle).run := inferInstance
    have comes : Dwindles w (w₁.mark (.announced r h true)) := by
      refine .added (known_of_backend registered) rfl
        (device?_setDevice { w.registry r with cursor } h · { info, backend := b })
        (eq_false_of_ne_true serves) ?_ ?_
      · rw [← added]
        exact World.log_registries _ _ _ _
      · rw [← added]
        exact World.log_history _ _ _ _
    exact comes.trans (rest.holds _)

theorem destroy_dwindles (r : RegistryId) : Holds (Keeps Dwindles) (destroy env r).run := by
  have emptied : Holds (Keeps (σ := σ) Dwindles) (modify (·.updateRegistry r fun x =>
      { x with closed := true, discoveries := [], token := none, backends := [], devices := {} })) :=
    ⟨fun w => .update w fun x _ h e he => by simp [device?] at he⟩
  have noted := fun token => noteEnd_of_mark (Q := Keeps (σ := σ) Dwindles) r token
    (Dwindles.holds_mark (by simp [Occurrence.topic])).holds
  unfold destroy
  refine Holds.tryBind (h := fun w => ?_)
  dsimp only
  cases busyDevice? (w.registry r) <;> infer_instance

omit [Upheld (Keeps Dwindles) env] in
theorem create_dwindles (options : RegistryOptions) (l : ListenerId) (token : Option Token) :
    Holds (Keeps (σ := σ) Dwindles) (create options l token) := by
  refine create_of_row (fun _ _ w => .mark w fun _ _ _ _ _ same => by cases same)
    (fun x new w => ?_) options l token
  refine .of_entries rfl fun r h e he => ?_
  simp only [run_modifyGet, World.registry, Table.get, Table.find?_add] at he ⊢
  split at he
  · simp [device?, new.1] at he
  · next other =>
    rw [if_neg other]
    exact ⟨id, e, he, .refl e⟩

end Registry

/-! ## Entries -/

namespace Entry

variable [Upheld (Keeps Dwindles) env] {c : ConnectionId}

theorem clear_dwindles (passed : Bool → DeviceEvent) {d : Device}
    (hd : (w.registry r).device? h = some d) : Dwindles w ((clear env r h c passed d).run w).2 := by
  have dropped : Holds (Keeps Dwindles) (dropInterface env d) := by
    unfold dropInterface
    split <;> infer_instance
  unfold clear
  rw [run_bind, run_modify]
  by_cases removing : d.state = .removing
  swap
  · have rest : Holds (Keeps Dwindles) (do
        dropInterface env d
        Controller.notify? env d.observer c (passed (d.state = .removing))
        if d.state = .removing then Registry.finishRemoval env r h) := inferInstance
    refine .trans (Rewrites.rewrite hd d.cleared ⟨fun now => absurd now removing, fun loose => ?_⟩)
      (rest.holds _)
    exact absurd loose (Device.not_loose_of_ne (by simp [Device.cleared, removing]))
  -- The entry has no connection to wait for until its removal is finished, so the first step only lingers.
  generalize hw₁ : w.updateRegistry r _ = w₁
  have set : ∀ r', w₁.registry r' =
      if r = r' then (w.registry r).setDevice h d.cleared else w.registry r' := by
    intro r'
    rw [← hw₁, World.registry_updateRegistry (World.find?_of_entry hd)]
  have devices := fun h' => Registry.device?_setDevice (w.registry r) h h' d.cleared
  have first : Lingers w w₁ := by
    refine .of_entries (by rw [← hw₁]; rfl) fun r' h' e he => ⟨fun shut => ?_, ?_⟩
    · rw [set] at shut
      split at shut
      · next here => exact here ▸ shut
      · exact shut
    · rcases World.entry_of_table set devices he with ⟨rfl, rfl, rfl⟩ | before
      · exact ⟨d, hd, fun _ => by simp [Device.cleared, removing]⟩
      · exact ⟨e, before, id⟩
  have told : Holds (Keeps Dwindles) (Controller.notify? env d.observer c (passed (d.state = .removing))) :=
    inferInstance
  rw [run_bind, run_bind, if_pos removing]
  have passing := (dropped.holds w₁).trans (told.holds _)
  obtain ⟨finishes, none, -⟩ := Registry.finishRemoval_dwindles env r h
    ((Controller.notify? env d.observer c (passed (d.state = .removing))).run
      ((dropInterface env d).run w₁).2).2
  have after := passing.trans finishes
  refine ⟨first.trans after.toLingers, fun r' h' e he loose => ?_⟩
  obtain ⟨d', hd', loose'⟩ := after.loose r' h' e he loose
  rcases World.entry_of_table set devices hd' with ⟨rfl, rfl, -⟩ | before
  · exact absurd loose (none e he)
  · exact ⟨d', before, loose'⟩

end Entry

/-! ## Sources -/

theorem Dwindles.drop (w : World σ) (d : DiscoveryId) {since : Nat} {refusal : Option Fault}
    (early : since ≤ w.history.length)
    (settled : w.Cleared → announcements r h (w.chronicle.drop since) = [] →
      ∀ e, (w.registry r).device? h = some e →
        e.state = .removing ∨ ∃ b, refusal = some (Registry.unknownBackend b)) :
    Dwindles w (w.mark (.dropped d r h since refusal)) := by
  refine ⟨⟨List.suffix_cons _ _, fun _ _ _ e he => ⟨e, he, id⟩, fun cleared => ⟨cleared.emptied, ?_⟩⟩,
    fun _ _ e he loose => ⟨e, he, loose⟩⟩
  intro t d' r' h' since' refusal' happened
  have length : w.chronicle.length = w.history.length := List.length_reverse
  have silence : since' ≤ w.history.length →
      announcements r' h' ((w.mark (.dropped d r h since refusal)).chronicle.drop since') = [] →
        announcements r' h' (w.chronicle.drop since') = [] := by
    intro within silent
    rw [World.chronicle_mark, List.drop_append_of_le_length (length ▸ within), announcements,
      List.filterMap_append, List.append_eq_nil_iff] at silent
    exact silent.1
  rcases World.happenedAt_mark_iff.mp happened with earlier | ⟨rfl, same⟩
  · obtain ⟨early', settled'⟩ := cleared.dropped t d' r' h' since' refusal' earlier
    exact ⟨early', fun silent => settled' (silence (early'.trans earlier.lt_length.le) silent)⟩
  · cases same
    exact ⟨early, fun silent => settled cleared (silence early silent)⟩

namespace Discovery

variable [Upheld (Keeps Dwindles) env] [ConnectionCalls (Keeps Dwindles) env]

variable (env) in
theorem dismiss_dwindles (d : DiscoveryId) (r : RegistryId) (h : DeviceHandle) :
    Holds (Keeps Dwindles) (dismiss env d r h).run := by
  refine ⟨fun w => ?_⟩
  obtain ⟨dwindles, settled⟩ := Registry.removeDevice_dwindles env r h w
  unfold dismiss
  rw [run_lookThen, run_attemptThen, run_actThen, run_mark]
  exact dwindles.trans (.drop _ d dwindles.grown.length_le fun _ => settled)

theorem drop_all (d : DiscoveryId) {since : Nat} (refusal : Option Fault)
    (devices : List (DeviceKey × DeviceHandle)) (w : World σ) (early : since ≤ w.history.length)
    (gone : (w.registry r).closed = true ∨ ∀ h, (w.registry r).device? h = none) :
    Dwindles w ((devices.forM fun device => mark (.dropped d r device.2 since refusal)).run w).2 := by
  induction devices generalizing w with
  | nil => exact .refl w
  | cons device devices ih =>
    have dropped : Dwindles w (w.mark (.dropped d r device.2 since refusal)) := by
      refine .drop w d early fun cleared _ e he => ?_
      have absent := gone.elim (cleared.emptied r device.2) (· device.2)
      cases absent.symm.trans he
    exact dropped.trans (ih (w.mark _) (early.trans dropped.grown.length_le) gone)

variable (env) in
theorem removeAll_dwindles (d : DiscoveryId) (r : RegistryId)
    (devices : List (DeviceKey × DeviceHandle)) : Holds (Keeps Dwindles) (removeAll env d r devices) := by
  have dismisses := fun h => dismiss_dwindles env d r h
  refine ⟨fun w => ?_⟩
  unfold removeAll
  rw [run_bind, run_get]
  dsimp only
  split
  · have removes : Holds (Keeps Dwindles) (keeping env (.registry r)
      (devices.forM (evict env d r))) := inferInstance
    exact removes.holds w
  · next away =>
    refine drop_all d _ devices w le_rfl ?_
    by_cases shut : (w.registry r).closed = true
    · exact .inl shut
    · right
      intro h
      cases there : (w.registry r).device? h with
      | none => rfl
      | some e =>
        have kept : w.isKept (.registry r) = true := by
          simp [World.isKept, World.item?, World.find?_of_entry there]
        simp [kept, shut] at away

end Discovery

/-! ## Runs -/

namespace Dwindles

instance registryLives : RegistryLives (Keeps (σ := σ) Dwindles) where
  createRegistry := Registry.create_dwindles
  createDeviceInterface _ _ _ := inferInstance
  createController r h l token := by
    have added : ∀ x, Holds (Keeps (σ := σ) Dwindles) (modifyGet fun w =>
        let (k, controllers) := w.controllers.add x
        (k, { w with controllers })) := fun _ => ⟨fun _ => .aside rfl rfl⟩
    have appointed : ∀ k, Holds (Keeps (σ := σ) Dwindles) (DroneControl.mark (.appointed k r h)) :=
      fun _ => holds_mark (by simp [Occurrence.topic])
    unfold Controller.create
    infer_instance

instance alone : Alone (Keeps (σ := σ) Dwindles) where

theorem together (_ : Upheld (Keeps Dwindles) env) : Together (Keeps Dwindles) env := by
  have : EntryCalls (Keeps Dwindles) env :=
    Entry.calls_of_clear fun _ _ _ passed _ _ hd => Entry.clear_dwindles passed hd
  have : ConnectionCalls (Keeps Dwindles) env := Connection.calls_of_tells
  have : GivesUp (Keeps Dwindles) env := ⟨fun _ => Connection.giveUp_overlooked⟩
  have := Registry.connectDevice_dwindles env
  have : RegistryCalls (Keeps Dwindles) env :=
    ⟨Registry.addDevice_dwindles, fun r h => inferInstance, fun _ => Registry.connect_holds _,
      Registry.destroy_dwindles, fun b h info agent l => ConnectionStarts.start b h info agent (.listener l)⟩
  have := Discovery.dismiss_dwindles env
  have := Discovery.removeAll_dwindles env
  have : ∀ d, Holds (Keeps (σ := σ) Dwindles) (DroneControl.mark (.halted d)) :=
    fun d => ⟨fun w => .mark w fun _ _ _ _ _ same => by cases same⟩
  have : ∀ d h place, Holds (Keeps (σ := σ) Dwindles) (DroneControl.mark (.adopted d h place)) :=
    fun _ _ _ => ⟨fun w => .mark w fun _ _ _ _ _ same => by cases same⟩
  have : DiscoveryCalls (Keeps Dwindles) env := Discovery.calls_of_dismissals
  have : InterfaceCalls (Keeps Dwindles) env := Interface.calls_of_steps
  have : InterfaceRetries (Keeps Dwindles) env := Interface.retries_of_steps
  have : LoopCalls (Keeps Dwindles) env := Loop.calls_of_steps
  have : CommandCalls (Keeps Dwindles) env := Heeds.commandCalls
  exact {}

end Dwindles

end DroneControl
