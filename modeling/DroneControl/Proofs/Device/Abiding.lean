import DroneControl.Proofs.Device.Turnover

/-!
# What a whole call leaves of the slot

A world abides by the slot of a device in a later one if every connection goes on and the pictures
follow.  Most of the library overlooks the slot; the rest is looked at in the modules after this one.
-/

set_option synthInstance.maxSize 2048

namespace DroneControl

open Picture

variable {σ : Type}

def World.Lawful (w : World σ) : Prop :=
  ∀ c, w.OnCourse c ∨ ∃ x, w.connections.find? c = some x ∧ x.state = .closed

structure Abides (r : RegistryId) (h : DeviceHandle) (w w' : World σ) : Prop where
  goesOn : ∀ c, GoesOn c w w'
  follows : w.Lawful → w.picture.Orderly → Follows r h w.picture w'.picture

variable {r r' : RegistryId} {h h' : DeviceHandle} {w w' w'' : World σ}

theorem GoesOn.lawful (goesOn : ∀ c, GoesOn c w w') (lawful : w.Lawful) : w'.Lawful := by
  intro c
  rcases lawful c with onCourse | ⟨x, hx, closed⟩
  · exact .inl ((goesOn c).onCourse onCourse)
  · obtain ⟨x', hx', -, still⟩ := (goesOn c).stays x hx
    exact .inr ⟨x', hx', (still closed).1⟩

theorem World.Lawful.fits (lawful : w.Lawful) {c : ConnectionId} {x : Connection}
    (hx : w.connections.find? c = some x) (live : x.state ≠ .closed) :
    x.Fits (w.milestones c) (w.GivenUp c) := by
  rcases lawful c with onCourse | ⟨y, hy, closed⟩
  · simp only [World.OnCourse, hx] at onCourse
    exact onCourse.1
  · obtain rfl := Option.some.inj (hx.symm.trans hy)
    exact absurd closed live

namespace Abides

theorem refl (w : World σ) : Abides r h w w := ⟨fun _ => .refl w, fun _ => .refl⟩

theorem trans (first : Abides r h w w') (second : Abides r h w' w'') : Abides r h w w'' where
  goesOn c := (first.goesOn c).trans (second.goesOn c)
  follows lawful orderly := by
    have before := first.follows lawful orderly
    exact before.trans (second.follows (GoesOn.lawful first.goesOn lawful) before.orderly)

theorem of_picture (goesOn : ∀ c, GoesOn c w w') (same : w'.picture = w.picture) :
    Abides r h w w' :=
  ⟨goesOn, fun _ orderly => by rw [same]; exact .refl orderly⟩

theorem of_same (connections : w'.connections = w.connections) (history : w'.history = w.history)
    (registries : w'.registries = w.registries) (controllers : w'.controllers = w.controllers) :
    Abides r h w w' :=
  .of_picture (fun _ => .of_same connections history)
    (World.picture_congr connections history registries controllers)

theorem mark (w : World σ) {o : Occurrence} (goesOn : ∀ c, GoesOn c w (w.mark o))
    (same : w.picture.after o = w.picture) : Abides r h w (w.mark o) :=
  .of_picture goesOn ((w.picture_mark o).trans same)

theorem share (w : World σ) (f : Nat → Nat) (k : Kept) : Abides r h w (w.reshare f k) := by
  refine .of_picture (fun c => ?_) (w.picture_reshare f k)
  cases k <;> exact .of_same rfl rfl

theorem erase (w : World σ) (k : Kept) : Abides r h w (w.erase k) := by
  cases k with
  | registry r' =>
    refine ⟨fun _ => .of_same rfl rfl, fun _ orderly => ?_⟩
    rw [w.picture_eraseRegistry]
    exact .retire orderly r'
  | controller k =>
    refine ⟨fun _ => .of_same rfl rfl, fun _ orderly => ?_⟩
    rw [w.picture_eraseController]
    exact .unseat orderly k
  | _ => exact .of_same rfl rfl rfl rfl

instance heeds : Heeds (σ := σ) (Abides r h)
    ⟨[.connections, .history, .registries, .controllers],
      [.connection, .discard, .device, .notice, .command, .registry]⟩ where
  trans := .trans
  aside same :=
    .of_same (same .connections (by decide)) (same .history (by decide))
      (same .registries (by decide)) (same .controllers (by decide))
  mark w o other :=
    .mark w (fun c => (GoesOn.heeds c).mark w o fun among => other (by simp_all))
      (Picture.after_aside _ (by simp_all))

instance footing : Footing (Keeps (σ := σ) (Abides r h)) :=
  Heeds.footing_of_registry fun w r _ same =>
    .of_picture (fun _ => .of_same rfl rfl)
      (w.picture_updateRegistry r fun x => ⟨(same x).devices, (same x).closed⟩)

instance base : Base (Keeps (σ := σ) (Abides r h)) := Heeds.base_of_kept share erase

instance ground : Ground (Keeps (σ := σ) (Abides r h)) where
  toOverlooksBackends := Heeds.overlooksBackends
  toOverlooksDiscoveries := Heeds.overlooksDiscoveries
  controller k _ same w :=
    .of_picture (fun _ => .of_same rfl rfl) (w.picture_updateController k same)
  schedule _ _ _ w := Heeds.of_loop w (by decide) _
  schedulePeriodic _ _ _ w := Heeds.of_loop w (by decide) _
  defer _ _ w := Heeds.of_loop w (by decide) _
  cancelTimer _ w := Heeds.of_loop w (by decide) _
  markControl o about w := heeds.mark w o (by simp [about])

instance overlooksProxies : OverlooksProxies (Keeps (σ := σ) (Abides r h)) := Heeds.overlooksProxies

instance overlooks (i : InterfaceId) : Overlooks (Keeps (σ := σ) (Abides r h)) i := Heeds.overlooks i

instance interfaceLives : InterfaceLives (Keeps (σ := σ) (Abides r h)) := Heeds.interfaceLives

instance overlooksLoop : OverlooksLoop (Keeps (σ := σ) (Abides r h)) := Heeds.overlooksLoop

instance overlooksNotes (c : ConnectionId) :
    OverlooksNotes (Keeps (σ := σ) (Abides r h)) c where
  note f same w := by
    refine .of_picture (fun c' => ?_) (w.picture_updateConnection c fun x => (same x).2.2.1)
    exact OverlooksNotes.note (Q := Keeps (GoesOn c')) f same w

instance holds_founded (r' : RegistryId) (token : Option Token) :
    Holds (Keeps (σ := σ) (Abides r h)) (DroneControl.mark (.founded r' token)) :=
  ⟨fun w => .mark w (fun _ => .mark w rfl nofun) (after_founded _ r' token)⟩

instance holds_noteEnd (r' : RegistryId) (token : Option Token) :
    Holds (Keeps (σ := σ) (Abides r h)) (Registry.noteEnd r' token) :=
  Registry.noteEnd_of_mark r' token fun w =>
    .mark w (fun _ => .mark w rfl nofun) (after_dissolved _ r' token)

end Abides

/-! ## Connections that report to listeners, registries and controllers -/

structure Along (r : RegistryId) (h : DeviceHandle) (p : Picture) (w : World σ) : Prop where
  follows : Follows r h p w.picture
  lawful : w.Lawful

variable {p : Picture}

theorem Along.after (along : Along r h p w) (step : Abides r h w w') : Along r h p w' where
  follows := along.follows.trans (step.follows along.lawful along.follows.orderly)
  lawful := GoesOn.lawful step.goesOn along.lawful

theorem Along.from (along : Along r h p w) {p₀ : Picture} (before : Follows r h p₀ p) :
    Along r h p₀ w :=
  ⟨before.trans along.follows, along.lawful⟩

theorem Along.run {α : Type} (along : Along r h p w) (a : Act σ α)
    [kept : Holds (Keeps (Abides r h)) a] : Along r h p (a.run w).2 :=
  along.after (kept.holds w)

theorem Abides.of_along {α : Type} {a : Act σ α} (goesOn : ∀ c, Holds (Keeps (GoesOn c)) a)
    (along : ∀ w : World σ, w.Lawful → w.picture.Orderly → Along r h w.picture (a.run w).2) :
    Holds (Keeps (Abides r h)) a :=
  ⟨fun w => ⟨fun c => (goesOn c).holds w, fun lawful orderly => (along w lawful orderly).follows⟩⟩

end DroneControl
