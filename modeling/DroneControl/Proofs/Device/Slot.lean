import DroneControl.Proofs.Device.Picture

/-!
# The slot of a device

At most one connection at a time has the slot of a device, or is about to take it.  `Slot` says how the
entry, what was told of that connection and what the controllers passed on fit together.  It holds
whenever somebody is called back, as long as no device is removed while a host opens a connection for
it, and `Follows` says what one world may rely on in a later one.
-/

namespace DroneControl

namespace Picture

variable (p : Picture) (r : RegistryId) (h : DeviceHandle)

/-- The host was asked to open the connection and has not answered. -/
def Asking (c : ConnectionId) : Prop := (∃ sink, p.asked c sink) ∧ ¬p.answered c

/-- An entry says of its connection what was told of it. -/
structure Mirrors (d : Device) : Prop where
  resting : d.state = .idle → d.observer = none
  attended : d.state = .connecting ∨ d.connection.isSome → d.observer.isSome
  /-- A connection comes to an entry by what it tells, or when its host has answered. -/
  early : ∀ c, d.connection = some c → p.told c = [] → ¬p.Asking c ∧ ¬p.givenUp c
  connecting : ∀ c, d.connection = some c → d.state = .connecting →
    p.told c ≠ [.connecting, .connected]
  connected : d.state = .connected →
    ∃ c, d.connection = some c ∧ p.told c = [.connecting, .connected]
  pipe : ∀ c, d.connection = some c → p.told c = [.connecting, .connected] →
    d.pipe.isSome ∧ d.pipe = p.piped c

/-- More may be told of the connection. -/
def Ongoing (c : ConnectionId) : Prop := Underway (p.told c) ∧ ¬p.givenUp c

def Pending (c : ConnectionId) : Prop := p.sink c = some (.entry r h) ∧ p.Ongoing c

def Owns (c : ConnectionId) : Prop := ∃ d, p.entry r h = some d ∧ d.connection = some c

/-- What is true of the world as a whole. -/
structure Orderly : Prop where
  unknown : ∀ c, p.sink c = none → p.told c = [] ∧ ¬p.givenUp c ∧ ¬p.answered c
  asked : ∀ c sink, p.asked c sink → p.sink c = some sink
  registered : ∀ c r h, p.sink c = some (.entry r h) → r.number < p.registries
  first : 0 < p.registries
  counted : ∀ r, p.serving r → 0 < r.number ∧ r.number < p.registries
  served : ∀ r h d, p.entry r h = some d → p.serving r
  own : ∀ r h d c, p.entry r h = some d → d.connection = some c → p.sink c = some (.entry r h)
  observed : ∀ r h d k, p.entry r h = some d → d.observer = some k → p.appointed k r h
  seated : ∀ k r h, p.device k = some (r, h) → p.appointed k r h
  faithful : ∀ k r h r' h', p.appointed k r h → p.appointed k r' h' → r = r' ∧ h = h'
  numbered : ∀ k r h, p.appointed k r h → k.number < p.controllers ∧ r.number < p.registries
  unheard : ∀ k, (∀ r h, ¬p.appointed k r h) → p.notices k = [] ∧ p.ready k
  unparted : ∀ r h, p.registries ≤ r.number → p.parting r h = some {}

/-- The controller is gone, and no other will be named like it. -/
def Absent (k : ControllerId) : Prop := p.device k = none ∧ k.number < p.controllers

/-- The entry of a device shows how far it has got on its way out, whenever somebody is called back. -/
inductive Shows : Parting.Stage → Option Device → Prop where
  | absent : Shows .absent none
  | staying {d : Device} (stays : d.state ≠ .removing) : Shows .staying (some d)
  | closing {d : Device} {c : ConnectionId} (removing : d.state = .removing)
      (owned : d.connection = some c) : Shows (.closing c d.observer) (some d)
  | ended {d : Device} {c : ConnectionId} {o : Option ControllerId} (removing : d.state = .removing)
      (alone : d.connection = none) (gone : ∀ k, o = some k → p.Absent k) :
      Shows (.ended c o) (some d)
  | heard {d : Device} (removing : d.state = .removing) (alone : d.connection = none) :
      Shows .heard (some d)

/-- So far has the device got on its way out. -/
structure Parts (x : Parting) : Prop where
  reads : p.parting r h = some x
  shows : p.Shows x.stage (p.entry r h)
  missed : ∀ k ∈ x.missed, p.Absent k
  waits : ∀ c o, x.stage = .closing c o → c ∈ x.left
  left : ∀ c ∈ x.left, p.sink c = some (.entry r h)
  lasting : ∀ c ∈ x.left, Underway (p.told c) → ∃ o, x.stage = .closing c o

/-- Where the listener of a controller should stand. -/
def expected (k : ControllerId) : Standing :=
  match p.entry r h with
  | some d =>
    if d.observer = some k then d.connection.elim .idle fun c => .of c (p.told c) else .idle
  | none => .idle

structure Slot : Prop where
  vacant : p.serving r → p.entry r h = none → ∀ c, ¬p.Pending r h c
  free : ∀ d, p.entry r h = some d → d.connection = none →
    d.pipe = none ∧ d.interface = none ∧
      ∀ c, p.Pending r h c → d.state = .connecting ∧ p.told c = []
  single : ∀ d, p.entry r h = some d → ∀ c c', p.Pending r h c → p.Pending r h c' → c = c'
  held : ∀ d c, p.entry r h = some d → d.connection = some c →
    d.state ≠ .idle ∧ Underway (p.told c) ∧ (∀ c', p.Pending r h c' → c' = c) ∧
      (d.pipe.isSome → p.told c = [.connecting, .connected]) ∧
      (d.interface.isSome → d.pipe.isSome)
  standing : ∀ k, p.serving r → p.appointed k r h → (p.device k).isSome →
    standing (p.notices k) = some (p.expected r h k)
  sound : ∀ k, p.appointed k r h → (DroneControl.standing (p.notices k)).isSome ∧ p.ready k
  mirrors : ∀ d, p.entry r h = some d → p.Mirrors d
  parting : p.serving r → ∃ x, p.Parts r h x

/-- A connection that may take the free slot is still being opened. -/
def Settled (c : ConnectionId) : Prop :=
  ∀ d, p.entry r h = some d → d.connection = none → p.Pending r h c → p.Asking c

/-- A device that is being connected has a connection, or one that may take its slot. -/
def Tended : Prop :=
  ∀ d, p.entry r h = some d → d.connection = none → d.state = .connecting →
    ∃ c, p.Pending r h c

/-- Whoever is called back finds the slot like this. -/
structure Steady : Prop where
  slot : p.Slot r h
  settled : ∀ c, p.Settled r h c
  tended : p.Tended r h

def Leaving : Prop := ∃ d, p.entry r h = some d ∧ d.state = .removing ∧ d.connection = none

def Gone : Prop := r.number < p.registries ∧ ¬p.serving r

end Picture

namespace Picture

variable {p : Picture} {r : RegistryId} {h : DeviceHandle}

theorem Slot.of_not_serving (gone : ¬p.serving r) (unknown : p.entry r h = none)
    (sound : ∀ k, p.appointed k r h →
      (DroneControl.standing (p.notices k)).isSome ∧ p.ready k) : p.Slot r h where
  vacant serving := absurd serving gone
  free := by simp [unknown]
  single := by simp [unknown]
  held := by simp [unknown]
  standing _ serving := absurd serving gone
  sound := sound
  mirrors := by simp [unknown]
  parting serving := absurd serving gone

theorem Shows.mono {p p' : Picture} {stage : Parting.Stage} {d? : Option Device}
    (shows : p.Shows stage d?) (absent : ∀ k, p.Absent k → p'.Absent k) : p'.Shows stage d? := by
  cases shows with
  | absent => exact .absent
  | staying stays => exact .staying stays
  | closing removing owned => exact .closing removing owned
  | ended removing alone gone => exact .ended removing alone fun k hk => absent k (gone k hk)
  | heard removing alone => exact .heard removing alone

theorem Shows.congr {stage : Parting.Stage} {d d' : Device} (shows : p.Shows stage (some d))
    (state : d'.state = d.state) (connection : d'.connection = d.connection)
    (observer : d'.observer = d.observer) : p.Shows stage (some d') := by
  cases shows with
  | staying stays => exact .staying (state ▸ stays)
  | closing removing owned =>
      rw [← observer]
      exact .closing (state.trans removing) (connection.trans owned)
  | ended removing alone gone => exact .ended (state.trans removing) (connection.trans alone) gone
  | heard removing alone => exact .heard (state.trans removing) (connection.trans alone)

theorem Shows.stays {stage : Parting.Stage} {d : Device} (shows : p.Shows stage (some d))
    (state : d.state ≠ .removing) : stage = .staying := by
  cases shows with
  | staying => rfl
  | closing removing | ended removing | heard removing => exact absurd removing state

theorem Shows.of_stays {stage : Parting.Stage} {d d' : Device} (shows : p.Shows stage (some d))
    (state : d.state ≠ .removing) (state' : d'.state ≠ .removing) : p.Shows stage (some d') := by
  rw [shows.stays state]
  exact .staying state'

theorem Parts.mono {p p' : Picture} {x : Parting} (parts : p.Parts r h x)
    (parting : p'.parting r h = p.parting r h) (shows : p'.Shows x.stage (p'.entry r h))
    (absent : ∀ k, p.Absent k → p'.Absent k)
    (sink : ∀ c, p.sink c = some (.entry r h) → p'.sink c = some (.entry r h))
    (told : ∀ c, p.sink c = some (.entry r h) → Underway (p'.told c) → Underway (p.told c)) :
    p'.Parts r h x where
  reads := parting.trans parts.reads
  shows := shows
  missed k among := absent k (parts.missed k among)
  waits := parts.waits
  left c among := sink c (parts.left c among)
  lasting c among underway := parts.lasting c among (told c (parts.left c among) underway)

theorem Parts.keep {p p' : Picture} {x : Parting} (parts : p.Parts r h x)
    (parting : p'.parting r h = p.parting r h) (entry : p'.entry r h = p.entry r h)
    (absent : ∀ k, p.Absent k → p'.Absent k)
    (sink : ∀ c, p.sink c = some (.entry r h) → p'.sink c = some (.entry r h))
    (told : ∀ c, p.sink c = some (.entry r h) → Underway (p'.told c) → Underway (p.told c)) :
    p'.Parts r h x := by
  refine parts.mono parting ?_ absent sink told
  rw [entry]
  exact parts.shows.mono absent

def Taken (p : Picture) (r : RegistryId) (h : DeviceHandle) : Prop :=
  ∀ d, p.entry r h = some d → d.connection ≠ none

theorem Taken.of_unknown (unknown : p.entry r h = none) : p.Taken r h := by
  intro d hd
  rw [unknown] at hd
  contradiction

theorem Taken.settled (taken : p.Taken r h) (c : ConnectionId) : p.Settled r h c :=
  fun d hd alone => absurd alone (taken d hd)

theorem Taken.tended (taken : p.Taken r h) : p.Tended r h :=
  fun d hd alone => absurd alone (taken d hd)

theorem Taken.not_leaving (taken : p.Taken r h) : ¬p.Leaving r h :=
  fun ⟨d, hd, _, alone⟩ => taken d hd alone

theorem Taken.steady (taken : p.Taken r h) (slot : p.Slot r h) : p.Steady r h :=
  ⟨slot, taken.settled, taken.tended⟩

theorem Mirrors.of_alone {p : Picture} {d : Device} (alone : d.connection = none)
    (resting : d.state = .idle → d.observer = none)
    (attended : d.state = .connecting → d.observer.isSome) (state : d.state ≠ .connected) :
    p.Mirrors d where
  resting := resting
  attended := by simpa [alone] using attended
  early _ hc := absurd (alone.symm.trans hc) nofun
  connecting _ hc := absurd (alone.symm.trans hc) nofun
  connected now := absurd now state
  pipe _ hc := absurd (alone.symm.trans hc) nofun

theorem Mirrors.congr {p p' : Picture} {d : Device} (mirrors : p.Mirrors d)
    (told : ∀ c, d.connection = some c → p'.told c = p.told c)
    (piped : ∀ c, d.connection = some c → p'.piped c = p.piped c)
    (asking : ∀ c, d.connection = some c → p'.Asking c → p.Asking c)
    (given : ∀ c, d.connection = some c → p'.givenUp c → p.givenUp c) : p'.Mirrors d where
  resting := mirrors.resting
  attended := mirrors.attended
  early c hc := by
    rw [told c hc]
    exact fun silent => (mirrors.early c hc silent).imp (mt (asking c hc)) (mt (given c hc))
  connecting c hc := told c hc ▸ mirrors.connecting c hc
  connected now := by
    obtain ⟨c, hc, past⟩ := mirrors.connected now
    exact ⟨c, hc, (told c hc).trans past⟩
  pipe c hc := by
    rw [told c hc, piped c hc]
    exact mirrors.pipe c hc

theorem Slot.only (slot : p.Slot r h) {d : Device} (hd : p.entry r h = some d) {c : ConnectionId}
    (pending : p.Pending r h c) {c' : ConnectionId} (pending' : p.Pending r h c') : c' = c := by
  cases hc : d.connection with
  | none => exact slot.single d hd c' c pending' pending
  | some own =>
      obtain ⟨-, -, only, -⟩ := slot.held d own hd hc
      exact (only c' pending').trans (only c pending).symm

theorem Slot.bare (slot : p.Slot r h) {d : Device} (hd : p.entry r h = some d) {c : ConnectionId}
    (claims : ∀ own, d.connection = some own → own = c) (pending : p.Pending r h c)
    (early : p.told c ≠ [.connecting, .connected]) :
    (d.state ≠ .idle ∧ d.state ≠ .connected) ∧ d.pipe = none ∧ d.interface = none := by
  cases hc : d.connection with
  | none =>
      obtain ⟨pipe, interface, connecting⟩ := slot.free d hd hc
      exact ⟨by simp [(connecting c pending).1], pipe, interface⟩
  | some own =>
      obtain rfl := claims own hc
      obtain ⟨state, -, -, piped, equipped⟩ := slot.held d own hd hc
      have pipe : d.pipe = none := by
        cases hp : d.pipe with
        | none => rfl
        | some _ => exact absurd (piped (by simp [hp])) early
      have before : d.state ≠ .connected := by
        intro now
        obtain ⟨own', hc', past⟩ := (slot.mirrors d hd).connected now
        obtain rfl := Option.some.inj (hc.symm.trans hc')
        exact early past
      refine ⟨⟨state, before⟩, pipe, ?_⟩
      cases hi : d.interface with
      | none => rfl
      | some _ => simpa [pipe] using equipped (by simp [hi])

theorem Slot.attended (slot : p.Slot r h) {d : Device} (hd : p.entry r h = some d) {c : ConnectionId}
    (pending : p.Pending r h c) : d.observer.isSome := by
  refine (slot.mirrors d hd).attended ?_
  cases hc : d.connection with
  | none =>
      obtain ⟨-, -, early⟩ := slot.free d hd hc
      exact .inl (early c pending).1
  | some own => exact .inr rfl

theorem Slot.entitled (slot : p.Slot r h) (orderly : p.Orderly) {d : Device}
    (hd : p.entry r h = some d) (equipped : d.interface.isSome) {k : ControllerId}
    (appointed : p.appointed k r h) (present : (p.device k).isSome) :
    Entitled p.appointed (p.notices k) k := by
  cases hc : d.connection with
  | none =>
      obtain ⟨-, bare, -⟩ := slot.free d hd hc
      simp [bare] at equipped
  | some c =>
      obtain ⟨-, -, -, piped, covered⟩ := slot.held d c hd hc
      have told := piped (covered equipped)
      obtain ⟨k', watching⟩ := Option.isSome_iff_exists.mp
        ((slot.mirrors d hd).attended (.inr (by simp [hc])))
      by_cases sole : k' = k
      · have stands := slot.standing k (orderly.served r h d hd) appointed present
        simp only [expected, hd, watching, sole, if_true, hc, Option.elim_some, told, Standing.of]
          at stands
        exact .inr ⟨c, last_of_standing stands⟩
      · exact .inl ⟨k', r, h, sole, appointed, orderly.observed r h d k' hd watching⟩

theorem Slot.alone_of_idle (slot : p.Slot r h) {d : Device} (hd : p.entry r h = some d)
    (idle : d.state = .idle) : d.connection = none := by
  cases hc : d.connection with
  | none => rfl
  | some c => exact absurd idle (slot.held d c hd hc).1

theorem Slot.nobody_of_idle (slot : p.Slot r h) {d : Device} (hd : p.entry r h = some d)
    (idle : d.state = .idle) (c : ConnectionId) : ¬p.Pending r h c := by
  intro pending
  obtain ⟨-, -, early⟩ := slot.free d hd (slot.alone_of_idle hd idle)
  rw [(early c pending).1] at idle
  contradiction

theorem Slot.expected_of_pending (slot : p.Slot r h) {d : Device} (hd : p.entry r h = some d)
    {c : ConnectionId} (pending : p.Pending r h c) (k : ControllerId) :
    p.expected r h k = if d.observer = some k then .of c (p.told c) else .idle := by
  unfold expected
  simp only [hd]
  cases hc : d.connection with
  | none =>
      obtain ⟨-, -, early⟩ := slot.free d hd hc
      simp [(early c pending).2, Standing.of]
  | some own =>
      obtain ⟨-, -, only, -⟩ := slot.held d own hd hc
      simp [only c pending]

end Picture

open Picture

/-- What can only go one way. -/
structure Grows (r : RegistryId) (h : DeviceHandle) (p p' : Picture) : Prop where
  known : ∀ c sink, p.sink c = some sink → p'.sink c = some sink
  ongoing : ∀ c sink, p.sink c = some sink → p'.Ongoing c → p.Ongoing c
  /-- A connection of which nothing more may be told comes to no entry. -/
  shuns : ∀ c sink, p.sink c = some sink → ¬p.Ongoing c → p'.Owns r h c → p.Owns r h c
  disturbed : p.disturbed r h → p'.disturbed r h
  gone : p.Gone r → p'.Gone r
  orderly : p'.Orderly

/-- From one world to a later one: no connection that was known was given up, hosts have answered what
they were asked in between, and the slot has stayed as it has to be, except that a device may be left
that goes next, or that a connection was meant for which is gone. -/
structure Almost (r : RegistryId) (h : DeviceHandle) (p p' : Picture) : Prop extends
    Grows r h p p' where
  kept : ∀ c sink, p.sink c = some sink → p'.givenUp c → p.givenUp c
  asking : ∀ c, p'.Asking c ↔ p.Asking c
  slot : ¬p'.disturbed r h → p.Steady r h →
    p'.Slot r h ∧ (∀ c, p'.Settled r h c) ∧ (p.Leaving r h → p'.Leaving r h ∨ p'.Gone r)

/-- No such device is left. -/
structure Follows (r : RegistryId) (h : DeviceHandle) (p p' : Picture) : Prop extends
    Almost r h p p' where
  tended : ¬p'.disturbed r h → p.Steady r h → p'.Tended r h
  leaving : p'.Leaving r h → p.Leaving r h

variable {r r' : RegistryId} {h h' : DeviceHandle} {p p' p'' : Picture}

theorem Grows.trans (first : Grows r h p p') (second : Grows r h p' p'') : Grows r h p p'' where
  known c sink hc := second.known c sink (first.known c sink hc)
  ongoing c sink hc later := first.ongoing c sink hc (second.ongoing c sink (first.known c sink hc) later)
  shuns c sink hc spent owned := first.shuns c sink hc spent
    (second.shuns c sink (first.known c sink hc) (spent ∘ first.ongoing c sink hc) owned)
  disturbed := second.disturbed ∘ first.disturbed
  gone := second.gone ∘ first.gone
  orderly := second.orderly

theorem Almost.trans (first : Almost r h p p')
    (tended : ¬p'.disturbed r h → p.Steady r h → p'.Tended r h) (second : Almost r h p' p'') :
    Almost r h p p'' where
  toGrows := first.toGrows.trans second.toGrows
  kept c sink hc given := first.kept c sink hc (second.kept c sink (first.known c sink hc) given)
  asking c := (second.asking c).trans (first.asking c)
  slot calm steady := by
    have calm' : ¬p'.disturbed r h := calm ∘ second.disturbed
    obtain ⟨slot', settled', stays⟩ := first.slot calm' steady
    obtain ⟨slot'', settled'', stays'⟩ := second.slot calm ⟨slot', settled', tended calm' steady⟩
    refine ⟨slot'', settled'', fun leaving => ?_⟩
    rcases stays leaving with leaving | gone
    · exact stays' leaving
    · exact .inr (second.gone gone)

theorem Almost.follows (almost : Almost r h p p') (taken : p'.Taken r h) : Follows r h p p' where
  toAlmost := almost
  tended _ _ := taken.tended
  leaving now := absurd now taken.not_leaving

namespace Follows

theorem steady (follows : Follows r h p p') (calm : ¬p'.disturbed r h) (steady : p.Steady r h) :
    p'.Steady r h := by
  obtain ⟨slot, settled, -⟩ := follows.slot calm steady
  exact ⟨slot, settled, follows.tended calm steady⟩

theorem refl (orderly : p.Orderly) : Follows r h p p where
  known _ _ := id
  ongoing _ _ _ := id
  shuns _ _ _ _ := id
  disturbed := id
  gone := id
  orderly := orderly
  kept _ _ _ := id
  asking _ := .rfl
  slot _ steady := ⟨steady.slot, steady.settled, .inl⟩
  tended _ steady := steady.tended
  leaving := id

theorem trans (first : Follows r h p p') (second : Follows r h p' p'') : Follows r h p p'' where
  toAlmost := first.toAlmost.trans first.tended second.toAlmost
  tended calm steady := second.tended calm (first.steady (calm ∘ second.disturbed) steady)
  leaving := first.leaving ∘ second.leaving

end Follows

/-! ## Steps beside the slot -/

/-- Nothing that the slot depends on has changed, except that controllers may be gone and the registry
may serve no longer. -/
structure Beside (r : RegistryId) (h : DeviceHandle) (p p' : Picture) : Prop where
  serving : p'.serving r → p.serving r
  entry : p'.serving r → p'.entry r h = p.entry r h
  sink : ∀ c, p'.sink c = some (.entry r h) → p.sink c = some (.entry r h)
  told : ∀ c, p.sink c = some (.entry r h) → p'.told c = p.told c
  piped : ∀ c, p.sink c = some (.entry r h) → p'.piped c = p.piped c
  given : ∀ c, p.sink c = some (.entry r h) → (p'.givenUp c ↔ p.givenUp c)
  asking : ∀ c, p.sink c = some (.entry r h) → (p'.Asking c ↔ p.Asking c)
  known : ∀ c, p.sink c = some (.entry r h) → p'.sink c = some (.entry r h)
  parting : ∀ x, p.Parts r h x → p'.parting r h = p.parting r h
  absent : ∀ k, p.Absent k → p'.Absent k
  appointed : ∀ k, p'.appointed k r h → p.appointed k r h
  heard : ∀ k, p.appointed k r h → p'.notices k = p.notices k
  ready : ∀ k, p.appointed k r h → p.ready k → p'.ready k
  device : ∀ k, p.appointed k r h → (p'.device k).isSome → (p.device k).isSome

namespace Beside

theorem pending (beside : Beside r h p p') {c : ConnectionId} (pending : p'.Pending r h c) :
    p.Pending r h c := by
  obtain ⟨here, underway, spared⟩ := pending
  have before := beside.sink c here
  exact ⟨before, beside.told c before ▸ underway, spared ∘ (beside.given c before).mpr⟩

theorem pending_of (beside : Beside r h p p') {c : ConnectionId} (pending : p.Pending r h c) :
    p'.Pending r h c := by
  obtain ⟨here, underway, spared⟩ := pending
  exact ⟨beside.known c here, (beside.told c here).symm ▸ underway, spared ∘ (beside.given c here).mp⟩

theorem slot (beside : Beside r h p p') (orderly : p.Orderly) (orderly' : p'.Orderly)
    (slot : p.Slot r h) : p'.Slot r h := by
  have own : ∀ d c, p.entry r h = some d → d.connection = some c → p'.told c = p.told c :=
    fun d c hd hc => beside.told c (orderly.own r h d c hd hc)
  have same : ∀ d, p'.entry r h = some d → p.entry r h = some d :=
    fun d hd => (beside.entry (orderly'.served r h d hd)).symm.trans hd
  constructor
  · intro serving unknown c pending
    exact slot.vacant (beside.serving serving) ((beside.entry serving).symm.trans unknown) c
      (beside.pending pending)
  · intro d hd alone
    obtain ⟨pipe, interface, early⟩ := slot.free d (same d hd) alone
    refine ⟨pipe, interface, fun c pending => ?_⟩
    obtain ⟨state, told⟩ := early c (beside.pending pending)
    exact ⟨state, (beside.told c (beside.sink c pending.1)).trans told⟩
  · intro d hd c c' pending pending'
    exact slot.single d (same d hd) c c' (beside.pending pending) (beside.pending pending')
  · intro d c hd hc
    rw [own d c (same d hd) hc]
    obtain ⟨state, underway, only, rest⟩ := slot.held d c (same d hd) hc
    exact ⟨state, underway, fun c' pending => only c' (beside.pending pending), rest⟩
  · intro k serving appointed present
    have before := beside.appointed k appointed
    rw [beside.heard k before, slot.standing k (beside.serving serving) before
      (beside.device k before present)]
    unfold expected
    rw [beside.entry serving]
    cases hd : p.entry r h with
    | none => rfl
    | some d =>
        cases hc : d.connection with
        | none => simp only [hc, Option.elim_none]
        | some c => simp only [hc, Option.elim_some, own d c hd hc]
  · intro k appointed
    have before := beside.appointed k appointed
    rw [beside.heard k before]
    exact ⟨(slot.sound k before).1, beside.ready k before (slot.sound k before).2⟩
  · intro d hd
    have here := fun c hc => orderly.own r h d c (same d hd) hc
    exact (slot.mirrors d (same d hd)).congr (fun c hc => beside.told c (here c hc))
      (fun c hc => beside.piped c (here c hc)) (fun c hc => (beside.asking c (here c hc)).mp)
      fun c hc => (beside.given c (here c hc)).mp
  · intro serving
    obtain ⟨x, parts⟩ := slot.parting (beside.serving serving)
    refine ⟨x, parts.keep (beside.parting x parts) (beside.entry serving) beside.absent beside.known
      fun c here => ?_⟩
    rw [beside.told c here]
    exact id

theorem settled (beside : Beside r h p p') (orderly' : p'.Orderly) {c : ConnectionId}
    (settled : p.Settled r h c) : p'.Settled r h c := by
  intro d hd alone pending
  have before := (beside.entry (orderly'.served r h d hd)).symm.trans hd
  exact (beside.asking c (beside.sink c pending.1)).mpr
    (settled d before alone (beside.pending pending))

theorem tended (beside : Beside r h p p') (orderly' : p'.Orderly) (tended : p.Tended r h) :
    p'.Tended r h := by
  intro d hd alone connecting
  have before := (beside.entry (orderly'.served r h d hd)).symm.trans hd
  obtain ⟨c, pending⟩ := tended d before alone connecting
  exact ⟨c, beside.pending_of pending⟩

theorem leaving (beside : Beside r h p p') (orderly : p.Orderly)
    (grows : p.registries ≤ p'.registries) (leaving : p.Leaving r h) :
    p'.Leaving r h ∨ p'.Gone r := by
  obtain ⟨d, hd, state, alone⟩ := leaving
  by_cases serving : p'.serving r
  · exact .inl ⟨d, (beside.entry serving).trans hd, state, alone⟩
  · have := (orderly.counted r (orderly.served r h d hd)).2
    exact .inr ⟨by omega, serving⟩

theorem stayed (beside : Beside r h p p') (orderly' : p'.Orderly) (leaving : p'.Leaving r h) :
    p.Leaving r h := by
  obtain ⟨d, hd, state, alone⟩ := leaving
  exact ⟨d, (beside.entry (orderly'.served r h d hd)).symm.trans hd, state, alone⟩

end Beside

theorem Follows.of_beside (orderly : p.Orderly) (grows : Grows r h p p')
    (counted : p.registries ≤ p'.registries)
    (kept : ∀ c sink, p.sink c = some sink → p'.givenUp c → p.givenUp c)
    (asking : ∀ c, p'.Asking c ↔ p.Asking c) (beside : Beside r h p p') : Follows r h p p' where
  toGrows := grows
  kept := kept
  asking := asking
  slot _ steady := ⟨beside.slot orderly grows.orderly steady.slot,
    fun c => beside.settled grows.orderly (steady.settled c), beside.leaving orderly counted⟩
  tended _ steady := beside.tended grows.orderly steady.tended
  leaving := beside.stayed grows.orderly

/-- Nothing new was told, noticed or asked, and no connection is new. -/
structure Still (p p' : Picture) : Prop where
  sink : p'.sink = p.sink
  told : p'.told = p.told
  piped : p'.piped = p.piped
  givenUp : p'.givenUp = p.givenUp
  asked : p'.asked = p.asked
  answered : p'.answered = p.answered
  appointed : p'.appointed = p.appointed
  notices : p'.notices = p.notices
  ready : p'.ready = p.ready
  disturbed : p'.disturbed = p.disturbed

namespace Still

theorem pending (still : Still p p') : p'.Pending = p.Pending := by
  unfold Pending Ongoing
  rw [still.sink, still.told, still.givenUp]

theorem asking (still : Still p p') : p'.Asking = p.Asking := by
  unfold Asking
  rw [still.asked, still.answered]

theorem grows (still : Still p p')
    (shuns : ∀ c, ¬p.Ongoing c → p'.Owns r h c → p.Owns r h c) (gone : p.Gone r → p'.Gone r)
    (orderly' : p'.Orderly) : Grows r h p p' where
  known c sink := by
    rw [still.sink]
    exact id
  ongoing c sink _ := by
    unfold Ongoing
    rw [still.told, still.givenUp]
    exact id
  shuns c _ _ := shuns c
  disturbed := by
    rw [still.disturbed]
    exact id
  gone := gone
  orderly := orderly'

theorem mirrors (still : Still p p') {d : Device} (mirrors : p.Mirrors d) : p'.Mirrors d :=
  mirrors.congr (fun _ _ => by rw [still.told]) (fun _ _ => by rw [still.piped])
    (fun _ _ => by rw [still.asking]; exact id) fun _ _ => by rw [still.givenUp]; exact id

theorem follows (still : Still p p')
    (shuns : ∀ c, ¬p.Ongoing c → p'.Owns r h c → p.Owns r h c) (gone : p.Gone r → p'.Gone r)
    (orderly' : p'.Orderly)
    (slot : ¬p.disturbed r h → p.Steady r h →
      p'.Steady r h ∧ (p.Leaving r h → p'.Leaving r h ∨ p'.Gone r))
    (leaving : p'.Leaving r h → p.Leaving r h) : Follows r h p p' where
  toGrows := still.grows shuns gone orderly'
  kept c sink _ := by
    rw [still.givenUp]
    exact id
  asking c := by rw [still.asking]
  slot calm steady := by
    obtain ⟨steady', stays⟩ := slot (still.disturbed ▸ calm) steady
    exact ⟨steady'.slot, steady'.settled, stays⟩
  tended calm steady := (slot (still.disturbed ▸ calm) steady).1.tended
  leaving := leaving

theorem follows_beside (still : Still p p') (gone : p.Gone r → p'.Gone r) (orderly : p.Orderly)
    (orderly' : p'.Orderly) (counted : p.registries ≤ p'.registries)
    (serving : p'.serving r → p.serving r) (entry : p'.serving r → p'.entry r h = p.entry r h)
    (parting : ∀ x, p.Parts r h x → p'.parting r h = p.parting r h)
    (absent : ∀ k, p.Absent k → p'.Absent k)
    (device : ∀ k, p.appointed k r h → (p'.device k).isSome → (p.device k).isSome) :
    Follows r h p p' := by
  have shuns : ∀ c, ¬p.Ongoing c → p'.Owns r h c → p.Owns r h c := by
    rintro c - ⟨d, hd, owned⟩
    exact ⟨d, (entry (orderly'.served r h d hd)).symm.trans hd, owned⟩
  refine .of_beside orderly (still.grows shuns gone orderly') counted ?_ ?_ ?_
  · exact fun c sink _ => by simp only [still.givenUp, imp_self]
  · exact fun c => by rw [still.asking]
  · exact {
      serving := serving
      entry := entry
      sink := fun c => by simp only [still.sink, imp_self]
      told := fun c _ => by rw [still.told]
      piped := fun c _ => by rw [still.piped]
      given := fun c _ => by rw [still.givenUp]
      asking := fun c _ => by rw [still.asking]
      known := fun c => by simp only [still.sink, imp_self]
      parting := parting
      absent := absent
      appointed := fun k => by simp only [still.appointed, imp_self]
      heard := fun k _ => by rw [still.notices]
      ready := fun k _ => by simp only [still.ready, imp_self]
      device := device }

end Still

/-! ## A device goes a step on its way out -/

theorem Picture.proceed_self (p : Picture) (r : RegistryId) (h : DeviceHandle)
    (step : Parting → Option Parting) :
    (p.proceed r h step).parting r h = (p.parting r h).bind step := by
  simp [Picture.proceed]

theorem Picture.proceed_of_ne (p : Picture) (step : Parting → Option Parting)
    (apart : ¬(r' = r ∧ h' = h)) : (p.proceed r' h' step).parting r h = p.parting r h := by
  simp [Picture.proceed, apart]

theorem Picture.Orderly.proceed (orderly : p.Orderly) (known : r'.number < p.registries)
    (h' : DeviceHandle) (step : Parting → Option Parting) : (p.proceed r' h' step).Orderly :=
  { orderly with
    unparted := fun r h new => by
      refine (p.proceed_of_ne step ?_).trans (orderly.unparted r h new)
      rintro ⟨rfl, -⟩
      exact absurd known (Nat.not_lt.mpr new) }

theorem Still.proceed (p : Picture) (r : RegistryId) (h : DeviceHandle)
    (step : Parting → Option Parting) : Still p (p.proceed r h step) :=
  ⟨rfl, rfl, rfl, rfl, rfl, rfl, rfl, rfl, rfl, rfl⟩

theorem Follows.proceed_of_ne (orderly : p.Orderly) {step : Parting → Option Parting}
    (orderly' : (p.proceed r' h' step).Orderly) (apart : ¬(r' = r ∧ h' = h)) :
    Follows r h p (p.proceed r' h' step) :=
  (Still.proceed p r' h' step).follows_beside id orderly orderly' (Nat.le_refl _) id (fun _ => rfl)
    (fun _ _ => p.proceed_of_ne step apart) (fun _ => id) fun _ _ => id

/-! ## Registries and controllers come and go -/

theorem Picture.Orderly.retire (orderly : p.Orderly) (r' : RegistryId) : (p.retire r').Orderly := by
  have entry : ∀ r h d, (p.retire r').entry r h = some d → r' ≠ r ∧ p.entry r h = some d := by
    intro r h d hd
    simp only [Picture.retire] at hd
    split at hd
    · contradiction
    · next other => exact ⟨other, hd⟩
  exact { orderly with
    counted := fun r serving => orderly.counted r serving.2
    served := fun r h d hd =>
      ⟨(entry r h d hd).1.symm, orderly.served r h d (entry r h d hd).2⟩
    own := fun r h d c hd => orderly.own r h d c (entry r h d hd).2
    observed := fun r h d k hd => orderly.observed r h d k (entry r h d hd).2 }

theorem Follows.retire (orderly : p.Orderly) (r' : RegistryId) : Follows r h p (p.retire r') := by
  have still : Still p (p.retire r') := ⟨rfl, rfl, rfl, rfl, rfl, rfl, rfl, rfl, rfl, rfl⟩
  refine still.follows_beside (fun gone => ⟨gone.1, fun serving => gone.2 serving.2⟩) orderly
    (orderly.retire r') (Nat.le_refl _) (fun serving => serving.2) (fun serving => ?_)
    (fun _ _ => rfl) (fun _ => id) fun _ _ => id
  exact if_neg serving.1.symm

theorem Picture.Orderly.unseat (orderly : p.Orderly) (k : ControllerId) : (p.unseat k).Orderly :=
  { orderly with
    seated := fun k' r h hk => by
      simp only [Picture.unseat] at hk
      split at hk
      · contradiction
      · exact orderly.seated k' r h hk }

theorem Follows.unseat (orderly : p.Orderly) (k : ControllerId) : Follows r h p (p.unseat k) := by
  have still : Still p (p.unseat k) := ⟨rfl, rfl, rfl, rfl, rfl, rfl, rfl, rfl, rfl, rfl⟩
  refine still.follows_beside id orderly (orderly.unseat k) (Nat.le_refl _) id (fun _ => rfl)
    (fun _ _ => rfl) ?_ ?_
  · rintro k' ⟨gone, old⟩
    refine ⟨?_, old⟩
    simp only [Picture.unseat]
    split
    · rfl
    · exact gone
  intro k' _ present
  simp only [Picture.unseat] at present
  split at present
  · contradiction
  · exact present

theorem Picture.Orderly.enroll (orderly : p.Orderly) : p.enroll.Orderly :=
  { orderly with
    registered := fun c r h hc => Nat.lt_succ_of_lt (orderly.registered c r h hc)
    numbered := fun k r h appointed =>
      (orderly.numbered k r h appointed).imp_right Nat.lt_succ_of_lt
    first := Nat.succ_pos _
    counted := fun r serving => by
      have := orderly.first
      rcases serving with new | serving
      · exact ⟨by omega, by simp only [Picture.enroll]; omega⟩
      · have := orderly.counted r serving
        exact ⟨this.1, by simp only [Picture.enroll]; omega⟩
    served := fun r h d hd => .inr (orderly.served r h d hd)
    unparted := fun r h new => orderly.unparted r h (Nat.le_of_succ_le new) }

theorem Follows.enroll (orderly : p.Orderly) : Follows r h p p.enroll := by
  have still : Still p p.enroll := ⟨rfl, rfl, rfl, rfl, rfl, rfl, rfl, rfl, rfl, rfl⟩
  have gone : p.Gone r → p.enroll.Gone r := by
    rintro ⟨counted, gone⟩
    refine ⟨Nat.lt_succ_of_lt counted, ?_⟩
    rintro (new | serving)
    · omega
    · exact gone serving
  by_cases new : r.number = p.registries
  · refine still.follows (fun _ _ => id) gone orderly.enroll
      (fun _ steady => ⟨{ steady with slot := ?_ }, .inl⟩) id
    have unknown : ∀ c, ¬p.Pending r h c := by
      intro c pending
      have := orderly.registered c r h pending.1
      omega
    refine { steady.slot with
      vacant := fun _ _ => unknown
      standing := fun k _ appointed => ?_
      mirrors := fun d hd => still.mirrors (steady.slot.mirrors d hd)
      parting := fun _ => ⟨{}, orderly.unparted r h (by omega), ?_, by simp, by simp, by simp,
        by simp⟩ }
    · have := (orderly.numbered k r h appointed).2
      omega
    · have nothing : p.enroll.entry r h = none := by
        cases hd : p.entry r h with
        | none => exact hd
        | some d =>
            have := (orderly.counted r (orderly.served r h d hd)).2
            omega
      exact nothing ▸ .absent
  · refine still.follows_beside gone orderly orderly.enroll (Nat.le_succ _) ?_ (fun _ => rfl)
      (fun _ _ => rfl) (fun _ => id) fun _ _ => id
    rintro (here | serving)
    · exact absurd here new
    · exact serving

theorem Picture.Orderly.appoint (orderly : p.Orderly) {d : Device}
    (hd : p.entry r' h' = some d) :
    ((p.seat r' h').after (.appointed ⟨p.controllers⟩ r' h')).Orderly := by
  rw [Picture.after_appointed]
  exact { orderly with
    observed := fun r h d k hd hk => .inl (orderly.observed r h d k hd hk)
    seated := fun k r h hk => by
      simp only [Picture.seat] at hk ⊢
      split at hk
      · next new =>
          simp only [Option.some.injEq, Prod.mk.injEq] at hk
          exact .inr ⟨by rw [← new], hk⟩
      · exact .inl (orderly.seated k r h hk)
    faithful := fun k r₁ h₁ r₂ h₂ first second => by
      have new : ∀ {r h}, p.appointed ⟨p.controllers⟩ r h → False :=
        fun before => Nat.lt_irrefl _ (orderly.numbered _ _ _ before).1
      rcases first with first | ⟨rfl, rfl, rfl⟩ <;> rcases second with second | ⟨same, rfl, rfl⟩
      · exact orderly.faithful k r₁ h₁ r₂ h₂ first second
      · subst same
        exact (new first).elim
      · exact (new second).elim
      · exact ⟨rfl, rfl⟩
    numbered := fun k r h appointed => by
      rcases appointed with before | ⟨rfl, rfl, rfl⟩
      · exact (orderly.numbered k r h before).imp_left Nat.lt_succ_of_lt
      · exact ⟨Nat.lt_succ_self _, (orderly.counted _ (orderly.served _ _ _ hd)).2⟩
    unheard := fun k nowhere => orderly.unheard k fun r h before => nowhere r h (.inl before) }

theorem Picture.Absent.appoint {k : ControllerId} (absent : p.Absent k) (r' : RegistryId)
    (h' : DeviceHandle) : (p.seat r' h').Absent k := by
  obtain ⟨gone, old⟩ := absent
  refine ⟨?_, Nat.lt_succ_of_lt old⟩
  simp only [Picture.seat]
  rw [if_neg (Nat.ne_of_lt old)]
  exact gone

theorem Picture.Orderly.commanded (orderly : p.Orderly) {k : ControllerId}
    (appointed : p.appointed k r' h') : (p.after (.commanded k)).Orderly := by
  rw [Picture.after_commanded]
  exact { orderly with
    unheard := fun k' nowhere => by
      obtain ⟨silent, ready⟩ := orderly.unheard k' nowhere
      refine ⟨silent, ready, ?_⟩
      rintro rfl
      exact absurd appointed (nowhere r' h') }

theorem Follows.commanded (orderly : p.Orderly) {k : ControllerId} (appointed : p.appointed k r' h')
    (entitled : p.Slot r' h' → Entitled p.appointed (p.notices k) k) :
    Follows r h p (p.after (.commanded k)) := by
  have orderly' := orderly.commanded appointed
  rw [Picture.after_commanded] at orderly' ⊢
  exact {
    known := fun _ _ => id
    ongoing := fun _ _ _ => id
    shuns := fun _ _ _ _ => id
    disturbed := id
    gone := id
    orderly := orderly'
    kept := fun _ _ _ => id
    asking := fun _ => .rfl
    tended := fun _ steady => steady.tended
    leaving := id
    slot := fun _ steady => by
      have slot := steady.slot
      refine ⟨{ slot with sound := ?_, mirrors := ?_, parting := ?_ }, steady.settled, .inl⟩
      · intro k' here
        refine ⟨(slot.sound k' here).1, (slot.sound k' here).2, ?_⟩
        rintro rfl
        obtain ⟨rfl, rfl⟩ := orderly.faithful k r h r' h' here appointed
        exact entitled slot
      · exact fun d hd => { slot.mirrors d hd with }
      · intro serving
        obtain ⟨x, parts⟩ := slot.parting serving
        exact ⟨x, parts.keep rfl rfl (fun _ => id) (fun _ => id) fun _ _ => id⟩ }

theorem Follows.appoint (orderly : p.Orderly) {d : Device} (hd : p.entry r' h' = some d) :
    Follows r h p ((p.seat r' h').after (.appointed ⟨p.controllers⟩ r' h')) := by
  have orderly' := orderly.appoint hd
  rw [Picture.after_appointed] at orderly' ⊢
  have new : ∀ r h, ¬p.appointed ⟨p.controllers⟩ r h :=
    fun r h before => Nat.lt_irrefl _ (orderly.numbered _ _ _ before).1
  have unheard := orderly.unheard _ new
  exact {
    known := fun _ _ => id
    ongoing := fun _ _ _ => id
    shuns := fun _ _ _ _ => id
    disturbed := id
    gone := id
    orderly := orderly'
    kept := fun _ _ _ => id
    asking := fun _ => .rfl
    tended := fun _ steady => steady.tended
    leaving := id
    slot := fun _ steady => by
      have slot := steady.slot
      refine ⟨{ slot with standing := ?_, sound := ?_, mirrors := ?_, parting := ?_ },
        steady.settled, .inl⟩
      · intro k serving appointed present
        rcases appointed with before | ⟨rfl, rfl, rfl⟩
        · refine slot.standing k serving before ?_
          have old : k.number ≠ p.controllers := by
            have := (orderly.numbered k r h before).1
            omega
          simpa [Picture.seat, old] using present
        · change DroneControl.standing (p.notices _) = some (p.expected r' h' _)
          have other : d.observer ≠ some ⟨p.controllers⟩ :=
            fun hk => new r' h' (orderly.observed r' h' d _ hd hk)
          simp [unheard.1, DroneControl.standing, Picture.expected, hd, other]
      · intro k appointed
        rcases appointed with before | ⟨rfl, rfl, rfl⟩
        · exact slot.sound k before
        · change (DroneControl.standing (p.notices _)).isSome ∧ p.ready _
          exact ⟨by simp [unheard.1, DroneControl.standing], unheard.2⟩
      · exact fun d hd => { slot.mirrors d hd with }
      · intro serving
        obtain ⟨x, parts⟩ := slot.parting serving
        exact ⟨x, parts.keep rfl rfl (fun _ gone => gone.appoint r' h') (fun _ => id) fun _ _ => id⟩ }

end DroneControl
