import DroneControl.Proofs.Device.Hearing

/-!
# How the slot is taken and left

A device comes without a connection.  To connect it a connection is made that may take its slot, and a
host may be asked to open it; until the host has answered, that connection is not yet the entry's own.
A device goes when no connection has its slot.
-/

namespace DroneControl

open Picture

variable {r r' : RegistryId} {h h' : DeviceHandle} {p p' p'' : Picture} {c : ConnectionId}

/-! ## Entries -/

theorem Follows.add (orderly : p.Orderly) (serving : p.serving r')
    (unknown : p.entry r' h' = none) {d : Device} (idle : d.state = .idle)
    (bare : d.connection = none ∧ d.pipe = none ∧ d.interface = none ∧ d.observer = none) :
    Follows r h p ((p.setEntry r' h' (some d)).after (.announced r' h' true)) := by
  have changed : (p.setEntry r' h' (some d)).Orderly := by
    refine orderly.setEntry serving ?_ ?_ <;>
      · intro e _ he
        obtain rfl := Option.some.inj he
        simp [bare]
  have orderly' := changed.proceed (orderly.counted r' serving).2 h' (·.add)
  rw [after_announced]
  by_cases here : r' = r ∧ h' = h
  swap
  · exact (Follows.setEntry_of_ne orderly changed here).trans (.proceed_of_ne changed orderly' here)
  obtain ⟨rfl, rfl⟩ := here
  have entry : ∀ e, ((p.setEntry r' h' (some d)).proceed r' h' (·.add)).entry r' h' = some e → e = d :=
    fun e he => Option.some.inj (he.symm.trans (p.setEntry_self _ _ _))
  have still : Still p ((p.setEntry r' h' (some d)).proceed r' h' (·.add)) :=
    ⟨rfl, rfl, rfl, rfl, rfl, rfl, rfl, rfl, rfl, rfl⟩
  refine still.follows (fun c _ owned => ?_) id orderly' (fun _ steady => ?_) fun leaving => ?_
  · obtain ⟨e, he, hc⟩ := owned
    obtain rfl := entry e he
    simp [bare] at hc
  · have slot := steady.slot
    have nobody := slot.vacant serving unknown
    refine ⟨⟨⟨?_, ?_, ?_, ?_, ?_, slot.sound, ?_, ?_⟩, ?_, ?_⟩, ?_⟩
    · intro _ absent
      have there := (p.setEntry_self _ _ _).symm.trans absent
      contradiction
    · intro e he _
      obtain rfl := entry e he
      exact ⟨bare.2.1, bare.2.2.1, fun c pending => absurd pending (nobody c)⟩
    · exact fun _ _ c _ pending => absurd pending (nobody c)
    · intro e c he hc
      obtain rfl := entry e he
      simp [bare] at hc
    · intro k _ appointed present
      change standing (p.notices k) = _
      rw [slot.standing k serving appointed present]
      simp [expected, unknown, Picture.proceed, Picture.setEntry, bare]
    · intro e he
      obtain rfl := entry e he
      exact .of_alone bare.1 (fun _ => bare.2.2.2) (by simp [idle]) (by simp [idle])
    · intro _
      obtain ⟨x, parts⟩ := slot.parting serving
      have absent : x.stage = .absent := by
        have shown := unknown ▸ parts.shows
        generalize x.stage = stage at shown
        cases shown
        rfl
      refine ⟨{ x with stage := .staying }, ?_, ?_, parts.missed, by simp, parts.left,
        fun c among underway => ?_⟩
      · rw [proceed_self]
        change (p.parting r' h').bind _ = _
        rw [parts.reads, Option.bind_some, Parting.add, if_pos absent]
      · change Shows _ _ ((p.setEntry r' h' (some d)).entry r' h')
        rw [setEntry_self]
        exact .staying (by simp [idle])
      · obtain ⟨o, closing⟩ := parts.lasting c among underway
        simp [absent] at closing
    · exact fun c e he alone pending => absurd pending (nobody c)
    · intro e he _ connecting
      obtain rfl := entry e he
      simp [idle] at connecting
    · rintro ⟨e, he, -⟩
      rw [unknown] at he
      contradiction
  · obtain ⟨e, he, removing, -⟩ := leaving
    obtain rfl := entry e he
    simp [idle] at removing

theorem Follows.giveInterface (orderly : p.Orderly) {d : Device} (hd : p.entry r' h' = some d)
    (piped : d.pipe.isSome) (i : InterfaceId) :
    Follows r h p (p.setEntry r' h' (some { d with interface := some i })) := by
  have serving := orderly.served _ _ _ hd
  have orderly' := orderly.changeEntry (e := { d with interface := some i }) hd
    (fun c => orderly.own _ _ d c hd) (fun k => orderly.observed _ _ d k hd)
  refine .setEntry orderly orderly' (fun e c he hc _ => ?_) (fun _ steady => ?_) ?_
  · obtain rfl := Option.some.inj he
    exact ⟨d, hd, hc⟩
  · have slot := steady.slot
    have owned : d.connection ≠ none := by
      intro alone
      simp [(slot.free d hd alone).1] at piped
    have taken : (p.setEntry r' h' (some { d with interface := some i })).Taken r' h' := by
      intro e he
      rw [setEntry_self, Option.some.injEq] at he
      subst he
      exact owned
    refine ⟨taken.steady ?_, ?_⟩
    · refine slot.setEntry hd serving (fun alone => absurd alone owned) ?_
        { slot.mirrors d hd with } ?_ fun _ shows => shows.congr rfl rfl rfl
      · intro c hc
        obtain ⟨state, underway, only, complete, -⟩ := slot.held d c hd hc
        exact ⟨state, underway, only, complete, fun _ => piped⟩
      · intro k
        simp [expected, hd, Picture.setEntry]
    · rintro ⟨e, he, -, alone⟩
      obtain rfl := Option.some.inj (hd.symm.trans he)
      exact absurd alone owned
  · rintro ⟨e, he, removing, alone⟩
    rw [setEntry_self, Option.some.injEq] at he
    subst he
    exact ⟨d, hd, removing, alone⟩

theorem Picture.Parts.leave {x : Parting} (parts : p.Parts r h x) {d : Device}
    (hd : p.entry r h = some d) (owned : d.connection = some c) (staying : d.state ≠ .removing)
    (here : p.sink c = some (.entry r h)) (underway : Underway (p.told c)) :
    ((p.setEntry r h (some { d with state := .removing })).proceed r h (·.leave c d.observer)).Parts
      r h { x with stage := .closing c d.observer, left := c :: x.left } := by
  have stays : x.stage = .staying := (hd ▸ parts.shows).stays staying
  have unspent : ∀ c' ∈ x.left, ¬Underway (p.told c') := by
    intro c' among still
    obtain ⟨o, closing⟩ := parts.lasting c' among still
    simp [stays] at closing
  refine ⟨?_, ?_, parts.missed, ?_, ?_, ?_⟩
  · rw [proceed_self]
    change (p.parting r h).bind _ = _
    rw [parts.reads, Option.bind_some, Parting.leave,
      if_pos ⟨stays, fun among => unspent c among underway⟩]
  · change Shows _ _ ((p.setEntry r h (some { d with state := .removing })).entry r h)
    rw [setEntry_self]
    exact .closing (d := { d with state := .removing }) rfl owned
  · intro c' o closing
    obtain ⟨rfl, -⟩ : c = c' ∧ d.observer = o := by simpa using closing
    exact List.mem_cons_self
  · intro c' among
    rcases List.mem_cons.mp among with rfl | among
    · exact here
    · exact parts.left c' among
  · intro c' among still
    rcases List.mem_cons.mp among with rfl | among
    · exact ⟨_, rfl⟩
    · exact absurd still (unspent c' among)

theorem Follows.beginRemoval (orderly : p.Orderly) {d : Device} (hd : p.entry r' h' = some d)
    (owned : d.connection = some c) (staying : d.state ≠ .removing) :
    Follows r h p ((p.setEntry r' h' (some { d with state := .removing })).after
      (.leaving r' h' c d.observer)) := by
  have serving := orderly.served _ _ _ hd
  have changed := orderly.changeEntry (e := { d with state := .removing }) hd
    (fun c => orderly.own _ _ d c hd) (fun k => orderly.observed _ _ d k hd)
  rw [after_leaving]
  have orderly' := changed.proceed (orderly.counted r' serving).2 h' (·.leave c d.observer)
  by_cases here : r' = r ∧ h' = h
  swap
  · exact (Follows.setEntry_of_ne orderly changed here).trans (.proceed_of_ne changed orderly' here)
  obtain ⟨rfl, rfl⟩ := here
  have entry : ∀ e, p.entry r' h' = some e → e = d := fun e he => Option.some.inj (he.symm.trans hd)
  have entry' : ∀ e, ((p.setEntry r' h' (some { d with state := .removing })).proceed r' h'
      (·.leave c d.observer)).entry r' h' = some e → e = { d with state := .removing } :=
    fun e he => Option.some.inj (he.symm.trans (p.setEntry_self _ _ _))
  have taken : ((p.setEntry r' h' (some { d with state := .removing })).proceed r' h'
      (·.leave c d.observer)).Taken r' h' := by
    intro e he
    obtain rfl := entry' e he
    simp [owned]
  have still : Still p ((p.setEntry r' h' (some { d with state := .removing })).proceed r' h'
      (·.leave c d.observer)) := ⟨rfl, rfl, rfl, rfl, rfl, rfl, rfl, rfl, rfl, rfl⟩
  refine still.follows (fun c' _ owns => ?_) id orderly' (fun _ steady => ?_)
    fun now => absurd now taken.not_leaving
  · obtain ⟨e, he, hc⟩ := owns
    obtain rfl := entry' e he
    exact ⟨d, hd, hc⟩
  have slot := steady.slot
  refine ⟨taken.steady ?_, fun leaving => ?_⟩
  · refine slot.alter hd serving _ (fun alone => ?_) ?_ ?_ ?_ ?_
    · simp [owned] at alone
    · intro c hc
      obtain ⟨-, rest⟩ := slot.held d c hd hc
      exact ⟨by simp, rest⟩
    · exact { slot.mirrors d hd with
        resting := by simp, connecting := by simp, connected := by simp,
        attended := fun _ => (slot.mirrors d hd).attended (.inr (by simp [owned])) }
    · intro k
      simp [expected, hd, Picture.setEntry]
    · obtain ⟨x, parts⟩ := slot.parting serving
      exact ⟨_, parts.leave hd owned staying (orderly.own _ _ d c hd owned)
        (slot.held d c hd owned).2.1⟩
  · obtain ⟨e, he, -, alone⟩ := leaving
    obtain rfl := entry e he
    simp [owned] at alone

theorem Almost.dial (orderly : p.Orderly) {d : Device} (hd : p.entry r' h' = some d)
    (idle : d.state = .idle) {k : ControllerId} (hk : p.appointed k r' h') :
    Almost r h p (p.setEntry r' h' (some { d with state := .connecting, observer := some k })) := by
  have serving := orderly.served _ _ _ hd
  have orderly' : (p.setEntry r' h'
      (some { d with state := .connecting, observer := some k })).Orderly := by
    refine orderly.changeEntry hd (fun c => orderly.own _ _ d c hd) fun k' same => ?_
    exact Option.some.inj same ▸ hk
  by_cases here : r' = r ∧ h' = h
  swap
  · exact (Follows.setEntry_of_ne orderly orderly' here).toAlmost
  obtain ⟨rfl, rfl⟩ := here
  have shuns : ∀ c, ¬p.Ongoing c →
      (p.setEntry r' h' (some { d with state := .connecting, observer := some k })).Owns r' h' c →
      p.Owns r' h' c := by
    refine fun c _ owned => owned.of_setEntry fun e he hc => ?_
    obtain rfl := Option.some.inj he
    exact ⟨d, hd, hc⟩
  refine { (Still.setEntry p r' h' _).grows shuns id orderly' with
    kept := fun _ _ _ => id, asking := fun _ => .rfl, slot := fun _ steady => ?_ }
  have slot := steady.slot
  have alone := slot.alone_of_idle hd idle
  obtain ⟨pipe, interface, -⟩ := slot.free d hd alone
  have nobody := slot.nobody_of_idle hd idle
  have shows : ∀ stage, p.Shows stage (some d) →
      p.Shows stage (some { d with state := .connecting, observer := some k }) :=
    fun stage shows => shows.of_stays (by simp [idle]) nofun
  refine ⟨slot.setEntry hd serving ?_ ?_ (.of_alone alone nofun (fun _ => rfl) nofun) ?_ shows, ?_, ?_⟩
  · exact fun _ => ⟨pipe, interface, fun c pending => absurd pending (nobody c)⟩
  · intro c hc
    simp [alone] at hc
  · intro k
    simp [expected, setEntry_self, hd, alone]
  · exact fun c e he alone pending => absurd pending (nobody c)
  · rintro ⟨e, he, state, -⟩
    obtain rfl := Option.some.inj (hd.symm.trans he)
    simp [idle] at state

theorem Picture.after_removal (p : Picture) (r : RegistryId) (h : DeviceHandle) :
    (p.after (.removed r h)).after (.announced r h false) =
      { p with
        disturbed := fun r' h' => p.disturbed r' h' ∨ (r = r' ∧ h = h') ∧
          ∃ c, p.asked c (.entry r' h') ∧ ¬p.answered c
        parting := (p.proceed r h fun x => x.drop.bind (·.settle)).parting } := by
  rw [after_announced, after_removed]
  simp only [Picture.proceed]
  congr 1
  funext r' h'
  split
  · rw [Option.bind_assoc]
    rfl
  · rfl

theorem Picture.Parts.goes {x : Parting} (parts : p.Parts r h x) {d : Device}
    (hd : p.entry r h = some d) (alone : d.connection = none) :
    ∃ y, x.drop.bind (·.settle) = some y ∧ y.stage = .absent ∧ y.left = x.left ∧
      (∀ k ∈ y.missed, p.Absent k) ∧ ∀ c o, x.stage ≠ .closing c o := by
  have missed := parts.missed
  have shown := hd ▸ parts.shows
  obtain ⟨stage, left, before⟩ := x
  cases shown with
  | staying => exact ⟨⟨.absent, left, before⟩, rfl, rfl, rfl, missed, by simp⟩
  | closing _ owned => simp [owned] at alone
  | @ended _ c o _ _ gone =>
      refine ⟨⟨.absent, left, o.toList ++ before⟩, rfl, rfl, rfl, fun k among => ?_, by simp⟩
      rcases List.mem_append.mp among with among | among
      · exact gone k (Option.mem_toList.mp among)
      · exact missed k among
  | heard => exact ⟨⟨.absent, left, before⟩, rfl, rfl, rfl, missed, by simp⟩

theorem Almost.remove (almost : Almost r h p p') (apart : ¬(r' = r ∧ h' = h) → Follows r h p p')
    {d : Device} (hd : p'.entry r' h' = some d)
    (going : r' = r ∧ h' = h → ¬p'.disturbed r h → p.Steady r h →
      d.connection = none ∧ ¬p.Leaving r h) :
    Follows r h p (((p'.setEntry r' h' none).after (.removed r' h')).after
      (.announced r' h' false)) := by
  have serving := almost.orderly.served _ _ _ hd
  have orderly' : (p'.setEntry r' h' none).Orderly :=
    almost.orderly.setEntry serving (fun _ _ => nofun) fun _ _ => nofun
  have parted := orderly'.proceed (orderly'.counted r' serving).2 h' fun x => x.drop.bind (·.settle)
  have grows : Grows r h p' (((p'.setEntry r' h' none).after (.removed r' h')).after
      (.announced r' h' false)) := by
    rw [after_removal]
    exact {
      known := fun _ _ => id
      ongoing := fun _ _ _ => id
      shuns := fun _ _ _ _ owned => owned.of_setEntry fun _ => nofun
      disturbed := .inl
      gone := id
      orderly := { parted with } }
  rw [after_removal] at grows ⊢
  by_cases here : r' = r ∧ h' = h
  · obtain ⟨rfl, rfl⟩ := here
    refine Almost.follows { almost.toGrows.trans grows with
      kept := almost.kept
      asking := almost.asking
      slot := ?_ } (.of_unknown (p'.setEntry_self _ _ _))
    intro calm before
    have calm' : ¬p'.disturbed r' h' := fun disturbed => calm (.inl disturbed)
    obtain ⟨slot, settled', -⟩ := almost.slot calm' before
    obtain ⟨alone, staying⟩ := going ⟨rfl, rfl⟩ calm' before
    -- Whoever is pending still waits for an answer, and then the removal disturbs the attempt.
    have nobody : ∀ c, ¬p'.Pending r' h' c := by
      intro c pending
      obtain ⟨⟨sink, asked⟩, unanswered⟩ := settled' c d hd alone pending
      obtain rfl := Option.some.inj ((almost.orderly.asked c sink asked).symm.trans pending.1)
      exact calm (.inr ⟨⟨rfl, rfl⟩, c, asked, unanswered⟩)
    refine ⟨⟨fun _ _ => nobody, ?_, ?_, ?_, ?_, slot.sound, ?_, ?_⟩, ?_,
      fun leaving => absurd leaving staying⟩
    · simp [Picture.setEntry]
    · simp [Picture.setEntry]
    · simp [Picture.setEntry]
    · intro k _ appointed present
      change standing (p'.notices k) = _
      rw [slot.standing k serving appointed present]
      simp [expected, hd, alone, Picture.setEntry]
    · simp [Picture.setEntry]
    · intro _
      obtain ⟨x, parts⟩ := slot.parting serving
      obtain ⟨y, goes, stage, left, missed, unspent⟩ := parts.goes hd alone
      refine ⟨y, ?_, ?_, missed, ?_, ?_, ?_⟩
      · refine ((p'.setEntry r' h' none).proceed_self r' h' _).trans ?_
        change (p'.parting r' h').bind _ = _
        rw [parts.reads]
        exact goes
      · rw [stage]
        change Shows _ _ ((p'.setEntry r' h' none).entry r' h')
        rw [setEntry_self]
        exact .absent
      · simp [stage]
      · rw [left]
        exact parts.left
      · rw [left]
        intro c among underway
        obtain ⟨o, closing⟩ := parts.lasting c among underway
        exact absurd closing (unspent c o)
    · exact (Taken.of_unknown (p'.setEntry_self _ _ _)).settled
  · refine (apart here).trans ?_
    refine .of_beside almost.orderly grows (Nat.le_refl _) (fun _ _ _ => id) (fun _ => .rfl) ?_
    exact {
      serving := id
      entry := fun _ => p'.setEntry_of_ne none here
      sink := fun _ => id
      told := fun _ _ => rfl
      piped := fun _ _ => rfl
      given := fun _ _ => .rfl
      asking := fun _ _ => .rfl
      known := fun _ => id
      parting := fun _ _ => (p'.setEntry r' h' none).proceed_of_ne _ here
      absent := fun _ => id
      appointed := fun _ => id
      heard := fun _ _ => rfl
      ready := fun _ _ => id
      device := fun _ _ => id }

/-! ## Connections -/

theorem Picture.Orderly.meet (orderly : p.Orderly) (new : p.sink c = none) {sink : Sink}
    (counted : ∀ r h, sink = .entry r h → r.number < p.registries) : (p.meet c sink).Orderly := by
  have other : ∀ {c' sink'}, p.sink c' = some sink' → c ≠ c' := by
    rintro c' sink' hc rfl
    simp [new] at hc
  exact { orderly with
    unknown := fun c' unknown => by
      simp only [Picture.meet] at unknown
      split at unknown
      · contradiction
      · exact orderly.unknown c' unknown
    asked := fun c' sink' asked => by
      have known := orderly.asked c' sink' asked
      simpa [Picture.meet, other known] using known
    registered := fun c' r h hc => by
      simp only [Picture.meet] at hc
      split at hc
      · exact counted r h (Option.some.inj hc)
      · exact orderly.registered c' r h hc
    own := fun r h d c' hd hc => by
      have known := orderly.own r h d c' hd hc
      simpa [Picture.meet, other known] using known }

theorem Grows.meet (orderly : p.Orderly) (new : p.sink c = none) {sink : Sink}
    (counted : ∀ r h, sink = .entry r h → r.number < p.registries) :
    Grows r h p (p.meet c sink) where
  known c' sink' hc := by
    have other : c ≠ c' := by
      rintro rfl
      simp [new] at hc
    simpa [Picture.meet, other] using hc
  ongoing _ _ _ := id
  shuns _ _ _ _ := id
  disturbed := id
  gone := id
  orderly := orderly.meet new counted

theorem Follows.meet_beside (orderly : p.Orderly) (new : p.sink c = none) {sink : Sink}
    (counted : ∀ r h, sink = .entry r h → r.number < p.registries) (ne : sink ≠ .entry r h) :
    Follows r h p (p.meet c sink) := by
  refine .of_beside orderly (.meet orderly new counted) (Nat.le_refl _) (fun _ _ _ => id)
    (fun _ => .rfl) ?_
  exact {
    serving := id
    entry := fun _ => rfl
    sink := fun c' hc => by
      simp only [Picture.meet] at hc
      split at hc
      · exact absurd (Option.some.inj hc) ne
      · exact hc
    told := fun _ _ => rfl
    piped := fun _ _ => rfl
    given := fun _ _ => .rfl
    asking := fun _ _ => .rfl
    known := fun c' => (Grows.meet (r := r) (h := h) orderly new counted).known c' _
    parting := fun _ _ => rfl
    absent := fun _ => id
    appointed := fun _ => id
    heard := fun _ _ => rfl
    ready := fun _ _ => id
    device := fun _ _ => id }

/-- A new connection is being started.  It is known, but may not be settled yet. -/
structure Starts (c : ConnectionId) (r : RegistryId) (h : DeviceHandle) (p p' : Picture) : Prop
    extends Grows r h p p' where
  new : p.sink c = none ∧ ¬p.Asking c
  kept : ∀ c' sink, p.sink c' = some sink → p'.givenUp c' → p.givenUp c'
  asking : ∀ c', c' ≠ c → (p'.Asking c' ↔ p.Asking c')
  leaving : p'.Leaving r h → p.Leaving r h
  slot : ¬p'.disturbed r h → p.Steady r h →
    p'.Slot r h ∧ (∀ c', c' ≠ c → p'.Settled r h c') ∧ p'.Tended r h ∧
      (p.Leaving r h → p'.Leaving r h ∨ p'.Gone r)
  /-- The connection has come to the entry only by what it told. -/
  early : ¬p'.disturbed r h → p.Steady r h → ∀ d, p'.entry r h = some d →
    d.connection = some c → p'.told c ≠ []

namespace Starts

theorem of_follows (orderly : p.Orderly) (new : p.sink c = none) (follows : Follows r h p p')
    (apart : p'.sink c ≠ some (.entry r h)) : Starts c r h p p' where
  toGrows := follows.toGrows
  new := ⟨new, fun ⟨⟨sink, asked⟩, _⟩ => by simp [orderly.asked c sink asked] at new⟩
  kept := follows.kept
  asking c' _ := follows.asking c'
  leaving := follows.leaving
  slot calm steady := by
    obtain ⟨slot', settled', stays⟩ := follows.slot calm steady
    exact ⟨slot', fun c' _ => settled' c', follows.tended calm steady, stays⟩
  early _ _ d hd hc := absurd (follows.orderly.own r h d c hd hc) apart

theorem follows (starts : Starts c r h p p') (answered : ¬p'.Asking c)
    (settled : ¬p'.disturbed r h → p'.Slot r h → p'.Settled r h c) : Follows r h p p' where
  toGrows := starts.toGrows
  kept := starts.kept
  asking c' := by
    by_cases same : c' = c
    · subst same
      exact iff_of_false answered starts.new.2
    · exact starts.asking c' same
  slot calm before := by
    obtain ⟨slot', settled', -, stays⟩ := starts.slot calm before
    refine ⟨slot', fun c' => ?_, stays⟩
    by_cases same : c' = c
    · subst same
      exact settled calm slot'
    · exact settled' c' same
  tended calm before := (starts.slot calm before).2.2.1
  leaving := starts.leaving

theorem dial (orderly : p.Orderly) {d : Device} (hd : p.entry r' h' = some d)
    (idle : d.state = .idle) {k : ControllerId} (hk : p.appointed k r' h')
    (new : p.sink c = none) :
    Starts c r h p
      ((p.setEntry r' h' (some { d with state := .connecting, observer := some k })).meet c
        (.entry r' h')) := by
  let p' := p.setEntry r' h' (some { d with state := .connecting, observer := some k })
  have dials : Almost r h p p' := .dial orderly hd idle hk
  have counted : ∀ r h, Sink.entry r' h' = .entry r h → r.number < p'.registries := by
    rintro r h same
    obtain ⟨rfl, rfl⟩ := Sink.entry.inj same
    exact (orderly.counted _ (orderly.served _ _ _ hd)).2
  change Starts c r h p (p'.meet c (.entry r' h'))
  by_cases here : r' = r ∧ h' = h
  swap
  · have apart := Follows.setEntry_of_ne orderly dials.orderly here
    refine .of_follows orderly new (apart.trans (.meet_beside dials.orderly new counted ?_)) ?_
    · simpa using here
    · simpa [Picture.meet] using here
  obtain ⟨rfl, rfl⟩ := here
  have entry : (p'.meet c (.entry r' h')).entry r' h' =
      some { d with state := .connecting, observer := some k } := p.setEntry_self _ _ _
  have unasked : ¬p.Asking c := by
    rintro ⟨⟨sink, asked⟩, -⟩
    simp [orderly.asked c sink asked] at new
  refine { dials.toGrows.trans (.meet dials.orderly new counted) with
    new := ⟨new, unasked⟩
    kept := dials.kept
    asking := fun c' _ => dials.asking c'
    leaving := ?_
    slot := fun calm steady => ?_
    early := fun calm steady e he hc => ?_ }
  · rintro ⟨e, he, removing, -⟩
    obtain rfl := Option.some.inj (entry.symm.trans he)
    contradiction
  · have slot := steady.slot
    obtain ⟨slot', -, stays⟩ := dials.slot calm steady
    have only : ∀ c', (p'.meet c (.entry r' h')).Pending r' h' c' → c' = c := by
      rintro c' ⟨there, ongoing⟩
      by_contra other
      have before : p'.sink c' = some (.entry r' h') := by
        simpa [Picture.meet, Ne.symm other] using there
      exact slot.nobody_of_idle hd idle c' ⟨before, ongoing⟩
    refine ⟨?_, fun c' other _ _ _ pending => absurd (only c' pending) other, ?_, stays⟩
    · refine ⟨?_, ?_, fun _ _ c' c'' first second => (only c' first).trans (only c'' second).symm,
        ?_, slot'.standing, slot'.sound, fun e he => { slot'.mirrors e he with }, fun serving => ?_⟩
      · intro _ unknown
        cases entry.symm.trans unknown
      · intro e he alone
        obtain ⟨pipe, interface, -⟩ := slot'.free e he alone
        refine ⟨pipe, interface, fun c' pending => ?_⟩
        obtain rfl := only c' pending
        obtain rfl := Option.some.inj (entry.symm.trans he)
        exact ⟨rfl, (orderly.unknown c' new).1⟩
      · intro e c' he hc
        obtain rfl := Option.some.inj (entry.symm.trans he)
        simp [slot.alone_of_idle hd idle] at hc
      · obtain ⟨x, parts⟩ := slot'.parting serving
        exact ⟨x, parts.keep rfl rfl (fun _ => id)
          (fun c' => (Grows.meet (r := r') (h := h') dials.orderly new counted).known c' _)
          fun _ _ => id⟩
    · intro _ _ _ _
      obtain ⟨silent, spared, -⟩ := orderly.unknown c new
      refine ⟨c, ?_, .inl silent, spared⟩
      simp [Picture.meet]
  · obtain rfl := Option.some.inj (entry.symm.trans he)
    simp [steady.slot.alone_of_idle hd idle] at hc

theorem ask (starts : Starts c r h p p') {asked : ConnectionId → Sink → Prop}
    {answered : ConnectionId → Prop}
    (orderly : ({ p' with asked, answered } : Picture).Orderly)
    (asking : ∀ c', c' ≠ c →
      (({ p' with asked, answered } : Picture).Asking c' ↔ p'.Asking c')) :
    Starts c r h p { p' with asked, answered } where
  known := starts.known
  ongoing := starts.ongoing
  shuns := starts.shuns
  disturbed := starts.disturbed
  gone := starts.gone
  orderly := orderly
  new := starts.new
  kept := starts.kept
  asking c' other := (asking c' other).trans (starts.asking c' other)
  leaving := starts.leaving
  early := starts.early
  slot calm steady := by
    obtain ⟨slot', settled', tended', stays⟩ := starts.slot calm steady
    refine ⟨{ slot' with mirrors := fun d hd => ?_, parting := fun serving => ?_ },
      fun c' other d hd alone pending => ?_, tended', stays⟩
    · refine { slot'.mirrors d hd with early := fun c' hc silent => ?_ }
      have other : c' ≠ c := by
        rintro rfl
        exact starts.early calm steady d hd hc silent
      exact ((slot'.mirrors d hd).early c' hc silent).imp_left (mt (asking c' other).mp)
    · obtain ⟨x, parts⟩ := slot'.parting serving
      exact ⟨x, parts.keep rfl rfl (fun _ => id) (fun _ => id) fun _ _ => id⟩
    · exact (asking c' other).mpr (settled' c' other d hd alone pending)

theorem asked (starts : Starts c r h p p') {sink : Sink} (hc : p'.sink c = some sink) :
    Starts c r h p (p'.after (.opening c sink)) := by
  have orderly := starts.orderly
  rw [after_opening]
  refine starts.ask { orderly with asked := fun c' sink' asked => ?_ } fun c' other => ?_
  · rcases asked with before | ⟨rfl, rfl⟩
    · exact orderly.asked c' sink' before
    · exact hc
  · simp [Asking, Ne.symm other]

theorem meanwhile (starts : Starts c r h p p') (asking : p'.Asking c)
    (later : Follows r h p' p'') : Starts c r h p p'' := by
  have between : ¬p''.disturbed r h → p.Steady r h →
      p'.Steady r h ∧ (p.Leaving r h → p'.Leaving r h ∨ p'.Gone r) := by
    intro calm steady
    obtain ⟨slot', settled', tended', stays⟩ := starts.slot (calm ∘ later.disturbed) steady
    refine ⟨⟨slot', fun c' => ?_, tended'⟩, stays⟩
    by_cases same : c' = c
    · subst same
      exact fun _ _ _ _ => asking
    · exact settled' c' same
  refine { starts.toGrows.trans later.toGrows with
    new := starts.new
    kept := fun c' sink hc given =>
      starts.kept c' sink hc (later.kept c' sink (starts.known c' sink hc) given)
    asking := fun c' other => (later.asking c').trans (starts.asking c' other)
    leaving := starts.leaving ∘ later.leaving
    slot := fun calm steady => ?_
    early := fun calm steady d hd hc silent => ?_ }
  · obtain ⟨steady', stays⟩ := between calm steady
    obtain ⟨slot'', all, stays'⟩ := later.slot calm steady'
    refine ⟨slot'', fun c' _ => all c', later.tended calm steady', fun leaving => ?_⟩
    rcases stays leaving with leaving | gone
    · exact stays' leaving
    · exact .inr (later.gone gone)
  · obtain ⟨slot'', -⟩ := later.slot calm (between calm steady).1
    exact ((slot''.mirrors d hd).early c hc silent).1 ((later.asking c).mpr asking)

theorem answered (starts : Starts c r h p p') {sink : Sink} (hc : p'.sink c = some sink) :
    Starts c r h p (p'.after (.opened c)) := by
  have orderly := starts.orderly
  rw [after_opened]
  refine starts.ask { orderly with unknown := fun c' unknown => ?_ } fun c' other => ?_
  · have other : c ≠ c' := by
      rintro rfl
      simp [hc] at unknown
    simpa [other] using orderly.unknown c' unknown
  · simp [Asking, Ne.symm other]

theorem pending_discarded {c' : ConnectionId} :
    (p'.after (.discarded c)).Pending r h c' ↔ p'.Pending r h c' ∧ c' ≠ c := by
  rw [after_discarded]
  constructor
  · rintro ⟨here, underway, spared⟩
    refine ⟨⟨here, underway, fun given => spared (.inl given)⟩, ?_⟩
    rintro rfl
    exact spared (.inr rfl)
  · rintro ⟨⟨here, underway, spared⟩, other⟩
    exact ⟨here, underway, fun given => given.elim spared fun same => other same.symm⟩

theorem discarded (starts : Starts c r h p p') {sink : Sink} (hc : p'.sink c = some sink)
    (answered : ¬p'.Asking c) : Almost r h p (p'.after (.discarded c)) := by
  have orderly := starts.orderly
  have grows : Grows r h p' (p'.after (.discarded c)) := by
    rw [after_discarded]
    exact {
      known := fun _ _ => id
      ongoing := fun c' _ _ later => ⟨later.1, fun given => later.2 (.inl given)⟩
      shuns := fun _ _ _ _ => id
      disturbed := id
      gone := id
      orderly := { orderly with
        unknown := fun c' unknown => by
          have other : c ≠ c' := by
            rintro rfl
            simp [hc] at unknown
          simpa [other] using orderly.unknown c' unknown } }
  have beside : ∀ c', (p'.after (.discarded c)).Pending r h c' → p'.Pending r h c' ∧ c' ≠ c :=
    fun _ => pending_discarded.mp
  refine { starts.toGrows.trans grows with kept := ?_, asking := ?_, slot := ?_ }
  · rw [after_discarded]
    rintro c' sink' known (given | rfl)
    · exact starts.kept c' sink' known given
    · rw [starts.new.1] at known
      contradiction
  · rw [after_discarded]
    intro c'
    by_cases same : c' = c
    · subst same
      exact iff_of_false answered starts.new.2
    · exact starts.asking c' same
  · intro calm steady
    have calm' : ¬p'.disturbed r h := calm ∘ grows.disturbed
    obtain ⟨slot', settled', -, stays⟩ := starts.slot calm' steady
    have early := starts.early calm' steady
    rw [after_discarded] at beside ⊢
    refine ⟨⟨?_, ?_, ?_, ?_, slot'.standing, slot'.sound, ?_, fun serving => ?_⟩, ?_, stays⟩
    · exact fun serving unknown c' later => slot'.vacant serving unknown c' (beside c' later).1
    · intro d hd alone
      obtain ⟨pipe, interface, early⟩ := slot'.free d hd alone
      exact ⟨pipe, interface, fun c' later => early c' (beside c' later).1⟩
    · exact fun d hd c₁ c₂ first second =>
        slot'.single d hd c₁ c₂ (beside c₁ first).1 (beside c₂ second).1
    · intro d own hd hc'
      obtain ⟨state, underway, only, rest⟩ := slot'.held d own hd hc'
      exact ⟨state, underway, fun c' later => only c' (beside c' later).1, rest⟩
    · intro d hd
      refine { slot'.mirrors d hd with early := fun c' hc' silent => ?_ }
      refine ((slot'.mirrors d hd).early c' hc' silent).imp_right fun spared given => ?_
      rcases given with before | rfl
      · exact spared before
      · exact early d hd hc' silent
    · obtain ⟨x, parts⟩ := slot'.parting serving
      exact ⟨x, parts.keep rfl rfl (fun _ => id) (fun _ => id) fun _ _ => id⟩
    · intro c' d hd alone later
      obtain ⟨pending, other⟩ := beside c' later
      exact settled' c' other d hd alone pending

theorem discarded_follows (starts : Starts c r h p p') {sink : Sink} (hc : p'.sink c = some sink)
    (answered : ¬p'.Asking c) (other : p'.told c = [] → sink ≠ .entry r h) :
    Follows r h p (p'.after (.discarded c)) := by
  have almost : Almost r h p (p'.after (.discarded c)) := starts.discarded hc answered
  refine { almost with tended := fun calm steady d hd alone connecting => ?_, leaving := ?_ }
  · obtain ⟨slot', -, tended', -⟩ := starts.slot (by rwa [after_discarded] at calm) steady
    rw [after_discarded] at hd
    obtain ⟨c', pending⟩ := tended' d hd alone connecting
    refine ⟨c', pending_discarded.mpr ⟨pending, ?_⟩⟩
    rintro rfl
    obtain ⟨-, -, waiting⟩ := slot'.free d hd alone
    refine other (waiting c' pending).2 (Option.some.inj (hc.symm.trans pending.1))
  · rw [after_discarded]
    exact starts.leaving

theorem taken (starts : Starts c r h p p') (hc : p'.sink c = some (.entry r' h'))
    (answered : ¬p'.Asking c) (ongoing : p'.Ongoing c) {d : Device}
    (hd : p'.entry r' h' = some d) (alone : d.connection = none) :
    Follows r h p (p'.setEntry r' h' (some { d with connection := some c })) := by
  have orderly := starts.orderly
  have orderly' := orderly.changeEntry (e := { d with connection := some c }) hd
    (fun c' same => Option.some.inj same ▸ hc) fun k => orderly.observed _ _ d k hd
  by_cases here : r' = r ∧ h' = h
  swap
  · have elsewhere : ¬p'.disturbed r h → p'.Slot r h → p'.Settled r h c := by
      rintro - - d _ _ ⟨there, -⟩
      rw [hc, Option.some.injEq, Sink.entry.injEq] at there
      exact absurd there here
    exact (starts.follows answered elsewhere).trans (.setEntry_of_ne orderly orderly' here)
  obtain ⟨rfl, rfl⟩ := here
  have grows : Grows r' h' p' (p'.setEntry r' h' (some { d with connection := some c })) := by
    refine (Still.setEntry p' r' h' _).grows (fun c' spent owned => ?_) id orderly'
    refine owned.of_setEntry fun e he hc' => ?_
    obtain rfl := Option.some.inj he
    obtain rfl := Option.some.inj hc'
    exact absurd ongoing spent
  have taken : (p'.setEntry r' h' (some { d with connection := some c })).Taken r' h' := by
    intro e he
    rw [setEntry_self, Option.some.injEq] at he
    subst he
    nofun
  refine Almost.follows { starts.toGrows.trans grows with
    kept := starts.kept
    asking := ?_
    slot := ?_ } taken
  · intro c'
    by_cases same : c' = c
    · subst same
      exact iff_of_false answered starts.new.2
    · exact starts.asking c' same
  · intro calm steady
    obtain ⟨slot', -, -, stays⟩ := starts.slot calm steady
    have pending : p'.Pending r' h' c := ⟨hc, ongoing⟩
    obtain ⟨pipe, interface, early⟩ := slot'.free d hd alone
    obtain ⟨state, told⟩ := early c pending
    have shows : ∀ stage, p'.Shows stage (some d) →
        p'.Shows stage (some { d with connection := some c }) :=
      fun stage shows => shows.of_stays (by simp [state]) (by simp [state])
    refine ⟨slot'.setEntry hd (orderly.served _ _ _ hd) nofun ?_ ?_ ?_ shows, taken.settled,
      fun leaving => ?_⟩
    · intro c' same
      obtain rfl := Option.some.inj same
      refine ⟨by simp [state], by simp [told, Underway], ?_, by simp [pipe], by simp [interface]⟩
      exact fun c'' later => slot'.only hd pending later
    · have attended : d.observer.isSome := slot'.attended hd pending
      refine ⟨by simp [state], fun _ => attended, ?_, ?_, by simp [state], ?_⟩ <;>
        · intro c' same
          obtain rfl := Option.some.inj same
          simp [told, answered, ongoing.2]
    · intro k
      rw [slot'.expected_of_pending hd pending]
      simp [expected, Picture.setEntry, told]
    · rcases stays leaving with ⟨e, he, removing, -⟩ | gone
      · obtain rfl := Option.some.inj (hd.symm.trans he)
        simp [state] at removing
      · exact .inr gone

end Starts

theorem Almost.reset (orderly₀ : p.Orderly) (almost : Almost r h p p')
    (leaving : p'.Leaving r h → p.Leaving r h) (apart : ¬(r' = r ∧ h' = h) → Follows r h p p')
    {d₀ : Device}
    (hd₀ : p.entry r' h' = some d₀) (idle : d₀.state = .idle) {d : Device}
    (hd : p'.entry r' h' = some d) (alone : d.connection = none) :
    Follows r h p (p'.setEntry r' h' (some { d with state := .idle, observer := none })) := by
  have orderly := almost.orderly
  have orderly' := orderly.changeEntry (e := { d with state := .idle, observer := none }) hd
    (fun c => orderly.own _ _ d c hd) fun _ => nofun
  by_cases here : r' = r ∧ h' = h
  swap
  · exact (apart here).trans (.setEntry_of_ne orderly orderly' here)
  obtain ⟨rfl, rfl⟩ := here
  have grows : Grows r' h' p'
      (p'.setEntry r' h' (some { d with state := .idle, observer := none })) := by
    refine (Still.setEntry p' r' h' _).grows (fun c _ owned => ?_) id orderly'
    refine owned.of_setEntry fun e he hc => ?_
    obtain rfl := Option.some.inj he
    exact ⟨d, hd, hc⟩
  have entry : ∀ e, (p'.setEntry r' h' (some { d with state := .idle, observer := none })).entry
      r' h' = some e → e.state = .idle := by
    intro e he
    rw [setEntry_self, Option.some.injEq] at he
    subst he
    rfl
  refine { almost.toGrows.trans grows with
    kept := almost.kept
    asking := almost.asking
    slot := ?_
    tended := ?_
    leaving := ?_ }
  · intro calm before
    obtain ⟨slot, settled', -⟩ := almost.slot calm before
    have nobody : ∀ c, ¬p'.Pending r' h' c := by
      intro c pending
      obtain ⟨⟨sink, asked⟩, -⟩ := (almost.asking c).mp (settled' c d hd alone pending)
      have known := orderly₀.asked c sink asked
      obtain rfl := Option.some.inj ((almost.known c sink known).symm.trans pending.1)
      exact before.slot.nobody_of_idle hd₀ idle c ⟨known, almost.ongoing c _ known pending.2⟩
    obtain ⟨pipe, interface, -⟩ := slot.free d hd alone
    have staying : d.state ≠ .removing := by
      intro removing
      obtain ⟨e, he, state, -⟩ := leaving ⟨d, hd, removing, alone⟩
      obtain rfl := Option.some.inj (hd₀.symm.trans he)
      simp [idle] at state
    have shows : ∀ stage, p'.Shows stage (some d) →
        p'.Shows stage (some { d with state := .idle, observer := none }) :=
      fun stage shows => shows.of_stays staying nofun
    refine ⟨slot.setEntry hd (orderly.served _ _ _ hd) ?_ ?_
      (.of_alone alone (fun _ => rfl) nofun nofun) ?_ shows, ?_, fun leaving => ?_⟩
    · exact fun _ => ⟨pipe, interface, fun c pending => absurd pending (nobody c)⟩
    · intro c hc
      simp [alone] at hc
    · intro k
      simp [expected, hd, alone, Picture.setEntry]
    · exact fun c e he none pending => absurd pending (nobody c)
    · obtain ⟨e, he, removing, -⟩ := leaving
      obtain rfl := Option.some.inj (hd₀.symm.trans he)
      simp [idle] at removing
  · intro _ _ e he _ connecting
    simp [entry e he] at connecting
  · rintro ⟨e, he, removing, -⟩
    simp [entry e he] at removing

end DroneControl
