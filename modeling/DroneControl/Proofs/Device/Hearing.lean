import DroneControl.Proofs.Device.Slot

/-!
# What an event does to the slot

An event of the connection that has the slot goes to the listener in one piece: it is told, the entry
follows it, and the controller passes it on.  An event of any other connection goes nowhere.
-/

namespace DroneControl

open Picture

variable {r r' : RegistryId} {h h' : DeviceHandle} {p p' : Picture}

/-! ## Entries change -/

theorem Picture.setEntry_self (p : Picture) (r : RegistryId) (h : DeviceHandle)
    (d : Option Device) : (p.setEntry r h d).entry r h = d := by
  simp [Picture.setEntry]

theorem Picture.setEntry_of_ne (p : Picture) {r r' : RegistryId} {h h' : DeviceHandle}
    (d : Option Device) (ne : ¬(r' = r ∧ h' = h)) :
    (p.setEntry r' h' d).entry r h = p.entry r h := by
  simp [Picture.setEntry, ne]

theorem Picture.setEntry_setEntry (p : Picture) (r : RegistryId) (h : DeviceHandle)
    (d d' : Option Device) : (p.setEntry r h d).setEntry r h d' = p.setEntry r h d' := by
  apply Picture.ext
  case entry =>
    funext r' h'
    simp only [Picture.setEntry]
    split <;> rfl
  all_goals rfl

theorem Picture.setEntry_same {p : Picture} {r : RegistryId} {h : DeviceHandle} {d : Option Device}
    (hd : p.entry r h = d) : p.setEntry r h d = p := by
  apply Picture.ext
  case entry =>
    funext r' h'
    simp only [Picture.setEntry]
    split
    · next here => rw [← here.1, ← here.2, hd]
    · rfl
  all_goals rfl

theorem Still.setEntry (p : Picture) (r : RegistryId) (h : DeviceHandle) (d : Option Device) :
    Still p (p.setEntry r h d) :=
  ⟨rfl, rfl, rfl, rfl, rfl, rfl, rfl, rfl, rfl, rfl⟩

theorem Picture.Owns.of_setEntry {d' : Option Device} {c : ConnectionId}
    (owned : (p.setEntry r' h' d').Owns r h c)
    (own : ∀ d, d' = some d → d.connection = some c → p.Owns r' h' c) : p.Owns r h c := by
  obtain ⟨d, hd, hc⟩ := owned
  simp only [Picture.setEntry] at hd
  split at hd
  · next here =>
      obtain ⟨rfl, rfl⟩ := here
      exact own d hd hc
  · exact ⟨d, hd, hc⟩

theorem Picture.Orderly.setEntry (orderly : p.Orderly) {d' : Option Device}
    (serving : p.serving r')
    (own : ∀ d c, d' = some d → d.connection = some c → p.sink c = some (.entry r' h'))
    (observed : ∀ d k, d' = some d → d.observer = some k → p.appointed k r' h') :
    (p.setEntry r' h' d').Orderly := by
  have entry : ∀ r h d, (p.setEntry r' h' d').entry r h = some d →
      (r' = r ∧ h' = h) ∧ d' = some d ∨ p.entry r h = some d := by
    intro r h d hd
    simp only [Picture.setEntry] at hd
    split at hd
    · next here => exact .inl ⟨here, hd⟩
    · exact .inr hd
  exact { orderly with
    served := fun r h d hd => by
      rcases entry r h d hd with ⟨⟨rfl, rfl⟩, -⟩ | hd
      · exact serving
      · exact orderly.served r h d hd
    own := fun r h d c hd hc => by
      rcases entry r h d hd with ⟨⟨rfl, rfl⟩, changed⟩ | hd
      · exact own d c changed hc
      · exact orderly.own r h d c hd hc
    observed := fun r h d k hd hk => by
      rcases entry r h d hd with ⟨⟨rfl, rfl⟩, changed⟩ | hd
      · exact observed d k changed hk
      · exact orderly.observed r h d k hd hk }

theorem Picture.Orderly.changeEntry (orderly : p.Orderly) {d e : Device}
    (hd : p.entry r' h' = some d)
    (own : ∀ c, e.connection = some c → p.sink c = some (.entry r' h'))
    (observed : ∀ k, e.observer = some k → p.appointed k r' h') :
    (p.setEntry r' h' (some e)).Orderly := by
  refine orderly.setEntry (orderly.served _ _ _ hd) ?_ ?_
  · intro e' c he hc
    obtain rfl := Option.some.inj he
    exact own c hc
  · intro e' k he hk
    obtain rfl := Option.some.inj he
    exact observed k hk

theorem Follows.setEntry_of_ne (orderly : p.Orderly) {d' : Option Device}
    (orderly' : (p.setEntry r' h' d').Orderly) (apart : ¬(r' = r ∧ h' = h)) :
    Follows r h p (p.setEntry r' h' d') :=
  (Still.setEntry p r' h' d').follows_beside id orderly orderly' (Nat.le_refl _) id
    (fun _ => p.setEntry_of_ne d' apart) (fun _ _ => rfl) (fun _ => id) fun _ _ => id

theorem Follows.setEntry (orderly : p.Orderly) {d' : Option Device}
    (orderly' : (p.setEntry r' h' d').Orderly)
    (own : ∀ d c, d' = some d → d.connection = some c → ¬p.Ongoing c → p.Owns r' h' c)
    (steady : ¬p.disturbed r' h' → p.Steady r' h' →
      (p.setEntry r' h' d').Steady r' h' ∧
        (p.Leaving r' h' → (p.setEntry r' h' d').Leaving r' h'))
    (leaving : (p.setEntry r' h' d').Leaving r' h' → p.Leaving r' h') :
    Follows r h p (p.setEntry r' h' d') := by
  by_cases here : r' = r ∧ h' = h
  · obtain ⟨rfl, rfl⟩ := here
    refine (Still.setEntry p r' h' d').follows (fun c spent owned => ?_) id orderly'
      (fun calm before => ?_) leaving
    · exact owned.of_setEntry fun d hd hc => own d c hd hc spent
    exact (steady calm before).imp_right fun stays leaving => .inl (stays leaving)
  · exact .setEntry_of_ne orderly orderly' here

theorem Picture.Slot.alter (slot : p.Slot r h) {d d' : Device} (hd : p.entry r h = some d)
    (serving : p.serving r) (parting : RegistryId → DeviceHandle → Option Parting)
    (free : d'.connection = none → d'.pipe = none ∧ d'.interface = none ∧
      ∀ c, p.Pending r h c → d'.state = .connecting ∧ p.told c = [])
    (held : ∀ c, d'.connection = some c →
      d'.state ≠ .idle ∧ Underway (p.told c) ∧ (∀ c', p.Pending r h c' → c' = c) ∧
        (d'.pipe.isSome → p.told c = [.connecting, .connected]) ∧
        (d'.interface.isSome → d'.pipe.isSome))
    (mirrors : p.Mirrors d')
    (expected : ∀ k, (p.setEntry r h (some d')).expected r h k = p.expected r h k)
    (parts : ∃ x, Parts { p.setEntry r h (some d') with parting } r h x) :
    Slot { p.setEntry r h (some d') with parting } r h where
  vacant _ unknown := by
    change (p.setEntry r h (some d')).entry r h = none at unknown
    rw [setEntry_self] at unknown
    contradiction
  free e he alone := by
    change (p.setEntry r h (some d')).entry r h = some e at he
    rw [setEntry_self, Option.some.injEq] at he
    subst he
    exact free alone
  single _ _ c c' := slot.single d hd c c'
  held e c he hc := by
    change (p.setEntry r h (some d')).entry r h = some e at he
    rw [setEntry_self, Option.some.injEq] at he
    subst he
    exact held c hc
  standing k _ appointed present := by
    change DroneControl.standing (p.notices k) = some ((p.setEntry r h (some d')).expected r h k)
    rw [expected]
    exact slot.standing k serving appointed present
  sound := slot.sound
  mirrors e he := by
    change (p.setEntry r h (some d')).entry r h = some e at he
    rw [setEntry_self, Option.some.injEq] at he
    subst he
    exact { mirrors with }
  parting _ := parts

theorem Picture.Slot.setEntry (slot : p.Slot r h) {d d' : Device} (hd : p.entry r h = some d)
    (serving : p.serving r)
    (free : d'.connection = none → d'.pipe = none ∧ d'.interface = none ∧
      ∀ c, p.Pending r h c → d'.state = .connecting ∧ p.told c = [])
    (held : ∀ c, d'.connection = some c →
      d'.state ≠ .idle ∧ Underway (p.told c) ∧ (∀ c', p.Pending r h c' → c' = c) ∧
        (d'.pipe.isSome → p.told c = [.connecting, .connected]) ∧
        (d'.interface.isSome → d'.pipe.isSome))
    (mirrors : p.Mirrors d')
    (expected : ∀ k, (p.setEntry r h (some d')).expected r h k = p.expected r h k)
    (shows : ∀ stage, p.Shows stage (some d) → p.Shows stage (some d')) :
    (p.setEntry r h (some d')).Slot r h := by
  obtain ⟨x, parts⟩ := slot.parting serving
  have shown := shows x.stage (hd ▸ parts.shows)
  refine slot.alter hd serving p.parting free held mirrors expected ⟨x, ?_⟩
  refine parts.mono rfl ?_ (fun _ => id) (fun _ => id) fun _ _ => id
  change (p.setEntry r h (some d')).Shows x.stage ((p.setEntry r h (some d')).entry r h)
  rw [setEntry_self]
  exact shown.mono fun _ => id

/-! ## An event is told -/

theorem Picture.Orderly.told (orderly : p.Orderly) {c : ConnectionId} {sink : Sink}
    (hc : p.sink c = some sink) (event : ConnectionEvent) : (p.after (.told c event)).Orderly := by
  rw [after_told]
  exact { orderly with
    unknown := fun c' unknown => by
      have other : c ≠ c' := by
        rintro rfl
        simp [hc] at unknown
      simpa [other] using orderly.unknown c' unknown
    unparted := fun r h new => by
      simp [orderly.unparted r h new, Parting.next_told] }

theorem Grows.told (orderly : p.Orderly) {c : ConnectionId} {sink : Sink}
    (hc : p.sink c = some sink) (event : ConnectionEvent) :
    Grows r h p (p.after (.told c event)) := by
  have orderly' := orderly.told hc event
  rw [after_told] at orderly' ⊢
  exact {
    known := fun _ _ => id
    ongoing := fun _ _ _ later => ⟨later.1.of_append, later.2⟩
    shuns := fun _ _ _ _ => id
    disturbed := id
    gone := id
    orderly := orderly' }

theorem Follows.told_beside (orderly : p.Orderly) {c : ConnectionId} {sink : Sink}
    (hc : p.sink c = some sink) (ne : sink ≠ .entry r h) (event : ConnectionEvent) :
    Follows r h p (p.after (.told c event)) := by
  refine .of_beside orderly (.told orderly hc event) (Nat.le_refl _) ?_ ?_ ?_
  all_goals rw [after_told]
  · exact fun _ _ _ => id
  · exact fun _ => .rfl
  · have apart : ∀ c', p.sink c' = some (.entry r h) → c ≠ c' := by
      rintro c' here rfl
      rw [hc, Option.some.injEq] at here
      exact ne here
    exact {
      serving := id
      entry := fun _ => rfl
      sink := fun _ => id
      told := fun c' here => by simp [apart c' here]
      piped := fun c' here => by simp [Occurrence.pipe?_told_of_ne (apart c' here)]
      given := fun _ _ => .rfl
      asking := fun _ _ => .rfl
      known := fun _ => id
      parting := fun x parts => by
        have away : c ∉ x.left := fun among => apart c (parts.left c among) rfl
        simp only [parts.reads, Option.bind_some, x.next_told away]
      absent := fun _ => id
      appointed := fun _ => id
      heard := fun _ _ => rfl
      ready := fun _ _ => id
      device := fun _ _ => id }

theorem Follows.unheard (orderly : p.Orderly) {c : ConnectionId}
    (hc : p.sink c = some (.entry r' h')) (ongoing : p.Ongoing c)
    (stale : ∀ d, p.entry r' h' = some d → ∃ own, d.connection = some own ∧ own ≠ c)
    (event : ConnectionEvent) : Follows r h p (p.after (.told c event)) := by
  by_cases here : r' = r ∧ h' = h
  · obtain ⟨rfl, rfl⟩ := here
    have grows : Grows r' h' p (p.after (.told c event)) := .told orderly hc event
    have orderly' := grows.orderly
    rw [after_told] at grows orderly' ⊢
    have taken : p.Taken r' h' := by
      intro d hd alone
      obtain ⟨own, owned, -⟩ := stale d hd
      simp [alone] at owned
    have unknown : p.Slot r' h' → p.entry r' h' = none := by
      intro slot
      by_contra known
      obtain ⟨d, hd⟩ := Option.ne_none_iff_exists'.mp known
      obtain ⟨own, owned, ne⟩ := stale d hd
      obtain ⟨-, -, only, -⟩ := slot.held d own hd owned
      exact ne (only c ⟨hc, ongoing⟩).symm
    refine { grows with
      kept := fun _ _ _ => id
      asking := fun _ => .rfl
      slot := fun _ steady => ⟨?_, Taken.settled taken, .inl⟩
      tended := fun _ _ => Taken.tended taken
      leaving := id }
    have nowhere := unknown steady.slot
    refine .of_not_serving (fun serving => ?_) nowhere steady.slot.sound
    exact steady.slot.vacant serving nowhere c ⟨hc, ongoing⟩
  · refine .told_beside orderly hc ?_ event
    simpa using here

/-- What a controller passes on, if there is one. -/
def Picture.notice (p : Picture) (k : Option ControllerId) (c : ConnectionId) (event : DeviceEvent)
    (ready : Bool) : Picture :=
  match k with
  | some k => p.after (.noticed k c event ready)
  | none => p

theorem Picture.notice_eq (p : Picture) (k : Option ControllerId) (c : ConnectionId)
    (event : DeviceEvent) (ready : Bool) :
    p.notice k c event ready =
      { p with
        notices := fun k' => p.notices k' ++
          (if k = some k' then event.milestone?.map (c, ·) else none).toList
        ready := fun k' => p.ready k' ∧
          (k = some k' → (∃ api, event = .connected api) → ready = true)
        parting := fun r h => (p.parting r h).bind fun x =>
          k.elim (some x) fun k => x.next r h (.noticed k c event ready) } := by
  cases k with
  | none => simp [Picture.notice]
  | some k => simp [Picture.notice, after_noticed]

/-- The entry after an event of the connection that has the slot, by how much has been told of it and
over which pipe it goes on. -/
structure Device.Heeds (d' d : Device) (c : ConnectionId) (told : List Milestone)
    (piped : Option PipeId) : Prop where
  ongoing : Underway told →
    d'.connection = some c ∧ d'.observer = d.observer ∧ d'.state ≠ .idle ∧
      (d'.pipe.isSome → told = [.connecting, .connected]) ∧
      (d'.interface.isSome → d'.pipe.isSome)
  mirrored : Underway told →
    (d'.state = .connecting → told ≠ [.connecting, .connected]) ∧
      (d'.state = .connected → told = [.connecting, .connected]) ∧
      (told = [.connecting, .connected] → d'.pipe.isSome ∧ d'.pipe = piped)
  ended : ¬Underway told →
    d'.connection = none ∧ d'.pipe = none ∧ d'.interface = none ∧ d'.observer = none ∧
      (d'.state = .idle ∨ d'.state = .removing)

/-- An event and what becomes of it at a slot. -/
structure Hearing (p : Picture) (r : RegistryId) (h : DeviceHandle) where
  connection : ConnectionId
  event : ConnectionEvent
  milestone : Milestone
  notice : DeviceEvent
  ready : Bool
  observer : Option ControllerId
  before : Device
  after : Device
  sink : p.sink connection = some (.entry r h)
  spared : ¬p.givenUp connection
  event_milestone : event.milestone? = some milestone
  notice_milestone : notice.milestone? = some milestone
  continues : Continues (p.told connection) milestone
  entry : p.entry r h = some before
  claims : ∀ own, before.connection = some own → own = connection
  own : ∀ c, after.connection = some c → c = connection
  observed : ∀ k, after.observer = some k → before.observer = some k
  passed : ∀ k, observer = some k → before.observer = some k
  present : ∀ k, observer = some k → (p.device k).isSome
  silent : observer = none → ∀ k, before.observer = some k → p.device k = none
  leaves : after.state = .removing ↔ before.state = .removing
  leaving : ∀ removing, notice.end? = some removing → (removing = true ↔ before.state = .removing)
  heeds : p.Slot r h → after.Heeds before connection (p.told connection ++ [milestone])
    (((Occurrence.told connection event).pipe? connection).or (p.piped connection))
  open_interface : p.Slot r h → milestone = .connected → ready = true

namespace Hearing

variable (x : Hearing p r' h')

def result : Picture :=
  ((p.after (.told x.connection x.event)).setEntry r' h' (some x.after)).notice x.observer
    x.connection x.notice x.ready

theorem result_eq :
    x.result =
      { p with
        told := fun c => p.told c ++ (if x.connection = c then some x.milestone else none).toList
        piped := fun c => ((Occurrence.told x.connection x.event).pipe? c).or (p.piped c)
        entry := fun r h => if r' = r ∧ h' = h then some x.after else p.entry r h
        notices := fun k => p.notices k ++
          (if x.observer = some k then some (x.connection, x.milestone) else none).toList
        ready := fun k => p.ready k ∧
          (x.observer = some k → (∃ api, x.notice = .connected api) → x.ready = true)
        parting := fun r h =>
          ((p.parting r h).bind (·.next r h (.told x.connection x.event))).bind fun y =>
            x.observer.elim (some y) fun k =>
              y.next r h (.noticed k x.connection x.notice x.ready) } := by
  simp [result, Picture.notice_eq, after_told, Picture.setEntry, x.event_milestone,
    x.notice_milestone]

theorem pending : p.Pending r' h' x.connection := ⟨x.sink, x.continues.underway, x.spared⟩

theorem orderly (orderly : p.Orderly) : x.result.Orderly := by
  have serving := orderly.served _ _ _ x.entry
  have told := orderly.told x.sink x.event
  have changed : ((p.after (.told x.connection x.event)).setEntry r' h' (some x.after)).Orderly := by
    rw [after_told] at told ⊢
    refine told.setEntry serving ?_ ?_
    · intro d c hd hc
      obtain rfl := Option.some.inj hd
      rw [x.own c hc]
      exact x.sink
    · intro d k hd hk
      obtain rfl := Option.some.inj hd
      exact orderly.observed _ _ _ k x.entry (x.observed k hk)
  rw [result, Picture.notice_eq]
  exact { changed with
    unheard := fun k nowhere => by
      have other : x.observer ≠ some k :=
        fun hk => nowhere r' h' (by
          rw [after_told]
          exact orderly.observed _ _ _ k x.entry (x.passed k hk))
      simpa [other] using changed.unheard k nowhere
    unparted := fun r h new => by
      have before := changed.unparted r h new
      simp only [before, Option.bind_some]
      cases x.observer <;> simp [Parting.next_noticed] }

theorem pending_of_result {c : ConnectionId} (later : x.result.Pending r' h' c) :
    p.Pending r' h' c ∧ (c = x.connection → Underway (p.told c ++ [x.milestone])) := by
  rw [result_eq] at later
  obtain ⟨here, underway, spared⟩ := later
  refine ⟨⟨here, underway.of_append, spared⟩, ?_⟩
  rintro rfl
  simpa using underway

theorem standing_result (orderly : p.Orderly) (slot : p.Slot r' h') {k : ControllerId}
    (appointed : p.appointed k r' h') (present : (p.device k).isSome) :
    standing (x.result.notices k) =
      some (if x.before.observer = some k
        then .of x.connection (p.told x.connection ++ [x.milestone]) else .idle) := by
  have stands := slot.standing k (orderly.served _ _ _ x.entry) appointed present
  rw [slot.expected_of_pending x.entry x.pending] at stands
  have heard : x.result.notices k = p.notices k ++
      (if x.observer = some k then some (x.connection, x.milestone) else none).toList := by
    rw [result_eq]
  by_cases hk : x.before.observer = some k
  · have passed : x.observer = some k := by
      cases same : x.observer with
      | none => simp [x.silent same k hk] at present
      | some k' => exact (x.passed k' same).symm.trans hk
    rw [if_pos hk] at stands ⊢
    rw [heard, if_pos passed, Option.toList_some, standing_concat, stands, Option.bind_some]
    exact Standing.next_of x.continues x.connection
  · have other : x.observer ≠ some k := fun same => hk (x.passed k same)
    rw [if_neg hk] at stands ⊢
    rw [heard, if_neg other, Option.toList_none, List.append_nil, stands]

theorem entry_result : x.result.entry r' h' = some x.after := by
  simp [result_eq]

theorem end_notice : x.notice.end? =
    if x.milestone.ends then some (decide (x.before.state = .removing)) else none := by
  have passed := DeviceEvent.isSome_end? x.notice_milestone
  cases ended : x.notice.end? with
  | none => rw [← passed, ended]; rfl
  | some removing =>
      rw [← passed, ended]
      simp [← x.leaving removing ended]

theorem parting_result (r : RegistryId) (h : DeviceHandle) :
    x.result.parting r h = (p.parting r h).bind fun y =>
      if x.milestone.ends then
        (y.finish x.connection).bind fun z => x.observer.elim (some z) fun k =>
          z.pass k x.connection (decide (x.before.state = .removing))
      else some y := by
  rw [result_eq]
  dsimp only
  rw [Option.bind_assoc]
  refine congrArg _ (funext fun y => ?_)
  simp only [Parting.next, ConnectionEvent.ends_eq x.event_milestone, x.end_notice]
  cases x.milestone.ends <;> cases x.observer <;> simp

theorem parting_result_of_ne {r : RegistryId} {h : DeviceHandle} (apart : ¬(r' = r ∧ h' = h))
    {y : Parting} (parts : p.Parts r h y) : x.result.parting r h = some y := by
  have away : x.connection ∉ y.left := by
    intro among
    have := x.sink.symm.trans (parts.left _ among)
    simp only [Option.some.injEq, Sink.entry.injEq] at this
    exact apart this
  rw [parting_result, parts.reads]
  cases x.observer <;> simp [Parting.finish, Parting.pass, away]

theorem shows_of_underway (slot : p.Slot r' h') {y : Parting} (parts : p.Parts r' h' y)
    (underway : Underway (p.told x.connection ++ [x.milestone])) :
    p.Shows y.stage (some x.after) := by
  obtain ⟨owned, observer, -⟩ := (x.heeds slot).ongoing underway
  have shown := x.entry ▸ parts.shows
  generalize y.stage = stage at shown
  cases shown with
  | staying stays => exact .staying (mt x.leaves.mp stays)
  | closing removing own =>
      obtain rfl := x.claims _ own
      rw [← observer]
      exact .closing (x.leaves.mpr removing) owned
  | ended removing alone | heard removing alone =>
      obtain ⟨-, -, early⟩ := slot.free _ x.entry alone
      simp [(early _ x.pending).1] at removing

theorem absent_result (k : ControllerId) : x.result.Absent k ↔ p.Absent k := by
  rw [result_eq]
  exact .rfl

theorem parts_same {y : Parting} (parts : p.Parts r' h' y)
    (same : x.result.parting r' h' = some y) (shows : p.Shows y.stage (some x.after)) :
    x.result.Parts r' h' y := by
  have absent := fun k => (x.absent_result k).mpr
  refine parts.mono (same.trans parts.reads.symm) ?_ absent (fun c here => ?_) fun c here underway => ?_
  · rw [x.entry_result]
    exact shows.mono absent
  · rw [result_eq]
    exact here
  · rw [result_eq] at underway
    exact underway.of_append

theorem shows_of_away (slot : p.Slot r' h') {y : Parting} (parts : p.Parts r' h' y)
    (away : x.connection ∉ y.left) : p.Shows y.stage (some x.after) := by
  have waits := parts.waits
  have shown := x.entry ▸ parts.shows
  generalize y.stage = stage at shown waits
  cases shown with
  | staying stays => exact .staying (mt x.leaves.mp stays)
  | closing removing own => exact absurd (x.claims _ own ▸ waits _ _ rfl) away
  | ended removing alone | heard removing alone =>
      obtain ⟨-, -, early⟩ := slot.free _ x.entry alone
      simp [(early _ x.pending).1] at removing

theorem parts_of_ended (orderly : p.Orderly) (slot : p.Slot r' h') {y : Parting}
    (parts : p.Parts r' h' y) (ended : x.milestone.ends = true) (among : x.connection ∈ y.left) :
    ∃ z, x.result.Parts r' h' z := by
  obtain ⟨o, stage⟩ := parts.lasting _ among x.continues.underway
  obtain ⟨removing, rfl⟩ : x.before.state = .removing ∧ o = x.before.observer := by
    have shown := x.entry ▸ parts.shows
    rw [stage] at shown
    cases shown with
    | closing removing own => exact ⟨removing, rfl⟩
  have finished : ¬Underway (p.told x.connection ++ [x.milestone]) := by
    rw [x.continues.underway_iff]
    simp [ended]
  have gone : x.after.state = .removing ∧ x.after.connection = none :=
    ⟨x.leaves.mpr removing, ((x.heeds slot).ended finished).1⟩
  -- Whichever stage comes next, nothing else of the reading has changed.
  have next : ∀ stage', (∀ c o, stage' ≠ .closing c o) →
      x.result.parting r' h' = some { y with stage := stage' } → p.Shows stage' (some x.after) →
      ∃ z, x.result.Parts r' h' z := by
    intro stage' spent reads shows
    have absent := fun k => (x.absent_result k).mpr
    refine ⟨{ y with stage := stage' }, reads, ?_, fun k missed => absent k (parts.missed k missed),
      fun c o waits => absurd waits (spent c o), fun c left => ?_, fun c left underway => ?_⟩
    · rw [x.entry_result]
      exact shows.mono absent
    · rw [result_eq]
      exact parts.left c left
    · rw [result_eq] at underway
      dsimp only at underway
      obtain ⟨o, waits⟩ := parts.lasting c left underway.of_append
      obtain ⟨rfl, -⟩ : c = x.connection ∧ o = x.before.observer := by
        simpa using (stage.symm.trans waits).symm
      exact absurd (by simpa using underway) finished
  have reads := x.parting_result r' h'
  rw [parts.reads, Option.bind_some, if_pos ended] at reads
  simp only [Parting.finish, if_pos among, stage, if_true, Option.bind_some] at reads
  cases passed : x.observer with
  | none =>
      rw [passed] at reads
      refine next _ (by simp) reads
        (.ended gone.1 gone.2 fun k observed => ⟨x.silent passed k observed, ?_⟩)
      exact (orderly.numbered k r' h' (orderly.observed _ _ _ k x.entry observed)).1
  | some k =>
      rw [passed] at reads
      simp only [Option.elim_some, Parting.pass, if_pos among, x.passed k passed, removing,
        decide_true, and_self, if_true] at reads
      exact next _ (by simp) reads (.heard gone.1 gone.2)

theorem parts_result (orderly : p.Orderly) (slot : p.Slot r' h') {y : Parting}
    (parts : p.Parts r' h' y) : ∃ z, x.result.Parts r' h' z := by
  have reads := x.parting_result r' h'
  rw [parts.reads, Option.bind_some] at reads
  cases ended : x.milestone.ends with
  | false =>
      rw [ended] at reads
      exact ⟨y, x.parts_same parts reads
        (x.shows_of_underway slot parts (x.continues.underway_iff.mpr ended))⟩
  | true =>
      by_cases among : x.connection ∈ y.left
      · exact x.parts_of_ended orderly slot parts ended among
      · refine ⟨y, x.parts_same parts (reads.trans ?_) (x.shows_of_away slot parts among)⟩
        cases x.observer <;> simp [ended, Parting.finish, Parting.pass, among]

theorem slot_result (orderly : p.Orderly) (slot : p.Slot r' h') : x.result.Slot r' h' := by
  -- The entry keeps its connection just as long as more may be told of that.
  have serving := orderly.served _ _ _ x.entry
  have told : x.result.told x.connection = p.told x.connection ++ [x.milestone] := by
    simp [result_eq]
  have heeds := x.heeds slot
  have after : ∀ d, x.result.entry r' h' = some d → d = x.after := fun d hd =>
    Option.some.inj (hd.symm.trans x.entry_result)
  have only : ∀ {c}, x.result.Pending r' h' c → c = x.connection := fun later =>
    slot.only x.entry x.pending (x.pending_of_result later).1
  constructor
  case vacant =>
    intro _ unknown
    rw [x.entry_result] at unknown
    contradiction
  case free =>
    intro d hd alone
    obtain rfl := after d hd
    have ended : ¬Underway (p.told x.connection ++ [x.milestone]) := by
      intro underway
      rw [(heeds.ongoing underway).1] at alone
      contradiction
    obtain ⟨-, pipe, interface, -, -⟩ := heeds.ended ended
    refine ⟨pipe, interface, fun c later => ?_⟩
    obtain rfl := only later
    exact absurd ((x.pending_of_result later).2 rfl) ended
  case single => exact fun d _ c c' later later' => (only later).trans (only later').symm
  case held =>
    intro d c hd hc
    obtain rfl := after d hd
    have underway : Underway (p.told x.connection ++ [x.milestone]) := by
      by_contra ended
      rw [(heeds.ended ended).1] at hc
      contradiction
    obtain ⟨owned, -, state, pipe, interface⟩ := heeds.ongoing underway
    obtain rfl := Option.some.inj (owned.symm.trans hc)
    rw [told]
    exact ⟨state, underway, fun _ later => only later, pipe, interface⟩
  case standing =>
    intro k _ appointed present
    rw [result_eq] at appointed present
    rw [x.standing_result orderly slot appointed present]
    unfold expected
    simp only [x.entry_result]
    by_cases underway : Underway (p.told x.connection ++ [x.milestone])
    · obtain ⟨owned, observer, -⟩ := heeds.ongoing underway
      simp only [owned, observer, Option.elim_some, told]
    · obtain ⟨-, -, -, nobody, -⟩ := heeds.ended underway
      simp [nobody, Standing.of_ended underway]
  case sound =>
    intro k appointed
    rw [result_eq] at appointed
    by_cases hk : x.observer = some k
    · refine ⟨by simp [x.standing_result orderly slot appointed (x.present k hk)], ?_⟩
      rw [result_eq]
      refine ⟨(slot.sound k appointed).2, fun _ ⟨api, connected⟩ => x.open_interface slot ?_⟩
      have := x.notice_milestone
      rw [connected] at this
      exact (Option.some.inj this).symm
    · rw [result_eq]
      simpa [hk] using slot.sound k appointed
  case mirrors =>
    intro d hd
    obtain rfl := after d hd
    have piped : x.result.piped x.connection =
        ((Occurrence.told x.connection x.event).pipe? x.connection).or (p.piped x.connection) := by
      rw [result_eq]
    by_cases underway : Underway (p.told x.connection ++ [x.milestone])
    · obtain ⟨owned, observer, state, -⟩ := heeds.ongoing underway
      obtain ⟨connecting, connected, pipe⟩ := heeds.mirrored underway
      constructor
      case resting => exact fun idle => absurd idle state
      case attended =>
        rw [observer]
        exact fun _ => slot.attended x.entry x.pending
      case connected => exact fun now => ⟨_, owned, told.trans (connected now)⟩
      all_goals
        intro c hc
        obtain rfl := Option.some.inj (owned.symm.trans hc)
        rw [told]
      case early => exact fun silent => by simp at silent
      case connecting => exact connecting
      case pipe =>
        rw [piped]
        exact pipe
    · obtain ⟨alone, -, -, nobody, state⟩ := heeds.ended underway
      refine .of_alone alone (fun _ => nobody) (fun now => ?_) ?_
      · rcases state with state | state <;> simp [state] at now
      · rcases state with state | state <;> simp [state]
  case parting =>
    intro _
    obtain ⟨y, parts⟩ := slot.parting serving
    exact x.parts_result orderly slot parts

theorem tended_result (slot : p.Slot r' h') : x.result.Tended r' h' := by
  intro d hd alone connecting
  obtain rfl := Option.some.inj (hd.symm.trans x.entry_result)
  by_cases underway : Underway (p.told x.connection ++ [x.milestone])
  · rw [((x.heeds slot).ongoing underway).1] at alone
    contradiction
  · obtain ⟨-, -, -, -, state | state⟩ := (x.heeds slot).ended underway <;>
      simp [state] at connecting

theorem settled_result (slot : p.Slot r' h') (c : ConnectionId) : x.result.Settled r' h' c := by
  intro d hd alone later
  obtain rfl := Option.some.inj (hd.symm.trans x.entry_result)
  obtain ⟨pending, continued⟩ := x.pending_of_result later
  obtain rfl := slot.only x.entry x.pending pending
  rw [((x.heeds slot).ongoing (continued rfl)).1] at alone
  contradiction

include x in
theorem not_leaving (slot : p.Slot r' h') : ¬p.Leaving r' h' := by
  rintro ⟨d, hd, state, alone⟩
  obtain ⟨-, -, early⟩ := slot.free d hd alone
  rw [(early _ x.pending).1] at state
  contradiction

theorem grows (orderly : p.Orderly) : Grows r h p x.result := by
  have orderly' := x.orderly orderly
  have shuns : ∀ c, ¬p.Ongoing c → x.result.Owns r h c → p.Owns r h c := by
    rintro c spent ⟨d, hd, owned⟩
    rw [result_eq] at hd
    dsimp only at hd
    split at hd
    · obtain rfl := Option.some.inj hd
      obtain rfl := x.own c owned
      exact absurd x.pending.2 spent
    · exact ⟨d, hd, owned⟩
  rw [result_eq] at orderly' shuns ⊢
  exact {
    known := fun _ _ => id
    ongoing := fun _ _ _ later => ⟨later.1.of_append, later.2⟩
    shuns := fun c _ _ => shuns c
    disturbed := id
    gone := id
    orderly := orderly' }

theorem follows_beside (orderly : p.Orderly) (apart : ¬(r' = r ∧ h' = h)) :
    Follows r h p x.result := by
  have other : ∀ c, p.sink c = some (.entry r h) → x.connection ≠ c := by
    rintro c hc rfl
    have := x.sink.symm.trans hc
    simp only [Option.some.injEq, Sink.entry.injEq] at this
    exact apart this
  have elsewhere : ∀ k, p.appointed k r h → x.observer ≠ some k := by
    intro k appointed hk
    have there := orderly.observed _ _ _ k x.entry (x.passed k hk)
    exact apart (orderly.faithful k r' h' r h there appointed)
  have grows : Grows r h p x.result := x.grows orderly
  rw [result_eq] at grows ⊢
  refine .of_beside orderly grows (Nat.le_refl _) (fun _ _ _ => id) (fun _ => .rfl) ?_
  exact {
    serving := id
    entry := fun _ => if_neg apart
    sink := fun _ => id
    told := fun c hc => by simp [other c hc]
    piped := fun c hc => by simp [Occurrence.pipe?_told_of_ne (other c hc)]
    given := fun _ _ => .rfl
    asking := fun _ _ => .rfl
    known := fun _ => id
    parting := fun y parts => by
      have same := x.parting_result_of_ne apart parts
      rw [result_eq] at same
      exact same.trans parts.reads.symm
    absent := fun _ => id
    appointed := fun _ => id
    heard := fun k appointed => by simp [elsewhere k appointed]
    ready := fun k appointed before =>
      ⟨before, fun same => absurd same (elsewhere k appointed)⟩
    device := fun _ _ => id }

theorem almost (orderly : p.Orderly) : Almost r h p x.result := by
  by_cases here : r' = r ∧ h' = h
  · obtain ⟨rfl, rfl⟩ := here
    refine { x.grows orderly with kept := ?_, asking := ?_, slot := fun _ steady => ?_ }
    · rw [result_eq]
      exact fun _ _ _ => id
    · rw [result_eq]
      exact fun _ => .rfl
    · exact ⟨x.slot_result orderly steady.slot, x.settled_result steady.slot,
        fun leaving => absurd leaving (x.not_leaving steady.slot)⟩
  · exact (x.follows_beside orderly here).toAlmost

theorem tended (orderly : p.Orderly) (calm : ¬x.result.disturbed r h) (steady : p.Steady r h) :
    x.result.Tended r h := by
  by_cases here : r' = r ∧ h' = h
  · obtain ⟨rfl, rfl⟩ := here
    exact x.tended_result steady.slot
  · exact (x.follows_beside orderly here).tended calm steady

theorem follows (orderly : p.Orderly)
    (stays : x.after.state = .removing → x.after.connection ≠ none) : Follows r h p x.result := by
  by_cases here : r' = r ∧ h' = h
  · obtain ⟨rfl, rfl⟩ := here
    refine { x.almost orderly with tended := x.tended orderly, leaving := ?_ }
    rintro ⟨d, hd, state, alone⟩
    obtain rfl := Option.some.inj (hd.symm.trans x.entry_result)
    exact absurd alone (stays state)
  · exact x.follows_beside orderly here

end Hearing

/-! ## The state of the link -/

theorem Picture.after_link (p : Picture) (c : ConnectionId) (status : LinkStatus) :
    p.after (.told c (.link status)) = p := by
  simp [after_told, ConnectionEvent.milestone?, Occurrence.pipe?, Parting.next, ConnectionEvent.ends]

theorem Picture.notice_link (p : Picture) (k : Option ControllerId) (c : ConnectionId)
    (status : LinkStatus) (ready : Bool) : p.notice k c (.link status) ready = p := by
  cases k <;> simp [notice_eq, DeviceEvent.milestone?, Parting.next, DeviceEvent.end?]

theorem Follows.reclaim (orderly : p.Orderly) {c : ConnectionId}
    (hc : p.sink c = some (.entry r' h')) (spared : ¬p.givenUp c)
    (told : p.told c = [.connecting, .connected]) {d : Device} (hd : p.entry r' h' = some d)
    (claims : ∀ own, d.connection = some own → own = c) :
    Follows r h p (p.setEntry r' h' (some { d with connection := some c })) := by
  have orderly' := orderly.changeEntry (e := { d with connection := some c }) hd
    (fun c' same => Option.some.inj same ▸ hc) fun k => orderly.observed _ _ d k hd
  have leaving : (p.setEntry r' h' (some { d with connection := some c })).Leaving r' h' →
      p.Leaving r' h' := by
    rintro ⟨e, he, -, alone⟩
    rw [setEntry_self, Option.some.injEq] at he
    subst he
    contradiction
  have ongoing : p.Ongoing c := ⟨.inr (.inr told), spared⟩
  refine .setEntry orderly orderly' (fun e c' he hc' spent => ?_) (fun _ steady => ?_) leaving
  · obtain rfl := Option.some.inj he
    obtain rfl := Option.some.inj hc'
    exact absurd ongoing spent
  have slot := steady.slot
  have owned : d.connection = some c := by
    cases hc' : d.connection with
    | none =>
        obtain ⟨-, -, early⟩ := slot.free d hd hc'
        have := (early c ⟨hc, ongoing⟩).2
        simp [told] at this
    | some own => rw [claims own hc']
  have same : p.setEntry r' h' (some { d with connection := some c }) = p :=
    Picture.setEntry_same (by rw [hd, ← owned])
  rw [same]
  exact ⟨steady, id⟩

end DroneControl
