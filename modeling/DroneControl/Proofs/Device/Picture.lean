import DroneControl.Proofs.Device.Parting

/-!
# The picture of a world

The order of what a listener is told of its device depends on little: where connections report to, what
was told of them, the entries of the devices in between, and what controllers passed on.  The picture
of a world keeps that much.  Most of what happens leaves it as it is, and the rest changes it in one of
a few ways.
-/

namespace DroneControl

variable {σ : Type}

def DeviceEvent.milestone? : DeviceEvent → Option Milestone
  | .connecting => some .connecting
  | .connected _ => some .connected
  | .disconnected _ => some .disconnected
  | .canceled _ _ => some .canceled
  | _ => none

theorem DeviceEvent.isSome_end? {event : DeviceEvent} {m : Milestone}
    (reached : event.milestone? = some m) : event.end?.isSome = m.ends := by
  cases event <;> simp only [milestone?, Option.some.injEq, reduceCtorEq] at reached <;>
    subst reached <;> rfl

def Occurrence.notice? (k : ControllerId) : Occurrence → Option Notice
  | .noticed k' c event _ => if k' = k then event.milestone?.map (c, ·) else none
  | _ => none

/-- What the listener of a controller was told of connections, in order. -/
def notices (k : ControllerId) (past : List Happening) : List Notice :=
  past.filterMap (·.what.notice? k)

def Occurred (o : Occurrence) (past : List Happening) : Prop := ∃ t, ⟨t, o⟩ ∈ past

/-- The controller is not the only one of its device, or has told last that the device is connected. -/
def Entitled (appointed : ControllerId → RegistryId → DeviceHandle → Prop) (told : List Notice)
    (k : ControllerId) : Prop :=
  (∃ k' r h, k' ≠ k ∧ appointed k r h ∧ appointed k' r h) ∨
    ∃ c, told.getLast? = some (c, .connected)

def Prompt (k : ControllerId) (past : List Happening) : Prop :=
  ∀ before t after, past = before ++ ⟨t, .commanded k⟩ :: after →
    Entitled (fun k r h => Occurred (.appointed k r h) before) (notices k before) k

/-- A host is being asked to open a connection. -/
def Opening (c : ConnectionId) (sink : Sink) (past : List Happening) : Prop :=
  Occurred (.opening c sink) past ∧ ¬Occurred (.opened c) past

/-- The device was removed while a host was being asked to open a connection for it. -/
def Disturbed (r : RegistryId) (h : DeviceHandle) (past : List Happening) : Prop :=
  ∃ before t after, past = before ++ ⟨t, .removed r h⟩ :: after ∧
    ∃ c, Opening c (.entry r h) before

theorem occurred_concat (o : Occurrence) (past : List Happening) (x : Happening) :
    Occurred o (past ++ [x]) ↔ Occurred o past ∨ x.what = o := by
  simp only [Occurred, List.mem_append, List.mem_singleton, exists_or]
  refine or_congr_right ⟨?_, ?_⟩
  · rintro ⟨t, rfl⟩
    rfl
  · rintro rfl
    exact ⟨x.time, rfl⟩

theorem disturbed_concat (r : RegistryId) (h : DeviceHandle) (past : List Happening)
    (x : Happening) :
    Disturbed r h (past ++ [x]) ↔
      Disturbed r h past ∨ x.what = .removed r h ∧ ∃ c, Opening c (.entry r h) past := by
  constructor
  · rintro ⟨before, t, after, same, opening⟩
    rcases List.eq_nil_or_concat after with rfl | ⟨after, y, rfl⟩
    · obtain ⟨rfl, last⟩ := List.append_inj' same rfl
      obtain rfl := List.singleton_inj.mp last
      exact .inr ⟨rfl, opening⟩
    · rw [List.concat_eq_append, ← List.cons_append, ← List.append_assoc] at same
      exact .inl ⟨before, t, after, (List.append_inj' same rfl).1, opening⟩
  · rintro (⟨before, t, after, rfl, opening⟩ | ⟨removed, opening⟩)
    · exact ⟨before, t, after ++ [x], by simp, opening⟩
    · exact ⟨past, x.time, [], by rw [← removed], opening⟩

theorem prompt_concat (k : ControllerId) (past : List Happening) (x : Happening) :
    Prompt k (past ++ [x]) ↔ Prompt k past ∧ (x.what = .commanded k →
      Entitled (fun k r h => Occurred (.appointed k r h) past) (notices k past) k) := by
  constructor
  · refine fun prompt => ⟨fun before t after same => ?_, fun commanded => ?_⟩
    · exact prompt before t (after ++ [x]) (by simp [same])
    · exact prompt past x.time [] (by rw [← commanded])
  · rintro ⟨prompt, entitled⟩ before t after same
    rcases List.eq_nil_or_concat after with rfl | ⟨after, y, rfl⟩
    · obtain ⟨rfl, last⟩ := List.append_inj' same rfl
      obtain rfl := List.singleton_inj.mp last
      exact entitled rfl
    · rw [List.concat_eq_append, ← List.cons_append, ← List.append_assoc] at same
      exact prompt before t after (List.append_inj' same rfl).1

@[ext]
structure Picture where
  /-- Where the connections that are known report to. -/
  sink : ConnectionId → Option Sink
  told : ConnectionId → List Milestone
  /-- The pipe that was told of with the connection. -/
  piped : ConnectionId → Option PipeId
  givenUp : ConnectionId → Prop
  asked : ConnectionId → Sink → Prop
  answered : ConnectionId → Prop
  entry : RegistryId → DeviceHandle → Option Device
  /-- The registries that are neither destroyed nor gone. -/
  serving : RegistryId → Prop
  /-- The number of the next registry. -/
  registries : Nat
  /-- The devices of the controllers that are not gone. -/
  device : ControllerId → Option (RegistryId × DeviceHandle)
  /-- The number of the next controller. -/
  controllers : Nat
  appointed : ControllerId → RegistryId → DeviceHandle → Prop
  notices : ControllerId → List Notice
  /-- Whenever the controller told of a connection there was an open interface, and whenever it sent it was
  entitled to. -/
  ready : ControllerId → Prop
  disturbed : RegistryId → DeviceHandle → Prop
  /-- How far the devices have got that are on their way out. -/
  parting : RegistryId → DeviceHandle → Option Parting

namespace Picture

/-- The picture after an occurrence. -/
def after (p : Picture) (o : Occurrence) : Picture :=
  { p with
    told := fun c => p.told c ++ (o.milestone? c).toList
    piped := fun c => (o.pipe? c).or (p.piped c)
    givenUp := fun c => p.givenUp c ∨ o = .discarded c
    asked := fun c sink => p.asked c sink ∨ o = .opening c sink
    answered := fun c => p.answered c ∨ o = .opened c
    appointed := fun k r h => p.appointed k r h ∨ o = .appointed k r h
    notices := fun k => p.notices k ++ (o.notice? k).toList
    ready := fun k => p.ready k ∧
      (∀ c api ready, o = .noticed k c (.connected api) ready → ready = true) ∧
      (o = .commanded k → Entitled p.appointed (p.notices k) k)
    disturbed := fun r h => p.disturbed r h ∨
      o = .removed r h ∧ ∃ c, p.asked c (.entry r h) ∧ ¬p.answered c
    parting := fun r h => (p.parting r h).bind (·.next r h o) }

def proceed (p : Picture) (r : RegistryId) (h : DeviceHandle) (step : Parting → Option Parting) :
    Picture :=
  { p with
    parting := fun r' h' =>
      if r = r' ∧ h = h' then (p.parting r' h').bind step else p.parting r' h' }

section After

variable (p : Picture)

theorem bind_next {r : RegistryId} {h : DeviceHandle} {o : Occurrence}
    {step : Parting → Option Parting} (here : ∀ x : Parting, x.next r h o = step x)
    (elsewhere : ∀ {r' h'}, ¬(r = r' ∧ h = h') → ∀ x : Parting, x.next r' h' o = some x) :
    (fun r' h' => (p.parting r' h').bind (·.next r' h' o)) = (p.proceed r h step).parting := by
  funext r' h'
  simp only [proceed]
  split
  · next same => simp [← same.1, ← same.2, here]
  · next apart => simp [elsewhere apart]

theorem after_told (c : ConnectionId) (event : ConnectionEvent) :
    p.after (.told c event) =
      { p with
        told := fun c' => p.told c' ++ (if c = c' then event.milestone? else none).toList
        piped := fun c' => ((Occurrence.told c event).pipe? c').or (p.piped c')
        parting := fun r h => (p.parting r h).bind (·.next r h (.told c event)) } := by
  simp [after, Occurrence.notice?, Occurrence.milestone?]

theorem after_opening (c : ConnectionId) (sink : Sink) :
    p.after (.opening c sink) =
      { p with asked := fun c' sink' => p.asked c' sink' ∨ c = c' ∧ sink = sink' } := by
  simp [after, Occurrence.notice?, Occurrence.milestone?, Occurrence.pipe?, Parting.next]

theorem after_opened (c : ConnectionId) :
    p.after (.opened c) = { p with answered := fun c' => p.answered c' ∨ c = c' } := by
  simp [after, Occurrence.notice?, Occurrence.milestone?, Occurrence.pipe?, Parting.next]

theorem after_discarded (c : ConnectionId) :
    p.after (.discarded c) = { p with givenUp := fun c' => p.givenUp c' ∨ c = c' } := by
  simp [after, Occurrence.notice?, Occurrence.milestone?, Occurrence.pipe?, Parting.next]

theorem after_appointed (k : ControllerId) (r : RegistryId) (h : DeviceHandle) :
    p.after (.appointed k r h) =
      { p with
        appointed := fun k' r' h' => p.appointed k' r' h' ∨ k = k' ∧ r = r' ∧ h = h' } := by
  simp [after, Occurrence.notice?, Occurrence.milestone?, Occurrence.pipe?, Parting.next]

theorem after_noticed (k : ControllerId) (c : ConnectionId) (event : DeviceEvent) (ready : Bool) :
    p.after (.noticed k c event ready) =
      { p with
        notices := fun k' => p.notices k' ++
          (if k = k' then event.milestone?.map (c, ·) else none).toList
        ready := fun k' => p.ready k' ∧
          (k = k' → (∃ api, event = .connected api) → ready = true)
        parting := fun r h => (p.parting r h).bind (·.next r h (.noticed k c event ready)) } := by
  simp only [after, Occurrence.notice?, Occurrence.milestone?, Occurrence.pipe?, Occurrence.noticed.injEq,
    reduceCtorEq, or_false, false_and, Option.toList_none, List.append_nil, Option.none_or]
  congr 1
  funext k'
  refine propext (and_congr_right fun _ => ⟨?_, ?_⟩)
  · rintro ⟨all, -⟩ rfl ⟨api, rfl⟩
    exact all c api ready ⟨rfl, rfl, rfl, rfl⟩
  · refine fun all => ⟨?_, False.elim⟩
    rintro c' api ready' ⟨rfl, rfl, rfl, rfl⟩
    exact all rfl ⟨api, rfl⟩

theorem after_commanded (k : ControllerId) :
    p.after (.commanded k) =
      { p with
        ready := fun k' => p.ready k' ∧ (k = k' → Entitled p.appointed (p.notices k') k') } := by
  simp [after, Occurrence.notice?, Occurrence.milestone?, Occurrence.pipe?, Parting.next]

theorem after_removed (r : RegistryId) (h : DeviceHandle) :
    p.after (.removed r h) =
      { p with
        disturbed := fun r' h' => p.disturbed r' h' ∨ (r = r' ∧ h = h') ∧
          ∃ c, p.asked c (.entry r' h') ∧ ¬p.answered c
        parting := (p.proceed r h (·.drop)).parting } := by
  rw [← p.bind_next (o := .removed r h) (fun x => ?_) fun apart x => ?_]
  · simp [after, Occurrence.notice?, Occurrence.milestone?, Occurrence.pipe?]
  · simp [Parting.next]
  · simp [Parting.next, apart]

theorem after_leaving (r : RegistryId) (h : DeviceHandle) (c : ConnectionId)
    (o : Option ControllerId) :
    p.after (.leaving r h c o) = p.proceed r h (·.leave c o) := by
  simp only [after, Occurrence.notice?, Occurrence.milestone?, Occurrence.pipe?, proceed,
    Option.toList_none, List.append_nil, Option.none_or, reduceCtorEq, or_false, false_and,
    false_implies, implies_true, and_true]
  refine congrArg (fun parting => { p with parting }) (p.bind_next ?_ fun apart x => ?_)
  · simp [Parting.next]
  · simp [Parting.next, apart]

theorem after_announced (r : RegistryId) (h : DeviceHandle) (there : Bool) :
    p.after (.announced r h there) =
      p.proceed r h fun x => if there then x.add else x.settle := by
  simp only [after, Occurrence.notice?, Occurrence.milestone?, Occurrence.pipe?, proceed,
    Option.toList_none, List.append_nil, Option.none_or, reduceCtorEq, or_false, false_and,
    false_implies, implies_true, and_true]
  refine congrArg (fun parting => { p with parting }) (p.bind_next ?_ fun apart x => ?_)
  · simp [Parting.next]
  · simp [Parting.next, apart]

theorem after_founded (r : RegistryId) (token : Option Token) : p.after (.founded r token) = p := by
  simp [after, Occurrence.notice?, Occurrence.milestone?, Occurrence.pipe?, Parting.next]

theorem after_dissolved (r : RegistryId) (token : Option Token) :
    p.after (.dissolved r token) = p := by
  simp [after, Occurrence.notice?, Occurrence.milestone?, Occurrence.pipe?, Parting.next]

theorem after_aside {o : Occurrence}
    (other : o.topic ∉ [.connection, .discard, .device, .notice, .command, .registry]) :
    p.after o = p := by
  cases o <;> simp_all [after, Occurrence.topic, Occurrence.notice?, Occurrence.milestone?,
    Occurrence.pipe?, Parting.next]

end After

def setEntry (p : Picture) (r : RegistryId) (h : DeviceHandle) (d : Option Device) : Picture :=
  { p with entry := fun r' h' => if r = r' ∧ h = h' then d else p.entry r' h' }

def meet (p : Picture) (c : ConnectionId) (sink : Sink) : Picture :=
  { p with sink := fun c' => if c = c' then some sink else p.sink c' }

def enroll (p : Picture) : Picture :=
  { p with
    serving := fun r => r.number = p.registries ∨ p.serving r
    registries := p.registries + 1 }

def retire (p : Picture) (r : RegistryId) : Picture :=
  { p with
    serving := fun r' => r' ≠ r ∧ p.serving r'
    entry := fun r' h => if r = r' then none else p.entry r' h }

def seat (p : Picture) (r : RegistryId) (h : DeviceHandle) : Picture :=
  { p with
    device := fun k => if k.number = p.controllers then some (r, h) else p.device k
    controllers := p.controllers + 1 }

def unseat (p : Picture) (k : ControllerId) : Picture :=
  { p with device := fun k' => if k = k' then none else p.device k' }

end Picture

namespace World

def picture (w : World σ) : Picture where
  sink c := (w.connections.find? c).map (·.sink)
  told c := w.milestones c
  piped c := w.piped c
  givenUp c := w.GivenUp c
  asked c sink := Occurred (.opening c sink) w.chronicle
  answered c := Occurred (.opened c) w.chronicle
  entry r h := (w.registry r).device? h
  serving r := ∃ x, w.registries.find? r = some x ∧ x.closed = false
  registries := w.registries.next
  device k := (w.controllers.find? k).map fun x => (x.registry, x.device)
  controllers := w.controllers.next
  appointed k r h := Occurred (.appointed k r h) w.chronicle
  notices k := DroneControl.notices k w.chronicle
  ready k :=
    (∀ c api ready, Occurred (.noticed k c (.connected api) ready) w.chronicle → ready = true) ∧
      Prompt k w.chronicle
  disturbed r h := Disturbed r h w.chronicle
  parting r h := DroneControl.parting r h w.chronicle

theorem picture_mark (w : World σ) (o : Occurrence) : (w.mark o).picture = w.picture.after o := by
  apply Picture.ext
  case told => exact funext fun c => w.milestones_mark c o
  case piped => exact funext fun c => w.piped_mark c o
  case givenUp => exact funext fun c => propext (w.givenUp_mark c o)
  case notices =>
    funext k
    simp only [picture, Picture.after, chronicle_mark, DroneControl.notices, List.filterMap_append]
    cases h : o.notice? k <;> simp [h]
  case ready =>
    funext k
    simp only [picture, Picture.after, chronicle_mark, occurred_concat, or_imp, forall_and,
      prompt_concat]
    exact propext and_and_and_comm
  case disturbed =>
    simp only [picture, Picture.after, chronicle_mark, disturbed_concat, Opening]
  case parting =>
    funext r h
    simp only [picture, Picture.after, chronicle_mark, parting_concat]
  case asked => simp only [picture, Picture.after, chronicle_mark, occurred_concat]
  case answered => simp only [picture, Picture.after, chronicle_mark, occurred_concat]
  case appointed => simp only [picture, Picture.after, chronicle_mark, occurred_concat]
  all_goals rfl

theorem picture_congr {w w' : World σ} (connections : w'.connections = w.connections)
    (history : w'.history = w.history) (registries : w'.registries = w.registries)
    (controllers : w'.controllers = w.controllers) : w'.picture = w.picture := by
  simp only [picture, World.milestones, piped, World.GivenUp, chronicle, registry, connections,
    history, registries, controllers]

section Steps

variable (w : World σ)

theorem picture_log (s : Severity) (message : String) (fields : List (String × String)) :
    (w.log s message fields).picture = w.picture := by
  unfold log
  split <;> rfl

/-! ### Connections -/

theorem picture_updateConnection (c : ConnectionId) {f : Connection → Connection}
    (same : ∀ x, (f x).sink = x.sink) : (w.updateConnection c f).picture = w.picture := by
  apply Picture.ext
  case sink =>
    funext c'
    simp only [picture, updateConnection, Table.find?_update]
    split
    · next h =>
        subst h
        cases w.connections.find? c <;> simp [same]
    · rfl
  all_goals rfl

theorem picture_addConnection (x : Connection) :
    ({ w with connections := (w.connections.add x).2 } : World σ).picture =
      w.picture.meet ⟨w.connections.next⟩ x.sink := by
  apply Picture.ext
  case sink =>
    funext c
    simp only [picture, Picture.meet, Table.find?_add]
    split <;> rfl
  all_goals rfl

theorem picture_discarded {c : ConnectionId} {x : Connection}
    (hx : w.connections.find? c = some x) :
    (Connection.discarded w c).picture = w.picture.after (.discarded c) := by
  unfold Connection.discarded
  simp only [hx, picture_mark]
  congr 1
  apply Picture.ext
  case sink =>
    funext c'
    simp only [picture, Table.find?_set]
    split
    · next h => simp [← h, hx, Connection.closed]
    · rfl
  all_goals rfl

/-! ### Registries -/

theorem find?_of_entry {w : World σ} {r : RegistryId} {h : DeviceHandle} {d : Device}
    (hd : (w.registry r).device? h = some d) : w.registries.find? r = some (w.registry r) := by
  unfold registry Table.get at hd ⊢
  cases hx : w.registries.find? r with
  | none =>
      rw [hx] at hd
      exact absurd hd (by simp [default, Registry.device?])
  | some x => rfl

theorem registry_updateRegistry {w : World σ} {r : RegistryId} {x : Registry}
    (hx : w.registries.find? r = some x) (f : Registry → Registry) (r' : RegistryId) :
    (w.updateRegistry r f).registry r' = if r = r' then f x else w.registry r' := by
  simp only [registry, Table.get, updateRegistry, Table.find?_update, hx]
  split <;> simp

theorem picture_updateRegistry (r : RegistryId) {f : Registry → Registry}
    (same : ∀ x, (f x).devices = x.devices ∧ (f x).closed = x.closed) :
    (w.updateRegistry r f).picture = w.picture := by
  cases hx : w.registries.find? r with
  | none =>
      have idle : w.updateRegistry r f = w := by
        simp only [updateRegistry, Table.update, hx]
      rw [idle]
  | some x =>
      apply Picture.ext
      case entry =>
        funext r' h
        simp only [picture, registry_updateRegistry hx]
        split
        · next at_r => simp [← at_r, registry_of_find? hx, Registry.device?, same]
        · rfl
      case serving =>
        funext r'
        simp only [picture, updateRegistry, Table.find?_update, hx]
        split
        · next at_r => simp [← at_r, hx, same]
        · rfl
      case registries => exact Table.next_update _ _ _
      all_goals rfl

theorem picture_setEntry {r : RegistryId} {x : Registry} (hx : w.registries.find? r = some x)
    {f : Registry → Registry} {h : DeviceHandle} {d : Option Device}
    (entries : ∀ h', (f x).device? h' = if h = h' then d else x.device? h')
    (same : (f x).closed = x.closed) :
    (w.updateRegistry r f).picture = w.picture.setEntry r h d := by
  apply Picture.ext
  case entry =>
    funext r' h'
    simp only [picture, Picture.setEntry, registry_updateRegistry hx]
    by_cases at_r : r = r'
    · subst at_r
      simp [entries, registry_of_find? hx]
    · simp [at_r]
  case serving =>
    funext r'
    simp only [picture, Picture.setEntry, updateRegistry, Table.find?_update, hx]
    split
    · next at_r => simp [← at_r, hx, same]
    · rfl
  case registries => exact Table.next_update _ _ _
  all_goals rfl

theorem picture_closeRegistry (r : RegistryId) {f : Registry → Registry}
    (closes : ∀ x, (f x).closed = true ∧ (f x).devices = {}) :
    (w.updateRegistry r f).picture = w.picture.retire r := by
  apply Picture.ext
  case entry =>
    funext r' h
    simp only [picture, Picture.retire, registry, Table.get, updateRegistry, Table.find?_update]
    split
    · cases w.registries.find? r with
      | none => simp [default, Registry.device?]
      | some x => simp [Registry.device?, closes]
    · rfl
  case serving =>
    funext r'
    simp only [picture, Picture.retire, updateRegistry, Table.find?_update]
    split
    · next at_r => cases w.registries.find? r <;> simp [← at_r, closes]
    · next other => simp [Ne.symm other]
  case registries => exact Table.next_update _ _ _
  all_goals rfl

theorem picture_eraseRegistry (r : RegistryId) :
    (w.erase (.registry r)).picture = w.picture.retire r := by
  apply Picture.ext
  case entry =>
    funext r' h
    simp only [picture, Picture.retire, registry, Table.get, erase, Table.find?_erase]
    split
    · simp [default, Registry.device?]
    · rfl
  case serving =>
    funext r'
    simp only [picture, Picture.retire, erase, Table.find?_erase]
    split
    · next at_r => simp [at_r]
    · next other => simp [Ne.symm other]
  all_goals rfl

theorem picture_addRegistry {x : Registry} (new : x.devices = {} ∧ x.closed = false) :
    ({ w with registries := (w.registries.add x).2 } : World σ).picture = w.picture.enroll := by
  apply Picture.ext
  case entry =>
    funext r h
    simp only [picture, Picture.enroll, registry, Table.get, Table.find?_add]
    split
    · next at_r => simp [← at_r, Table.find?_next, default, Registry.device?, new]
    · rfl
  case serving =>
    funext r
    simp only [picture, Picture.enroll, Table.find?_add]
    split
    · next at_r => simp [← at_r, new]
    · next other =>
        have : r.number ≠ w.registries.next := fun h => other (by rw [← h])
        simp [this]
  case registries => exact Table.next_add w.registries x
  all_goals rfl

/-! ### Controllers -/

theorem picture_updateController (k : ControllerId) {f : Controller → Controller}
    (same : ∀ x, (f x).registry = x.registry ∧ (f x).device = x.device) :
    (w.updateController k f).picture = w.picture := by
  apply Picture.ext
  case device =>
    funext k'
    simp only [picture, updateController, Table.find?_update]
    split
    · next at_k =>
        subst at_k
        cases w.controllers.find? k <;> simp [same]
    · rfl
  case controllers => exact Table.next_update _ _ _
  all_goals rfl

theorem picture_addController (x : Controller) :
    ({ w with controllers := (w.controllers.add x).2 } : World σ).picture =
      w.picture.seat x.registry x.device := by
  apply Picture.ext
  case device =>
    funext k
    simp only [picture, Picture.seat, Table.find?_add]
    split
    · next at_k => simp [← at_k]
    · next other =>
        have : k.number ≠ w.controllers.next := fun h => other (by rw [← h])
        simp [this]
  case controllers => exact Table.next_add w.controllers x
  all_goals rfl

theorem picture_eraseController (k : ControllerId) :
    (w.erase (.controller k)).picture = w.picture.unseat k := by
  apply Picture.ext
  case device =>
    funext k'
    simp only [picture, Picture.unseat, erase, Table.find?_erase]
    split <;> rfl
  all_goals rfl

theorem picture_reshare (f : Nat → Nat) (k : Kept) : (w.reshare f k).picture = w.picture := by
  cases k with
  | registry r => exact w.picture_updateRegistry r fun _ => ⟨rfl, rfl⟩
  | controller k => exact w.picture_updateController k fun _ => ⟨rfl, rfl⟩
  | _ => rfl

end Steps

end World

end DroneControl
