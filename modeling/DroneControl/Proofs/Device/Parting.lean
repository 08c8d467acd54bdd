import DroneControl.Proofs.Device.Attempts

/-!
# How a device goes

A device that has a connection when it is to be removed waits for the end of that connection.  Whoever
observes it hears of the end, unless nobody is there any longer, and then the device goes off the table
and its registry says so.  The history of a device is read one occurrence after another, and the reading
gets stuck if one of these comes at the wrong time.
-/

namespace DroneControl

def ConnectionEvent.ends : ConnectionEvent → Bool
  | .disconnected | .canceled _ => true
  | _ => false

def Milestone.ends : Milestone → Bool
  | .disconnected | .canceled => true
  | _ => false

theorem ConnectionEvent.ends_eq {event : ConnectionEvent} {m : Milestone}
    (reached : event.milestone? = some m) : event.ends = m.ends := by
  cases event <;> simp only [milestone?, Option.some.injEq, reduceCtorEq] at reached <;>
    subst reached <;> rfl

theorem Continues.underway_iff {told : List Milestone} {m : Milestone} (h : Continues told m) :
    Underway (told ++ [m]) ↔ m.ends = false := by
  unfold Underway
  rcases h.cases with ⟨rfl, rfl⟩ | ⟨rfl, rfl⟩ | ⟨rfl, rfl⟩ | ⟨rfl, rfl⟩ | ⟨rfl, rfl⟩ <;>
    simp [Milestone.ends]

def DeviceEvent.end? : DeviceEvent → Option Bool
  | .disconnected removing | .canceled _ removing => some removing
  | _ => none

/-- How far a device has got on its way in and out. -/
inductive Parting.Stage where
  | absent
  | staying
  /-- The end of the connection is waited for, and the observer is to hear of it. -/
  | closing (connection : ConnectionId) (observer : Option ControllerId)
  | ended (connection : ConnectionId) (observer : Option ControllerId)
  | heard
  | off
  deriving DecidableEq

structure Parting where
  stage : Parting.Stage := .absent
  /-- The connections that the device was removed with. -/
  left : List ConnectionId := []
  /-- The observers that heard nothing of the end. -/
  missed : List ControllerId := []

namespace Parting

variable (x : Parting)

def add : Option Parting := if x.stage = .absent then some { x with stage := .staying } else none

def leave (c : ConnectionId) (o : Option ControllerId) : Option Parting :=
  if x.stage = .staying ∧ c ∉ x.left then
    some { x with stage := .closing c o, left := c :: x.left }
  else none

def finish (c : ConnectionId) : Option Parting :=
  if c ∈ x.left then
    match x.stage with
    | .closing c' o => if c' = c then some { x with stage := .ended c o } else none
    | _ => none
  else some x

def pass (k : ControllerId) (c : ConnectionId) (removing : Bool) : Option Parting :=
  if c ∈ x.left then
    if x.stage = .ended c (some k) ∧ removing then some { x with stage := .heard } else none
  else some x

def drop : Option Parting :=
  match x.stage with
  | .staying | .heard => some { x with stage := .off }
  | .ended _ o => some { x with stage := .off, missed := o.toList ++ x.missed }
  | _ => none

def settle : Option Parting := if x.stage = .off then some { x with stage := .absent } else none

/-- What becomes of a device of a registry with an occurrence. -/
def next (r : RegistryId) (h : DeviceHandle) : Occurrence → Option Parting
  | .leaving r' h' c o => if r' = r ∧ h' = h then x.leave c o else some x
  | .told c event => if event.ends then x.finish c else some x
  | .noticed k c event _ =>
      match event.end? with
      | some removing => x.pass k c removing
      | none => some x
  | .removed r' h' => if r' = r ∧ h' = h then x.drop else some x
  | .announced r' h' there =>
      if r' = r ∧ h' = h then if there then x.add else x.settle else some x
  | _ => some x

theorem next_told {c : ConnectionId} (away : c ∉ x.left) (r : RegistryId) (h : DeviceHandle)
    (event : ConnectionEvent) : x.next r h (.told c event) = some x := by
  simp [next, finish, away]

theorem next_noticed {c : ConnectionId} (away : c ∉ x.left) (r : RegistryId) (h : DeviceHandle)
    (k : ControllerId) (event : DeviceEvent) (ready : Bool) :
    x.next r h (.noticed k c event ready) = some x := by
  simp only [next, pass, away, if_false]
  cases event.end? <;> rfl

end Parting

def parting (r : RegistryId) (h : DeviceHandle) (past : List Happening) : Option Parting :=
  past.foldlM (fun x o => x.next r h o.what) {}

theorem parting_concat (r : RegistryId) (h : DeviceHandle) (past : List Happening) (o : Happening) :
    parting r h (past ++ [o]) = (parting r h past).bind (·.next r h o.what) := by
  simp only [parting, List.foldlM_append, List.foldlM_cons, List.foldlM_nil]
  cases past.foldlM (fun x o => x.next r h o.what) ({} : Parting) <;> simp

/-! ## A device that goes -/

/-- What happens to a device after it was removed with a connection. -/
inductive Farewell where
  | added
  | ended
  | passed (controller : ControllerId) (removing : Bool)
  | removed
  | announced
  deriving DecidableEq, Repr

def Occurrence.farewell? (r : RegistryId) (h : DeviceHandle) (c : ConnectionId) :
    Occurrence → Option Farewell
  | .told c' event => if c' = c ∧ event.ends then some .ended else none
  | .noticed k c' event _ => if c' = c then event.end?.map (.passed k) else none
  | .removed r' h' => if r' = r ∧ h' = h then some .removed else none
  | .announced r' h' there =>
      if r' = r ∧ h' = h then some (if there then .added else .announced) else none
  | _ => none

def farewells (r : RegistryId) (h : DeviceHandle) (c : ConnectionId) (past : List Happening) :
    List Farewell :=
  past.filterMap (·.what.farewell? r h c)

/-- The observer has heard of the end, or there was none, or it has missed it. -/
def Heard (o : Option ControllerId) (missed : List ControllerId) (heard : List Farewell) : Prop :=
  (∃ k, o = some k ∧ heard = [.passed k true]) ∨ heard = [] ∧ ∀ k, o = some k → k ∈ missed

theorem Heard.mono {o : Option ControllerId} {missed missed' : List ControllerId}
    {heard : List Farewell} (told : Heard o missed heard) (more : missed ⊆ missed') :
    Heard o missed' heard :=
  told.imp_right fun ⟨silent, gone⟩ => ⟨silent, fun k observed => more (gone k observed)⟩

def Another (later : List Farewell) : Prop :=
  later.head? = some .added ∧ ∀ f ∈ later, f = .added ∨ f = .removed ∨ f = .announced

theorem Another.concat {later : List Farewell} (another : Another later) {f : Farewell}
    (goes : f = .added ∨ f = .removed ∨ f = .announced) : Another (later ++ [f]) := by
  obtain ⟨first, others⟩ := another
  refine ⟨by simp [first], fun g among => ?_⟩
  rcases List.mem_append.mp among with among | among
  · exact others g among
  · exact List.mem_singleton.mp among ▸ goes

namespace Parting

/-- What is to be seen of a device that was removed with a connection, by how far it has got. -/
inductive Seen (c : ConnectionId) (o : Option ControllerId) (x : Parting) : List Farewell → Prop where
  | closing (stage : x.stage = .closing c o) : Seen c o x []
  | ended (stage : x.stage = .ended c o) : Seen c o x [.ended]
  | heard {k : ControllerId} (stage : x.stage = .heard) (observed : o = some k) :
      Seen c o x [.ended, .passed k true]
  | off {heard : List Farewell} (stage : x.stage = .off) (told : Heard o x.missed heard) :
      Seen c o x (.ended :: heard ++ [.removed])
  /-- What comes later is about another device of the same handle. -/
  | done {heard later : List Farewell} (told : Heard o x.missed heard)
      (apart : ∀ o', x.stage ≠ .closing c o' ∧ x.stage ≠ .ended c o')
      (another : later = [] ∧ x.stage = .absent ∨ Another later) :
      Seen c o x (.ended :: heard ++ [.removed, .announced] ++ later)

variable {x y : Parting} {c c' : ConnectionId} {o o' : Option ControllerId} {l : List Farewell}
  {r : RegistryId} {h : DeviceHandle}

theorem Seen.of_leave (leaves : x.leave c o = some y) : c ∈ y.left ∧ Seen c o y [] := by
  unfold leave at leaves
  split at leaves
  · obtain rfl := Option.some.inj leaves
    exact ⟨List.mem_cons_self, .closing rfl⟩
  · contradiction

theorem Seen.leave (seen : Seen c o x l) (left : c ∈ x.left) (leaves : x.leave c' o' = some y) :
    c ∈ y.left ∧ Seen c o y l := by
  unfold Parting.leave at leaves
  split at leaves
  · next fresh =>
      obtain ⟨staying, new⟩ := fresh
      obtain rfl := Option.some.inj leaves
      have other : c' ≠ c := fun same => new (same ▸ left)
      refine ⟨List.mem_cons_of_mem _ left, ?_⟩
      cases seen with
      | done told apart another =>
          refine .done told (fun o => ⟨by simp [other], by simp⟩) (another.imp_left ?_)
          simp [staying]
      | closing stage | ended stage | heard stage | off stage => simp [staying] at stage
  · contradiction

theorem Seen.finish (seen : Seen c o x l) (left : c ∈ x.left) (finishes : x.finish c' = some y) :
    c ∈ y.left ∧ Seen c o y (l ++ (if c' = c then some Farewell.ended else none).toList) := by
  unfold Parting.finish at finishes
  split at finishes
  · next left' =>
      split at finishes
      · next own o' stage =>
          split at finishes
          · next same =>
              subst same
              obtain rfl := Option.some.inj finishes
              refine ⟨left, ?_⟩
              cases seen with
              | closing closing =>
                  obtain ⟨rfl, rfl⟩ : own = c ∧ o' = o := by simpa using stage.symm.trans closing
                  rw [if_pos rfl]
                  exact .ended rfl
              | done told apart another =>
                  have other : own ≠ c := fun same => (apart o').1 (same ▸ stage)
                  rw [if_neg other, Option.toList_none, List.append_nil]
                  refine .done told (fun o => ⟨by simp, by simp [other]⟩) (another.imp_left ?_)
                  simp [stage]
              | ended now | heard now | off now => simp [stage] at now
          · contradiction
      · contradiction
  · next away =>
      obtain rfl := Option.some.inj finishes
      have other : c' ≠ c := fun same => away (same ▸ left)
      rw [if_neg other, Option.toList_none, List.append_nil]
      exact ⟨left, seen⟩

theorem Seen.pass {k : ControllerId} {removing : Bool} (seen : Seen c o x l) (left : c ∈ x.left)
    (passes : x.pass k c' removing = some y) :
    c ∈ y.left ∧
      Seen c o y (l ++ (if c' = c then some (Farewell.passed k removing) else none).toList) := by
  unfold Parting.pass at passes
  split at passes
  · split at passes
    · next now =>
        obtain ⟨stage, rfl⟩ := now
        obtain rfl := Option.some.inj passes
        refine ⟨left, ?_⟩
        cases seen with
        | ended ended =>
            obtain ⟨rfl, rfl⟩ : c' = c ∧ some k = o := by simpa using stage.symm.trans ended
            rw [if_pos rfl]
            exact .heard rfl rfl
        | done told apart another =>
            have other : c' ≠ c := fun same => (apart (some k)).2 (same ▸ stage)
            rw [if_neg other, Option.toList_none, List.append_nil]
            refine .done told (fun o => ⟨by simp, by simp⟩) (another.imp_left ?_)
            simp [stage]
        | closing now | heard now | off now => simp [stage] at now
    · contradiction
  · next away =>
      obtain rfl := Option.some.inj passes
      have other : c' ≠ c := fun same => away (same ▸ left)
      rw [if_neg other, Option.toList_none, List.append_nil]
      exact ⟨left, seen⟩

theorem of_drop (drops : x.drop = some y) :
    (y.stage = .off ∧ x.stage ≠ .absent) ∧ y.left = x.left ∧ x.missed ⊆ y.missed := by
  unfold drop at drops
  split at drops
  all_goals first | contradiction | obtain rfl := Option.some.inj drops
  · exact ⟨⟨rfl, by simp_all⟩, rfl, List.Subset.refl _⟩
  · exact ⟨⟨rfl, by simp_all⟩, rfl, List.Subset.refl _⟩
  · exact ⟨⟨rfl, by simp_all⟩, rfl, List.subset_append_right _ _⟩

theorem Seen.add (seen : Seen c o x l) (left : c ∈ x.left) (adds : x.add = some y) :
    c ∈ y.left ∧ Seen c o y (l ++ [.added]) := by
  unfold Parting.add at adds
  split at adds
  · next absent =>
      obtain rfl := Option.some.inj adds
      refine ⟨left, ?_⟩
      cases seen with
      | closing stage | ended stage | heard stage | off stage => simp [absent] at stage
      | done told apart another =>
          rw [List.append_assoc]
          refine .done told (fun o => ⟨by simp, by simp⟩) (.inr ?_)
          rcases another with ⟨rfl, -⟩ | another
          · exact ⟨rfl, by simp⟩
          · exact another.concat (.inl rfl)
  · contradiction

theorem Seen.drop (seen : Seen c o x l) (left : c ∈ x.left) (drops : x.drop = some y) :
    c ∈ y.left ∧ Seen c o y (l ++ [.removed]) := by
  obtain ⟨⟨off, present⟩, same, more⟩ := of_drop drops
  refine ⟨same ▸ left, ?_⟩
  unfold Parting.drop at drops
  cases seen with
  | closing stage | off stage => simp [stage] at drops
  | ended stage =>
      simp only [stage, Option.some.injEq] at drops
      subst drops
      exact .off rfl (.inr ⟨rfl, by rintro k rfl; simp⟩)
  | heard stage observed =>
      exact .off off (.inl ⟨_, observed, rfl⟩)
  | done told apart another =>
      rw [List.append_assoc]
      refine .done (told.mono more) (fun o => by simp [off]) (.inr ?_)
      rcases another with ⟨-, absent⟩ | another
      · exact absurd absent present
      · exact another.concat (.inr (.inl rfl))

theorem Seen.settle (seen : Seen c o x l) (left : c ∈ x.left) (settles : x.settle = some y) :
    c ∈ y.left ∧ Seen c o y (l ++ [.announced]) := by
  unfold Parting.settle at settles
  split at settles
  · next off =>
      obtain rfl := Option.some.inj settles
      refine ⟨left, ?_⟩
      cases seen with
      | closing stage | ended stage | heard stage => simp [off] at stage
      | off stage told =>
          have done : Seen c o { x with stage := .absent } _ :=
            .done told (fun o => ⟨by simp, by simp⟩) (.inl ⟨rfl, rfl⟩)
          simpa using done
      | done told apart another =>
          rw [List.append_assoc]
          refine .done told (fun o => ⟨by simp, by simp⟩) (.inr ?_)
          rcases another with ⟨-, absent⟩ | another
          · simp [off] at absent
          · exact another.concat (.inr (.inr rfl))
  · contradiction

theorem Seen.next {e : Occurrence} (seen : Seen c o x l) (left : c ∈ x.left)
    (step : x.next r h e = some y) : c ∈ y.left ∧ Seen c o y (l ++ (e.farewell? r h c).toList) := by
  have same : some x = some y → c ∈ y.left ∧ Seen c o y (l ++ []) := by
    intro goes
    obtain rfl := Option.some.inj goes
    exact ⟨left, by rwa [List.append_nil]⟩
  cases e with
  | leaving r' h' c' o' =>
      unfold Parting.next at step
      dsimp only at step
      split at step
      · simpa [Occurrence.farewell?] using seen.leave left step
      · exact same step
  | told c' event =>
      unfold Parting.next at step
      dsimp only at step
      split at step
      · next ends => simpa [Occurrence.farewell?, ends] using seen.finish left step
      · next goes => simpa [Occurrence.farewell?, goes] using same step
  | noticed k c' event ready =>
      unfold Parting.next at step
      dsimp only at step
      cases passed : event.end? with
      | some removing =>
          rw [passed] at step
          simpa [Occurrence.farewell?, passed] using seen.pass left step
      | none =>
          rw [passed] at step
          simpa [Occurrence.farewell?, passed] using same step
  | removed r' h' =>
      unfold Parting.next at step
      dsimp only at step
      split at step
      · next here => simpa [Occurrence.farewell?, here] using seen.drop left step
      · next apart => simpa [Occurrence.farewell?, apart] using same step
  | announced r' h' there =>
      unfold Parting.next at step
      dsimp only at step
      split at step
      · next here =>
          cases there with
          | true => simpa [Occurrence.farewell?, here] using seen.add left step
          | false => simpa [Occurrence.farewell?, here] using seen.settle left step
      · next apart => simpa [Occurrence.farewell?, apart] using same step
  | _ => exact same step

end Parting

theorem seen_of_leaving {r : RegistryId} {h : DeviceHandle} {c : ConnectionId}
    {o : Option ControllerId} {before after : List Happening} {t : Nat} {x : Parting}
    (reads : parting r h (before ++ ⟨t, .leaving r h c o⟩ :: after) = some x) :
    x.Seen c o (farewells r h c after) := by
  suffices seen : c ∈ x.left ∧ x.Seen c o (farewells r h c after) from seen.2
  induction after using List.reverseRecOn generalizing x with
  | nil =>
      rw [parting_concat, Option.bind_eq_some_iff] at reads
      obtain ⟨was, -, step⟩ := reads
      exact Parting.Seen.of_leave (by simpa [Parting.next] using step)
  | append_singleton after e ih =>
      rw [← List.cons_append, ← List.append_assoc, parting_concat, Option.bind_eq_some_iff] at reads
      obtain ⟨was, earlier, step⟩ := reads
      obtain ⟨left, seen⟩ := ih earlier
      have goes := seen.next left step
      unfold farewells at goes ⊢
      rw [List.filterMap_append]
      cases passed : e.what.farewell? r h c <;> simpa [passed] using goes

end DroneControl
