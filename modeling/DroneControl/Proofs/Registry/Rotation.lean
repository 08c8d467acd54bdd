import DroneControl.Proofs.Registry.Ring
import DroneControl.Proofs.Registry.Roll

/-!
# Handles in turn

The cursor of a registry is after the handle that was handed out last.  The next one to be handed out is
the first from there on that is not in use, so that a handle whose device is gone does not come up again
until the cursor has gone over all the others.
-/

set_option synthInstance.maxSize 2048

namespace DroneControl

open Registry (ahead following)

variable {σ : Type} {r r' : RegistryId} {h h' : DeviceHandle} {w w' : World σ} {env : Env σ}

/-! ## What a registry tells -/

def Occurrence.bulletin? (r : RegistryId) : Occurrence → Option (DeviceHandle × Bool)
  | .announced r' h there => if r' = r then some (h, there) else none
  | _ => none

/-- What the listener of a registry was told, in order: of which handle, and whether there is a device
now. -/
def bulletin (r : RegistryId) (past : List Happening) : List (DeviceHandle × Bool) :=
  past.filterMap (·.what.bulletin? r)

section Bulletin

variable {before between past l : List (DeviceHandle × Bool)} {u v : DeviceHandle}

def toldOf (h : DeviceHandle) (past : List (DeviceHandle × Bool)) : List Bool :=
  past.filterMap fun told => if told.1 = h then some told.2 else none

def InUse (past : List (DeviceHandle × Bool)) (h : DeviceHandle) : Prop :=
  (toldOf h past).getLast? = some true

def cursorAfter (past : List (DeviceHandle × Bool)) : UInt16 :=
  match (past.filter (·.2)).getLast? with
  | none => 1
  | some told => following told.1.raw

/-- The first handle from the cursor on that is not in use. -/
structure NextFree (past : List (DeviceHandle × Bool)) (h : DeviceHandle) : Prop where
  proper : h.Proper
  unused : ¬InUse past h
  nearest : ∀ v : DeviceHandle, v.Proper → ahead (cursorAfter past) v < ahead (cursorAfter past) h →
    InUse past v

/-- Whatever is handed out is the first that is free at the time. -/
def Fair (l : List (DeviceHandle × Bool)) : Prop :=
  ∀ past h, past ++ [(h, true)] <+: l → NextFree past h

/-- The cursor goes over a handle when another one is handed out, or the handle itself is. -/
def PassesOver (past : List (DeviceHandle × Bool)) (u v : DeviceHandle) : Prop :=
  u = v ∨ ahead (cursorAfter past) v < ahead (cursorAfter past) u

theorem cursorAfter_concat (past : List (DeviceHandle × Bool)) (h : DeviceHandle) (there : Bool) :
    cursorAfter (past ++ [(h, there)]) = if there then following h.raw else cursorAfter past := by
  cases there <;> simp [cursorAfter]

theorem cursorAfter_ne_zero (past : List (DeviceHandle × Bool)) : cursorAfter past ≠ 0 := by
  unfold cursorAfter
  split
  · decide
  · exact Registry.following_ne_zero _

theorem Fair.nil : Fair [] := fun past h earlier => by simp at earlier

theorem Fair.concat {told : DeviceHandle × Bool} (fair : Fair l)
    (next : told.2 = true → NextFree l told.1) : Fair (l ++ [told]) := by
  intro past h earlier
  rcases List.prefix_concat_iff.mp earlier with whole | earlier
  · obtain ⟨rfl, last⟩ := List.append_inj' whole rfl
    obtain rfl := (List.singleton_inj.mp last).symm
    exact next rfl
  · exact fair past h earlier

theorem Fair.passed_or_nearer (fair : Fair l) (proper : h.Proper) (proper' : v.Proper)
    (nearer : ahead (cursorAfter before) v < ahead (cursorAfter before) h)
    (earlier : before ++ between <+: l) :
    (∃ past u, before <+: past ∧ past ++ [(u, true)] <+: before ++ between ∧ PassesOver past u v) ∨
      ahead (cursorAfter (before ++ between)) v < ahead (cursorAfter (before ++ between)) h := by
  induction between using List.reverseRecOn with
  | nil => exact .inr (by simpa using nearer)
  | append_singleton between told ih =>
    rw [← List.append_assoc] at earlier ⊢
    have last := List.prefix_append (before ++ between) [told]
    rcases ih (last.trans earlier) with ⟨past, u, later, within, passes⟩ | nearer
    · exact .inl ⟨past, u, later, within.trans last, passes⟩
    · obtain ⟨u, there⟩ := told
      cases there with
      | false =>
        refine .inr ?_
        rwa [cursorAfter_concat]
      | true =>
        by_cases passes : PassesOver (before ++ between) u v
        · exact .inl ⟨_, u, List.prefix_append _ _, List.prefix_rfl, passes⟩
        · -- The one that is handed out comes before both, and they keep their order.
          have proper'' := (fair _ u earlier).proper
          have beyond : ahead (cursorAfter (before ++ between)) u <
              ahead (cursorAfter (before ++ between)) v := by
            refine Nat.lt_of_le_of_ne (Nat.le_of_not_lt fun order => passes (.inr order)) fun same => ?_
            exact passes (.inl (Registry.ahead_inj (cursorAfter_ne_zero _) proper'' proper' same))
          refine .inr ?_
          rw [cursorAfter_concat]
          exact Registry.ahead_following_lt (cursorAfter_ne_zero _) proper'' proper' proper beyond nearer

theorem Fair.passed_over {after : List (DeviceHandle × Bool)} (fair : Fair l)
    (again : l = before ++ (h, true) :: (between ++ (h, true) :: after)) (proper : v.Proper)
    (other : v ≠ h) :
    ∃ past u, before ++ [(h, true)] <+: past ∧
      past ++ [(u, true)] <+: before ++ (h, true) :: (between ++ [(h, true)]) ∧ PassesOver past u v := by
  have first : before ++ [(h, true)] <+: l := ⟨between ++ (h, true) :: after, by simp [again]⟩
  have second : before ++ [(h, true)] ++ between <+: l := ⟨(h, true) :: after, by simp [again]⟩
  have proper' := (fair before h first).proper
  have nearer : ahead (cursorAfter (before ++ [(h, true)])) v <
      ahead (cursorAfter (before ++ [(h, true)])) h := by
    rw [cursorAfter_concat]
    exact Registry.ahead_lt_self proper' proper other
  rcases fair.passed_or_nearer proper' proper nearer second with ⟨past, u, later, within, passes⟩ | nearer
  · refine ⟨past, u, later, within.trans ⟨[(h, true)], ?_⟩, passes⟩
    simp
  · exact ⟨_, h, List.prefix_append _ _, ⟨[], by simp⟩, .inr nearer⟩

end Bulletin

theorem toldOf_bulletin (r : RegistryId) (h : DeviceHandle) (past : List Happening) :
    toldOf h (bulletin r past) = announcements r h past := by
  rw [toldOf, bulletin, announcements, List.filterMap_filterMap]
  congr 1
  funext e
  cases e.what <;> simp only [Occurrence.bulletin?, Occurrence.announcement?, Option.bind_none]
  split <;> simp_all

theorem bulletin_eq_nil {past : List Happening} (untold : ∀ h, announcements r h past = []) :
    bulletin r past = [] := by
  refine List.eq_nil_iff_forall_not_mem.mpr fun told among => ?_
  have told' : told.2 ∈ toldOf told.1 (bulletin r past) :=
    List.mem_filterMap.mpr ⟨told, among, if_pos rfl⟩
  rw [toldOf_bulletin, untold] at told'
  cases told'

/-! ## Keeping the turn -/

/-- Handles were handed out in turn, up to where the cursor of the registry is. -/
structure World.InTurn (w : World σ) (r : RegistryId) : Prop where
  cursor : ∀ x, w.registries.find? r = some x → x.cursor = cursorAfter (bulletin r w.chronicle)
  fair : Fair (bulletin r w.chronicle)

/-- If the roll of a registry was in order and its handles were handed out in turn, that goes on. -/
structure Rotates (r : RegistryId) (w w' : World σ) : Prop where
  tallies : ∀ h, Tallies r h w w'
  inTurn : (∀ h, w.Agrees r h) → w.InTurn r → w'.InTurn r

namespace World.InTurn

theorem of_rows (inTurn : w.InTurn r) (told : bulletin r w'.chronicle = bulletin r w.chronicle)
    (rows : ∀ x', w'.registries.find? r = some x' →
      ∃ x, w.registries.find? r = some x ∧ x'.cursor = x.cursor) : w'.InTurn r := by
  refine ⟨fun x' found => ?_, told ▸ inTurn.fair⟩
  obtain ⟨x, here, same⟩ := rows x' found
  rw [same, told]
  exact inTurn.cursor x here

theorem update {f : Registry → Registry} (inTurn : w.InTurn r) (same : ∀ x, (f x).cursor = x.cursor) :
    (w.updateRegistry r' f).InTurn r := by
  refine inTurn.of_rows rfl fun x' found => ?_
  simp only [World.updateRegistry, Table.find?_update] at found
  split at found
  · next here =>
    obtain ⟨x, known, rfl⟩ := Option.map_eq_some_iff.mp found
    exact ⟨x, here ▸ known, same x⟩
  · exact ⟨x', found, rfl⟩

theorem mark {o : Occurrence} (inTurn : w.InTurn r) (aside : o.bulletin? r = none) :
    (w.mark o).InTurn r := by
  refine inTurn.of_rows ?_ fun x found => ⟨x, found, rfl⟩
  rw [bulletin, World.read_mark, aside]
  exact List.append_nil _

theorem nextFree {x : Registry} (inTurn : w.InTurn r) (agrees : ∀ h, w.Agrees r h)
    (known : w.registries.find? r = some x) (serves : x.closed = false) (first : x.FirstFree h) :
    NextFree (bulletin r w.chronicle) h := by
  have used : ∀ v, InUse (bulletin r w.chronicle) v ↔ (x.device? v).isSome := by
    intro v
    rw [InUse, toldOf_bulletin]
    exact ((agrees v).table x known serves).symm
  refine ⟨first.proper, ?_, fun v proper nearer => ?_⟩
  · rw [used, first.unused]
    exact Bool.false_ne_true
  · rw [← inTurn.cursor x known] at nearer
    exact (used v).mpr (first.nearest v proper nearer)

theorem announce {there : Bool} (inTurn : w.InTurn r) (agrees : ∀ h, w.Agrees r h)
    (announces : w.Announces w' r' h there) : w'.InTurn r := by
  have told : bulletin r w'.chronicle = bulletin r w.chronicle ++
      ((Occurrence.announced r' h there).bulletin? r).toList :=
    announces.read fun o aside => by cases o <;> first | rfl | exact absurd rfl aside
  obtain ⟨x, x', known, registries, turns⟩ := announces.row
  have row : ∀ y, w'.registries.find? r = some y →
      if r' = r then y = x' else w.registries.find? r = some y := by
    intro y found
    rw [registries, Table.find?_update, known] at found
    split at found <;> simp_all
  by_cases here : r' = r
  · subst here
    replace told : bulletin r' w'.chronicle = bulletin r' w.chronicle ++ [(h, there)] := by
      simpa [Occurrence.bulletin?] using told
    have taken : there = true → x.FirstFree h ∧ x'.cursor = following h.raw := by
      intro comes
      obtain ⟨y, allocated, same⟩ := turns.taken comes
      have positive : x.cursor ≠ 0 := inTurn.cursor x known ▸ cursorAfter_ne_zero _
      obtain ⟨first, rfl⟩ := (Registry.allocate_eq_some_iff positive).mp allocated
      exact ⟨first, by rw [same, Registry.following_proper first.proper]⟩
    refine ⟨fun y found => ?_, ?_⟩
    · obtain rfl : y = x' := by simpa using row y found
      rw [told, cursorAfter_concat]
      cases there with
      | true => exact (taken rfl).2
      | false => exact (turns.kept rfl).trans (inTurn.cursor x known)
    · rw [told]
      exact inTurn.fair.concat fun comes =>
        inTurn.nextFree agrees known (turns.serving comes) (taken comes).1
  · refine inTurn.of_rows (by simpa [Occurrence.bulletin?, here] using told) fun y found => ?_
    have := row y found
    rw [if_neg here] at this
    exact ⟨y, this, rfl⟩

theorem found {x : Registry} (inTurn : w.InTurn r) (agrees : ∀ h, w.Agrees r h) (start : x.cursor = 1) :
    (w.found x).InTurn r := by
  have told : bulletin r (w.found x).chronicle = bulletin r w.chronicle :=
    (World.read_mark _ _ _).trans (List.append_nil _)
  by_cases here : r.number = w.registries.next
  · have untold : bulletin r w.chronicle = [] := bulletin_eq_nil fun h => (agrees h).fresh here.ge
    refine ⟨fun y found => ?_, told ▸ inTurn.fair⟩
    change (w.registries.add x).2.find? r = some y at found
    rw [Table.find?_add, ← here, if_pos rfl] at found
    rw [← Option.some.inj found, start, told, untold]
    rfl
  · refine inTurn.of_rows told fun y found => ?_
    change (w.registries.add x).2.find? r = some y at found
    rw [Table.find?_add, if_neg] at found
    · exact ⟨y, found, rfl⟩
    · rintro rfl
      exact here rfl

theorem dissolve (inTurn : w.InTurn r) (r' : RegistryId) : (w.dissolve r').InTurn r := by
  cases known : w.registries.find? r' with
  | none => rwa [dissolve_of_none known]
  | some x =>
    rw [dissolve_of_some known]
    have emptied : (w.updateRegistry r' Registry.emptied).InTurn r := inTurn.update fun _ => rfl
    exact emptied.mark rfl

end World.InTurn

instance Rotates.attends : Attends (σ := σ) (Rotates r) where
  trans first second := by
    refine ⟨fun h => second.tallies h ∘ first.tallies h, fun agrees inTurn => ?_⟩
    exact second.inTurn (fun h => first.tallies h (agrees h)) (first.inTurn agrees inTurn)
  same history registries :=
    ⟨fun _ => Tallies.attends.same history registries, fun _ inTurn =>
      inTurn.of_rows (by simp only [World.chronicle, history]) fun x found => ⟨x, registries ▸ found, rfl⟩⟩
  mark w o aside :=
    ⟨fun _ => Tallies.attends.mark w aside, fun _ inTurn =>
      inTurn.mark (by cases o <;> first | rfl | exact absurd rfl aside)⟩
  update w r' _ goes :=
    ⟨fun _ => Tallies.attends.update w r' goes, fun _ inTurn => inTurn.update fun x => (goes x).cursor⟩
  erase w r' := by
    refine ⟨fun _ => Tallies.attends.erase w r', fun _ inTurn => ?_⟩
    refine inTurn.of_rows rfl fun x found => ⟨x, ?_, rfl⟩
    simp only [World.erase, Table.find?_erase] at found
    split at found
    · cases found
    · exact found
  rewrite hd e alike :=
    ⟨fun _ => Tallies.attends.rewrite hd e alike, fun _ inTurn => inTurn.update fun _ => rfl⟩
  announce announces :=
    ⟨fun _ => Tallies.attends.announce announces, fun agrees inTurn => inTurn.announce agrees announces⟩
  found w x empty serves start :=
    ⟨fun _ => Tallies.attends.found w x empty serves start, fun agrees inTurn =>
      inTurn.found agrees start⟩
  dissolve w r' :=
    ⟨fun _ => Tallies.attends.dissolve w r', fun _ inTurn => inTurn.dissolve r'⟩

/-! ## Handing out -/

namespace Registry

/-- Handing out a handle ends with the first one that is free, or finds that all are in use.  It is the
search that goes on for as long as it takes. -/
structure Allocates (x : Registry) : Prop where
  search : ∀ outcome, x.Searches x.cursor x.cursor outcome ↔ outcome = x.allocate.map (·.1.raw)
  exhausted : x.allocate = none ↔ ∀ h : DeviceHandle, h.Proper → (x.device? h).isSome
  first : ∀ h y, x.allocate = some (h, y) ↔ x.FirstFree h ∧ y = { x with cursor := h.raw + 1 }

theorem allocates {x : Registry} (positive : x.cursor ≠ 0) : x.Allocates where
  search _ := searches_iff_allocate positive
  exhausted := allocate_eq_none_iff positive
  first _ _ := allocate_eq_some_iff positive

theorem run_addDevice {x : Registry} {b : BackendId} (known : w.registries.find? r = some x)
    (serves : x.closed = false) (registered : b ∈ x.backends) (env : Env σ) (info : DeviceInfo) :
    match x.allocate with
    | none => (addDevice env r info b).run.run w =
        (.error (.resourceExhausted "no free device handle"), w)
    | some (h, _) => ((addDevice env r info b).run.run w).1 = .ok h := by
  unfold addDevice
  rw [run_lookThen]
  dsimp only
  rw [World.registry_of_find? known, serves, if_neg Bool.false_ne_true, if_neg (not_not_intro registered)]
  cases x.allocate with
  | none => rfl
  | some allocated => rfl

theorem addDevice_eq_ok_iff {x : Registry} {b : BackendId} (positive : x.cursor ≠ 0)
    (known : w.registries.find? r = some x) (serves : x.closed = false) (registered : b ∈ x.backends)
    (env : Env σ) (info : DeviceInfo) :
    ((addDevice env r info b).run.run w).1 = .ok h ↔ x.FirstFree h := by
  have added := run_addDevice known serves registered env info
  have first := fun h y => allocate_eq_some_iff positive (x := x) (h := h) (y := y)
  cases allocated : x.allocate with
  | none =>
    simp only [allocated] at added
    simp only [added, reduceCtorEq, false_iff]
    intro free
    cases allocated.symm.trans ((first h _).mpr ⟨free, rfl⟩)
  | some handed =>
    simp only [allocated] at added
    rw [added, Except.ok.injEq]
    constructor
    · rintro rfl
      exact ((first _ _).mp allocated).1
    · intro free
      cases allocated.symm.trans ((first h _).mpr ⟨free, rfl⟩)
      rfl

theorem addDevice_exhausted_iff {x : Registry} {b : BackendId} (positive : x.cursor ≠ 0)
    (known : w.registries.find? r = some x) (serves : x.closed = false) (registered : b ∈ x.backends)
    (env : Env σ) (info : DeviceInfo) :
    (addDevice env r info b).run.run w = (.error (.resourceExhausted "no free device handle"), w) ↔
      ∀ h : DeviceHandle, h.Proper → (x.device? h).isSome := by
  have added := run_addDevice known serves registered env info
  rw [← allocate_eq_none_iff positive]
  cases allocated : x.allocate with
  | none => simpa [allocated] using added
  | some handed =>
    simp only [allocated] at added
    refine ⟨fun failed => ?_, nofun⟩
    rw [failed] at added
    cases added

end Registry

/-! ## Runs -/

/-- Whatever is in use and wherever the cursor is, handing out a handle comes to an end, with the first
handle from the cursor on that is free, and the cursor is after it then.  It fails only if all are in use,
and changes nothing.  Over a run this goes on in turn: from when a handle is handed out until it is handed
out again, the cursor goes over every other one. -/
theorem Reached.hands_out_in_turn (reached : Reached w) (r : RegistryId) :
    (∀ x : Registry, x.cursor ≠ 0 → x.Allocates) ∧
    (∀ x, w.registries.find? r = some x →
      x.cursor = cursorAfter (bulletin r w.chronicle) ∧ x.cursor ≠ 0 ∧
      (x.closed = false → ∀ (env : Env σ) (info : DeviceInfo), ∀ b ∈ x.backends,
        (∀ h, ((Registry.addDevice env r info b).run.run w).1 = .ok h ↔ x.FirstFree h) ∧
        ((Registry.addDevice env r info b).run.run w =
            (.error (.resourceExhausted "no free device handle"), w) ↔
          ∀ h : DeviceHandle, h.Proper → (x.device? h).isSome))) ∧
    Fair (bulletin r w.chronicle) ∧
    ∀ before h between after,
      bulletin r w.chronicle = before ++ (h, true) :: (between ++ (h, true) :: after) →
      ∀ v : DeviceHandle, v.Proper → v ≠ h →
        ∃ past u, before ++ [(h, true)] <+: past ∧
          past ++ [(u, true)] <+: before ++ (h, true) :: (between ++ [(h, true)]) ∧
          PassesOver past u v := by
  obtain ⟨host, verbosity, rotates⟩ :=
    reached.related (R := Rotates r) fun _ _ quiet => Attends.together quiet
  have unknown := World.find?_empty (α := Registry) r
  have start : ({ host, verbosity } : World σ).InTurn r :=
    ⟨fun _ found => absurd (unknown.symm.trans found) nofun, Fair.nil⟩
  have inTurn := rotates.inTurn (World.agrees_empty host verbosity r) start
  refine ⟨fun _ => Registry.allocates, fun x known => ?_, inTurn.fair, ?_⟩
  · have positive : x.cursor ≠ 0 := inTurn.cursor x known ▸ cursorAfter_ne_zero _
    refine ⟨inTurn.cursor x known, positive, fun serves env info b registered => ⟨fun h => ?_, ?_⟩⟩
    · exact Registry.addDevice_eq_ok_iff positive known serves registered env info
    · exact Registry.addDevice_exhausted_iff positive known serves registered env info
  · exact fun _ _ _ _ again _ proper other => inTurn.fair.passed_over again proper other

theorem turnover_hands_out_in_turn :
    bulletin ⟨1⟩ (turnover.run { host := () }).2.chronicle = [(⟨1⟩, true), (⟨1⟩, false), (⟨2⟩, true)] ∧
    NextFree [(⟨1⟩, true), (⟨1⟩, false)] ⟨2⟩ ∧
    ∃ x, (turnover.run { host := () }).2.registries.find? ⟨1⟩ = some x ∧ x.cursor = 3 ∧ x.FirstFree ⟨3⟩ := by
  have told : bulletin ⟨1⟩ (turnover.run { host := () }).2.chronicle =
      [(⟨1⟩, true), (⟨1⟩, false), (⟨2⟩, true)] := by decide +kernel
  obtain ⟨-, rows, fair, -⟩ := turnover_reached.hands_out_in_turn ⟨1⟩
  rw [told] at rows fair
  obtain ⟨x, known⟩ : ∃ x, (turnover.run { host := () }).2.registries.find? ⟨1⟩ = some x :=
    Option.isSome_iff_exists.mp (by decide +kernel)
  have serves : ∀ x ∈ (turnover.run { host := () }).2.registries.find? ⟨1⟩,
      x.closed = false ∧ ⟨1⟩ ∈ x.backends := by decide +kernel
  have third : ((Registry.addDevice silentHost ⟨1⟩ default ⟨1⟩).run.run
      (turnover.run { host := () }).2).1.toOption = some ⟨3⟩ := by decide +kernel
  obtain ⟨cursor, -, adds⟩ := rows x known
  obtain ⟨open', registered⟩ := serves x known
  have added := (adds open' silentHost default ⟨1⟩ registered).1 ⟨3⟩
  refine ⟨told, fair _ _ ⟨[], rfl⟩, x, known, cursor, added.mp ?_⟩
  cases result : ((Registry.addDevice silentHost ⟨1⟩ default ⟨1⟩).run.run
      (turnover.run { host := () }).2).1 with
  | error fault =>
    rw [result] at third
    cases third
  | ok h =>
    rw [result] at third
    rw [Option.some.inj third]

end DroneControl
