import DroneControl.Proofs.Registry.Attending
import Mathlib.Data.List.Chain
import Mathlib.Data.Nat.Basic

/-!
# The roll of a registry

The listener of a registry is told when a device comes and when it goes.  For each handle it is told so
by turns, a device first of all, and between calls the last word about a handle is that there is a
device exactly if there is one in the table.  Handles are handed out again, and a removal may wait for a
connection to close; the roll goes through all lives of a handle.
-/

set_option synthInstance.maxSize 2048

namespace DroneControl

variable {σ α : Type} {r r' : RegistryId} {h h' : DeviceHandle} {w w' : World σ} {env : Env σ}

/-- What a registry tells of a handle: that there is a device, or that there is none any longer. -/
def Occurrence.announcement? (r : RegistryId) (h : DeviceHandle) : Occurrence → Option Bool
  | .announced r' h' there => if r' = r ∧ h' = h then some there else none
  | _ => none

/-- What the listener of a registry was told of a handle, in order. -/
def announcements (r : RegistryId) (h : DeviceHandle) (past : List Happening) : List Bool :=
  past.filterMap (·.what.announcement? r h)

/-- `true` comes first, and each is different from the one before. -/
structure Alternates (l : List Bool) : Prop where
  first : l.head? ≠ some false
  turns : l.IsChain (· ≠ ·)

theorem Alternates.nil : Alternates [] := ⟨nofun, .nil⟩

theorem alternates_concat (l : List Bool) (b : Bool) :
    Alternates (l ++ [b]) ↔ Alternates l ∧ (b = true ↔ l.getLast? ≠ some true) := by
  cases hl : l.getLast? with
  | none =>
      rw [List.getLast?_eq_none_iff] at hl
      subst hl
      constructor
      · rintro ⟨first, -⟩
        exact ⟨.nil, by simpa using first⟩
      · rintro ⟨-, turn⟩
        exact ⟨by simpa using turn, .singleton _⟩
  | some last =>
      have head : (l ++ [b]).head? = l.head? := by
        rw [List.head?_append_of_ne_nil]
        rintro rfl
        simp at hl
      have turn : last ≠ b ↔ (b = true ↔ some last ≠ some true) := by
        cases b <;> cases last <;> simp
      constructor
      · rintro ⟨first, turns⟩
        obtain ⟨earlier, -, last_ne⟩ := List.isChain_append.mp turns
        exact ⟨⟨head ▸ first, earlier⟩, turn.mp (last_ne last hl b rfl)⟩
      · rintro ⟨⟨first, turns⟩, next⟩
        refine ⟨head ▸ first, List.isChain_append.mpr ⟨turns, .singleton b, ?_⟩⟩
        rintro x hx y ⟨⟩
        obtain rfl := Option.some.inj (hl.symm.trans hx)
        exact turn.mpr next

theorem Alternates.of_prefix {l l' : List Bool} (alternates : Alternates l) (earlier : l' <+: l) :
    Alternates l' := by
  refine ⟨fun first => alternates.first ?_, alternates.turns.prefix earlier⟩
  obtain ⟨rest, rfl⟩ := earlier
  rw [List.head?_append, first]
  rfl

namespace World

def roll (w : World σ) (r : RegistryId) (h : DeviceHandle) : List Bool :=
  announcements r h w.chronicle

theorem roll_congr (history : w'.history = w.history) : w'.roll r h = w.roll r h := by
  simp only [roll, chronicle, history]

theorem roll_mark (w : World σ) (o : Occurrence) :
    (w.mark o).roll r h = w.roll r h ++ (o.announcement? r h).toList :=
  read_mark _ w o

/-- The roll of a handle is in order: it agrees with the table of a registry that is not destroyed.
One that is has no devices, and one that is still to come has told nothing. -/
structure Agrees (w : World σ) (r : RegistryId) (h : DeviceHandle) : Prop where
  alternates : Alternates (w.roll r h)
  table : ∀ x, w.registries.find? r = some x → x.closed = false →
    ((x.device? h).isSome ↔ (w.roll r h).getLast? = some true)
  emptied : ∀ x, w.registries.find? r = some x → x.closed = true → x.device? h = none
  fresh : w.registries.next ≤ r.number → w.roll r h = []

end World

def Tallies (r : RegistryId) (h : DeviceHandle) (w w' : World σ) : Prop :=
  w.Agrees r h → w'.Agrees r h

namespace Tallies

theorem of_rows (roll : w'.roll r h = w.roll r h) (next : w.registries.next ≤ w'.registries.next)
    (rows : ∀ x', w'.registries.find? r = some x' → ∃ x, w.registries.find? r = some x ∧
      x'.closed = x.closed ∧ (x'.device? h).isSome = (x.device? h).isSome) :
    Tallies r h w w' := by
  intro agrees
  refine ⟨roll ▸ agrees.alternates, ?_, ?_, fun new => roll ▸ agrees.fresh (next.trans new)⟩
  · intro x' found serving
    obtain ⟨x, here, closed, same⟩ := rows x' found
    rw [same, roll]
    exact agrees.table x here (closed ▸ serving)
  · intro x' found shut
    obtain ⟨x, here, closed, same⟩ := rows x' found
    have gone := agrees.emptied x here (closed ▸ shut)
    rwa [← Option.isNone_iff_eq_none, ← Option.not_isSome, same, Option.not_isSome,
      Option.isNone_iff_eq_none]

theorem of_same (history : w'.history = w.history) (registries : w'.registries = w.registries) :
    Tallies r h w w' :=
  of_rows (World.roll_congr history) (registries ▸ le_rfl) fun x' found =>
    ⟨x', registries ▸ found, rfl, rfl⟩

theorem refl (w : World σ) : Tallies r h w w := id

theorem mark (w : World σ) {o : Occurrence} (aside : o.announcement? r h = none) :
    Tallies r h w (w.mark o) :=
  of_rows (by simp [World.roll_mark, aside]) le_rfl fun x found => ⟨x, found, rfl, rfl⟩

theorem update (w : World σ) {f : Registry → Registry}
    (same : ∀ x, w.registries.find? r' = some x →
      (f x).closed = x.closed ∧ ∀ h, ((f x).device? h).isSome = (x.device? h).isSome) :
    Tallies r h w (w.updateRegistry r' f) := by
  refine of_rows rfl (Nat.le_of_eq (Table.next_update _ _ _).symm) fun x' found => ?_
  simp only [World.updateRegistry, Table.find?_update] at found
  split at found
  · next here =>
      subst here
      obtain ⟨x, known, rfl⟩ := Option.map_eq_some_iff.mp found
      exact ⟨x, known, (same x known).1, (same x known).2 h⟩
  · exact ⟨x', found, rfl, rfl⟩

end Tallies

theorem Registry.isSome_setDevice {x : Registry} (there : (x.device? h').isSome) (d : Device)
    (h : DeviceHandle) : ((x.setDevice h' d).device? h).isSome = (x.device? h).isSome := by
  rw [Registry.device?_setDevice]
  split
  · next same => rw [← same, there]; rfl
  · rfl

/-! ## What happens to registries -/

namespace World.Agrees

theorem announce {there : Bool} (announces : w.Announces w' r' h' there) (agrees : w.Agrees r h) :
    w'.Agrees r h := by
  obtain ⟨x, x', known, registries, turns⟩ := announces.row
  have roll : w'.roll r h =
      w.roll r h ++ ((Occurrence.announced r' h' there).announcement? r h).toList :=
    announces.read fun o aside => by cases o <;> first | rfl | exact absurd rfl aside
  have next : w'.registries.next = w.registries.next := by rw [registries, Table.next_update]
  have row : ∀ y', w'.registries.find? r = some y' →
      if r' = r then y' = x' else w.registries.find? r = some y' := by
    intro y' found
    rw [registries, Table.find?_update, known] at found
    split at found <;> simp_all
  by_cases here : r' = r ∧ h' = h
  · obtain ⟨rfl, rfl⟩ := here
    have told : w'.roll r' h' = w.roll r' h' ++ [there] := by
      simpa [Occurrence.announcement?] using roll
    have lives : x.closed = false := by
      cases there with
      | true => exact turns.serving rfl
      | false =>
          rw [← Bool.not_eq_true]
          intro shut
          simpa [agrees.emptied x known shut] using turns.before
    -- What is said now differs from what was said last, as the table differed from what it is now.
    have last : there = true ↔ (w.roll r' h').getLast? ≠ some true := by
      rw [ne_eq, ← agrees.table x known lives, turns.before]
      cases there <;> simp
    refine ⟨?_, ?_, ?_, ?_⟩
    · rw [told]
      exact (alternates_concat _ _).mpr ⟨agrees.alternates, last⟩
    · intro y' found _
      obtain rfl := by simpa using row y' found
      rw [turns.after, if_pos rfl, told, List.getLast?_concat, Option.some.injEq]
    · intro y' found shut
      obtain rfl := by simpa using row y' found
      simp [turns.closed, lives] at shut
    · intro new
      have := Table.lt_next known
      omega
  · have aside : w'.roll r h = w.roll r h := by
      simpa [Occurrence.announcement?, here] using roll
    refine Tallies.of_rows aside next.ge (fun y' found => ?_) agrees
    have := row y' found
    split at this
    · next same =>
        subst same this
        refine ⟨x, known, turns.closed, ?_⟩
        rw [turns.after, if_neg fun same => here ⟨rfl, same⟩]
    · exact ⟨y', this, rfl, rfl⟩

theorem found {x : Registry} (empty : x.devices = {}) (agrees : w.Agrees r h) :
    (w.found x).Agrees r h := by
  have roll : (w.found x).roll r h = w.roll r h := (roll_mark _ _).trans (List.append_nil _)
  by_cases here : r.number = w.registries.next
  · have untold : w.roll r h = [] := agrees.fresh here.ge
    have none : x.device? h = none := by simp [Registry.device?, empty]
    have only : ∀ x', (w.registries.add x).2.find? r = some x' → x' = x := by
      intro x' found
      rw [Table.find?_add, ← here, if_pos rfl] at found
      exact (Option.some.inj found).symm
    refine ⟨roll ▸ agrees.alternates, fun x' found _ => ?_,
      fun x' found _ => only x' found ▸ none, ?_⟩
    · rw [only x' found, none, roll]
      simp [untold]
    · intro later
      change (w.registries.add x).2.next ≤ _ at later
      rw [Table.next_add] at later
      omega
  · refine Tallies.of_rows (w := w) roll ?_ (fun x' found => ?_) agrees
    · change _ ≤ (w.registries.add x).2.next
      rw [Table.next_add]
      exact Nat.le_succ _
    change (w.registries.add x).2.find? r = some x' at found
    rw [Table.find?_add, if_neg] at found
    · exact ⟨x', found, rfl, rfl⟩
    · rintro rfl
      exact here rfl

theorem dissolve (r' : RegistryId) (agrees : w.Agrees r h) : (w.dissolve r').Agrees r h := by
  cases known : w.registries.find? r' with
  | none => rwa [dissolve_of_none known]
  | some x =>
    rw [dissolve_of_some known]
    refine Tallies.mark _ rfl ?_
    by_cases here : r' = r
    · subst here
      have row : ∀ x', (w.updateRegistry r' Registry.emptied).registries.find? r' = some x' →
          x'.closed = true ∧ x'.device? h = none := by
        intro x' found
        simp only [updateRegistry, Table.find?_update, if_true, Option.map_eq_some_iff] at found
        obtain ⟨x, -, rfl⟩ := found
        exact ⟨rfl, by simp [Registry.emptied, Registry.device?]⟩
      refine ⟨agrees.alternates, fun x' found serving => ?_, fun x' found _ => (row x' found).2, ?_⟩
      · exact absurd (row x' found).1 (by simp [serving])
      · intro new
        refine agrees.fresh (le_trans (Nat.le_of_eq ?_) new)
        exact (Table.next_update _ _ _).symm
    · refine Tallies.of_rows (w := w) rfl (Nat.le_of_eq (Table.next_update _ _ _).symm) ?_ agrees
      intro x' found
      simp only [updateRegistry, Table.find?_update, if_neg here] at found
      exact ⟨x', found, rfl, rfl⟩

end World.Agrees

instance Tallies.attends : Attends (σ := σ) (Tallies r h) where
  trans first second := second ∘ first
  same := .of_same
  mark w o aside := .mark w (by cases o <;> first | rfl | exact absurd rfl aside)
  update w _ _ goes := .update w fun x _ =>
    ⟨(goes x).closed, fun h => by simp only [Registry.device?, (goes x).devices]⟩
  erase w r' := by
    refine .of_rows rfl le_rfl fun x' found => ?_
    simp only [World.erase, Table.find?_erase] at found
    split at found
    · cases found
    · exact ⟨x', found, rfl, rfl⟩
  rewrite hd e _ := by
    refine .update _ fun x known => ⟨rfl, fun h => Registry.isSome_setDevice ?_ e h⟩
    rw [← World.registry_of_find? known, hd]
    rfl
  announce announces agrees := agrees.announce announces
  found _ _ empty _ _ agrees := agrees.found empty
  dissolve _ r' agrees := agrees.dissolve r'

/-! ## Runs -/

theorem World.agrees_empty (host : σ) (verbosity : Option Severity) (r : RegistryId)
    (h : DeviceHandle) : ({ host, verbosity } : World σ).Agrees r h :=
  have unknown := World.find?_empty (α := Registry) r
  ⟨.nil, fun _ found => absurd (unknown.symm.trans found) nofun,
    fun _ found => absurd (unknown.symm.trans found) nofun, fun _ => rfl⟩

/-- Whatever happens in a registry, its listener is told of each handle by turns that there is a device
and that there is none any longer.  Between calls the table of a registry that is not destroyed agrees
with what was said last. -/
theorem Reached.roll_agrees (reached : Reached w) (r : RegistryId) (h : DeviceHandle) :
    (∀ past, past <+: w.chronicle → Alternates (announcements r h past)) ∧
    ∀ x, w.registries.find? r = some x → x.closed = false →
      ((x.device? h).isSome ↔ (announcements r h w.chronicle).getLast? = some true) := by
  obtain ⟨host, verbosity, tallies⟩ :=
    reached.related (R := Tallies r h) fun _ _ quiet => Attends.together quiet
  have agrees := tallies (World.agrees_empty host verbosity r h)
  refine ⟨fun past earlier => agrees.alternates.of_prefix ?_, agrees.table⟩
  exact earlier.filterMap _

def turnover : Act Unit (Except Fault DeviceHandle) := do
  let _ ← visit
  let _ ← (Registry.removeDevice silentHost ⟨1⟩ ⟨1⟩).run
  (Registry.addDevice silentHost ⟨1⟩ default ⟨1⟩).run

theorem turnover_reached : Reached (turnover.run { host := () }).2 := by
  refine ⟨silentHost, (), none, _, turnover, silentHost_hosted, ?_, rfl⟩
  refine .bind visit_reaction fun _ => ?_
  refine .bind (.basic (.inr (.removeDevice _ _))) fun _ => ?_
  exact .basic (.inr (.addDevice _ _ _))

theorem turnover_roll_agrees :
    ((∀ past, past <+: (turnover.run { host := () }).2.chronicle →
        Alternates (announcements ⟨1⟩ ⟨1⟩ past)) ∧
      ∀ x, (turnover.run { host := () }).2.registries.find? ⟨1⟩ = some x → x.closed = false →
        ((x.device? ⟨1⟩).isSome ↔
          (announcements ⟨1⟩ ⟨1⟩ (turnover.run { host := () }).2.chronicle).getLast? = some true)) ∧
    announcements ⟨1⟩ ⟨1⟩ (turnover.run { host := () }).2.chronicle = [true, false] ∧
    announcements ⟨1⟩ ⟨2⟩ (turnover.run { host := () }).2.chronicle = [true] :=
  ⟨turnover_reached.roll_agrees ⟨1⟩ ⟨1⟩, by decide +kernel, by decide +kernel⟩

end DroneControl
