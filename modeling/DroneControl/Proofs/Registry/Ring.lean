import DroneControl.Registry.Basic
import Mathlib.Data.Nat.Find
import Mathlib.Tactic.SplitIfs

/-!
# The ring of handles

The handles that are handed out, 1 to 0xFFFE, form a ring, on which 1 comes after 0xFFFE.  The search for
a free one goes round a ring with one place more, the value that is no handle, where the cursor may rest
too.  It comes to an end, and finds the first free handle that there is from the cursor on.
-/

namespace DroneControl

/-- One of the handles that are handed out. -/
def DeviceHandle.Proper (h : DeviceHandle) : Prop := h.raw ≠ 0 ∧ h.raw ≠ invalidRaw

namespace Registry

/-- How many handles of the ring come before a handle, counted from a cursor.  After the last handle comes
1, and a cursor at the value after the last handle is in front of 1. -/
def ahead (cursor : UInt16) (h : DeviceHandle) : Nat := (h.raw.toNat + 65534 - cursor.toNat) % 65534

/-- The handle is free, and every other that comes before it from the cursor on is in use. -/
structure FirstFree (x : Registry) (h : DeviceHandle) : Prop where
  proper : h.Proper
  unused : x.device? h = none
  nearest : ∀ v : DeviceHandle, v.Proper → ahead x.cursor v < ahead x.cursor h → (x.device? v).isSome

/-- The search from one value on, as long as it takes: it ends at a free value, or when it is back at its
start. -/
inductive Searches (x : Registry) (start : UInt16) : UInt16 → Option UInt16 → Prop where
  | found {raw : UInt16} (free : x.isFree raw) : Searches x start raw (some raw)
  | exhausted {raw : UInt16} (taken : ¬x.isFree raw) (back : following raw = start) :
      Searches x start raw none
  | further {raw : UInt16} {outcome : Option UInt16} (taken : ¬x.isFree raw)
      (ahead : following raw ≠ start) (rest : Searches x start (following raw) outcome) :
      Searches x start raw outcome

/-! ## The ring of the search -/

theorem toNat_pos {raw : UInt16} (positive : raw ≠ 0) : 0 < raw.toNat := by
  rw [Nat.pos_iff_ne_zero]
  exact fun zero => positive (UInt16.toNat_inj.mp zero)

theorem toNat_following {raw : UInt16} (positive : raw ≠ 0) :
    (following raw).toNat = if raw.toNat = 65535 then 1 else raw.toNat + 1 := by
  have := toNat_pos positive
  have := raw.toNat_lt
  have wraps : raw + 1 = 0 ↔ raw.toNat = 65535 := by
    rw [← UInt16.toNat_inj, UInt16.toNat_add]
    simp
    omega
  unfold following
  by_cases last : raw.toNat = 65535
  · rw [if_pos (wraps.mpr last), if_pos last]
    rfl
  · rw [if_neg (mt wraps.mp last), if_neg last, UInt16.toNat_add]
    simp
    omega

theorem following_ne_zero (raw : UInt16) : following raw ≠ 0 := by
  unfold following
  split
  · decide
  · assumption

def gap (start raw : UInt16) : Nat := (raw.toNat + 65535 - start.toNat) % 65535

section Gap

variable {start raw : UInt16}

theorem gap_eq (positive : start ≠ 0) : gap start raw =
    if start.toNat ≤ raw.toNat then raw.toNat - start.toNat
    else raw.toNat + 65535 - start.toNat := by
  have := toNat_pos positive
  have := start.toNat_lt
  have := raw.toNat_lt
  rw [gap]
  split <;> omega

theorem gap_lt (start raw : UInt16) : gap start raw < 65535 := Nat.mod_lt _ (by decide)

theorem gap_eq_zero_iff (positive : start ≠ 0) (positive' : raw ≠ 0) : gap start raw = 0 ↔ raw = start := by
  have := toNat_pos positive
  have := toNat_pos positive'
  have := start.toNat_lt
  have := raw.toNat_lt
  rw [gap, ← UInt16.toNat_inj]
  omega

theorem gap_following (positive : start ≠ 0) (positive' : raw ≠ 0) :
    gap start (following raw) = (gap start raw + 1) % 65535 := by
  have := toNat_pos positive
  have := toNat_pos positive'
  have := start.toNat_lt
  have := raw.toNat_lt
  rw [gap, gap, toNat_following positive']
  split <;> omega

theorem gap_of_following (positive : start ≠ 0) (positive' : raw ≠ 0) :
    gap (following start) raw = if raw = start then 65534 else gap start raw - 1 := by
  have := toNat_pos positive
  have := toNat_pos positive'
  have := start.toNat_lt
  have := raw.toNat_lt
  simp only [gap, toNat_following positive, ← UInt16.toNat_inj]
  split <;> split <;> omega

end Gap

section Search

variable {x y : Registry} {start raw v : UInt16} {h : DeviceHandle}

theorem searchFree_eq_some_iff {steps : Nat} (few : steps ≤ 65535) (positive : start ≠ 0) :
    x.searchFree steps start = some v ↔ v ≠ 0 ∧ gap start v < steps ∧ x.isFree v ∧
      ∀ u, u ≠ 0 → gap start u < gap start v → ¬x.isFree u := by
  induction steps generalizing start with
  | zero => simp [searchFree]
  | succ steps ih =>
    have self : gap start start = 0 := (gap_eq_zero_iff positive positive).mpr rfl
    unfold searchFree
    split
    · next free =>
      constructor
      · rintro ⟨⟩
        refine ⟨positive, by omega, free, fun u _ nearer => ?_⟩
        omega
      · rintro ⟨positive', -, -, first⟩
        by_contra apart
        have := (gap_eq_zero_iff positive positive').not.mpr fun same => apart (congrArg some same.symm)
        exact first start positive (by omega) free
    · next taken =>
      rw [ih (by omega) (following_ne_zero start)]
      refine and_congr_right fun positive' => ?_
      by_cases same : v = start
      · rw [same, gap_of_following positive positive, if_pos rfl]
        constructor
        · omega
        · rintro ⟨-, free, -⟩
          exact absurd free taken
      · have nonzero := (gap_eq_zero_iff positive positive').not.mpr same
        rw [gap_of_following positive positive', if_neg same]
        refine and_congr (by omega) (and_congr_right fun _ => forall_congr' fun u => ?_)
        refine forall_congr' fun positive'' => ?_
        rw [gap_of_following positive positive'']
        split
        · next same =>
          have := gap_lt start v
          exact ⟨fun _ _ => same ▸ taken, fun _ nearer => absurd nearer (by omega)⟩
        · have := (gap_eq_zero_iff positive positive'').not.mpr ‹_›
          exact imp_congr_left (by omega)

theorem searchFree_eq_none_iff {steps : Nat} (few : steps ≤ 65535) (positive : start ≠ 0) :
    x.searchFree steps start = none ↔ ∀ u, u ≠ 0 → gap start u < steps → ¬x.isFree u := by
  classical
  constructor
  · intro failed u positive' near free
    have some : ∃ n v, v ≠ 0 ∧ gap start v = n ∧ x.isFree v := ⟨_, u, positive', rfl, free⟩
    obtain ⟨v, nonzero, same, unused⟩ := Nat.find_spec some
    have least : gap start v ≤ gap start u := same ▸ Nat.find_min' some ⟨u, positive', rfl, free⟩
    have found : x.searchFree steps start = .some v := by
      refine (searchFree_eq_some_iff few positive).mpr ⟨nonzero, by omega, unused, ?_⟩
      exact fun u positive' nearer free => Nat.find_min some (same ▸ nearer) ⟨u, positive', rfl, free⟩
    cases failed.symm.trans found
  · intro taken
    cases found : x.searchFree steps start with
    | none => rfl
    | some v =>
      obtain ⟨nonzero, near, free, -⟩ := (searchFree_eq_some_iff few positive).mp found
      exact absurd free (taken v nonzero near)

/-! ## The search as such -/

theorem Searches.unique {outcome outcome' : Option UInt16} (searches : x.Searches start raw outcome)
    (searches' : x.Searches start raw outcome') : outcome = outcome' := by
  induction searches with
  | found free =>
    cases searches' with
    | found => rfl
    | exhausted taken | further taken => exact absurd free taken
  | exhausted taken back =>
    cases searches' with
    | found free => exact absurd free taken
    | exhausted => rfl
    | further _ ahead => exact absurd back ahead
  | further taken ahead _ ih =>
    cases searches' with
    | found free => exact absurd free taken
    | exhausted _ back => exact absurd back ahead
    | further _ _ rest => exact ih rest

theorem searches_searchFree {steps : Nat} (positive : start ≠ 0) (positive' : raw ≠ 0)
    (left : gap start raw + (steps + 1) = 65535) :
    x.Searches start raw (x.searchFree (steps + 1) raw) := by
  induction steps generalizing raw with
  | zero =>
    have back : following raw = start :=
      (gap_eq_zero_iff positive (following_ne_zero raw)).mp (by rw [gap_following positive positive']; omega)
    rw [searchFree]
    split
    · next free => exact .found free
    · next taken => exact .exhausted taken back
  | succ steps ih =>
    have next : gap start (following raw) = gap start raw + 1 := by
      rw [gap_following positive positive']
      omega
    rw [searchFree]
    split
    · next free => exact .found free
    · next taken =>
      refine .further taken (fun back => ?_) (ih (following_ne_zero raw) (by omega))
      rw [(gap_eq_zero_iff positive (following_ne_zero raw)).mpr back] at next
      omega

theorem searches_iff (positive : start ≠ 0) {outcome : Option UInt16} :
    x.Searches start start outcome ↔ outcome = x.searchFree 65535 start := by
  have left : gap start start + (65534 + 1) = 65535 := by
    rw [(gap_eq_zero_iff positive positive).mpr rfl]
  have ends : x.Searches start start (x.searchFree 65535 start) :=
    searches_searchFree positive positive left
  exact ⟨fun searches => searches.unique ends, fun same => same ▸ ends⟩

/-! ## Handing out -/

theorem isFree_iff (positive : raw ≠ 0) :
    x.isFree raw ↔ DeviceHandle.Proper ⟨raw⟩ ∧ x.device? ⟨raw⟩ = none := by
  simp [isFree, DeviceHandle.Proper, positive]

theorem toNat_proper (proper : h.Proper) : 0 < h.raw.toNat ∧ h.raw.toNat < 65535 := by
  have := h.raw.toNat_lt
  have apart : h.raw.toNat ≠ 65535 := fun last => proper.2 (UInt16.toNat_inj.mp last)
  exact ⟨toNat_pos proper.1, by omega⟩

theorem ahead_eq {cursor : UInt16} (positive : cursor ≠ 0) (proper : h.Proper) : ahead cursor h =
    if cursor.toNat ≤ h.raw.toNat then h.raw.toNat - cursor.toNat
    else h.raw.toNat + 65534 - cursor.toNat := by
  have := toNat_pos positive
  have := cursor.toNat_lt
  have := toNat_proper proper
  rw [ahead]
  split <;> omega

theorem ahead_lt_iff {u : DeviceHandle} (positive : start ≠ 0) (proper : u.Proper) (proper' : h.Proper) :
    ahead start u < ahead start h ↔ gap start u.raw < gap start h.raw := by
  have := toNat_pos positive
  have := start.toNat_lt
  have := toNat_proper proper
  have := toNat_proper proper'
  rw [ahead_eq positive proper, ahead_eq positive proper', gap_eq positive, gap_eq positive]
  split_ifs <;> omega

theorem toNat_following_proper (proper : h.Proper) : (following h.raw).toNat = h.raw.toNat + 1 := by
  rw [toNat_following proper.1, if_neg (Nat.ne_of_lt (toNat_proper proper).2)]

theorem following_proper (proper : h.Proper) : following h.raw = h.raw + 1 := by
  refine if_neg fun wraps => ?_
  have := toNat_proper proper
  have zero := congrArg UInt16.toNat wraps
  rw [UInt16.toNat_add] at zero
  simp at zero
  omega

theorem allocate_eq_some_iff (positive : x.cursor ≠ 0) :
    x.allocate = some (h, y) ↔ x.FirstFree h ∧ y = { x with cursor := h.raw + 1 } := by
  have found : x.searchFree 65535 x.cursor = some h.raw ↔ x.FirstFree h := by
    rw [searchFree_eq_some_iff le_rfl positive]
    constructor
    · rintro ⟨nonzero, -, free, first⟩
      obtain ⟨proper, unused⟩ := (isFree_iff nonzero).mp free
      refine ⟨proper, unused, fun v proper' nearer => ?_⟩
      have taken := first v.raw proper'.1 ((ahead_lt_iff positive proper' proper).mp nearer)
      rw [isFree_iff proper'.1] at taken
      exact Option.isSome_iff_ne_none.mpr fun unused => taken ⟨proper', unused⟩
    · rintro ⟨proper, unused, nearest⟩
      refine ⟨proper.1, gap_lt _ _, (isFree_iff proper.1).mpr ⟨proper, unused⟩, fun u nonzero nearer free => ?_⟩
      obtain ⟨proper', unused'⟩ := (isFree_iff nonzero).mp free
      have there := nearest ⟨u⟩ proper' ((ahead_lt_iff positive proper' proper).mpr nearer)
      rw [unused'] at there
      cases there
  rw [← found, allocate, Option.map_eq_some_iff]
  constructor
  · rintro ⟨raw, search, same⟩
    obtain ⟨rfl, rfl⟩ := Prod.mk.inj same
    exact ⟨search, by rw [following_proper (h := ⟨raw⟩) (found.mp search).proper]⟩
  · rintro ⟨search, rfl⟩
    exact ⟨h.raw, search, by rw [following_proper (found.mp search).proper]⟩

theorem allocate_eq_none_iff (positive : x.cursor ≠ 0) :
    x.allocate = none ↔ ∀ h : DeviceHandle, h.Proper → (x.device? h).isSome := by
  rw [allocate, Option.map_eq_none_iff, searchFree_eq_none_iff le_rfl positive]
  constructor
  · intro taken h proper
    have taken := taken h.raw proper.1 (gap_lt _ _)
    rw [isFree_iff proper.1] at taken
    exact Option.isSome_iff_ne_none.mpr fun unused => taken ⟨proper, unused⟩
  · intro full u nonzero _ free
    obtain ⟨proper, unused⟩ := (isFree_iff nonzero).mp free
    have there := full ⟨u⟩ proper
    rw [unused] at there
    cases there

theorem searches_iff_allocate (positive : x.cursor ≠ 0) {outcome : Option UInt16} :
    x.Searches x.cursor x.cursor outcome ↔ outcome = x.allocate.map (·.1.raw) := by
  rw [searches_iff positive, allocate, Option.map_map]
  simp [Function.comp_def]

/-! ## Once round the ring -/

theorem ahead_inj {u : DeviceHandle} {cursor : UInt16} (positive : cursor ≠ 0) (proper : h.Proper)
    (proper' : u.Proper) (same : ahead cursor h = ahead cursor u) : h = u := by
  have := cursor.toNat_lt
  have := toNat_proper proper
  have := toNat_proper proper'
  rw [ahead_eq positive proper, ahead_eq positive proper'] at same
  have : h.raw.toNat = u.raw.toNat := by
    split_ifs at same <;> omega
  exact congrArg DeviceHandle.mk (UInt16.toNat_inj.mp this)

theorem ahead_lt_self {u : DeviceHandle} (proper : h.Proper) (proper' : u.Proper) (other : u ≠ h) :
    ahead (following h.raw) u < ahead (following h.raw) h := by
  have := toNat_proper proper
  have := toNat_proper proper'
  have apart : u.raw.toNat ≠ h.raw.toNat :=
    fun same => other (congrArg DeviceHandle.mk (UInt16.toNat_inj.mp same))
  rw [ahead_eq (following_ne_zero _) proper, ahead_eq (following_ne_zero _) proper',
    toNat_following_proper proper]
  split_ifs <;> omega

theorem ahead_following_lt {u : DeviceHandle} {cursor : UInt16} (positive : cursor ≠ 0) (proper : h.Proper)
    (proper' : u.Proper) {v : DeviceHandle} (proper'' : v.Proper) (beyond : ahead cursor h < ahead cursor u)
    (order : ahead cursor u < ahead cursor v) :
    ahead (following h.raw) u < ahead (following h.raw) v := by
  have := toNat_proper proper
  have := toNat_proper proper'
  have := toNat_proper proper''
  rw [ahead_eq positive proper, ahead_eq positive proper'] at beyond
  rw [ahead_eq positive proper', ahead_eq positive proper''] at order
  rw [ahead_eq (following_ne_zero _) proper', ahead_eq (following_ne_zero _) proper'',
    toNat_following_proper proper]
  split_ifs at beyond order ⊢ <;> omega

end Search

end Registry

end DroneControl
