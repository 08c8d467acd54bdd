import DroneControl.Ident
import Std.Data.TreeMap

/-!
Tables of things by identifier. Identifiers are handed out in ascending order from one, and none is
handed out twice: none that is still to come has a row. `find?_set`, `find?_update` and `find?_add` say
what a change does to every look-up.
-/

namespace DroneControl

theorem unused_of_empty {α : Type} (n : Nat) (_ : 1 ≤ n) : ({} : Std.TreeMap Nat α)[n]? = none :=
  Std.TreeMap.getElem?_emptyc

structure Table (e : Entity) (α : Type) where
  /-- The number of the next identifier. -/
  next : Nat := 1
  rows : Std.TreeMap Nat α := {}
  fresh : ∀ n, next ≤ n → rows[n]? = none := by exact unused_of_empty

namespace Table

variable {e : Entity} {α : Type}

instance : Inhabited (Table e α) := ⟨{}⟩

def find? (t : Table e α) (i : Id e) : Option α := t.rows[i.number]?

def get [Inhabited α] (t : Table e α) (i : Id e) : α := (t.find? i).getD default

def set (t : Table e α) (i : Id e) (a : α) : Table e α where
  next := max t.next (i.number + 1)
  rows := t.rows.insert i.number a
  fresh n h := by
    have : n ≠ i.number := by omega
    simp [Std.TreeMap.getElem?_insert, this.symm, t.fresh n (by omega)]

def update (t : Table e α) (i : Id e) (f : α → α) : Table e α :=
  match t.find? i with
  | some a => t.set i (f a)
  | none => t

def erase (t : Table e α) (i : Id e) : Table e α where
  next := t.next
  rows := t.rows.erase i.number
  fresh n h := by simp [Std.TreeMap.getElem?_erase, t.fresh n h]

def reserve (t : Table e α) : Id e × Table e α :=
  (⟨t.next⟩, { t with next := t.next + 1, fresh := fun n h => t.fresh n (by omega) })

def add (t : Table e α) (a : α) : Id e × Table e α :=
  let (i, t) := t.reserve
  (i, t.set i a)

def toList (t : Table e α) : List (Id e × α) := t.rows.toList.map fun row => (⟨row.1⟩, row.2)

theorem get_of_find? [Inhabited α] {t : Table e α} {i : Id e} {a : α} (found : t.find? i = some a) :
    t.get i = a := by
  rw [get, found]
  rfl

theorem find?_set (t : Table e α) (i j : Id e) (a : α) :
    (t.set i a).find? j = if i = j then some a else t.find? j := by
  cases i
  cases j
  simp only [find?, set, Std.TreeMap.getElem?_insert, Std.compare_eq_iff_eq, Id.mk.injEq]

theorem find?_update (t : Table e α) (i j : Id e) (f : α → α) :
    (t.update i f).find? j = if i = j then (t.find? i).map f else t.find? j := by
  unfold update
  split
  · next a h => rw [find?_set, h]; rfl
  · next h =>
    split
    · next hij => rw [← hij, h]; rfl
    · rfl

theorem update_congr {t : Table e α} {i : Id e} {f f' : α → α}
    (same : ∀ a, t.find? i = some a → f a = f' a) : t.update i f = t.update i f' := by
  unfold update
  split
  · next a found => rw [same a found]
  · rfl

theorem find?_erase (t : Table e α) (i j : Id e) :
    (t.erase i).find? j = if i = j then none else t.find? j := by
  cases i
  cases j
  simp only [find?, erase, Std.TreeMap.getElem?_erase, Std.compare_eq_iff_eq, Id.mk.injEq]

theorem find?_add (t : Table e α) (a : α) (j : Id e) :
    (t.add a).2.find? j = if ⟨t.next⟩ = j then some a else t.find? j :=
  find?_set _ _ _ _

theorem find?_next (t : Table e α) : t.find? ⟨t.next⟩ = none := t.fresh _ (Nat.le_refl _)

theorem next_add (t : Table e α) (a : α) : (t.add a).2.next = t.next + 1 := by
  simp [add, reserve, set]

theorem lt_next {t : Table e α} {i : Id e} {a : α} (h : t.find? i = some a) : i.number < t.next := by
  refine Nat.lt_of_not_le fun le => ?_
  simp [find?, t.fresh _ le] at h

theorem next_update (t : Table e α) (i : Id e) (f : α → α) : (t.update i f).next = t.next := by
  unfold update
  split
  · next a h =>
    have := lt_next h
    simp only [set]
    omega
  · rfl

theorem mem_toList {t : Table e α} {i : Id e} {a : α} : (i, a) ∈ t.toList ↔ t.find? i = some a := by
  unfold toList find?
  rw [List.mem_map, ← Std.TreeMap.mem_toList_iff_getElem?_eq_some]
  constructor
  · rintro ⟨⟨n, b⟩, among, same⟩
    obtain ⟨rfl, rfl⟩ := Prod.mk.inj same
    exact among
  · exact fun among => ⟨(i.number, a), among, rfl⟩

end Table

end DroneControl
