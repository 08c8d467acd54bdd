import DroneControl.Protocol.Command

/-!
# Looking up commands

The table of known commands is searched by halves. A table without repetitions can be searched so
exactly if it ascends strictly by project, then by class, then by command; the search then tells what
going through all entries tells. The table of known commands does ascend.
-/

namespace DroneControl

namespace CommandInfo

variable {entries : Array CommandInfo} {info other : CommandInfo}
variable {project classId command project' classId' command' : UInt8}

/-- The order of the table: by project, then by class, then by command. -/
def Precedes (info other : CommandInfo) : Prop :=
  info.project < other.project ∨
    info.project = other.project ∧ (info.classId < other.classId ∨
      info.classId = other.classId ∧ info.command < other.command)

instance (info other : CommandInfo) : Decidable (Precedes info other) :=
  inferInstanceAs (Decidable (_ ∨ _))

def Ascending (entries : Array CommandInfo) : Prop := entries.toList.Pairwise Precedes

instance (entries : Array CommandInfo) : Decidable (Ascending entries) :=
  inferInstanceAs (Decidable (List.Pairwise _ _))

/-! ## Keys -/

theorem keyOf_lt_iff : keyOf project classId command < keyOf project' classId' command' ↔
    project < project' ∨ project = project' ∧
      (classId < classId' ∨ classId = classId' ∧ command < command') := by
  have low : command.toNat < 256 := command.toNat_lt
  have low' : command'.toNat < 256 := command'.toNat_lt
  have middle : classId.toNat < 256 := classId.toNat_lt
  have middle' : classId'.toNat < 256 := classId'.toNat_lt
  simp only [keyOf, UInt8.lt_iff_toNat_lt, ← UInt8.toNat_inj]
  omega

theorem keyOf_eq_iff : keyOf project classId command = keyOf project' classId' command' ↔
    project = project' ∧ classId = classId' ∧ command = command' := by
  have low : command.toNat < 256 := command.toNat_lt
  have low' : command'.toNat < 256 := command'.toNat_lt
  have middle : classId.toNat < 256 := classId.toNat_lt
  have middle' : classId'.toNat < 256 := classId'.toNat_lt
  simp only [keyOf, ← UInt8.toNat_inj]
  omega

theorem precedes_iff : Precedes info other ↔ info.key < other.key := by
  apply Iff.symm
  exact keyOf_lt_iff

theorem ascending_iff : Ascending entries ↔
    ∀ (i j : Nat) (low : i < entries.size) (high : j < entries.size),
      i < j → entries[i].key < entries[j].key := by
  simp only [Ascending, List.pairwise_iff_getElem, precedes_iff, Array.length_toList,
    Array.getElem_toList]

theorem Ascending.eq_of_key (ascends : Ascending entries) (member : info ∈ entries)
    (member' : other ∈ entries) (same : info.key = other.key) : info = other := by
  obtain ⟨i, low, rfl⟩ := Array.mem_iff_getElem.mp member
  obtain ⟨j, high, rfl⟩ := Array.mem_iff_getElem.mp member'
  rw [ascending_iff] at ascends
  rcases Nat.lt_trichotomy i j with before | rfl | after
  · have := ascends i j low high before
    omega
  · rfl
  · have := ascends j i high low after
    omega

/-! ## The search -/

theorem search_sound {key low high : Nat} (found : search entries key low high = some info) :
    ∃ i, low ≤ i ∧ i < high ∧ entries[i]? = some info ∧ info.key = key := by
  fun_induction search entries key low high with
  | case1 => cases found
  | case2 low high room middle entry reads fits =>
    cases found
    exact ⟨middle, by omega, by omega, reads, fits⟩
  | case3 low high room middle entry reads differs below ih =>
    obtain ⟨i, above, inside, rest⟩ := ih found
    exact ⟨i, by omega, inside, rest⟩
  | case4 low high room middle entry reads differs above ih =>
    obtain ⟨i, inside, below, rest⟩ := ih found
    exact ⟨i, inside, by omega, rest⟩
  | case5 => cases found

theorem search_complete (ascends : Ascending entries) {key low high i : Nat}
    (inTable : i < entries.size) (above : low ≤ i) (below : i < high)
    (bounded : high ≤ entries.size) (fits : entries[i].key = key) :
    search entries key low high = some entries[i] := by
  rw [ascending_iff] at ascends
  fun_induction search entries key low high with
  | case1 low high room middle misses =>
    rw [Array.getElem?_eq_none_iff] at misses
    omega
  | case2 low high room middle entry reads same =>
    obtain ⟨inside, rfl⟩ := Array.getElem?_eq_some_iff.mp reads
    rcases Nat.lt_trichotomy i middle with before | rfl | after
    · have := ascends i middle inTable inside before
      omega
    · rfl
    · have := ascends middle i inside inTable after
      omega
  | case3 low high room middle entry reads differs less ih =>
    obtain ⟨inside, rfl⟩ := Array.getElem?_eq_some_iff.mp reads
    apply ih
    · rcases Nat.lt_trichotomy i middle with before | rfl | after
      · have := ascends i middle inTable inside before
        omega
      · exact absurd fits differs
      · exact after
    · exact below
    · exact bounded
  | case4 low high room middle entry reads differs notLess ih =>
    obtain ⟨inside, rfl⟩ := Array.getElem?_eq_some_iff.mp reads
    apply ih
    · exact above
    · rcases Nat.lt_trichotomy i middle with before | rfl | after
      · exact before
      · exact absurd fits differs
      · have := ascends middle i inside inTable after
        omega
    · omega
  | case5 => omega

theorem Ascending.search_eq_some_iff (ascends : Ascending entries) {key : Nat} :
    search entries key 0 entries.size = some info ↔ info ∈ entries ∧ info.key = key := by
  constructor
  · intro found
    obtain ⟨i, -, -, reads, fits⟩ := search_sound found
    exact ⟨Array.mem_of_getElem? reads, fits⟩
  · rintro ⟨member, fits⟩
    obtain ⟨i, inTable, rfl⟩ := Array.mem_iff_getElem.mp member
    exact search_complete ascends inTable (Nat.zero_le i) inTable (Nat.le_refl _) fits

theorem Ascending.find_eq_some_iff (ascends : Ascending entries) (key : Nat)
    {suits : CommandInfo → Bool} (keyed : ∀ entry, suits entry → entry.key = key) :
    entries.toList.find? suits = some info ↔ info ∈ entries ∧ suits info := by
  constructor
  · intro found
    exact ⟨Array.mem_toList_iff.mp (List.mem_of_find?_eq_some found), List.find?_some found⟩
  · rintro ⟨member, fits⟩
    cases found : entries.toList.find? suits with
    | none =>
      have := List.find?_eq_none.mp found info (Array.mem_toList_iff.mpr member)
      contradiction
    | some other =>
      have same : info.key = other.key :=
        (keyed info fits).trans (keyed other (List.find?_some found)).symm
      have member' := Array.mem_toList_iff.mp (List.mem_of_find?_eq_some found)
      rw [ascends.eq_of_key member member' same]

theorem Ascending.search_eq_find (ascends : Ascending entries) (key : Nat) :
    search entries key 0 entries.size = entries.toList.find? (·.key = key) := by
  apply Option.ext
  intro info
  rw [ascends.search_eq_some_iff, ascends.find_eq_some_iff key (by simp)]
  simp

/-! ## What the search needs of a table -/

theorem search_splits (distinct : entries.toList.Nodup) {low high i middle : Nat}
    (inTable : i < entries.size) (inside : middle < entries.size)
    (half : middle = low + (high - low) / 2) (above : low ≤ i) (below : i < high)
    (found : search entries entries[i].key low high = some entries[i]) :
    (i < middle → entries[i].key < entries[middle].key ∧
      search entries entries[i].key low middle = some entries[i]) ∧
    (middle < i → entries[middle].key < entries[i].key ∧
      search entries entries[i].key (middle + 1) high = some entries[i]) := by
  have room : low < high := by omega
  have place {j : Nat} (reads : entries[j]? = some entries[i]) : j = i := by
    obtain ⟨within, -⟩ := Array.getElem?_eq_some_iff.mp reads
    apply (List.getElem?_inj (by simpa using within) distinct).mp
    rw [Array.getElem?_toList, Array.getElem?_toList, reads, Array.getElem?_eq_getElem inTable]
  rw [search, if_pos room] at found
  dsimp only at found
  rw [← half, Array.getElem?_eq_getElem inside] at found
  dsimp only at found
  split at found
  · have : middle = i := place (by rw [Array.getElem?_eq_getElem inside]; exact found)
    omega
  · split at found
    · next less =>
      obtain ⟨j, after, -, reads, -⟩ := search_sound found
      have := place reads
      exact ⟨fun before => by omega, fun _ => ⟨less, found⟩⟩
    · next differs notLess =>
      obtain ⟨j, -, before, reads, -⟩ := search_sound found
      have := place reads
      exact ⟨fun _ => ⟨by omega, found⟩, fun after => by omega⟩

theorem ascends_of_search (distinct : entries.toList.Nodup) (low high : Nat)
    (bounded : high ≤ entries.size)
    (finds : ∀ (i : Nat) (inTable : i < entries.size), low ≤ i → i < high →
      search entries entries[i].key low high = some entries[i])
    (i j : Nat) (first : i < entries.size) (second : j < entries.size) (above : low ≤ i)
    (before : i < j) (below : j < high) : entries[i].key < entries[j].key := by
  obtain ⟨middle, half⟩ : ∃ middle, middle = low + (high - low) / 2 := ⟨_, rfl⟩
  have inside : middle < entries.size := by omega
  have splits (k : Nat) (inTable : k < entries.size) (above : low ≤ k) (below : k < high) :=
    search_splits distinct inTable inside half above below (finds k inTable above below)
  rcases Nat.lt_trichotomy i middle with left | rfl | right
  · rcases Nat.lt_trichotomy j middle with left' | rfl | right'
    · exact ascends_of_search distinct low middle (by omega)
        (fun k inTable above below => ((splits k inTable above (by omega)).1 below).2)
        i j first second above before left'
    · exact ((splits i first above (by omega)).1 left).1
    · have smaller := ((splits i first above (by omega)).1 left).1
      have greater := ((splits j second (by omega) below).2 right').1
      omega
  · exact ((splits j second (by omega) below).2 before).1
  · exact ascends_of_search distinct (middle + 1) high bounded
      (fun k inTable above below => ((splits k inTable (by omega) below).2 (by omega)).2)
      i j first second (by omega) before below
termination_by high - low

theorem search_finds_iff (distinct : entries.toList.Nodup) :
    (∀ info ∈ entries, search entries info.key 0 entries.size = some info) ↔
      Ascending entries := by
  constructor
  · intro finds
    rw [ascending_iff]
    intro i j first second before
    exact ascends_of_search distinct 0 entries.size (Nat.le_refl _)
      (fun k inTable _ _ => finds _ (Array.getElem_mem inTable))
      i j first second (Nat.zero_le i) before second
  · intro ascends info member
    exact ascends.search_eq_some_iff.mpr ⟨member, rfl⟩

/-! ## The table of known commands -/

theorem table_ascending : Ascending table := by decide

theorem names_iff (feature : FeatureId) {command : UInt16} (fits : command.toNat < 256) :
    (info.project = feature.project ∧ info.classId = feature.classId ∧
        info.command.toNat = command.toNat) ↔
      info.key = keyOf feature.project feature.classId command.toUInt8 := by
  have narrowed : command.toUInt8.toNat = command.toNat := by
    rw [UInt16.toNat_toUInt8, Nat.mod_eq_of_lt fits]
  rw [key, keyOf_eq_iff, ← narrowed, UInt8.toNat_inj]

theorem describe_eq_some_iff (feature : FeatureId) (command : UInt16) :
    describe feature command = some info ↔
      info ∈ table ∧ info.project = feature.project ∧ info.classId = feature.classId ∧
        info.command.toNat = command.toNat := by
  unfold describe
  split
  · next fits => rw [table_ascending.search_eq_some_iff, names_iff feature fits]
  · next tooLarge =>
    constructor
    · intro found
      cases found
    · rintro ⟨-, -, -, same⟩
      have : info.command.toNat < 256 := info.command.toNat_lt
      omega

theorem scan_eq_some_iff (feature : FeatureId) (command : UInt16) :
    scan feature command = some info ↔
      info ∈ table ∧ info.project = feature.project ∧ info.classId = feature.classId ∧
        info.command.toNat = command.toNat := by
  rw [scan, table_ascending.find_eq_some_iff
    (keyOf feature.project feature.classId command.toUInt8)]
  · simp [and_assoc]
  · intro entry named
    have named : entry.project = feature.project ∧ entry.classId = feature.classId ∧
        entry.command.toNat = command.toNat := by simpa [and_assoc] using named
    have small : entry.command.toNat < 256 := entry.command.toNat_lt
    exact (names_iff feature (by omega)).mp named

/-- Known commands are looked up right. The table ascends; a table without repetitions is searched
right exactly if it does, and then the search is a walk through all entries. So whatever the numbers
are, the look-up tells what the walk tells: the entry that names them, the only one, or nothing, and
nothing for every number past 255. -/
theorem describe_right :
    Ascending table ∧
    (∀ entries : Array CommandInfo, entries.toList.Nodup →
      ((∀ info ∈ entries, search entries info.key 0 entries.size = some info) ↔
        Ascending entries)) ∧
    (∀ entries : Array CommandInfo, Ascending entries → ∀ key,
      search entries key 0 entries.size = entries.toList.find? (·.key = key)) ∧
    (∀ info ∈ table, ∀ other ∈ table, info.project = other.project →
      info.classId = other.classId → info.command = other.command → info = other) ∧
    ∀ (feature : FeatureId) (command : UInt16),
      describe feature command = scan feature command ∧
      (∀ info, describe feature command = some info ↔
        info ∈ table ∧ info.project = feature.project ∧ info.classId = feature.classId ∧
          info.command.toNat = command.toNat) ∧
      (255 < command.toNat → describe feature command = none) := by
  refine ⟨table_ascending, ?_, ?_, ?_, ?_⟩
  · intro entries distinct
    exact search_finds_iff distinct
  · intro entries ascends key
    exact ascends.search_eq_find key
  · intro info member other member' project classId command
    apply table_ascending.eq_of_key member member'
    rw [key, key, project, classId, command]
  · intro feature command
    refine ⟨?_, fun info => describe_eq_some_iff feature command, ?_⟩
    · apply Option.ext
      intro info
      rw [describe_eq_some_iff, scan_eq_some_iff]
    · intro tooLarge
      rw [describe, if_neg (by omega)]

end CommandInfo

end DroneControl
