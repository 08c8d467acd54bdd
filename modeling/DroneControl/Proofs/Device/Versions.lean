import DroneControl.Device.Firmware
import DroneControl.Proofs.Text.Runs
import Mathlib.Data.Nat.Digits.Defs

/-!
# The texts of firmware versions

What a version is read from is said by a grammar, in which the numbers are runs of ASCII digits of any
length.  The reader accepts just the texts of the grammar, with blanks around them, although it splits a
text at digits of any script.  A version that is written is read again as the version that its text
stands for, which is another one if the text leaves out what tells them apart.
-/

namespace DroneControl

open Text

/-! ## Blanks -/

namespace Text

theorem exists_blanks (cs : List Char) : ∃ before after, cs = before ++ trim cs ++ after ∧
    (∀ c ∈ before, isBlank c) ∧ ∀ c ∈ after, isBlank c := by
  refine ⟨cs.takeWhile isBlank, ((cs.dropWhile isBlank).reverse.takeWhile isBlank).reverse, ?_, ?_, ?_⟩
  · rw [trim, List.append_assoc, ← List.reverse_append, List.takeWhile_append_dropWhile,
      List.reverse_reverse, List.takeWhile_append_dropWhile]
  · exact fun c among => List.mem_takeWhile_imp among
  · exact fun c among => List.mem_takeWhile_imp (List.mem_reverse.mp among)

theorem trim_blanks {before text after : List Char} (blank : ∀ c ∈ before, isBlank c)
    (blank' : ∀ c ∈ after, isBlank c) (nonempty : text ≠ [])
    (starts : ∀ c ∈ text.head?, isBlank c = false) (ends : ∀ c ∈ text.getLast?, isBlank c = false) :
    trim (before ++ text ++ after) = text := by
  have first : (before ++ text ++ after).dropWhile isBlank = text ++ after := by
    rw [List.append_assoc]
    refine dropWhile_run blank fun c among => starts c ?_
    obtain ⟨first, rest, rfl⟩ := List.exists_cons_of_ne_nil nonempty
    exact among
  rw [trim, first, List.reverse_append, dropWhile_run, List.reverse_reverse]
  · exact fun c among => blank' c (List.mem_reverse.mp among)
  · simpa using ends

end Text

namespace Firmware

/-! ## What versions are read from -/

/-- A number is written with at least one ASCII digit, and any number of zeros in front. -/
structure Spells (run : List Char) (n : UInt32) : Prop where
  nonempty : run ≠ []
  digits : ∀ c ∈ run, c.isDigit
  value : Nat.ofDigits 10 (run.reverse.map fun c => c.toNat - '0'.toNat) = n.toNat

def words : List (Channel × String) := [(.alpha, "alpha"), (.beta, "beta"), (.rc, "rc")]

/-- The version that a text stands for. -/
inductive Denotes : List Char → Firmware → Prop where
  | plain {a b c : List Char} {major minor patch : UInt32} (ha : Spells a major)
      (hb : Spells b minor) (hc : Spells c patch) :
      Denotes (a ++ '.' :: (b ++ '.' :: c))
        ⟨if major = 0 ∧ minor = 0 ∧ patch = 0 then .dev else .release, major, minor, patch, 0⟩
  | early {a b c d : List Char} {major minor patch build : UInt32} {channel : Channel}
      {word : String} (ha : Spells a major) (hb : Spells b minor) (hc : Spells c patch)
      (named : (channel, word) ∈ words) (hd : Spells d build) :
      Denotes (a ++ '.' :: (b ++ '.' :: (c ++ '-' :: (word.toList ++ d))))
        ⟨channel, major, minor, patch, build⟩

/-! ## Numbers -/

theorem isDigit_iff {c : Char} : Decimal.isDigit c ↔ c.isDigit := by
  simp [Decimal.isDigit, Char.isDigit, UInt32.le_iff_toNat_le]

theorem isNumeral_of_isDigit {c : Char} (digit : c.isDigit) : isNumeral c := by
  have ascii := isDigit_iff.mpr digit
  simp only [Decimal.isDigit, Bool.and_eq_true, decide_eq_true_eq] at ascii
  simp [isNumeral, inRanges, numeralRanges, ascii]

theorem value_eq_ofDigits (run : List Char) :
    Decimal.value run = Nat.ofDigits 10 (run.reverse.map fun c => c.toNat - '0'.toNat) := by
  simp [Decimal.value, Nat.ofDigits_eq_foldr, List.foldl_map, Nat.add_comm]

theorem number?_eq_some_iff {run : List Char} {n : UInt32} (nonempty : run ≠ []) :
    number? run = some n ↔ Spells run n := by
  have fits := n.toNat_lt
  rw [number?, value_eq_ofDigits]
  constructor
  · intro read
    split at read
    · next both =>
      simp only [Bool.and_eq_true, List.all_eq_true, decide_eq_true_eq, isDigit_iff] at both
      obtain rfl := Option.some.inj read
      exact ⟨nonempty, both.1, (UInt32.toNat_ofNat_of_lt' both.2).symm⟩
    · cases read
  · intro spells
    rw [if_pos, spells.value, UInt32.ofNat_toNat]
    simp only [Bool.and_eq_true, List.all_eq_true, decide_eq_true_eq, isDigit_iff]
    exact ⟨spells.digits, spells.value ▸ fits⟩

theorem Spells.number? {run : List Char} {n : UInt32} (spells : Spells run n) :
    Firmware.number? run = some n :=
  (number?_eq_some_iff spells.nonempty).mpr spells

/-! ## Splitting -/

def IsRun (run : List Char) : Prop := run ≠ [] ∧ ∀ c ∈ run, isNumeral c

theorem Spells.isRun {run : List Char} {n : UInt32} (spells : Spells run n) : IsRun run :=
  ⟨spells.nonempty, fun c among => isNumeral_of_isDigit (spells.digits c among)⟩

theorem splitNumber_eq_some_iff {cs run rest : List Char} :
    splitNumber cs = some (run, rest) ↔
      IsRun run ∧ (∀ c ∈ rest.head?, isNumeral c = false) ∧ cs = run ++ rest := by
  unfold splitNumber
  constructor
  · intro splits
    dsimp only at splits
    split at splits
    · cases splits
    · next nonempty =>
      obtain ⟨rfl, rfl⟩ := Prod.mk.inj (Option.some.inj splits)
      refine ⟨⟨by simpa using nonempty, fun c among => List.mem_takeWhile_imp among⟩, ?_, ?_⟩
      · intro c among
        simpa [Option.mem_def.mp among] using List.head?_dropWhile_not isNumeral cs
      · exact (List.takeWhile_append_dropWhile).symm
  · rintro ⟨⟨nonempty, digits⟩, ends, rfl⟩
    simp only [takeWhile_run digits ends, dropWhile_run digits ends]
    simpa using nonempty

theorem dropPoint_eq_some_iff {cs rest : List Char} : dropPoint cs = some rest ↔ cs = '.' :: rest := by
  unfold dropPoint
  split <;> simp_all

theorem splitSuffix_eq_some_iff {cs run : List Char} {channel : Channel} :
    splitSuffix cs = some (channel, run) ↔
      channel ∈ Channel.named ∧ IsRun run ∧ cs = channel.tag.toList ++ run := by
  constructor
  · intro splits
    obtain ⟨channel', named, found⟩ := List.exists_of_findSome?_eq_some splits
    dsimp only at found
    split at found
    · next starts =>
      split at found
      · next run' read =>
        obtain ⟨rfl, rfl⟩ := Prod.mk.inj (Option.some.inj found)
        obtain ⟨isRun, -, same⟩ := splitNumber_eq_some_iff.mp read
        obtain ⟨rest, rfl⟩ := List.isPrefixOf_iff_prefix.mp starts
        exact ⟨named, isRun, by simpa using same⟩
      · cases found
    · cases found
  · rintro ⟨named, isRun, rfl⟩
    have splits : splitNumber run = some (run, []) :=
      splitNumber_eq_some_iff.mpr ⟨isRun, nofun, by simp⟩
    simp only [Channel.named, List.mem_cons, List.not_mem_nil, or_false] at named
    rcases named with rfl | rfl | rfl <;>
      simp [splitSuffix, Channel.named, Channel.tag, splits]

namespace Parts

def suffixText : Option (Channel × List Char) → List Char
  | none => []
  | some (channel, run) => '-' :: (channel.tag.toList ++ run)

/-- The text that is split into the parts. -/
def text (parts : Parts) : List Char :=
  parts.major ++ '.' :: (parts.minor ++ '.' :: (parts.patch ++ suffixText parts.suffix))

structure WellFormed (parts : Parts) : Prop where
  major : IsRun parts.major
  minor : IsRun parts.minor
  patch : IsRun parts.patch
  suffix : ∀ channel run, parts.suffix = some (channel, run) → channel ∈ Channel.named ∧ IsRun run

end Parts

theorem split_eq_some_iff {cs : List Char} {parts : Parts} :
    split cs = some parts ↔ parts.WellFormed ∧ cs = parts.text := by
  constructor
  · intro splits
    simp only [split, Option.bind_eq_bind, Option.bind_eq_some_iff, Prod.exists,
      splitNumber_eq_some_iff, dropPoint_eq_some_iff] at splits
    obtain ⟨major, _, ⟨isMajor, -, rfl⟩, _, rfl, minor, _, ⟨isMinor, -, rfl⟩, _, rfl,
      patch, rest, ⟨isPatch, -, rfl⟩, splits⟩ := splits
    split at splits
    · obtain rfl := Option.some.inj splits
      exact ⟨⟨isMajor, isMinor, isPatch, nofun⟩, rfl⟩
    · next rest =>
      simp only [Option.bind_eq_some_iff, Prod.exists, splitSuffix_eq_some_iff] at splits
      obtain ⟨channel, run, ⟨named, isRun, rfl⟩, same⟩ := splits
      obtain rfl := Option.some.inj same
      refine ⟨⟨isMajor, isMinor, isPatch, ?_⟩, rfl⟩
      rintro _ _ ⟨⟩
      exact ⟨named, isRun⟩
    · cases splits
  · rintro ⟨formed, rfl⟩
    obtain ⟨major, minor, patch, suffix⟩ := parts
    obtain ⟨isMajor, isMinor, isPatch, isSuffix⟩ := formed
    have pointed : ∀ {run : List Char} (rest : List Char), IsRun run →
        splitNumber (run ++ '.' :: rest) = some (run, '.' :: rest) := by
      refine fun rest isRun => splitNumber_eq_some_iff.mpr ⟨isRun, ?_, rfl⟩
      rintro _ ⟨⟩
      decide
    have ends : ∀ c ∈ (Parts.suffixText suffix).head?, isNumeral c = false := by
      cases suffix with
      | none => nofun
      | some =>
        rintro _ ⟨⟩
        decide
    have last := splitNumber_eq_some_iff.mpr ⟨isPatch, ends, rfl⟩
    dsimp only at isMajor isMinor last
    simp only [split, Parts.text, pointed _ isMajor, pointed _ isMinor, last, dropPoint,
      Option.bind_eq_bind, Option.bind_some]
    cases suffix with
    | none => rfl
    | some part =>
      obtain ⟨named, isRun⟩ := isSuffix part.1 part.2 rfl
      have suffixed := splitSuffix_eq_some_iff.mpr ⟨named, isRun, rfl⟩
      simp only [Parts.suffixText, suffixed]
      rfl

/-! ## Reading -/

theorem mem_words_iff {channel : Channel} {word : String} :
    (channel, word) ∈ words ↔ channel ∈ Channel.named ∧ word = channel.tag := by
  cases channel <;> simp [words, Channel.named, Channel.tag]

theorem denotes_of_ofParts? {parts : Parts} {v : Firmware} (formed : parts.WellFormed)
    (made : ofParts? parts = some v) : Denotes parts.text v := by
  obtain ⟨a, b, c, suffix⟩ := parts
  obtain ⟨isMajor, isMinor, isPatch, isSuffix⟩ := formed
  simp only [ofParts?, Option.bind_eq_bind, Option.bind_eq_some_iff, number?_eq_some_iff isMajor.1,
    number?_eq_some_iff isMinor.1, number?_eq_some_iff isPatch.1] at made
  obtain ⟨major, ha, minor, hb, patch, hc, made⟩ := made
  cases suffix with
  | none =>
    obtain rfl := Option.some.inj made
    have plain := Denotes.plain ha hb hc
    rwa [← List.append_nil c] at plain
  | some part =>
    obtain ⟨channel, d⟩ := part
    obtain ⟨named, isRun⟩ := isSuffix channel d rfl
    simp only [Option.bind_eq_some_iff, number?_eq_some_iff isRun.1] at made
    obtain ⟨build, hd, made⟩ := made
    obtain rfl := Option.some.inj made
    exact .early ha hb hc (mem_words_iff.mpr ⟨named, rfl⟩) hd

theorem Denotes.exists_parts {text : List Char} {v : Firmware} (denotes : Denotes text v) :
    ∃ parts : Parts, parts.WellFormed ∧ text = parts.text ∧ ofParts? parts = some v := by
  cases denotes with
  | @plain a b c major minor patch ha hb hc =>
    refine ⟨⟨a, b, c, none⟩, ⟨ha.isRun, hb.isRun, hc.isRun, nofun⟩, ?_, ?_⟩
    · simp [Parts.text, Parts.suffixText]
    · simp [ofParts?, ha.number?, hb.number?, hc.number?]
  | @early a b c d major minor patch build channel word ha hb hc named hd =>
    obtain ⟨early, rfl⟩ := mem_words_iff.mp named
    refine ⟨⟨a, b, c, some (channel, d)⟩, ⟨ha.isRun, hb.isRun, hc.isRun, ?_⟩, rfl, ?_⟩
    · rintro _ _ ⟨⟩
      exact ⟨early, hd.isRun⟩
    · simp [ofParts?, ha.number?, hb.number?, hc.number?, hd.number?]

theorem parse_eq_ok_iff {s : String} {v : Firmware} :
    parse s = .ok v ↔ Denotes (trim s.toList) v := by
  unfold parse
  constructor
  · intro read
    split at read
    · cases read
    · next parts splits =>
      split at read
      · cases read
      · next made =>
        obtain ⟨formed, same⟩ := split_eq_some_iff.mp splits
        rw [same, ← Except.ok.inj read]
        exact denotes_of_ofParts? formed made
  · intro denotes
    obtain ⟨parts, formed, same, made⟩ := denotes.exists_parts
    rw [split_eq_some_iff.mpr ⟨formed, same⟩]
    simp only [made]

theorem Spells.starts {run : List Char} {n : UInt32} (spells : Spells run n) :
    ∃ c rest, run = c :: rest ∧ c.isDigit := by
  obtain ⟨c, rest, rfl⟩ := List.exists_cons_of_ne_nil spells.nonempty
  exact ⟨c, rest, rfl, spells.digits c (.head _)⟩

theorem Spells.ends {run : List Char} {n : UInt32} (spells : Spells run n) :
    ∃ c, run.getLast? = some c ∧ c.isDigit :=
  ⟨_, List.getLast?_eq_some_getLast spells.nonempty, spells.digits _ (List.getLast_mem _)⟩

namespace Denotes

variable {text : List Char} {v : Firmware}

theorem starts (denotes : Denotes text v) : ∃ c rest, text = c :: rest ∧ c.isDigit := by
  cases denotes with
  | plain ha | early ha =>
    obtain ⟨c, rest, rfl, digit⟩ := ha.starts
    exact ⟨c, _, rfl, digit⟩

theorem ends (denotes : Denotes text v) : ∃ c, text.getLast? = some c ∧ c.isDigit := by
  cases denotes with
  | plain ha hb hd | early ha hb hc named hd =>
    obtain ⟨c, last, digit⟩ := hd.ends
    exact ⟨c, by simp [List.getLast?_append, List.getLast?_cons, last], digit⟩

end Denotes

theorem not_blank_of_isDigit {c : Char} (digit : c.isDigit) : isBlank c = false := by
  have ascii := isDigit_iff.mpr digit
  simp only [Decimal.isDigit, Bool.and_eq_true, decide_eq_true_eq] at ascii
  simp [isBlank, inRanges, blankRanges]
  omega

theorem Denotes.parse {s : String} {before text after : List Char} {v : Firmware}
    (same : s.toList = before ++ text ++ after) (blank : ∀ c ∈ before, isBlank c)
    (blank' : ∀ c ∈ after, isBlank c) (denotes : Denotes text v) : parse s = .ok v := by
  obtain ⟨first, rest, cons, digit⟩ := denotes.starts
  obtain ⟨last, final, digit'⟩ := denotes.ends
  rw [parse_eq_ok_iff, same, trim_blanks blank blank']
  · exact denotes
  · simp [cons]
  · rw [cons]
    rintro _ ⟨⟩
    exact not_blank_of_isDigit digit
  · rw [final]
    rintro _ ⟨⟩
    exact not_blank_of_isDigit digit'

/-- A text is read as a version just if it stands for the version, apart from blanks around it.  Any other
text is refused as an argument that is not valid. -/
theorem parse_accepts (s : String) :
    (∀ v, parse s = .ok v ↔ ∃ before text after, s.toList = before ++ text ++ after ∧
      (∀ c ∈ before, isBlank c) ∧ (∀ c ∈ after, isBlank c) ∧ Denotes text v) ∧
    ((∀ v, parse s ≠ .ok v) → ∃ message, parse s = .error (.invalidArgument message)) := by
  refine ⟨fun v => ⟨fun read => ?_, ?_⟩, fun refused => ?_⟩
  · obtain ⟨before, after, same, blank, blank'⟩ := exists_blanks s.toList
    exact ⟨before, _, after, same, blank, blank', parse_eq_ok_iff.mp read⟩
  · rintro ⟨before, text, after, same, blank, blank', denotes⟩
    exact denotes.parse same blank blank'
  · unfold parse at refused ⊢
    split
    · exact ⟨_, rfl⟩
    · next parts splits =>
      split
      · exact ⟨_, rfl⟩
      · next v made => simp [splits, made] at refused

theorem wideDigit_accepts :
    (split "\uff11.2.3".toList).isSome ∧ (∀ v, parse "\uff11.2.3" ≠ .ok v) ∧
      ∃ message, parse "\uff11.2.3" = .error (.invalidArgument message) := by
  have refused : ∀ v, parse "\uff11.2.3" ≠ .ok v := by
    intro v read
    have kind : (parse "\uff11.2.3").toOption = none := by decide +kernel
    rw [read] at kind
    cases kind
  exact ⟨by decide +kernel, refused, (parse_accepts "\uff11.2.3").2 refused⟩

/-! ## Writing -/

theorem spells_digits (n : UInt32) : Spells (Decimal.digits n.toNat) n where
  nonempty := Decimal.digits_ne_nil _
  digits _ among := isDigit_iff.mp (Decimal.isDigit_of_mem_digits among)
  value := by rw [← value_eq_ofDigits, Decimal.value_digits]

def shown (v : Firmware) : Firmware :=
  if v.channel ∈ Channel.named then v
  else
    { v with
      channel := if v.major = 0 ∧ v.minor = 0 ∧ v.patch = 0 then .dev else .release
      build := 0 }

theorem denotes_render (v : Firmware) : Denotes v.render.toList v.shown := by
  have major := spells_digits v.major
  have minor := spells_digits v.minor
  have patch := spells_digits v.patch
  have build := spells_digits v.build
  unfold render shown
  dsimp only
  split
  · next named =>
    have early := Denotes.early major minor patch (mem_words_iff.mpr ⟨named, rfl⟩) build
    simpa [Decimal.render, String.toList_append] using early
  · have plain := Denotes.plain major minor patch
    simpa [Decimal.render, String.toList_append] using plain

theorem parse_render (v : Firmware) : parse v.render = .ok v.shown := by
  have same : v.render.toList = [] ++ v.render.toList ++ [] := by simp
  exact (denotes_render v).parse same nofun nofun

theorem Denotes.shown_eq {text : List Char} {v : Firmware} (denotes : Denotes text v) :
    v.shown = v := by
  cases denotes with
  | plain =>
    unfold shown
    split <;> rfl
  | early ha hb hc named hd => exact if_pos (mem_words_iff.mp named).1

theorem shown_eq_self_iff (v : Firmware) : v.shown = v ↔
    v.channel ∈ [Channel.alpha, .beta, .rc] ∨ v = ⟨.dev, 0, 0, 0, 0⟩ ∨
      v.channel = .release ∧ v.build = 0 ∧ ¬(v.major = 0 ∧ v.minor = 0 ∧ v.patch = 0) := by
  obtain ⟨channel, major, minor, patch, build⟩ := v
  by_cases zeros : major = 0 ∧ minor = 0 ∧ patch = 0
  · cases channel <;> simp [shown, Channel.named, zeros, eq_comm]
  · have apart : ¬(major = 0 ∧ minor = 0 ∧ patch = 0 ∧ build = 0) :=
      fun ⟨major, minor, patch, _⟩ => zeros ⟨major, minor, patch⟩
    cases channel <;> simp [shown, Channel.named, zeros, apart, eq_comm]

/-- A version is read from its own text just if it is on a channel before a release, is the development
build of zeros, or is a release with no build and not all zeros.  Whatever version is read from a text is
one of these. -/
theorem parse_render_eq_self :
    (∀ v : Firmware, parse v.render = .ok v ↔
      v.channel ∈ [Channel.alpha, .beta, .rc] ∨ v = ⟨.dev, 0, 0, 0, 0⟩ ∨
        v.channel = .release ∧ v.build = 0 ∧ ¬(v.major = 0 ∧ v.minor = 0 ∧ v.patch = 0)) ∧
    ∀ s v, parse s = .ok v → parse v.render = .ok v := by
  refine ⟨fun v => ?_, fun s v read => ?_⟩
  · rw [parse_render, Except.ok.injEq]
    exact shown_eq_self_iff v
  · rw [parse_render, (parse_eq_ok_iff.mp read).shown_eq]

theorem paddedBeta_parse_render :
    parse "\u2003 007.1.0-beta03\n" = .ok ⟨.beta, 7, 1, 0, 3⟩ ∧
      (⟨.beta, 7, 1, 0, 3⟩ : Firmware).render = "7.1.0-beta3" ∧
      parse (⟨.beta, 7, 1, 0, 3⟩ : Firmware).render = .ok ⟨.beta, 7, 1, 0, 3⟩ := by
  have read : parse "\u2003 007.1.0-beta03\n" = .ok ⟨.beta, 7, 1, 0, 3⟩ := by rfl
  exact ⟨read, by decide +kernel, parse_render_eq_self.2 _ _ read⟩

end Firmware

end DroneControl
