import DroneControl.Protocol.Command

/-!
# The encoding of commands

A buffer is a command exactly if it has a header whose number fits into one byte, and then it is the
encoding of what it was decoded to. However a command was made and changed since, what it knows of
its header is what its buffer says.
-/

namespace DroneControl

namespace FeatureId

theorem toNat_ofParts (project classId : UInt8) :
    (ofParts project classId).raw.toNat = project.toNat * 256 + classId.toNat := by
  have wide : project.toNat < 256 := project.toNat_lt
  have low : classId.toNat < 256 := classId.toNat_lt
  have joined := Nat.shiftLeft_add_eq_or_of_lt (show classId.toNat < 2 ^ 8 from low) project.toNat
  rw [Nat.shiftLeft_eq] at joined
  simp only [ofParts, UInt16.toNat_or, UInt16.toNat_shiftLeft, UInt8.toNat_toUInt16]
  simp only [Nat.shiftLeft_eq]
  rw [Nat.mod_eq_of_lt (by simp; omega)]
  exact joined.symm

theorem project_ofParts (project classId : UInt8) :
    (ofParts project classId).project = project := by
  have joined := toNat_ofParts project classId
  have wide : project.toNat < 256 := project.toNat_lt
  have low : classId.toNat < 256 := classId.toNat_lt
  apply UInt8.toNat.inj
  rw [FeatureId.project, UInt16.toNat_toUInt8, UInt16.toNat_shiftRight, joined]
  change (_ >>> 8) % 256 = _
  rw [Nat.shiftRight_eq_div_pow]
  omega

theorem classId_ofParts (project classId : UInt8) :
    (ofParts project classId).classId = classId := by
  have joined := toNat_ofParts project classId
  have low : classId.toNat < 256 := classId.toNat_lt
  apply UInt8.toNat.inj
  rw [FeatureId.classId, UInt16.toNat_toUInt8, UInt16.toNat_and, joined]
  change (_ &&& (2 ^ 8 - 1)) % 256 = _
  rw [Nat.and_two_pow_sub_one_eq_mod]
  omega

end FeatureId

namespace Command

def Encoded (data : Bytes) : Prop := headerLength ≤ data.length ∧ data[3]? = some 0

theorem decodeHeader_encoding (project classId number : UInt8) (args : Bytes) :
    decodeHeader (project :: classId :: number :: 0 :: args) =
      .ok (FeatureId.ofParts project classId, number) := by
  have bound : number.toNat < 256 := number.toNat_lt
  simp [decodeHeader, bound]

theorem decodeHeader_ok_iff {data : Bytes} :
    (∃ header, decodeHeader data = .ok header) ↔ Encoded data := by
  constructor
  · rintro ⟨header, reads⟩
    unfold decodeHeader at reads
    split at reads
    · next project classId low high args =>
      dsimp only at reads
      split at reads
      · next fits =>
        have none_high : high = 0 := UInt8.toNat.inj (by simp; omega)
        exact ⟨by simp [headerLength], by simp [none_high]⟩
      · cases reads
    · cases reads
  · rintro ⟨whole, fits⟩
    unfold headerLength at whole
    match data, whole, fits with
    | project :: classId :: number :: high :: args, _, fits =>
      obtain rfl : high = 0 := by simpa using fits
      exact ⟨_, decodeHeader_encoding project classId number args⟩

theorem encoded_of_header {data : Bytes} {header : FeatureId × UInt8}
    (reads : decodeHeader data = .ok header) : Encoded data :=
  decodeHeader_ok_iff.mp ⟨header, reads⟩

theorem data_of_header {data : Bytes} {feature : FeatureId} {number : UInt8}
    (reads : decodeHeader data = .ok (feature, number)) :
    data = feature.project :: feature.classId :: number :: 0 :: data.drop headerLength := by
  obtain ⟨whole, fits⟩ := encoded_of_header reads
  unfold headerLength at whole ⊢
  match data, whole, fits with
  | project :: classId :: low :: high :: args, _, fits =>
    obtain rfl : high = 0 := by simpa using fits
    rw [decodeHeader_encoding] at reads
    obtain ⟨rfl, rfl⟩ := Prod.mk.inj (Except.ok.inj reads)
    rw [FeatureId.project_ofParts, FeatureId.classId_ofParts]
    rfl

theorem decode_of_header {data : Bytes} {feature : FeatureId} {number : UInt8}
    (reads : decodeHeader data = .ok (feature, number)) :
    decode data = .ok ⟨feature, number, deliveryOf feature number, data, reads⟩ := by
  unfold decode
  split
  · next header =>
    cases header.symm.trans reads
    rfl
  · next fails => cases fails.symm.trans reads

theorem decode_of_no_header {data : Bytes} {f : Fault} (fails : decodeHeader data = .error f) :
    decode data = .error f := by
  unfold decode
  split
  · next reads => cases reads.symm.trans fails
  · next fails' => cases fails'.symm.trans fails; rfl

theorem overwrite_of_header {data : Bytes} {feature : FeatureId} {number : UInt8} (c : Command)
    (reads : decodeHeader data = .ok (feature, number)) :
    c.overwrite data = (.ok (), ⟨feature, number, deliveryOf feature number, data, reads⟩) := by
  unfold overwrite
  split
  · next header =>
    cases header.symm.trans reads
    rfl
  · next fails => cases fails.symm.trans reads

theorem overwrite_of_no_header {data : Bytes} {f : Fault} (c : Command)
    (fails : decodeHeader data = .error f) : c.overwrite data = (.error f, c) := by
  unfold overwrite
  split
  · next reads => cases reads.symm.trans fails
  · next fails' => cases fails'.symm.trans fails; rfl

theorem overwrite_eq_decode (c : Command) (data : Bytes) :
    c.overwrite data =
      match decode data with
      | .ok c' => (.ok (), c')
      | .error f => (.error f, c) := by
  cases read : decodeHeader data with
  | ok header => rw [overwrite_of_header c read, decode_of_header read]
  | error f => rw [overwrite_of_no_header c read, decode_of_no_header read]

/-- Commands as their users make and change them: encoded, decoded, with a buffer put in place of
their own, whether it was taken or not, or with another class of delivery. -/
inductive Made : Command → Prop where
  | encoded (feature : FeatureId) (number : UInt8) (args : Bytes) :
      Made (encode feature number args)
  | decoded {data : Bytes} {c : Command} (decodes : decode data = .ok c) : Made c
  | overwritten {c : Command} (made : Made c) (data : Bytes) : Made (c.overwrite data).2
  | withDelivery {c : Command} (made : Made c) (delivery : Delivery) :
      Made (c.withDelivery delivery)

theorem decode_own (c : Command) :
    decode c.data = .ok (c.withDelivery (deliveryOf c.feature c.number)) :=
  decode_of_header c.header

/-- A buffer can be decoded exactly if it has a whole header and a number of one byte, and is what
the decoded command is encoded to. What was encoded is decoded to the same command. However a
command came to be what it is, its buffer says what it knows of its header, its arguments are there,
and commands with one buffer agree; a buffer that is refused changes nothing, and one that is taken
gives what it is decoded to. -/
theorem codec_agrees :
    (∀ data : Bytes, ((∃ c, decode data = .ok c) ↔ 4 ≤ data.length ∧ data[3]? = some 0) ∧
      ∀ c, decode data = .ok c →
        c.data = data ∧ (encode c.feature c.number c.args).data = data) ∧
    (∀ (feature : FeatureId) (number : UInt8) (args : Bytes),
      let c := encode feature number args
      c.feature = feature ∧ c.number = number ∧ c.args = args ∧ decode c.data = .ok c) ∧
    ∀ c : Command, Made c →
      decodeHeader c.data = .ok (c.feature, c.number) ∧ headerLength ≤ c.data.length ∧
      decode c.data = .ok (c.withDelivery (deliveryOf c.feature c.number)) ∧
      (∀ c', Made c' → c.same c' → c'.feature = c.feature ∧ c'.number = c.number) ∧
      ∀ data,
        (∀ f, (c.overwrite data).1 = .error f →
          decode data = .error f ∧ (c.overwrite data).2 = c) ∧
        ((c.overwrite data).1 = .ok () → decode data = .ok (c.overwrite data).2) := by
  refine ⟨fun data => ⟨?_, fun c decodes => ?_⟩, fun feature number args => ?_, fun c _ => ?_⟩
  · refine Iff.trans ?_ decodeHeader_ok_iff
    constructor
    · rintro ⟨c, decodes⟩
      cases read : decodeHeader data with
      | ok header => exact ⟨header, rfl⟩
      | error f => cases decodes.symm.trans (decode_of_no_header read)
    · rintro ⟨⟨feature, number⟩, reads⟩
      exact ⟨_, decode_of_header reads⟩
  · cases read : decodeHeader data with
    | error f => cases decodes.symm.trans (decode_of_no_header read)
    | ok header =>
      cases decodes.symm.trans (decode_of_header read)
      exact ⟨rfl, (data_of_header read).symm⟩
  · exact ⟨rfl, rfl, rfl, decode_own (encode feature number args)⟩
  · refine ⟨c.header, (encoded_of_header c.header).1, c.decode_own, fun c' _ alike => ?_, ?_⟩
    · have data : c.data = c'.data := by simpa [same] using alike
      have headers := c.header.symm.trans ((congrArg decodeHeader data).trans c'.header)
      obtain ⟨feature, number⟩ := Prod.mk.inj (Except.ok.inj headers)
      exact ⟨feature.symm, number.symm⟩
    · intro data
      rw [overwrite_eq_decode]
      cases decode data with
      | ok c' => exact ⟨nofun, fun _ => rfl⟩
      | error f =>
        refine ⟨fun f' fails => ?_, nofun⟩
        cases fails
        exact ⟨rfl, rfl⟩

def edited : Command :=
  (((((encode ⟨0x0100⟩ 2 [7]).overwrite [1, 0, 2, 1]).2).withDelivery .ack).overwrite
    [1, 0, 4, 0, 9]).2

theorem edited_agrees :
    edited.data = [1, 0, 4, 0, 9] ∧ decodeHeader edited.data = .ok (edited.feature, edited.number) ∧
      edited.feature = ⟨0x0100⟩ ∧ edited.number = 4 ∧ (edited.overwrite [1, 0, 2]).2 = edited := by
  have made : Made edited :=
    .overwritten (.withDelivery (.overwritten (.encoded _ _ _) _) _) _
  obtain ⟨reads, -, -, -, writes⟩ := codec_agrees.2.2 edited made
  exact ⟨rfl, reads, rfl, rfl, ((writes [1, 0, 2]).1 _ rfl).2⟩

end Command

end DroneControl
