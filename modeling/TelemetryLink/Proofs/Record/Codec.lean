import TelemetryLink.Proofs.Bytes
import TelemetryLink.Record.Codec

/-!
# Records are read as they were written

Every record is read back from its 24 octets, and an optional one from its mark and those. Whatever
else is read is judged by how it differs from what is written: it ends too early, goes on behind the
end, or starts with neither mark.

- `ofFields_eq_some_iff`: twenty-four octets and the fields of a record determine each other.
- `Reading`: what an input is, and what reading it gives; `decodeOptional_eq_iff` says that this
  covers every input.
- `decodeOptional_exact`: when each result is returned.
-/

namespace TelemetryLink.Record

theorem length_encode (record : Record) : record.encode.length = size := by
  have hmac : record.mac.bytes.length = 6 := record.mac.block.property
  simp [encode, size, Bytes.le16, hmac]

theorem length_encodePresent (record : Record) : record.encodePresent.length = optionalSize := by
  rw [encodePresent, List.length_cons, length_encode, optionalSize, Nat.add_comm]

/-- The fields of a record are found where they were written. -/
theorem ofFields_encode (record : Record) : ofFields record.encode = some record := by
  obtain ⟨format, temperature, humidity, pressure, accX, accY, accZ, powerInfo, movementCounter,
    measurementSeq, ⟨⟨mac, hmac⟩⟩⟩ := record
  match mac, hmac with
  | [m0, m1, m2, m3, m4, m5], _ =>
    simp only [encode, Bytes.le16, DeviceId.bytes, List.cons_append, List.nil_append, ofFields,
      Bytes.ofLe16_le16]
    rfl

theorem decode_encode (record : Record) : decode record.encode = .ok record := by
  rw [decode, ofFields_encode]

/-- A present record is read back from behind its mark. -/
theorem decodeOptional_encodePresent (record : Record) :
    decodeOptional record.encodePresent = .ok (some record) := by
  have hpresent : presentMark ≠ absentMark := by decide
  have hlong : ¬ record.encode.length < size := by
    rw [length_encode]
    exact Nat.lt_irrefl size
  rw [encodePresent, decodeOptional, if_neg hpresent, if_pos rfl, if_neg hlong, decode_encode]
  rfl

/-! ## From octets to records -/

/-- The fields that were found are written where they were found. -/
theorem encode_of_ofFields {bytes : Bytes} {record : Record} (h : ofFields bytes = some record) :
    record.encode = bytes := by
  unfold ofFields at h
  split at h
  next =>
    cases h
    simp only [encode, Bytes.le16_ofLe16, DeviceId.bytes, UInt16.toUInt16_toInt16]
    rfl
  next => cases h

theorem ofFields_eq_some_iff {bytes : Bytes} {record : Record} :
    ofFields bytes = some record ↔ bytes = record.encode := by
  constructor
  · exact fun h => (encode_of_ofFields h).symm
  · rintro rfl
    exact ofFields_encode record

/-- Octets of the size of a record are one. -/
theorem exists_encode_eq {bytes : Bytes} (h : bytes.length = size) :
    ∃ record : Record, bytes = record.encode := by
  match bytes, h with
  | [_, _, _, _, _, _, _, _, _, _, _, _, _, _, _, _, _, _, _, _, _, _, _, _], _ =>
    exact ⟨_, ofFields_eq_some_iff.1 rfl⟩

/-! ## What an input is -/

theorem length_encodeOptional (value : Option Record) :
    (encodeOptional value).length = if value = none then 1 else optionalSize := by
  cases value with
  | none => rfl
  | some record => exact record.length_encodePresent

/-- An input compared with what is written, and what reading it gives. -/
inductive Reading : Bytes → Except ProtocolError (Option Record) → Prop
  /-- The input is what is written for a value. -/
  | whole (value : Option Record) : Reading (encodeOptional value) (.ok value)
  /-- It ends before what is written for a value does. -/
  | short {bytes : Bytes} {value : Option Record} (hpart : bytes <+: encodeOptional value)
    (hwhole : bytes ≠ encodeOptional value) :
    Reading bytes (.error (.truncatedInput (if bytes = [] then 1 else optionalSize) bytes.length))
  /-- It goes on behind what is written for a value. -/
  | long (value : Option Record) {rest : Bytes} (hrest : rest ≠ []) :
    Reading (encodeOptional value ++ rest) (.error (.trailingBytes rest.length))
  /-- It starts with neither mark. -/
  | unknown {mark : UInt8} (rest : Bytes) (habsent : mark ≠ absentMark)
    (hpresent : mark ≠ presentMark) : Reading (mark :: rest) (.error (.invalidDiscriminant mark))

/-- Behind the mark of a present record, the size of the rest decides. -/
theorem decodeOptional_present (rest : Bytes) :
    decodeOptional (presentMark :: rest) =
      if rest.length < size then .error (.truncatedInput optionalSize (rest.length + 1))
      else some <$> decode rest := by
  have hpresent : presentMark ≠ absentMark := by decide
  rw [decodeOptional, if_neg hpresent, if_pos rfl]

theorem decode_of_long {rest : Bytes} (h : size < rest.length) :
    decode rest = .error (.trailingBytes (rest.length - size)) := by
  have hnone : ofFields rest = none := by
    refine Option.eq_none_iff_forall_ne_some.2 fun record hrecord => ?_
    rw [ofFields_eq_some_iff.1 hrecord, length_encode] at h
    exact Nat.lt_irrefl size h
  rw [decode, hnone]
  exact if_neg (Nat.not_lt.2 (Nat.le_of_lt h))

/-- A present record as far as its octets go, with zeros for those that are missing. -/
theorem prefix_encodePresent {rest : Bytes} (h : rest.length < size) :
    ∃ record : Record, presentMark :: rest <+: encodeOptional (some record) := by
  have hfilled : (rest ++ List.replicate (size - rest.length) 0).length = size := by
    rw [List.length_append, List.length_replicate]
    omega
  obtain ⟨record, hrecord⟩ := exists_encode_eq hfilled
  refine ⟨record, List.replicate (size - rest.length) 0, ?_⟩
  rw [encodeOptional, encodePresent, ← hrecord, List.cons_append]

/-- Every input is something, and is read as such. -/
theorem reading (bytes : Bytes) : Reading bytes (decodeOptional bytes) := by
  rcases bytes with _ | ⟨mark, rest⟩
  · have hpart : [] <+: encodeOptional none := List.nil_prefix
    exact .short hpart (by simp [encodeOptional])
  by_cases habsent : mark = absentMark
  · subst habsent
    rw [decodeOptional, if_pos rfl]
    split
    next h =>
      subst h
      exact .whole none
    next h => exact .long none h
  by_cases hpresent : mark = presentMark
  · subst hpresent
    rw [decodeOptional_present]
    rcases Nat.lt_trichotomy rest.length size with hshort | hexact | hlong
    · obtain ⟨record, hpart⟩ := prefix_encodePresent hshort
      rw [if_pos hshort]
      refine .short hpart fun hwhole => ?_
      have hlength := congrArg List.length hwhole
      rw [encodeOptional, length_encodePresent, optionalSize, List.length_cons] at hlength
      omega
    · obtain ⟨record, rfl⟩ := exists_encode_eq hexact
      rw [if_neg (by omega), decode_encode]
      exact .whole (some record)
    · -- The record is followed by the octets behind the first twenty-four.
      have hlength : (rest.take size).length = size := by
        rw [List.length_take]
        omega
      obtain ⟨record, hrecord⟩ := exists_encode_eq hlength
      have hrest : rest = record.encode ++ rest.drop size := by
        rw [← hrecord, List.take_append_drop]
      have hne : rest.drop size ≠ [] := by
        rw [Ne, List.drop_eq_nil_iff]
        omega
      rw [if_neg (by omega), decode_of_long hlong, ← List.length_drop]
      have hreading := Reading.long (some record) hne
      rwa [encodeOptional, encodePresent, List.cons_append, ← hrest] at hreading
  · rw [decodeOptional, if_neg habsent, if_neg hpresent]
    exact .unknown rest habsent hpresent

/-- A proper part of a present record, without its mark. -/
theorem length_lt_of_part {rest : Bytes} {record : Record}
    (hpart : presentMark :: rest <+: encodeOptional (some record))
    (hwhole : presentMark :: rest ≠ encodeOptional (some record)) : rest.length < size := by
  rw [encodeOptional, encodePresent, List.cons_prefix_cons] at hpart
  refine Nat.lt_of_le_of_ne (record.length_encode ▸ hpart.2.length_le) fun hlength => hwhole ?_
  rw [hpart.2.eq_of_length (hlength.trans record.length_encode.symm), encodeOptional, encodePresent]

/-- What an input is decides what reading it gives. -/
theorem decodeOptional_eq_iff {bytes : Bytes} {result : Except ProtocolError (Option Record)} :
    decodeOptional bytes = result ↔ Reading bytes result := by
  constructor
  · rintro rfl
    exact reading bytes
  · intro h
    cases h with
    | whole value =>
      cases value with
      | none => rfl
      | some record => exact record.decodeOptional_encodePresent
    | @short _ value hpart hwhole =>
      rcases bytes with _ | ⟨mark, rest⟩
      · rfl
      cases value with
      | none =>
        rw [encodeOptional, List.cons_prefix_cons, List.prefix_nil] at hpart
        exact absurd (by rw [hpart.1, hpart.2, encodeOptional]) hwhole
      | some record =>
        obtain rfl : mark = presentMark := (List.cons_prefix_cons.1 hpart).1
        rw [decodeOptional_present, if_pos (length_lt_of_part hpart hwhole)]
        rfl
    | @long value rest hrest =>
      have hpos : 0 < rest.length := List.length_pos_iff.2 hrest
      cases value with
      | none => exact if_neg hrest
      | some record =>
        have hlength : (record.encode ++ rest).length = size + rest.length := by
          rw [List.length_append, length_encode]
        rw [encodeOptional, encodePresent, List.cons_append, decodeOptional_present,
          if_neg (by omega), decode_of_long (by omega), hlength, Nat.add_sub_cancel_left]
        rfl
    | unknown rest habsent hpresent => rw [decodeOptional, if_neg habsent, if_neg hpresent]

/-- What is written for one value does not go on to what is written for another. -/
theorem encodeOptional_prefix {value other : Option Record}
    (h : encodeOptional value <+: encodeOptional other) : value = other := by
  refine Decidable.byContradiction fun hne => ?_
  have hwhole : encodeOptional value ≠ encodeOptional other := fun heq => by
    have hvalue := decodeOptional_eq_iff.2 (.whole value)
    rw [heq, decodeOptional_eq_iff.2 (.whole other)] at hvalue
    exact hne (Except.ok.inj hvalue).symm
  -- The same octets would be complete for one value and too short for the other.
  have hshort := decodeOptional_eq_iff.2 (.short h hwhole)
  rw [decodeOptional_eq_iff.2 (.whole value)] at hshort
  cases hshort

/-! ## When each result is returned -/

theorem decodeOptional_eq_ok_iff {bytes : Bytes} {value : Option Record} :
    decodeOptional bytes = .ok value ↔ bytes = encodeOptional value := by
  rw [decodeOptional_eq_iff]
  constructor
  · rintro ⟨⟩
    rfl
  · rintro rfl
    exact .whole value

theorem decodeOptional_eq_truncated_iff {bytes : Bytes} {needed available : Nat} :
    decodeOptional bytes = .error (.truncatedInput needed available) ↔
      (∃ value, bytes <+: encodeOptional value ∧ bytes ≠ encodeOptional value) ∧
        available = bytes.length ∧ needed = if bytes = [] then 1 else optionalSize := by
  rw [decodeOptional_eq_iff]
  constructor
  · rintro (_ | ⟨hpart, hwhole⟩ | _ | _)
    exact ⟨⟨_, hpart, hwhole⟩, rfl, rfl⟩
  · rintro ⟨⟨value, hpart, hwhole⟩, rfl, rfl⟩
    exact .short hpart hwhole

/-- Nothing is written as no octets, so that no more are dropped than there are. -/
theorem le_length_of_take {bytes : Bytes} {k : Nat} {value : Option Record}
    (h : bytes.take (bytes.length - k) = encodeOptional value) : k ≤ bytes.length := by
  have hlength := congrArg List.length h
  have hsize : optionalSize = 25 := rfl
  rw [List.length_take, length_encodeOptional] at hlength
  split at hlength
  next => omega
  next => omega

theorem decodeOptional_eq_trailing_iff {bytes : Bytes} {k : Nat} :
    decodeOptional bytes = .error (.trailingBytes k) ↔
      0 < k ∧ ∃ value, bytes.take (bytes.length - k) = encodeOptional value := by
  rw [decodeOptional_eq_iff]
  constructor
  · rintro (_ | _ | ⟨value, hrest⟩ | _)
    refine ⟨List.length_pos_iff.2 hrest, value, ?_⟩
    rw [List.length_append, Nat.add_sub_cancel, List.take_left]
  · rintro ⟨hk, value, hvalue⟩
    have hdropped : (bytes.drop (bytes.length - k)).length = k := by
      have hle := le_length_of_take hvalue
      rw [List.length_drop]
      omega
    have hrest : bytes.drop (bytes.length - k) ≠ [] := by
      rw [← List.length_pos_iff, hdropped]
      exact hk
    have hreading := Reading.long value hrest
    rwa [← hvalue, List.take_append_drop, hdropped] at hreading

theorem decodeOptional_eq_unknown_iff {bytes : Bytes} {mark : UInt8} :
    decodeOptional bytes = .error (.invalidDiscriminant mark) ↔
      bytes.head? = some mark ∧ mark ≠ absentMark ∧ mark ≠ presentMark := by
  rw [decodeOptional_eq_iff]
  constructor
  · rintro (_ | _ | _ | ⟨rest, habsent, hpresent⟩)
    exact ⟨rfl, habsent, hpresent⟩
  · rintro ⟨hhead, habsent, hpresent⟩
    obtain ⟨rest, rfl⟩ := List.head?_eq_some_iff.1 hhead
    exact .unknown rest habsent hpresent

/-- No other error is returned. -/
theorem error_of_decodeOptional {bytes : Bytes} {error : ProtocolError}
    (h : decodeOptional bytes = .error error) :
    (∃ needed available, error = .truncatedInput needed available) ∨
      (∃ k, error = .trailingBytes k) ∨ ∃ mark, error = .invalidDiscriminant mark := by
  rw [decodeOptional_eq_iff] at h
  cases h with
  | short => exact .inl ⟨_, _, rfl⟩
  | long => exact .inr (.inl ⟨_, rfl⟩)
  | unknown => exact .inr (.inr ⟨_, rfl⟩)

/-- Reading an optional record is exact. A value is returned precisely for what is written for it,
a truncation for what ends too early, with the number of octets that are needed, trailing octets for
what goes on behind a value, and an unknown mark for anything else. What is written for one value is
no prefix of what is written for another, and a present record takes 25 octets, of which the last
six are its hardware address. -/
theorem decodeOptional_exact :
    (∀ bytes value, decodeOptional bytes = .ok value ↔ bytes = encodeOptional value) ∧
    (∀ bytes needed available,
      decodeOptional bytes = .error (.truncatedInput needed available) ↔
        (∃ value, bytes <+: encodeOptional value ∧ bytes ≠ encodeOptional value) ∧
          available = bytes.length ∧ needed = if bytes = [] then 1 else 25) ∧
    (∀ bytes k, decodeOptional bytes = .error (.trailingBytes k) ↔
      0 < k ∧ ∃ value, bytes.take (bytes.length - k) = encodeOptional value) ∧
    (∀ bytes mark, decodeOptional bytes = .error (.invalidDiscriminant mark) ↔
      bytes.head? = some mark ∧ mark ≠ 0 ∧ mark ≠ 1) ∧
    (∀ bytes error, decodeOptional bytes = .error error →
      (∃ needed available, error = .truncatedInput needed available) ∨
        (∃ k, error = .trailingBytes k) ∨ ∃ mark, error = .invalidDiscriminant mark) ∧
    (∀ value other, encodeOptional value <+: encodeOptional other → value = other) ∧
    ∀ record : Record, (encodeOptional (some record)).length = 25 ∧
      (encodeOptional (some record)).drop 19 = record.mac.bytes :=
  ⟨fun _ _ => decodeOptional_eq_ok_iff, fun _ _ _ => decodeOptional_eq_truncated_iff,
    fun _ _ => decodeOptional_eq_trailing_iff, fun _ _ => decodeOptional_eq_unknown_iff,
    fun _ _ h => error_of_decodeOptional h, fun _ _ h => encodeOptional_prefix h,
    fun record => ⟨record.length_encodePresent, rfl⟩⟩

/-- A record with an octet missing, the same with an octet too many, and one behind an unknown
mark, which is refused however much follows. It does not begin like an absent one. -/
theorem decodeOptional_exact_boundary :
    let record : Record :=
      ⟨5, -1, 0, 65535, -32768, 32767, 0, 0, 255, 258, ⟨⟨[0xDE, 0xAD, 0xBE, 0xEF, 0, 1], rfl⟩⟩⟩
    let octets : Bytes :=
      [0x01, 5, 0xFF, 0xFF, 0, 0, 0xFF, 0xFF, 0x00, 0x80, 0xFF, 0x7F, 0, 0, 0, 0, 255, 0x02, 0x01] ++
        [0xDE, 0xAD, 0xBE, 0xEF, 0, 1]
    decodeOptional octets = .ok (some record) ∧
      decodeOptional (octets.take 24) = .error (.truncatedInput 25 24) ∧
      decodeOptional (octets ++ [0]) = .error (.trailingBytes 1) ∧
      decodeOptional (2 :: octets) = .error (.invalidDiscriminant 2) ∧
      ¬ encodeOptional none <+: octets ∧
      octets.drop 19 = [0xDE, 0xAD, 0xBE, 0xEF, 0, 1] := by
  intro record octets
  obtain ⟨hok, hshort, hlong, hunknown, -, honly, hlast⟩ := decodeOptional_exact
  have hoctets : octets = encodeOptional (some record) := by decide +kernel
  rw [hoctets]
  have hpart : (encodeOptional (some record)).take 24 <+: encodeOptional (some record) :=
    List.take_prefix 24 _
  exact ⟨(hok _ _).2 rfl, (hshort _ _ _).2 ⟨⟨some record, hpart, by decide⟩, rfl, rfl⟩,
    (hlong _ _).2 ⟨by decide, some record, rfl⟩, (hunknown _ _).2 ⟨rfl, by decide, by decide⟩,
    fun habsent => Option.some_ne_none record (honly _ _ habsent).symm, (hlast record).2⟩

end TelemetryLink.Record
