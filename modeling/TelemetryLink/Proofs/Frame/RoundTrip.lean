import TelemetryLink.Frame
import TelemetryLink.Proofs.Bytes

/-!
# Frames are read as they were built

Building and parsing frames are inverse to each other on byte buffers: what is built parses to the
frame that it was built from, whatever stands behind it, and what parses was built from the frame
that comes out. A buffer can therefore be taken apart frame by frame, `Frame.parseAll`.

- `parse_be32_append`: what parsing makes of a length and the octets behind it.
- `parse_octets`, `parse_eq_ok`: the two directions.
- `parseAll_of_sequence`, `sequence_parseAll`: the same for frames one after another.
- `build_parse_inverse`: all of it, with the bounds in numbers.
-/

namespace TelemetryLink

/-- A type has the octet that it was read from. -/
@[simp]
theorem FrameType.toByte_ofByte (byte : UInt8) : (ofByte byte).toByte = byte := by
  unfold ofByte
  split
  next h => exact h.symm
  next =>
    split
    next h => exact h.symm
    next => rfl

namespace Frame

theorem maxPayload_succ : maxPayload + 1 = maxLength := rfl

/-! ## Building -/

/-- The octets of a frame, whatever its length. -/
def octets (frame : Frame) : Bytes :=
  Bytes.be32 (1 + frame.payload.length) ++ frame.type.toByte :: frame.payload

theorem length_octets (frame : Frame) :
    frame.octets.length = headerSize + frame.payload.length := by
  simp [octets, Bytes.be32, headerSize, lengthSize]
  omega

/-- The length of a frame whose payload is not too long is allowed, and fits into its octets. -/
theorem length_of_le {payload : Bytes} (h : payload.length ≤ maxPayload) :
    ¬ (1 + payload.length = 0 ∨ maxLength < 1 + payload.length) ∧
      1 + payload.length < 4294967296 := by
  rw [maxPayload, maxLength] at *
  omega

theorem checkLength_of_le {payload : Bytes} (h : payload.length ≤ maxPayload) :
    checkLength (1 + payload.length) = .ok () :=
  if_neg (length_of_le h).1

theorem build_of_le {type : FrameType} {payload : Bytes} (h : payload.length ≤ maxPayload) :
    build type payload = .ok (octets ⟨type, payload⟩) := by
  simp only [build, checkLength_of_le h]
  rfl

theorem build_of_lt {type : FrameType} {payload : Bytes} (h : maxPayload < payload.length) :
    build type payload = .error (.invalidFrameLength (1 + payload.length)) := by
  have hrefused : 1 + payload.length = 0 ∨ maxLength < 1 + payload.length := by
    have := maxPayload_succ
    omega
  simp only [build, checkLength, if_pos hrefused]
  rfl

/-- A frame that can be built is not too long, and its octets are known. -/
theorem build_eq_ok_iff {type : FrameType} {payload bytes : Bytes} :
    build type payload = .ok bytes ↔
      payload.length ≤ maxPayload ∧ octets ⟨type, payload⟩ = bytes := by
  rcases Nat.lt_or_ge maxPayload payload.length with hlong | hshort
  · rw [build_of_lt hlong]
    exact ⟨nofun, fun h => absurd h.1 (Nat.not_le.2 hlong)⟩
  · rw [build_of_le hshort, Except.ok.injEq]
    exact (and_iff_right hshort).symm

/-! ## Parsing -/

/-- A buffer that does not hold a length cannot be parsed. -/
theorem parse_of_short {buffer : Bytes} (h : buffer.length < lengthSize) :
    parse buffer = .error (.truncatedInput lengthSize buffer.length) := by
  simp only [parse, if_pos h]
  rfl

/-- A length and the octets behind it. -/
theorem length_be32_append (length : Nat) (rest : Bytes) :
    (Bytes.be32 length ++ rest).length = lengthSize + rest.length := by
  rw [List.length_append]
  rfl

/-- Behind a length, parsing judges the length and then needs as many octets as it says. -/
theorem parse_be32_append {length : Nat} (hlength : length < 4294967296) (rest : Bytes) :
    parse (Bytes.be32 length ++ rest) =
      if length = 0 ∨ maxLength < length then .error (.invalidFrameLength length)
      else if rest.length < length then
        .error (.truncatedInput (lengthSize + length) (lengthSize + rest.length))
      else .ok (ofBody (rest.take length), lengthSize + length) := by
  have hsize := length_be32_append length rest
  have htake : (Bytes.be32 length ++ rest).take lengthSize = Bytes.be32 length := rfl
  have hdrop : (Bytes.be32 length ++ rest).drop lengthSize = rest := rfl
  have hlong : ¬ lengthSize + rest.length < lengthSize := by omega
  simp only [parse, checkLength, hsize, htake, hdrop, Bytes.ofBe_be32 hlength, if_neg hlong,
    Nat.add_lt_add_iff_left]
  split
  next => rfl
  next =>
    split
    next => rfl
    next => rfl

/-- Octets behind a length that is allowed and not too great are a type and a payload. -/
theorem ofBody_take {length : Nat} {rest : Bytes} (hpos : 0 < length)
    (henough : length ≤ rest.length) :
    ∃ byte payload, rest.take length = byte :: payload ∧ payload.length + 1 = length ∧
      ofBody (rest.take length) = ⟨.ofByte byte, payload⟩ := by
  have hlen : (rest.take length).length = length := by
    rw [List.length_take]
    omega
  rcases htake : rest.take length with _ | ⟨byte, payload⟩
  · rw [htake, List.length_nil] at hlen
    omega
  · rw [htake, List.length_cons] at hlen
    exact ⟨byte, payload, rfl, hlen, rfl⟩

/-- What was built is parsed, whatever stands behind it. -/
theorem parse_octets {byte : UInt8} {payload : Bytes} (hshort : payload.length ≤ maxPayload)
    (rest : Bytes) :
    parse (octets ⟨.ofByte byte, payload⟩ ++ rest) =
      .ok (⟨.ofByte byte, payload⟩, headerSize + payload.length) := by
  obtain ⟨hallowed, hlength⟩ := length_of_le hshort
  -- Of what stands behind the length, parsing takes the type and the payload and nothing more.
  have hbody : (byte :: (payload ++ rest)).take (1 + payload.length) = byte :: payload := by
    rw [Nat.add_comm, List.take_succ_cons, List.take_left]
  have henough : ¬ (byte :: (payload ++ rest)).length < 1 + payload.length := by
    rw [List.length_cons, List.length_append]
    omega
  rw [octets, FrameType.toByte_ofByte, List.append_assoc, List.cons_append,
    parse_be32_append hlength, if_neg hallowed, if_neg henough, hbody, headerSize, Nat.add_assoc]
  rfl

/-- What is parsed was built, and has a type that is read from an octet. -/
theorem parse_eq_ok {buffer : Bytes} {frame : Frame} {n : Nat}
    (h : parse buffer = .ok (frame, n)) :
    ∃ byte rest, frame.type = .ofByte byte ∧ frame.payload.length ≤ maxPayload ∧
      buffer = frame.octets ++ rest ∧ n = headerSize + frame.payload.length := by
  rcases Nat.lt_or_ge buffer.length lengthSize with hshort | henough
  · rw [parse_of_short hshort] at h
    cases h
  -- The buffer starts with a length, which has to be allowed and not greater than the rest.
  obtain ⟨length, rest, hlength, rfl⟩ := Bytes.eq_be32_append henough
  rw [parse_be32_append hlength] at h
  split at h
  next => cases h
  next hallowed =>
    split at h
    next => cases h
    next henough' =>
      -- The length is that of the payload that comes out, so that building writes it again.
      obtain ⟨byte, payload, htake, hsize, hframe⟩ := ofBody_take (by omega) (Nat.not_lt.1 henough')
      rw [hframe] at h
      cases h
      refine ⟨byte, rest.drop length, rfl, ?_, ?_, ?_⟩
      · have := maxPayload_succ
        change payload.length ≤ maxPayload
        omega
      · rw [octets, FrameType.toByte_ofByte, ← htake, List.append_assoc, List.take_append_drop,
          Nat.add_comm, hsize]
      · rw [headerSize, Nat.add_assoc, Nat.add_comm 1, hsize]

/-- A frame that is parsed takes at least its header, and at most the buffer. -/
theorem bounds_of_parse {buffer : Bytes} {frame : Frame} {n : Nat}
    (h : parse buffer = .ok (frame, n)) : 5 ≤ n ∧ n ≤ buffer.length ∧ n ≤ 65540 := by
  obtain ⟨byte, rest, -, hshort, rfl, rfl⟩ := parse_eq_ok h
  have hheader : headerSize = 5 := rfl
  have hmax : maxPayload = 65535 := rfl
  rw [List.length_append, length_octets]
  omega

/-! ## Frames one after another -/

/-- Takes a buffer apart: the frames that it starts with, and the octets of which no more can be
parsed. -/
def parseAll (buffer : Bytes) : List Frame × Bytes :=
  match h : parse buffer with
  | .error _ => ([], buffer)
  | .ok (frame, n) =>
    have := bounds_of_parse h
    let (frames, rest) := parseAll (buffer.drop n)
    (frame :: frames, rest)
termination_by buffer.length

/-- The octets of frames one after another. -/
inductive Sequence : List Frame → Bytes → Prop
  | nil : Sequence [] []
  | cons {frame frames bytes rest} (hframe : frame.encode = .ok bytes)
    (hrest : Sequence frames rest) : Sequence (frame :: frames) (bytes ++ rest)

theorem parseAll_of_error {buffer : Bytes} {error : ProtocolError}
    (h : parse buffer = .error error) : parseAll buffer = ([], buffer) := by
  rw [parseAll]
  split
  next => rfl
  next heq =>
    rw [h] at heq
    cases heq

theorem parseAll_of_ok {buffer : Bytes} {frame : Frame} {n : Nat}
    (h : parse buffer = .ok (frame, n)) :
    parseAll buffer =
      (frame :: (parseAll (buffer.drop n)).1, (parseAll (buffer.drop n)).2) := by
  rw [parseAll]
  split
  next heq =>
    rw [h] at heq
    cases heq
  next heq =>
    rw [h] at heq
    cases heq
    rfl

/-- Frames that were built one after another are taken apart. -/
theorem parseAll_of_sequence {frames : List Frame} {bytes : Bytes} (h : Sequence frames bytes)
    (htypes : ∀ frame ∈ frames, ∃ byte, frame.type = .ofByte byte) :
    parseAll bytes = (frames, []) := by
  induction h with
  | nil => exact parseAll_of_error (parse_of_short (by decide))
  | @cons frame frames bytes rest hframe hrest ih =>
    obtain ⟨type, payload⟩ := frame
    obtain ⟨byte, rfl⟩ : ∃ byte, type = .ofByte byte := htypes _ List.mem_cons_self
    obtain ⟨hshort, rfl⟩ := build_eq_ok_iff.1 hframe
    rw [parseAll_of_ok (parse_octets hshort rest), ← length_octets ⟨.ofByte byte, payload⟩,
      List.drop_left, ih fun other hother => htypes other (List.mem_cons_of_mem _ hother)]

/-- Taking a buffer apart stops where nothing can be parsed, and what it found was built. -/
theorem sequence_parseAll (buffer : Bytes) :
    ∃ bytes error, Sequence (parseAll buffer).1 bytes ∧ buffer = bytes ++ (parseAll buffer).2 ∧
      parse (parseAll buffer).2 = .error error := by
  fun_induction parseAll buffer with
  | case1 buffer error h => exact ⟨[], error, .nil, rfl, h⟩
  | case2 buffer frame n h hbounds frames rest heq ih =>
    rw [heq] at ih
    obtain ⟨bytes, error, hframes, hbuffer, hrest⟩ := ih
    obtain ⟨byte, behind, -, hshort, rfl, rfl⟩ := parse_eq_ok h
    rw [← length_octets, List.drop_left] at hbuffer
    refine ⟨frame.octets ++ bytes, error, .cons (build_of_le hshort) hframes, ?_, hrest⟩
    rw [hbuffer, List.append_assoc]

theorem length_of_sequence {frames : List Frame} {bytes : Bytes} (h : Sequence frames bytes) :
    headerSize * frames.length ≤ bytes.length := by
  induction h with
  | nil => exact Nat.le_refl 0
  | @cons frame frames bytes rest hframe hrest ih =>
    obtain ⟨-, rfl⟩ := build_eq_ok_iff.1 hframe
    rw [List.length_append, length_octets, List.length_cons, Nat.mul_succ]
    omega

/-! ## Both directions -/

/-- Building and parsing are inverse to each other. A payload of up to 65535 octets is built, and
what was built is parsed with its size, whatever stands behind it; a longer one is refused. What is
parsed takes between 5 and 65540 octets, which building makes again. So frames built one after
another are taken apart to the last octet, and taking any buffer apart ends, where nothing more is
parsed, with the frames that it starts with. -/
theorem build_parse_inverse :
    (∀ byte payload rest, payload.length ≤ 65535 → ∃ bytes,
      build (.ofByte byte) payload = .ok bytes ∧
        parse (bytes ++ rest) = .ok (⟨.ofByte byte, payload⟩, 5 + payload.length)) ∧
    (∀ type payload, 65535 < payload.length →
      build type payload = .error (.invalidFrameLength (1 + payload.length))) ∧
    (∀ buffer frame n, parse buffer = .ok (frame, n) →
      5 ≤ n ∧ n ≤ buffer.length ∧ n ≤ 65540 ∧
        build frame.type frame.payload = .ok (buffer.take n)) ∧
    (∀ frames bytes, Sequence frames bytes →
      (∀ frame ∈ frames, ∃ byte, frame.type = .ofByte byte) →
      parseAll bytes = (frames, [])) ∧
    ∀ buffer, ∃ bytes error, Sequence (parseAll buffer).1 bytes ∧
      buffer = bytes ++ (parseAll buffer).2 ∧
      parse (parseAll buffer).2 = .error error ∧
      5 * (parseAll buffer).1.length ≤ buffer.length := by
  refine ⟨fun byte payload rest hshort => ?_, fun type payload hlong => build_of_lt hlong,
    fun buffer frame n h => ?_, fun frames bytes h htypes => parseAll_of_sequence h htypes,
    fun buffer => ?_⟩
  · exact ⟨_, build_of_le hshort, parse_octets hshort rest⟩
  · obtain ⟨hleast, hbuffer, hmost⟩ := bounds_of_parse h
    obtain ⟨byte, rest, -, hshort, rfl, rfl⟩ := parse_eq_ok h
    refine ⟨hleast, hbuffer, hmost, ?_⟩
    rw [← length_octets, List.take_left, build_of_le hshort]
  · obtain ⟨bytes, error, hframes, hbuffer, hrest⟩ := sequence_parseAll buffer
    refine ⟨bytes, error, hframes, hbuffer, hrest, ?_⟩
    calc 5 * (parseAll buffer).1.length
        ≤ bytes.length := length_of_sequence hframes
      _ ≤ (bytes ++ (parseAll buffer).2).length := by
        rw [List.length_append]
        exact Nat.le_add_right _ _
      _ = buffer.length := by rw [← hbuffer]

/-- A frame of an unknown type with a payload of the greatest size, one with a payload that is one
octet longer, and a ping in front of half a frame. -/
theorem build_parse_inverse_boundary :
    (∃ bytes, build (.ofByte 0x7F) (List.replicate 65535 0) = .ok bytes ∧
      parse (bytes ++ [0xFF]) = .ok (⟨.ofByte 0x7F, List.replicate 65535 0⟩, 65540)) ∧
    build .data (List.replicate 65536 0) = .error (.invalidFrameLength 65537) ∧
    parse [0, 0, 0, 1, 2, 0, 0] = .ok (⟨.ping, []⟩, 5) ∧
    build .ping [] = .ok ([0, 0, 0, 1, 2, 0, 0].take 5) ∧
    Sequence [⟨.ping, []⟩, ⟨.data, [7]⟩] [0, 0, 0, 1, 2, 0, 0, 0, 2, 1, 7] ∧
    parseAll [0, 0, 0, 1, 2, 0, 0, 0, 2, 1, 7] = ([⟨.ping, []⟩, ⟨.data, [7]⟩], []) := by
  obtain ⟨hbuilt, hrefused, hparsed, hsequence, -⟩ := build_parse_inverse
  have hfirst := hbuilt 0x7F (List.replicate 65535 0) [0xFF] (Nat.le_of_eq List.length_replicate)
  have hlong := hrefused .data (List.replicate 65536 0) (Nat.le_of_eq List.length_replicate.symm)
  rw [List.length_replicate] at hfirst hlong
  have hping : parse [0, 0, 0, 1, 2, 0, 0] = .ok (⟨.ping, []⟩, 5) :=
    @parse_octets 0x02 [] (Nat.zero_le _) [0, 0]
  have hframes : Sequence [⟨.ping, []⟩, ⟨.data, [7]⟩] [0, 0, 0, 1, 2, 0, 0, 0, 2, 1, 7] :=
    @Sequence.cons _ _ [0, 0, 0, 1, 2] _ rfl (@Sequence.cons _ _ [0, 0, 0, 2, 1, 7] _ rfl .nil)
  have htypes : ∀ frame ∈ [(⟨.ping, []⟩ : Frame), ⟨.data, [7]⟩],
      ∃ byte, frame.type = .ofByte byte := by
    intro frame hmem
    refine ⟨frame.type.toByte, ?_⟩
    simp only [List.mem_cons, List.not_mem_nil, or_false] at hmem
    rcases hmem with rfl | rfl
    · rfl
    · rfl
  exact ⟨hfirst, hlong, hping, (hparsed _ _ _ hping).2.2.2, hframes,
    hsequence _ _ hframes htypes⟩

end Frame

end TelemetryLink
