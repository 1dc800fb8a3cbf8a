import TelemetryLink.Proofs.Frame.RoundTrip

/-!
# Receiving a frame piece by piece

Parsing a buffer again when more octets have come never takes anything back. What was decided stays
decided, and where octets are missing, parsing says how many are needed at least, so that a receiver
may wait for all of them without waiting for octets of the next frame.

- `parse_append_of_ok`, `parse_append_of_refused`: a frame or a refusal stays what it is.
- `parse_append_of_lt`, `parse_append_of_le`: fewer octets than were asked for change nothing, and
  as many complete the frame, or else the length, `LengthJudged`.
- `receive_eq_eager`: a receiver that waits for any part of what is missing decides what one decides
  that parses after every octet, and with as many octets taken.
- `parse_stable`: all of it.
-/

namespace TelemetryLink.Frame

/-! ## Parsing again -/

/-- A frame that was parsed is parsed again when more stands behind it. -/
theorem parse_append_of_ok {buffer : Bytes} {found : Frame × Nat} (h : parse buffer = .ok found)
    (extension : Bytes) : parse (buffer ++ extension) = .ok found := by
  obtain ⟨⟨type, payload⟩, n⟩ := found
  obtain ⟨byte, rest, htype, hshort, rfl, rfl⟩ := parse_eq_ok h
  obtain rfl : type = .ofByte byte := htype
  rw [List.append_assoc]
  exact parse_octets hshort (rest ++ extension)

/-- What is missing where parsing asks for more: part of the length, or part of what a length asks
for that is allowed. -/
theorem parse_eq_truncated {buffer : Bytes} {needed available : Nat}
    (h : parse buffer = .error (.truncatedInput needed available)) :
    available = buffer.length ∧ available < needed ∧
      (needed = lengthSize ∨ ∃ length rest, length < 4294967296 ∧
        ¬ (length = 0 ∨ maxLength < length) ∧ buffer = Bytes.be32 length ++ rest ∧
        needed = lengthSize + length) := by
  rcases Nat.lt_or_ge buffer.length lengthSize with hshort | henough
  · rw [parse_of_short hshort] at h
    cases h
    exact ⟨rfl, hshort, .inl rfl⟩
  obtain ⟨length, rest, hlength, rfl⟩ := Bytes.eq_be32_append henough
  rw [parse_be32_append hlength] at h
  rw [length_be32_append]
  -- The length is there, so that it has been judged, and has been found to ask for more.
  split at h
  next => cases h
  next hallowed =>
    split at h
    next hpart =>
      cases h
      exact ⟨rfl, by omega, .inr ⟨length, rest, hlength, hallowed, rfl, rfl⟩⟩
    next => cases h

/-- A length that was refused is refused again. -/
theorem parse_append_of_refused {buffer : Bytes} {length : Nat}
    (h : parse buffer = .error (.invalidFrameLength length)) (extension : Bytes) :
    parse (buffer ++ extension) = .error (.invalidFrameLength length) := by
  rcases Nat.lt_or_ge buffer.length lengthSize with hshort | henough
  · rw [parse_of_short hshort] at h
    cases h
  obtain ⟨value, rest, hvalue, rfl⟩ := Bytes.eq_be32_append henough
  rw [parse_be32_append hvalue] at h
  split at h
  next hrefused =>
    rw [List.append_assoc, parse_be32_append hvalue, if_pos hrefused]
    exact h
  next =>
    split at h
    next => cases h
    next => cases h

/-- What parsing makes of a buffer once its length is there: it refuses the length, asks for the
rest of what it says, or returns the frame. -/
def LengthJudged (buffer : Bytes) : Prop :=
  let length := Bytes.ofBe (buffer.take lengthSize)
  lengthSize ≤ buffer.length ∧
    (length = 0 ∨ maxLength < length → parse buffer = .error (.invalidFrameLength length)) ∧
    (0 < length → length ≤ maxLength →
      (buffer.length < lengthSize + length →
        parse buffer = .error (.truncatedInput (lengthSize + length) buffer.length)) ∧
      (lengthSize + length ≤ buffer.length →
        ∃ frame, parse buffer = .ok (frame, lengthSize + length)))

/-- A length is judged as soon as it is there. -/
theorem lengthJudged_of_le {buffer : Bytes} (h : lengthSize ≤ buffer.length) :
    LengthJudged buffer := by
  refine ⟨h, ?_⟩
  obtain ⟨length, rest, hlength, rfl⟩ := Bytes.eq_be32_append h
  have htake : (Bytes.be32 length ++ rest).take lengthSize = Bytes.be32 length := rfl
  rw [htake, Bytes.ofBe_be32 hlength, length_be32_append, parse_be32_append hlength]
  constructor
  · intro hrefused
    rw [if_pos hrefused]
  · intro hpos hmost
    have hallowed : ¬ (length = 0 ∨ maxLength < length) := by omega
    rw [if_neg hallowed]
    constructor
    · intro hpart
      rw [if_pos (by omega)]
    · intro hwhole
      rw [if_neg (by omega)]
      exact ⟨_, rfl⟩

section Append

variable {buffer extension : Bytes} {needed available : Nat}

/-- Fewer octets than were asked for change nothing but how many there are. -/
theorem parse_append_of_lt (h : parse buffer = .error (.truncatedInput needed available))
    (hshort : (buffer ++ extension).length < needed) :
    parse (buffer ++ extension) = .error (.truncatedInput needed (buffer ++ extension).length) := by
  obtain ⟨-, -, rfl | ⟨length, rest, hlength, hallowed, rfl, rfl⟩⟩ := parse_eq_truncated h
  · exact parse_of_short hshort
  · rw [List.append_assoc, length_be32_append] at hshort ⊢
    rw [parse_be32_append hlength, if_neg hallowed, if_pos (by omega)]

/-- As many octets as were asked for complete the frame or the length. -/
theorem parse_append_of_le (h : parse buffer = .error (.truncatedInput needed available))
    (henough : needed ≤ (buffer ++ extension).length) :
    (∃ frame, parse (buffer ++ extension) = .ok (frame, needed)) ∨
      needed = lengthSize ∧ LengthJudged (buffer ++ extension) := by
  obtain ⟨-, -, rfl | ⟨length, rest, hlength, hallowed, rfl, rfl⟩⟩ := parse_eq_truncated h
  · exact .inr ⟨rfl, lengthJudged_of_le henough⟩
  · left
    rw [List.append_assoc] at henough ⊢
    rw [length_be32_append] at henough
    rw [parse_be32_append hlength, if_neg hallowed, if_neg (by omega)]
    exact ⟨_, rfl⟩

/-- No more is asked for than belongs to the frame. -/
theorem needed_le_of_parse (h : parse buffer = .error (.truncatedInput needed available))
    {frame : Frame} {n : Nat} (hwhole : parse (buffer ++ extension) = .ok (frame, n)) :
    needed ≤ n := by
  rcases Nat.lt_or_ge (buffer ++ extension).length needed with hshort | henough
  · rw [parse_append_of_lt h hshort] at hwhole
    cases hwhole
  rcases parse_append_of_le h henough with ⟨frame', hframe⟩ | ⟨rfl, -⟩
  · rw [hframe] at hwhole
    cases hwhole
    exact Nat.le_refl _
  · have hleast := (bounds_of_parse hwhole).1
    rw [lengthSize]
    omega

end Append

/-! ## Receivers -/

/-- How many octets parsing misses, if it misses any. -/
def missing? : Except ProtocolError (Frame × Nat) → Option Nat
  | .error (.truncatedInput needed available) => some (needed - available)
  | _ => none

/-- Receives a frame: parses what is there and, while octets are missing, waits for some of those
that are coming, at least one, and parses again. Ends with what is decided and the octets that were
not waited for, or with nothing if too few are coming. -/
def receive (wait : Nat → Nat) (buffer coming : Bytes) :
    Option (Except ProtocolError (Frame × Nat) × Bytes) :=
  match missing? (parse buffer) with
  | none => some (parse buffer, coming)
  | some missing =>
    let step := max 1 (wait missing)
    if step ≤ coming.length then receive wait (buffer ++ coming.take step) (coming.drop step)
    else none
termination_by coming.length

/-- The receiver that parses after every octet. -/
def receiveEager : Bytes → Bytes → Option (Except ProtocolError (Frame × Nat) × Bytes) :=
  receive fun _ => 1

/-- The receiver that waits for all that is missing before it parses again. -/
def receivePatient : Bytes → Bytes → Option (Except ProtocolError (Frame × Nat) × Bytes) :=
  receive id

theorem missing?_eq_some {result : Except ProtocolError (Frame × Nat)} {missing : Nat}
    (h : missing? result = some missing) :
    ∃ needed available, result = .error (.truncatedInput needed available) ∧
      missing = needed - available := by
  unfold missing? at h
  split at h
  next needed available => exact ⟨needed, available, rfl, (Option.some.inj h).symm⟩
  next => cases h

section Missing

variable {buffer coming : Bytes} {missing : Nat}

theorem missing?_pos (h : missing? (parse buffer) = some missing) : 0 < missing := by
  obtain ⟨needed, available, hparse, rfl⟩ := missing?_eq_some h
  have hless := (parse_eq_truncated hparse).2.1
  omega

/-- Each octet that comes is one less that is missing. -/
theorem missing?_append (h : missing? (parse buffer) = some missing) {extension : Bytes}
    (hshort : extension.length < missing) :
    missing? (parse (buffer ++ extension)) = some (missing - extension.length) := by
  obtain ⟨needed, available, hparse, rfl⟩ := missing?_eq_some h
  obtain ⟨rfl, -⟩ := parse_eq_truncated hparse
  have hlength : (buffer ++ extension).length = buffer.length + extension.length :=
    List.length_append
  rw [parse_append_of_lt hparse (by omega), missing?, hlength, Nat.sub_add_eq]

theorem receive_of_none {wait : Nat → Nat} (h : missing? (parse buffer) = none) :
    receive wait buffer coming = some (parse buffer, coming) := by
  rw [receive]
  split
  next => rfl
  next heq =>
    rw [h] at heq
    cases heq

/-- As long as octets are missing, one octet after another is taken. -/
theorem receiveEager_cons (h : missing? (parse buffer) = some missing) (byte : UInt8) :
    receiveEager buffer (byte :: coming) = receiveEager (buffer ++ [byte]) coming := by
  rw [receiveEager, receive]
  split
  next heq =>
    rw [h] at heq
    cases heq
  next => simp

/-- Taking a part of what is missing, octet after octet. -/
theorem receiveEager_take (h : missing? (parse buffer) = some missing) {step : Nat}
    (hstep : step ≤ missing) (henough : step ≤ coming.length) :
    receiveEager buffer coming = receiveEager (buffer ++ coming.take step) (coming.drop step) := by
  induction step generalizing buffer coming missing with
  | zero => simp
  | succ step ih =>
    cases coming with
    | nil => simp at henough
    | cons byte coming =>
      rw [List.length_cons] at henough
      rw [receiveEager_cons h, List.take_succ_cons, List.drop_succ_cons]
      rcases Nat.eq_zero_or_pos step with rfl | hpos
      · simp
      · -- One octet is taken, and as it was not all that is missing, more is asked for.
        have hmore : missing? (parse (buffer ++ [byte])) = some (missing - 1) :=
          missing?_append h (by simp; omega)
        rw [ih hmore (by omega) (by omega), List.append_assoc]
        rfl

/-- Where too few octets are coming, nothing is decided. -/
theorem receiveEager_of_lt (h : missing? (parse buffer) = some missing)
    (hshort : coming.length < missing) : receiveEager buffer coming = none := by
  rw [receiveEager_take h (Nat.le_of_lt hshort) (Nat.le_refl _), List.take_length,
    List.drop_length, receiveEager, receive, missing?_append h hshort]
  simp

end Missing

/-- A receiver may wait for any part of what is missing: it decides what one decides that parses
after every octet, and has then taken as many octets. -/
theorem receive_eq_eager {wait : Nat → Nat}
    (hwait : ∀ missing, 0 < missing → 0 < wait missing ∧ wait missing ≤ missing)
    (buffer coming : Bytes) : receive wait buffer coming = receiveEager buffer coming := by
  fun_induction receive wait buffer coming with
  | case1 buffer coming h => exact (receive_of_none h).symm
  | case2 buffer coming missing h step henough ih =>
    obtain ⟨hpos, hle⟩ := hwait missing (missing?_pos h)
    rw [ih, ← receiveEager_take h (by omega) henough]
  | case3 buffer coming missing h step hshort =>
    obtain ⟨hpos, hle⟩ := hwait missing (missing?_pos h)
    exact (receiveEager_of_lt h (by omega)).symm

/-- A receiver that waits for all that is missing has no octet of the next frame: what it has not
taken is what stands behind the frame. -/
theorem receivePatient_rest {buffer coming rest : Bytes} {frame : Frame} {n : Nat}
    (hmissing : missing? (parse buffer) ≠ none)
    (h : receivePatient buffer coming = some (.ok (frame, n), rest)) :
    rest = (buffer ++ coming).drop n := by
  unfold receivePatient at h
  fun_induction receive id buffer coming with
  | case1 buffer coming hnone => exact absurd hnone hmissing
  | case2 buffer coming missing hsome step henough ih =>
    have hstep : step = missing := by
      have hpos := missing?_pos hsome
      simp only [step, id]
      omega
    rw [hstep] at h ih henough
    have hall : buffer ++ coming.take missing ++ coming.drop missing = buffer ++ coming := by
      rw [List.append_assoc, List.take_append_drop]
    cases hnext : missing? (parse (buffer ++ coming.take missing)) with
    | some more =>
      -- Only the length was missing, and now it asks for the body.
      rw [ih (by simp [hnext]) h, hall]
    | none =>
      rw [receive_of_none hnext] at h
      obtain ⟨hparse, rfl⟩ := Prod.mk.inj (Option.some.inj h)
      -- The frame needs all that was waited for, and cannot be longer than the buffer is.
      obtain ⟨needed, available, htruncated, rfl⟩ := missing?_eq_some hsome
      obtain ⟨rfl, hless, -⟩ := parse_eq_truncated htruncated
      have hsize : (buffer ++ coming.take (needed - buffer.length)).length = needed := by
        rw [List.length_append, List.length_take]
        omega
      have hleast := needed_le_of_parse htruncated hparse
      obtain ⟨-, hmost, -⟩ := bounds_of_parse hparse
      have hn : n = (buffer ++ coming.take (needed - buffer.length)).length := by omega
      rw [← hall, hn, List.drop_left]
  | case3 buffer coming missing hsome step hshort => cases h

/-! ## More input -/

/-- Parsing is stable under more input. A frame and a refusal stay what they are, whatever comes
behind. Where octets are missing, parsing counts those that are there and asks for more than that;
any extension that is still too short is told the same, one that is long enough completes the frame
exactly, unless only the length was asked for, which is judged then; and no frame is shorter than
what was asked for. So a receiver that waits for any part of what is missing, and one that waits
for all of it, decides what one decides that parses after every octet, and the latter has taken the
octets of the frame and no others. -/
theorem parse_stable :
    (∀ buffer extension found, parse buffer = .ok found →
      parse (buffer ++ extension) = .ok found) ∧
    (∀ buffer extension length, parse buffer = .error (.invalidFrameLength length) →
      parse (buffer ++ extension) = .error (.invalidFrameLength length)) ∧
    (∀ buffer needed available, parse buffer = .error (.truncatedInput needed available) →
      available = buffer.length ∧ available < needed ∧ ∀ extension,
        ((buffer ++ extension).length < needed → parse (buffer ++ extension) =
          .error (.truncatedInput needed (buffer ++ extension).length)) ∧
        (needed ≤ (buffer ++ extension).length →
          (∃ frame, parse (buffer ++ extension) = .ok (frame, needed)) ∨
            needed = 4 ∧ LengthJudged (buffer ++ extension)) ∧
        ∀ frame n, parse (buffer ++ extension) = .ok (frame, n) → needed ≤ n) ∧
    (∀ wait : Nat → Nat, (∀ missing, 0 < missing → 0 < wait missing ∧ wait missing ≤ missing) →
      ∀ buffer coming, receive wait buffer coming = receiveEager buffer coming) ∧
    (∀ buffer coming, receivePatient buffer coming = receiveEager buffer coming) ∧
    ∀ buffer coming frame n rest, missing? (parse buffer) ≠ none →
      receivePatient buffer coming = some (.ok (frame, n), rest) →
      rest = (buffer ++ coming).drop n := by
  refine ⟨fun buffer extension found h => parse_append_of_ok h extension,
    fun buffer extension length h => parse_append_of_refused h extension, ?_,
    fun wait hwait => receive_eq_eager hwait, receive_eq_eager (by simp),
    fun buffer coming frame n rest hmissing h => receivePatient_rest hmissing h⟩
  intro buffer needed available h
  obtain ⟨hthere, hmore, -⟩ := parse_eq_truncated h
  refine ⟨hthere, hmore, fun extension => ⟨parse_append_of_lt h, parse_append_of_le h, ?_⟩⟩
  intro frame n hwhole
  exact needed_le_of_parse h hwhole

/-- A ping and one octet more, cut within the length and behind it, and a length of zero. -/
theorem parse_stable_boundary :
    parse [0, 0, 0, 1, 2] = .ok (⟨.ping, []⟩, 5) ∧
    parse ([0, 0, 0, 1, 2] ++ [9]) = .ok (⟨.ping, []⟩, 5) ∧
    parse [0, 0, 0, 0] = .error (.invalidFrameLength 0) ∧
    parse ([0, 0, 0, 0] ++ [1]) = .error (.invalidFrameLength 0) ∧
    parse [0, 0, 0] = .error (.truncatedInput 4 3) ∧
    parse ([0, 0, 0] ++ [1]) = .error (.truncatedInput 5 4) ∧
    LengthJudged ([0, 0, 0] ++ [1]) ∧
    (∃ frame, parse ([0, 0, 0, 1] ++ [2, 9]) = .ok (frame, 5)) ∧
    receive (fun missing => missing - missing / 2) [0, 0, 0] [1, 2, 9] =
      receiveEager [0, 0, 0] [1, 2, 9] ∧
    receivePatient [0, 0, 0] [1, 2, 9] = some (.ok (⟨.ping, []⟩, 5), [9]) ∧
    [9] = ([0, 0, 0] ++ [1, 2, 9] : Bytes).drop 5 := by
  obtain ⟨hok, hrefused, hpart, hany, -, hrest⟩ := parse_stable
  have hping : parse [0, 0, 0, 1, 2] = .ok (⟨.ping, []⟩, 5) :=
    @parse_octets 0x02 [] (Nat.zero_le _) []
  have hzero : parse [0, 0, 0, 0] = .error (.invalidFrameLength 0) :=
    @parse_be32_append 0 (by decide) []
  have hthree : parse [0, 0, 0] = .error (.truncatedInput 4 3) := parse_of_short (by decide)
  have hfour : parse [0, 0, 0, 1] = .error (.truncatedInput 5 4) :=
    @parse_be32_append 1 (by decide) []
  have hjudged := ((hpart _ _ _ hthree).2.2 [1]).2.1 (by decide)
  have hwhole := ((hpart _ _ _ hfour).2.2 [2, 9]).2.1 (by decide)
  have hreceived : receivePatient [0, 0, 0] [1, 2, 9] = some (.ok (⟨.ping, []⟩, 5), [9]) := by
    simp [receivePatient, receive, hthree, hfour, hping, missing?]
  refine ⟨hping, hok _ [9] _ hping, hzero, hrefused _ [1] _ hzero, hthree, hfour, ?_, ?_,
    hany _ (fun missing hpos => ⟨by omega, by omega⟩) _ _, hreceived,
    hrest _ _ _ _ _ (by simp [hthree, missing?]) hreceived⟩
  · rcases hjudged with ⟨frame, hframe⟩ | ⟨-, hjudged⟩
    · rw [List.cons_append, List.cons_append, List.cons_append, List.nil_append, hfour] at hframe
      cases hframe
    · exact hjudged
  · rcases hwhole with hframe | ⟨hne, -⟩
    · exact hframe
    · cases hne

end TelemetryLink.Frame
