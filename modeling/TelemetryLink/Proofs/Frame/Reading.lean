import TelemetryLink.Proofs.Frame.RoundTrip
import TelemetryLink.Proofs.Stream.Delivery

/-!
# Reading frames off a connection

A frame is read off a connection as it is parsed from a buffer that holds all that the connection
delivers, however that is cut into chunks. `Frame.Agree` says how the two results belong together,
and how many octets reading takes.

- `Exchange.readFrame_agree`: both readers agree on everything that is delivered.
- `Exchange.readFrame_iff_parse`: so one succeeds, refuses the length or runs out of octets when the
  other does.
- `Exchange.readFrames_of_sequence`: frames that were built one after another are read one after
  another.
-/

namespace TelemetryLink

/-- How reading a frame off a connection that delivers `data` ends and how parsing `data` does, and
the number of octets that reading takes. -/
inductive Frame.Agree (data : Bytes) :
    Except ProtocolError Frame → Except ProtocolError (Frame × Nat) → Nat → Prop
  /-- Both find the frame, in as many octets. -/
  | complete {frame n} : Agree data (.ok frame) (.ok (frame, n)) n
  /-- Both refuse the length, of which reading took the octets. -/
  | refused {length} : Agree data (.error (.invalidFrameLength length))
      (.error (.invalidFrameLength length)) lengthSize
  /-- Both miss the same number of octets. Reading counts from the start of its last read. -/
  | incomplete {filled size needed} (hfilled : filled < size)
      (hmissing : needed + filled = size + data.length) :
      Agree data (.error (.connectionClosed (.byPeer filled size)))
        (.error (.truncatedInput needed data.length)) data.length

namespace Exchange

open TelemetryLink.Stream (delivered halt)

variable {stream : Stream}

/-- Reading a frame is reading its length, judging it, and reading its body. -/
theorem readFrame_on (stream : Stream) :
    (readFrame : Exchange Stream Id Frame).on stream =
      match stream.readExact Frame.lengthSize with
      | (.error error, next) => (.error error, next)
      | (.ok bytes, next) => match Frame.checkLength (Bytes.ofBe bytes) with
        | .error error => (.error error, next)
        | .ok _ => ((next.readExact (Bytes.ofBe bytes)).1.map Frame.ofBody,
            (next.readExact (Bytes.ofBe bytes)).2) := by
  rw [readFrame, on_bind, readExact_on]
  rcases stream.readExact Frame.lengthSize with ⟨error | bytes, next⟩
  · rfl
  · dsimp only
    rw [on_bind, on_ofResult]
    rcases Frame.checkLength (Bytes.ofBe bytes) with error | done
    · rfl
    · exact on_map Frame.ofBody _ next

/-- A frame is read as it is parsed. -/
theorem readFrame_agree (hends : (halt stream.reads).1 = none) :
    ∃ result next n, (readFrame : Exchange Stream Id Frame).on stream = (result, next) ∧
      Frame.Agree (delivered stream.reads) result (Frame.parse (delivered stream.reads)) n ∧
      stream.Took next n := by
  rw [readFrame_on]
  rcases Nat.lt_or_ge (delivered stream.reads).length Frame.lengthSize with hshort | henough
  · -- The octets end within the length.
    obtain ⟨next, hread, htook⟩ := Stream.readExact_of_lt hshort
    rw [hread, hends, Frame.parse_of_short hshort]
    exact ⟨_, next, _, rfl, .incomplete hshort rfl, htook⟩
  obtain ⟨next, hread, htook, hrest, hhalt⟩ := Stream.readExact_of_le henough
  obtain ⟨length, rest, hlength, hdata⟩ := Bytes.eq_be32_append henough
  have htake : (Bytes.be32 length ++ rest).take Frame.lengthSize = Bytes.be32 length := rfl
  have hdrop : (Bytes.be32 length ++ rest).drop Frame.lengthSize = rest := rfl
  have hsize : (delivered stream.reads).length = Frame.lengthSize + rest.length := by
    rw [hdata, List.length_append]
    rfl
  rw [hdata, htake] at hread
  rw [hdata, hdrop] at hrest
  rw [hread]
  dsimp only
  rw [Bytes.ofBe_be32 hlength, hdata, Frame.parse_be32_append hlength, ← hdata, Frame.checkLength]
  by_cases hrefused : length = 0 ∨ Frame.maxLength < length
  · rw [if_pos hrefused, if_pos hrefused]
    exact ⟨_, next, _, rfl, .refused, htook⟩
  rw [if_neg hrefused, if_neg hrefused]
  dsimp only
  rcases Nat.lt_or_ge rest.length length with hshort | henough'
  · -- The octets end within the body.
    have hshort' : (delivered next.reads).length < length := by rwa [hrest]
    obtain ⟨last, hread', htook'⟩ := Stream.readExact_of_lt hshort'
    rw [hrest, hhalt, hends] at hread'
    rw [hread', if_pos hshort, ← hsize]
    rw [hrest] at htook'
    have htotal := htook.trans (by rw [hrest, hdata, hdrop]) htook'
    rw [← hsize] at htotal
    exact ⟨_, last, _, rfl, .incomplete hshort (by omega), htotal⟩
  · have henough'' : length ≤ (delivered next.reads).length := by rwa [hrest]
    obtain ⟨last, hread', htook', -⟩ := Stream.readExact_of_le henough''
    rw [hrest] at hread'
    rw [hread', if_neg (Nat.not_lt.2 henough')]
    exact ⟨_, last, _, rfl, .complete, htook.trans (by rw [hrest, hdata, hdrop]) htook'⟩

/-- Reading a frame off a connection that delivers these octets and then ends is parsing them. It
succeeds with the frame that is parsed, and takes as many octets; it refuses the length that parsing
refuses, and takes the octets of the length; and it finds the end of the connection where parsing
finds the buffer too short, by as many octets, and takes all that is delivered. -/
theorem readFrame_iff_parse (hends : (halt stream.reads).1 = none) :
    let data := delivered stream.reads
    let result := ((readFrame : Exchange Stream Id Frame).on stream).1
    let next := ((readFrame : Exchange Stream Id Frame).on stream).2
    (∀ frame, result = .ok frame ↔ ∃ n, Frame.parse data = .ok (frame, n)) ∧
    (∀ frame n, Frame.parse data = .ok (frame, n) → stream.Took next n) ∧
    (∀ length, result = .error (.invalidFrameLength length) ↔
      Frame.parse data = .error (.invalidFrameLength length)) ∧
    (∀ length, result = .error (.invalidFrameLength length) → stream.Took next 4) ∧
    ((∃ filled size, result = .error (.connectionClosed (.byPeer filled size))) ↔
      ∃ needed available, Frame.parse data = .error (.truncatedInput needed available)) ∧
    ∀ filled size needed available, result = .error (.connectionClosed (.byPeer filled size)) →
      Frame.parse data = .error (.truncatedInput needed available) →
      stream.Took next data.length ∧ filled < size ∧ size - filled = needed - available ∧
        (Closure.byPeer filled size).message = s!"peer closed after {filled} of {size} bytes" := by
  intro data result next
  -- How reading ended and how parsing did belong together in one of three ways.
  obtain ⟨result', next', n, hread, hagree, htook⟩ := readFrame_agree hends
  have hresult : result = result' := congrArg Prod.fst hread
  have hnext : next = next' := congrArg Prod.snd hread
  rw [hresult, hnext]
  change Frame.Agree data result' (Frame.parse data) n at hagree
  generalize Frame.parse data = parsed at hagree
  cases hagree with
  | complete =>
    refine ⟨by simp, ?_, by simp, nofun, by simp, nofun⟩
    rintro frame n ⟨⟩
    exact htook
  | refused => exact ⟨by simp, nofun, by simp, fun _ _ => htook, by simp, nofun⟩
  | incomplete hfilled hmissing =>
    refine ⟨by simp, nofun, by simp, nofun, by simp, ?_⟩
    rintro filled size needed available ⟨⟩ ⟨⟩
    exact ⟨htook, hfilled, by omega, rfl⟩

/-- A connection that ends one octet short of a frame, delivered in chunks that do not
match it and with an interrupted read. -/
theorem readFrame_iff_parse_trickle :
    let stream : Stream :=
      { reads := [.chunk [0, 0], .fault (.bare .interrupted), .chunk [0, 3, 1], .chunk [7], .eof] }
    let result := ((readFrame : Exchange Stream Id Frame).on stream).1
    (halt stream.reads).1 = none ∧ delivered stream.reads = [0, 0, 0, 3, 1, 7] ∧
      (∃ filled size, result = .error (.connectionClosed (.byPeer filled size))) ∧
      ∀ filled size, result = .error (.connectionClosed (.byPeer filled size)) →
        size - filled = 1 := by
  intro stream result
  obtain ⟨-, -, -, -, hclosed, hshortfall⟩ := @readFrame_iff_parse stream rfl
  have hparse : Frame.parse [0, 0, 0, 3, 1, 7] = .error (.truncatedInput 7 6) :=
    (@Frame.parse_be32_append 3 (by decide) [1, 7]).trans
      (by simp [Frame.maxLength, Frame.lengthSize])
  refine ⟨rfl, rfl, hclosed.2 ⟨7, 6, hparse⟩, fun filled size h => ?_⟩
  exact (hshortfall filled size 7 6 h hparse).2.2.1

/-! ## Frames one after another -/

/-- Reads so many frames. -/
def readFrames {σ : Type} {m : Type → Type} [Monad m] [Link σ m] : Nat → Exchange σ m (List Frame)
  | 0 => return []
  | n + 1 => do
    let frame ← readFrame
    return frame :: (← readFrames n)

/-- A frame that was built is read off the front of what is delivered. -/
theorem readFrame_of_encode {frame : Frame} {bytes rest : Bytes}
    (htype : ∃ byte, frame.type = .ofByte byte) (hframe : frame.encode = .ok bytes)
    (h : stream.Delivers (bytes ++ rest)) :
    ∃ next, (readFrame : Exchange Stream Id Frame).on stream = (.ok frame, next) ∧
      next.Delivers rest := by
  obtain ⟨type, payload⟩ := frame
  obtain ⟨byte, rfl⟩ : ∃ byte, type = .ofByte byte := htype
  obtain ⟨hshort, rfl⟩ := Frame.build_eq_ok_iff.1 hframe
  rw [Frame.octets, List.append_assoc] at h
  -- The first read takes the length, the second the type and the payload.
  obtain ⟨body, hlength, hbody⟩ := h.readExact (rfl : _ = Frame.lengthSize)
  obtain ⟨next, hread, hnext⟩ := hbody.readExact (Nat.add_comm payload.length 1)
  refine ⟨next, ?_, hnext⟩
  rw [readFrame_on, hlength]
  dsimp only
  rw [Bytes.ofBe_be32 (Frame.length_of_le hshort).2, Frame.checkLength_of_le hshort]
  dsimp only
  rw [hread, FrameType.toByte_ofByte]
  rfl

/-- Frames that were built one after another are read one after another. -/
theorem readFrames_of_sequence {frames : List Frame} {bytes rest : Bytes}
    (hframes : Frame.Sequence frames bytes)
    (htypes : ∀ frame ∈ frames, ∃ byte, frame.type = .ofByte byte)
    (h : stream.Delivers (bytes ++ rest)) :
    ∃ next, (readFrames frames.length : Exchange Stream Id (List Frame)).on stream =
        (.ok frames, next) ∧ next.Delivers rest := by
  induction hframes generalizing stream with
  | nil => exact ⟨stream, rfl, h⟩
  | @cons frame frames bytes _ hframe _ ih =>
    rw [List.append_assoc] at h
    obtain ⟨next, hread, hnext⟩ := readFrame_of_encode (htypes frame List.mem_cons_self) hframe h
    obtain ⟨last, hreads, hlast⟩ :=
      ih (fun other hother => htypes other (List.mem_cons_of_mem _ hother)) hnext
    refine ⟨last, ?_, hlast⟩
    rw [List.length_cons, readFrames, on_bind, hread]
    dsimp only
    rw [on_bind, hreads]
    rfl

/-- At the end of a connection there is no frame. -/
theorem readFrame_of_end (h : stream.Delivers []) :
    ((readFrame : Exchange Stream Id Frame).on stream).1 =
      .error (.connectionClosed (.byPeer 0 4)) := by
  obtain ⟨next, hread⟩ := h.readExact_nil (show 0 < Frame.lengthSize by decide)
  rw [readFrame_on, hread]
  rfl

end Exchange

end TelemetryLink
