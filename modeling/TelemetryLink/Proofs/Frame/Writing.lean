import TelemetryLink.Proofs.Exchange
import TelemetryLink.Proofs.Frame.RoundTrip
import TelemetryLink.Proofs.Stream.Writing

/-!
# Writing a frame on a connection

A frame is written by a complete write and one flush. Whatever the stream makes of it, it ends in
one of two ways: the whole frame was taken and then flushed, or there is an error and a prefix of
the frame was taken. `Exchange.Delivery` says how it went, write by write.

- `writeFrame_on`: writing a frame is a loop of single writes, and a flush unless they fail.
- `writeFrame_delivery`: every frame that can be built is delivered like that.
- `writeFrame_allOrPrefix`: when it succeeds, and what is on the wire otherwise.
-/

namespace TelemetryLink

namespace Exchange

open TelemetryLink.Stream (WriteLoop SingleWrite)

/-- How it went to write a frame, by which single writes, and with which fault if they failed. -/
structure Delivery (frame : Bytes) (stream next : Stream) (result : Except ProtocolError Unit)
    (calls : List SingleWrite) (fault? : Option Fault) : Prop where
  /-- The stream was offered the frame, and then whatever was left of it. -/
  loop : WriteLoop frame stream.writes calls fault?
  /-- The script is followed by a step for each write. -/
  script : next.writes = stream.writes.drop calls.length
  /-- What was taken is on the wire. -/
  written : next.written = stream.written ++ calls.flatMap SingleWrite.taken
  /-- It is a prefix of the frame. -/
  taken_prefix : calls.flatMap SingleWrite.taken <+: frame
  /-- No octet is offered twice once it was taken, and none is left out. -/
  offers : ∀ before call after, calls = before ++ call :: after →
    before.flatMap SingleWrite.taken ++ call.offered = frame
  /-- Each write ends as its step of the script says. -/
  answers : ∀ before call after, calls = before ++ call :: after →
    call = SingleWrite.first call.offered (stream.writes.drop before.length)
  /-- An interrupted write is made again. -/
  retries : ∀ before call after fault, calls = before ++ call :: after →
    call.outcome = .error fault → fault.kind = .interrupted →
    ∃ again later, after = again :: later ∧ again.offered = call.offered
  /-- A write that takes nothing is a failure of the transport. -/
  nothing : ∀ call ∈ calls, call.outcome = .ok [] →
    result = .error (.transport (.reported "failed to write whole buffer"))
  /-- After a fault part of the frame is missing, and nothing is flushed. -/
  failed : ∀ fault, fault? = some fault → calls.flatMap SingleWrite.taken ≠ frame ∧
    next.log = stream.log ++ [.wrote frame (calls.flatMap SingleWrite.taken)] ∧
    next.flushes = stream.flushes ∧ result = .error (.ofFault fault)
  /-- Otherwise the whole frame was taken, and it is flushed once. -/
  flushed : fault? = none → calls.flatMap SingleWrite.taken = frame ∧ ∃ done,
    next.log = stream.log ++ [.wrote frame frame, .flushed done] ∧
    next.flushes = stream.flushes.tail ∧
    (done = true ∧ result = .ok () ∨
      done = false ∧ ∃ fault, stream.flushes.head? = some (some fault) ∧
        result = .error (.ofFault fault))

/-- The stream after a loop of single writes, before it is flushed. -/
def unflushed (stream : Stream) (frame : Bytes) (calls : List SingleWrite) : Stream :=
  { stream with writes := stream.writes.drop calls.length }.record
    (.wrote frame (calls.flatMap SingleWrite.taken))

/-- A complete write is a loop of single writes, and fails with the fault that ends them, if one
does. -/
theorem writeAll_loop (message : Bytes) (stream : Stream) :
    ∃ calls fault?, WriteLoop message stream.writes calls fault? ∧
      (writeAll message : Exchange Stream Id Unit).on stream = (match fault? with
        | some fault => .error (.ofFault fault)
        | none => .ok (), unflushed stream message calls) := by
  obtain ⟨calls, fault?, hloop, htaken, hrest, hresult⟩ :=
    Stream.outlet_loop message [] stream.writes
  have hsent : (stream.writeAll message).2 = unflushed stream message calls := by
    rw [Stream.writeAll, hrest, htaken, List.nil_append]
    rfl
  have hend : (stream.writeAll message).1 = (Stream.outlet message [] stream.writes).result := rfl
  refine ⟨calls, fault?, hloop, ?_⟩
  rw [writeAll_on, hsent, hend, hresult]
  cases fault? with
  | none => rfl
  | some fault => rfl

/-- A frame that can be built is offered to the stream by a loop of single writes, and flushed
unless they fail. -/
theorem writeFrame_on {type : FrameType} {payload frame : Bytes}
    (hframe : Frame.build type payload = .ok frame) (stream : Stream) :
    ∃ calls fault?, WriteLoop frame stream.writes calls fault? ∧
      (writeFrame type payload : Exchange Stream Id Unit).on stream = match fault? with
        | some fault => (.error (.ofFault fault), unflushed stream frame calls)
        | none => ((unflushed stream frame calls).flush.1.mapError .ofFault,
            (unflushed stream frame calls).flush.2) := by
  obtain ⟨calls, fault?, hloop, hwrite⟩ := writeAll_loop frame stream
  refine ⟨calls, fault?, hloop, ?_⟩
  rw [writeFrame, hframe, on_bind, on_ofResult]
  dsimp only
  rw [on_bind, hwrite]
  cases fault? with
  | none => exact flush_on _
  | some fault => rfl

/-- Every frame that can be built is delivered or fails like this. -/
theorem writeFrame_delivery {type : FrameType} {payload frame : Bytes}
    (hframe : Frame.build type payload = .ok frame) (stream : Stream) :
    ∃ result next calls fault?, (writeFrame type payload : Exchange Stream Id Unit).on stream =
      (result, next) ∧ Delivery frame stream next result calls fault? := by
  obtain ⟨calls, fault?, hloop, hwrite⟩ := writeFrame_on hframe stream
  have hwritten : (unflushed stream frame calls).written =
      stream.written ++ calls.flatMap SingleWrite.taken := by
    simp [unflushed, Stream.record, Stream.written, Stream.sentBy]
  cases fault? with
  | some fault =>
    refine ⟨_, _, calls, some fault, hwrite, hloop, rfl, hwritten, hloop.taken_prefix,
      fun before call after h => (hloop.offers h).1, fun before call after h => hloop.answers h,
      fun before call after fault h => hloop.retries h, ?_, ?_, ?_⟩
    · intro call hmem hcall
      obtain rfl := Option.some.inj (hloop.nothing hmem hcall)
      rfl
    · rintro _ ⟨⟩
      refine ⟨?_, rfl, rfl, rfl⟩
      intro hall
      cases hloop.taken_eq_iff.1 hall
    · intro hfault
      cases hfault
  | none =>
    have hall := hloop.taken_eq_iff.2 rfl
    obtain ⟨done, hlog, hflushes, hend⟩ := (unflushed stream frame calls).flush_outcome
    have hevents : (unflushed stream frame calls).flush.2.log =
        stream.log ++ [.wrote frame frame, .flushed done] := by
      rw [hlog, unflushed, Stream.record, hall, List.append_assoc]
      rfl
    refine ⟨_, _, calls, none, hwrite, hloop, ?_, ?_, hloop.taken_prefix,
      fun before call after h => (hloop.offers h).1, fun before call after h => hloop.answers h,
      fun before call after fault h => hloop.retries h, ?_, ?_,
      fun _ => ⟨hall, done, hevents, hflushes, ?_⟩⟩
    · unfold Stream.flush
      split <;> rfl
    · simp [Stream.written, hevents, hall, Stream.sentBy]
    · intro call hmem hcall
      cases hloop.nothing hmem hcall
    · intro fault hfault
      cases hfault
    · rcases hend with ⟨rfl, hok⟩ | ⟨rfl, fault, hhead, herror⟩
      · exact .inl ⟨rfl, by rw [hok]; rfl⟩
      · exact .inr ⟨rfl, fault, hhead, by rw [herror]; rfl⟩

/-- A delivery has succeeded exactly if the log says that the frame was taken and flushed. -/
theorem Delivery.result_eq_ok_iff {frame : Bytes} {stream next : Stream}
    {result : Except ProtocolError Unit} {calls : List SingleWrite} {fault? : Option Fault}
    (h : Delivery frame stream next result calls fault?) :
    result = .ok () ↔ next.log = stream.log ++ [.wrote frame frame, .flushed true] := by
  cases fault? with
  | some fault =>
    obtain ⟨-, hlog, -, hresult⟩ := h.failed fault rfl
    rw [hresult, hlog]
    simp
  | none =>
    obtain ⟨-, done, hlog, -, ⟨rfl, hresult⟩ | ⟨rfl, fault, -, hresult⟩⟩ := h.flushed rfl
    · rw [hresult, hlog]
      simp
    · rw [hresult, hlog]
      simp

/-- Writing a frame succeeds exactly if the payload is not too long, every octet of the frame was
taken in order, and the flush after them went well. A payload that is too long changes nothing. Any
other frame is offered to the stream write by write, so that a prefix of it is taken, and is flushed
once if and when all of it is. -/
theorem writeFrame_allOrPrefix (type : FrameType) (payload : Bytes) (stream : Stream) :
    let result := ((writeFrame type payload : Exchange Stream Id Unit).on stream).1
    let next := ((writeFrame type payload : Exchange Stream Id Unit).on stream).2
    (result = .ok () ↔ payload.length ≤ 65535 ∧ ∃ frame, Frame.build type payload = .ok frame ∧
      next.log = stream.log ++ [.wrote frame frame, .flushed true]) ∧
    (65535 < payload.length →
      result = .error (.invalidFrameLength (1 + payload.length)) ∧ next = stream) ∧
    (payload.length ≤ 65535 → ∃ frame calls fault?, Frame.build type payload = .ok frame ∧
      Delivery frame stream next result calls fault?) := by
  intro result next
  rcases Nat.lt_or_ge Frame.maxPayload payload.length with hlong | hshort
  · -- Nothing is built, so that nothing is written.
    have hbuild := @Frame.build_of_lt type _ hlong
    have hrefused : (writeFrame type payload : Exchange Stream Id Unit).on stream =
        (.error (.invalidFrameLength (1 + payload.length)), stream) := by
      rw [writeFrame, hbuild, on_bind, on_ofResult]
    have hresult : result = .error (.invalidFrameLength (1 + payload.length)) :=
      congrArg Prod.fst hrefused
    have hnext : next = stream := congrArg Prod.snd hrefused
    rw [hresult, hnext]
    refine ⟨?_, fun _ => ⟨rfl, rfl⟩, fun h => absurd h (Nat.not_le.2 hlong)⟩
    exact iff_of_false (by simp) fun h => absurd h.1 (Nat.not_le.2 hlong)
  · have hbuild := @Frame.build_of_le type _ hshort
    obtain ⟨result', next', calls, fault?, hwrite, hdelivery⟩ := writeFrame_delivery hbuild stream
    obtain rfl : result = result' := congrArg Prod.fst hwrite
    obtain rfl : next = next' := congrArg Prod.snd hwrite
    refine ⟨?_, fun h => absurd h (Nat.not_lt.2 hshort),
      fun _ => ⟨_, calls, fault?, hbuild, hdelivery⟩⟩
    rw [hdelivery.result_eq_ok_iff, hbuild]
    constructor
    · intro hlog
      exact ⟨hshort, _, rfl, hlog⟩
    · rintro ⟨-, _, ⟨⟩, hlog⟩
      exact hlog

/-- A ping of which three octets are taken before a write is interrupted and the next one takes
nothing, and a payload that is one octet too long. -/
theorem writeFrame_allOrPrefix_partial :
    let stream : Stream :=
      { reads := [], writes := [.take 3, .fault (.bare .interrupted), .take 0] }
    let outcome := (writeFrame .ping [] : Exchange Stream Id Unit).on stream
    let long : Bytes := List.replicate 65536 0
    ([] : Bytes).length ≤ 65535 ∧ 65535 < long.length ∧
      (∃ frame calls fault?, Frame.build .ping [] = .ok frame ∧
        Delivery frame stream outcome.2 outcome.1 calls fault? ∧
        calls.flatMap SingleWrite.taken = [0, 0, 0]) ∧
      outcome.1 = .error (.transport (.reported "failed to write whole buffer")) ∧
      outcome.2.flushCount = 0 ∧
      ((writeFrame .data long : Exchange Stream Id Unit).on stream).2 = stream := by
  intro stream outcome long
  have hlong : 65535 < long.length := Nat.le_of_eq List.length_replicate.symm
  have hrefused := (writeFrame_allOrPrefix .data long stream).2.1 hlong
  obtain ⟨frame, calls, fault?, hbuild, hdelivery⟩ :=
    (writeFrame_allOrPrefix .ping [] stream).2.2 (Nat.zero_le _)
  have hwritten : outcome.2.written = [0, 0, 0] := by decide
  have htaken : outcome.2.written = calls.flatMap SingleWrite.taken := hdelivery.written
  exact ⟨Nat.zero_le _, hlong, ⟨frame, calls, fault?, hbuild, hdelivery, htaken ▸ hwritten⟩, rfl,
    by decide, hrefused.2⟩

end Exchange

end TelemetryLink
