import TelemetryLink.Proofs.Exchange

/-!
# How a stream is cut makes no difference

Two streams are alike if their reads meet the same octets, ends and faults in the same order. How
the octets are cut into chunks, and where reads are interrupted, is not seen by any exchange: a read
of an exact size collects `arrivals` one by one. This holds also where an exchange fails part-way
and the stream is used further.

- `Stream.collect_arrivals`: a read depends on the arrivals only.
- `Exchange.Uniform`: an exchange that ends alike on streams that are alike, and leaves them alike.
- `DirectOperation.performAll_uniform`: so do all operations on a bare stream, one after another.
-/

namespace TelemetryLink

namespace Stream

/-- What a read can meet, one octet at a time. -/
inductive Arrival where
  | octet (byte : UInt8)
  | eof
  | fault (fault : Fault)
  deriving DecidableEq, Repr

/-- What reads meet one after another. An interrupted read is made again, and leaves no trace. -/
def arrivals : List ReadStep → List Arrival
  | [] => []
  | .chunk bytes :: rest => bytes.map .octet ++ arrivals rest
  | .eof :: rest => .eof :: arrivals rest
  | .fault fault :: rest =>
    if fault.kind = .interrupted then arrivals rest else .fault fault :: arrivals rest

/-- How a read of `n` octets, of which `taken` are already there, ends that takes one octet at a
time: its result, the octets taken, and what is still to arrive. -/
def collect (n : Nat) (taken : Bytes) (coming : List Arrival) :
    Except ProtocolError Bytes × Bytes × List Arrival :=
  if n ≤ taken.length then (.ok taken, taken, coming)
  else match coming with
    | [] => (.error (.connectionClosed (.byPeer taken.length n)), taken, [])
    | .eof :: rest => (.error (.connectionClosed (.byPeer taken.length n)), taken, rest)
    | .fault fault :: rest => (.error (.ofFault fault), taken, rest)
    | .octet byte :: rest => collect n (taken ++ [byte]) rest

/-! ## Reading -/

theorem collect_of_le {n : Nat} {taken : Bytes} (h : n ≤ taken.length) (coming : List Arrival) :
    collect n taken coming = (.ok taken, taken, coming) := by
  rw [collect.eq_def, if_pos h]

theorem collect_octet {n : Nat} {taken : Bytes} (h : taken.length < n) (byte : UInt8)
    (rest : List Arrival) :
    collect n taken (.octet byte :: rest) = collect n (taken ++ [byte]) rest := by
  rw [collect, if_neg (Nat.not_le.2 h)]

/-- Octets that are not enough are taken one after another. -/
theorem collect_octets {n : Nat} {taken : Bytes} (bytes : Bytes)
    (h : taken.length + bytes.length ≤ n) (rest : List Arrival) :
    collect n taken (bytes.map .octet ++ rest) = collect n (taken ++ bytes) rest := by
  induction bytes generalizing taken with
  | nil => rw [List.map_nil, List.nil_append, List.append_nil]
  | cons byte bytes ih =>
    rw [List.length_cons] at h
    rw [List.map_cons, List.cons_append, collect_octet (by omega),
      ih (by simp only [List.length_append, List.length_singleton]; omega), List.append_assoc]
    rfl

/-- A read depends on what arrives only, and not on how that is cut. -/
theorem collect_arrivals (n : Nat) (taken : Bytes) (reads : List ReadStep) :
    collect n taken (arrivals reads) = ((intake n taken reads).result,
      (intake n taken reads).taken, arrivals (intake n taken reads).rest) := by
  fun_induction intake n taken reads with
  | case1 reads taken hn => exact collect_of_le hn _
  | case2 taken hn => rw [arrivals, collect, if_neg hn]
  | case3 taken hn rest => rw [arrivals, collect, if_neg hn]
  | case4 taken hn fault rest hint ih =>
    -- An interrupted read is not among the arrivals.
    rw [arrivals, if_pos hint]
    exact ih
  | case5 taken hn fault rest hint => rw [arrivals, if_neg hint, collect, if_neg hn]
  | case6 taken hn bytes rest missing hle =>
    -- Of this chunk the read takes what is missing.
    have hmissing : missing = n - taken.length := rfl
    have hfull : (taken ++ bytes.take missing).length = n := by
      rw [List.length_append, List.length_take]
      omega
    have hsplit : bytes.map Arrival.octet =
        (bytes.take missing).map .octet ++ (bytes.drop missing).map .octet := by
      rw [← List.map_append, List.take_append_drop]
    rw [arrivals, hsplit, List.append_assoc,
      collect_octets _ (by rw [← List.length_append]; omega), collect_of_le (by omega)]
    rfl
  | case7 taken hn bytes rest missing hle ih =>
    -- All of this chunk is missing, and more.
    have hmissing : missing = n - taken.length := rfl
    rw [arrivals, collect_octets bytes (by omega)]
    exact ih

/-- The octets among arrivals. -/
def octetCount (coming : List Arrival) : Nat :=
  coming.countP fun arrival => arrival matches .octet _

/-- The octets that a script holds are those that are to arrive. -/
theorem octetCount_arrivals (reads : List ReadStep) :
    octetCount (arrivals reads) = reads.foldr (fun step n => stepSize step + n) 0 := by
  induction reads with
  | nil => rfl
  | cons step reads ih =>
    rw [List.foldr_cons, ← ih]
    cases step with
    | chunk bytes => simp [arrivals, octetCount, stepSize, List.countP_map, Function.comp_def]
    | eof => simp [arrivals, octetCount, stepSize]
    | fault fault =>
      rw [arrivals]
      split
      · simp [stepSize]
      · simp [octetCount, stepSize]

/-! ## Streams that are alike -/

/-- Two streams that differ only in how their octets are cut into chunks and in where reads are
interrupted. -/
structure Alike (first second : Stream) : Prop where
  arrivals : arrivals first.reads = arrivals second.reads
  writes : first.writes = second.writes
  flushes : first.flushes = second.flushes
  log : first.log = second.log

namespace Alike

variable {first second : Stream}

theorem written (h : first.Alike second) : first.written = second.written :=
  congrArg (List.flatMap sentBy) h.log

theorem unread (h : first.Alike second) : first.unread = second.unread := by
  rw [Stream.unread, Stream.unread, ← octetCount_arrivals, ← octetCount_arrivals, h.arrivals]

private theorem log_record (h : first.Alike second) (event : StreamEvent) :
    first.log ++ [event] = second.log ++ [event] := by
  rw [h.log]

/-- Reads end alike. -/
theorem readExact (h : first.Alike second) (n : Nat) :
    (first.readExact n).1 = (second.readExact n).1 ∧
      (first.readExact n).2.Alike (second.readExact n).2 := by
  have hcollect : collect n [] (Stream.arrivals first.reads) =
      collect n [] (Stream.arrivals second.reads) := congrArg _ h.arrivals
  rw [collect_arrivals, collect_arrivals] at hcollect
  obtain ⟨hresult, hrest⟩ := Prod.mk.inj hcollect
  obtain ⟨htaken, hcoming⟩ := Prod.mk.inj hrest
  refine ⟨hresult, hcoming, h.writes, h.flushes, ?_⟩
  simp only [Stream.readExact, record, h.log, htaken]

/-- Writes end alike. -/
theorem writeAll (h : first.Alike second) (bytes : Bytes) :
    (first.writeAll bytes).1 = (second.writeAll bytes).1 ∧
      (first.writeAll bytes).2.Alike (second.writeAll bytes).2 := by
  refine ⟨?_, h.arrivals, ?_, h.flushes, ?_⟩
  · simp only [Stream.writeAll, h.writes]
  · simp only [Stream.writeAll, record, h.writes]
  · simp only [Stream.writeAll, record, h.writes, h.log]

/-- Flushes end alike. -/
theorem flush (h : first.Alike second) :
    first.flush.1 = second.flush.1 ∧ first.flush.2.Alike second.flush.2 := by
  unfold Stream.flush
  rw [← h.flushes]
  split
  next => exact ⟨rfl, h.arrivals, h.writes, rfl, log_record h _⟩
  next => exact ⟨rfl, h.arrivals, h.writes, rfl, log_record h _⟩
  next => exact ⟨rfl, h.arrivals, h.writes, h.flushes, log_record h _⟩

/-- Streams that were given up are alike. -/
theorem release (h : first.Alike second) : first.release.Alike second.release :=
  ⟨h.arrivals, h.writes, h.flushes, log_record h _⟩

end Alike

end Stream

/-! ## Exchanges -/

namespace Exchange

open Stateful (Agree)

variable {α β : Type}

/-- An exchange that ends alike on streams that are alike, and leaves them alike. -/
def Uniform (exchange : Exchange Stream Id α) : Prop :=
  ∀ first second : Stream, first.Alike second →
    Agree Stream.Alike (exchange.on first) (exchange.on second)

theorem uniform_ofResult (result : Except ProtocolError α) :
    Uniform (ExceptT.mk (pure result) : Exchange Stream Id α) :=
  fun _ _ h => .intro ⟨rfl, h⟩

theorem uniform_pure (a : α) : Uniform (pure a : Exchange Stream Id α) := uniform_ofResult (.ok a)

/-- Exchanges one after the other. The second may depend on what the first one returned. -/
theorem Uniform.bind {exchange : Exchange Stream Id α} {next : α → Exchange Stream Id β}
    (hfirst : Uniform exchange) (hnext : ∀ a, Uniform (next a)) : Uniform (exchange >>= next) :=
  fun first second h => Agree.bind (hfirst first second h) hnext

theorem uniform_readExact (n : Nat) : Uniform (readExact n : Exchange Stream Id Bytes) :=
  fun _ _ h => .intro (h.readExact n)

theorem uniform_writeAll (bytes : Bytes) : Uniform (writeAll bytes : Exchange Stream Id Unit) :=
  fun _ _ h => .intro
    ⟨congrArg (Except.mapError ProtocolError.ofFault) (h.writeAll bytes).1, (h.writeAll bytes).2⟩

theorem uniform_flush : Uniform (flush : Exchange Stream Id Unit) :=
  fun _ _ h => .intro
    ⟨congrArg (Except.mapError ProtocolError.ofFault) h.flush.1, h.flush.2⟩

theorem uniform_readFrame : Uniform (readFrame : Exchange Stream Id Frame) := by
  apply (uniform_readExact _).bind
  intro length
  -- The length is judged without the stream.
  apply (uniform_ofResult _).bind
  intro _
  apply (uniform_readExact _).bind
  intro body
  exact uniform_pure _

theorem uniform_readReply : Uniform (readReply : Exchange Stream Id Reply) := by
  apply (uniform_readExact _).bind
  intro reply
  exact uniform_pure _

theorem uniform_writeFrame (type : FrameType) (payload : Bytes) :
    Uniform (writeFrame type payload : Exchange Stream Id Unit) := by
  apply (uniform_ofResult _).bind
  intro bytes
  apply (uniform_writeAll bytes).bind
  intro _
  exact uniform_flush

/-- Every message of a session is exchanged alike. -/
theorem uniform_transact (message : Bytes) (size : Nat) :
    Uniform (transact message size : Exchange Stream Id Bytes) := by
  apply (uniform_writeAll message).bind
  intro _
  apply uniform_flush.bind
  intro _
  exact uniform_readExact size

theorem uniform_handshake (message : Handshake) :
    Uniform (handshake message : Exchange Stream Id Verdict) := by
  rw [handshake_eq_transact, map_eq_pure_bind]
  apply (uniform_transact _ _).bind
  intro answer
  exact uniform_pure _

theorem uniform_sendHandshake (key : AuthKey) (deviceId : Bytes) (flags : Flags) (nonce : Nonce) :
    Uniform (sendHandshake key deviceId flags nonce : Exchange Stream Id Unit) := by
  apply (uniform_ofResult _).bind
  intro message
  apply (uniform_handshake message).bind
  intro verdict
  cases verdict with
  | accepted => exact uniform_pure ()
  | rejected reason => exact uniform_ofResult (.error (.handshakeRejected reason))

end Exchange

/-! ## Operations on a bare stream -/

/-- An operation on a connection that no session holds. -/
inductive DirectOperation where
  | readExact (n : Nat)
  | readFrame
  | readReply
  | writeFrame (type : FrameType) (payload : Bytes)
  | handshake (message : Handshake)
  | sendHandshake (key : AuthKey) (deviceId : Bytes) (flags : Flags) (nonce : Nonce)

/-- What such an operation returns. -/
inductive DirectAnswer where
  | done
  | bytes (bytes : Bytes)
  | frame (frame : Frame)
  | reply (reply : Reply)
  | verdict (verdict : Verdict)
  deriving DecidableEq

namespace DirectOperation

/-- The exchange that an operation makes. -/
def exchange : DirectOperation → Exchange Stream Id DirectAnswer
  | readExact n => return .bytes (← Exchange.readExact n)
  | readFrame => return .frame (← Exchange.readFrame)
  | readReply => return .reply (← Exchange.readReply)
  | writeFrame type payload => do
    Exchange.writeFrame type payload
    return .done
  | handshake message => return .verdict (← Exchange.handshake message)
  | sendHandshake key deviceId flags nonce => do
    Exchange.sendHandshake key deviceId flags nonce
    return .done

/-- Operations one after another, whether they succeed or not: their results, and the stream after
them. -/
def performAll : List DirectOperation → Stream →
    List (Except ProtocolError DirectAnswer) × Stream
  | [], stream => ([], stream)
  | operation :: operations, stream =>
    let (result, next) := operation.exchange.on stream
    let (results, last) := performAll operations next
    (result :: results, last)

/-- Every operation is an exchange whose value is wrapped. -/
theorem uniform_exchange (operation : DirectOperation) : Exchange.Uniform operation.exchange := by
  have hwrap : ∀ {α : Type} {step : Exchange Stream Id α} (wrap : α → DirectAnswer),
      Exchange.Uniform step → Exchange.Uniform (do return wrap (← step)) :=
    fun wrap hstep => hstep.bind fun a => Exchange.uniform_pure (wrap a)
  cases operation with
  | readExact n => exact hwrap .bytes (Exchange.uniform_readExact n)
  | readFrame => exact hwrap .frame Exchange.uniform_readFrame
  | readReply => exact hwrap .reply Exchange.uniform_readReply
  | writeFrame type payload =>
    exact hwrap (fun _ => .done) (Exchange.uniform_writeFrame type payload)
  | handshake message => exact hwrap .verdict (Exchange.uniform_handshake message)
  | sendHandshake key deviceId flags nonce =>
    exact hwrap (fun _ => .done) (Exchange.uniform_sendHandshake key deviceId flags nonce)

/-- Operations on streams that are alike have the same results, and leave them alike. -/
theorem performAll_uniform (operations : List DirectOperation) {first second : Stream}
    (h : first.Alike second) :
    (performAll operations first).1 = (performAll operations second).1 ∧
      (performAll operations first).2.Alike (performAll operations second).2 := by
  induction operations generalizing first second with
  | nil => exact ⟨rfl, h⟩
  | cons operation operations ih =>
    have hagree := operation.uniform_exchange first second h
    obtain ⟨hresults, hlast⟩ := ih hagree.related
    rw [performAll, performAll]
    exact ⟨by simp only [hagree.result_eq, hresults], hlast⟩

end DirectOperation

end TelemetryLink
