import TelemetryLink.Proofs.Exchange

/-!
# What a stream delivers

How a read script is cut into chunks, and where reads are interrupted, makes no difference to exact
reads: all that counts are the octets before the first event that stops a read, `delivered`, and
that event, `halt`. This module says what an exact read does in these terms, and what an exchange
does on a stream that accepts whatever is written and then answers, `Serves`.

- `readExact_of_le`, `readExact_of_lt`: a read takes a prefix of what is delivered, or all of it and
  then the event that stops it, and nothing else, `Took`.
- `transact_of_serves`, `transact_of_short`: an exchange takes its answer off the front of the
  replies, or finds the end of the stream.
-/

namespace TelemetryLink

namespace Stream

/-! ## Reading -/

/-- The octets that a script delivers before the first event that stops a read. -/
def delivered : List ReadStep → Bytes
  | [] => []
  | .chunk bytes :: rest => bytes ++ delivered rest
  | .eof :: _ => []
  | .fault fault :: rest => if fault.kind = .interrupted then delivered rest else []

/-- The event that stops a read after these octets, a fault or else the end of the stream, and the
script behind it. -/
def halt : List ReadStep → Option Fault × List ReadStep
  | [] => (none, [])
  | .chunk _ :: rest => halt rest
  | .eof :: rest => (none, rest)
  | .fault fault :: rest => if fault.kind = .interrupted then halt rest else (some fault, rest)

/-- The error of a read of `n` octets that stops after `filled` of them. -/
def shortfall (n filled : Nat) : Option Fault → ProtocolError
  | none => .connectionClosed (.byPeer filled n)
  | some fault => .ofFault fault

/-- As long as enough is delivered, a read takes what it asked for off the front. -/
theorem intake_of_le (n : Nat) (taken : Bytes) {reads : List ReadStep} (htaken : taken.length ≤ n)
    (henough : n ≤ taken.length + (delivered reads).length) :
    let missing := n - taken.length
    let bytes := taken ++ (delivered reads).take missing
    (intake n taken reads).result = .ok bytes ∧ (intake n taken reads).taken = bytes ∧
      delivered (intake n taken reads).rest = (delivered reads).drop missing ∧
      halt (intake n taken reads).rest = halt reads := by
  fun_induction intake n taken reads with
  | case1 reads taken hn =>
    have hzero : n - taken.length = 0 := by omega
    simp [hzero]
  | case2 taken hn => simp [delivered] at henough; omega
  | case3 taken hn rest => simp [delivered] at henough; omega
  | case4 taken hn fault rest hint ih =>
    simp only [delivered, halt, if_pos hint] at henough ⊢
    exact ih htaken henough
  | case5 taken hn fault rest hint =>
    simp only [delivered, if_neg hint, List.length_nil] at henough
    omega
  | case6 taken hn bytes rest missing hle =>
    -- The chunk holds all that is missing.
    simp only [delivered, halt]
    have hmissing : n - taken.length = missing := rfl
    rw [hmissing, List.take_append_of_le_length hle, List.drop_append_of_le_length hle]
    exact ⟨rfl, rfl, rfl, trivial⟩
  | case7 taken hn bytes rest missing hle ih =>
    -- The chunk is taken as a whole.
    have hmissing : missing = n - taken.length := rfl
    have hsplit : n - taken.length = bytes.length + (n - (taken ++ bytes).length) := by
      rw [List.length_append]
      omega
    simp only [delivered, halt, List.length_append] at henough ih ⊢
    have hrest := ih (by omega) (by omega)
    rw [← List.length_append] at hrest
    rw [hsplit, List.take_length_add_append, List.drop_length_add_append, ← List.append_assoc]
    exact hrest

/-- When too little is delivered, a read takes all of it and the event that stops it. -/
theorem intake_of_lt (n : Nat) (taken : Bytes) {reads : List ReadStep}
    (hshort : taken.length + (delivered reads).length < n) :
    let bytes := taken ++ delivered reads
    (intake n taken reads).result = .error (shortfall n bytes.length (halt reads).1) ∧
      (intake n taken reads).taken = bytes ∧
      (intake n taken reads).rest = (halt reads).2 := by
  fun_induction intake n taken reads with
  | case1 reads taken hn => omega
  | case2 taken hn => simp [delivered, halt, shortfall]
  | case3 taken hn rest => simp [delivered, halt, shortfall]
  | case4 taken hn fault rest hint ih =>
    simp only [delivered, halt, if_pos hint] at hshort ⊢
    exact ih hshort
  | case5 taken hn fault rest hint => simp [delivered, halt, hint, shortfall]
  | case6 taken hn bytes rest missing hle =>
    -- The chunk would hold all that is missing.
    have hmissing : missing = n - taken.length := rfl
    simp only [delivered, List.length_append] at hshort
    omega
  | case7 taken hn bytes rest missing hle ih =>
    simp only [delivered, halt, List.length_append] at hshort ih ⊢
    have hrest := ih (by omega)
    rw [List.append_assoc] at hrest
    simpa only [Nat.add_assoc] using hrest

/-- What a read takes off the script, the script does not hold any more. -/
theorem unread_intake (n : Nat) (taken : Bytes) (reads : List ReadStep) :
    (intake n taken reads).rest.foldr (fun step n => stepSize step + n) 0 +
        (intake n taken reads).taken.length =
      reads.foldr (fun step n => stepSize step + n) 0 + taken.length := by
  fun_induction intake n taken reads with
  | case1 reads taken hn => rfl
  | case2 taken hn => rfl
  | case3 taken hn rest => simp [stepSize]
  | case4 taken hn fault rest hint ih =>
    rw [ih]
    simp [stepSize]
  | case5 taken hn fault rest hint => simp [stepSize]
  | case6 taken hn bytes rest missing hle =>
    simp only [List.foldr_cons, stepSize, List.length_append, List.length_take, List.length_drop]
    omega
  | case7 taken hn bytes rest missing hle ih =>
    rw [ih]
    simp only [List.foldr_cons, stepSize, List.length_append]
    omega

/-- The next `n` octets that a stream delivers were taken off it, and no others. -/
structure Took (before after : Stream) (n : Nat) : Prop where
  /-- So many are delivered. -/
  enough : n ≤ (delivered before.reads).length
  /-- They are the octets that were read. -/
  received : after.received = before.received ++ (delivered before.reads).take n
  /-- All others are still there. -/
  unread : after.unread + n = before.unread

/-- Taking some octets and then more is taking all of them. -/
theorem Took.trans {first second third : Stream} {n m : Nat} (h : first.Took second n)
    (hdelivered : delivered second.reads = (delivered first.reads).drop n)
    (h' : second.Took third m) : first.Took third (n + m) where
  enough := by
    have hn := h.enough
    have hm := h'.enough
    rw [hdelivered, List.length_drop] at hm
    omega
  received := by
    rw [h'.received, h.received, hdelivered, List.append_assoc, ← List.take_add]
  unread := by
    have hn := h.unread
    have hm := h'.unread
    omega

/-- A read takes what it asks for off the front of what is delivered. -/
theorem readExact_of_le {stream : Stream} {n : Nat}
    (henough : n ≤ (delivered stream.reads).length) :
    ∃ next, stream.readExact n = (.ok ((delivered stream.reads).take n), next) ∧
      stream.Took next n ∧ delivered next.reads = (delivered stream.reads).drop n ∧
      halt next.reads = halt stream.reads := by
  obtain ⟨hresult, htaken, hrest, hhalt⟩ := intake_of_le n [] (Nat.zero_le n)
    (by simpa using henough)
  have hunread := unread_intake n [] stream.reads
  rw [List.nil_append, List.length_nil, Nat.sub_zero] at hresult htaken
  refine ⟨_, Prod.ext hresult rfl, ⟨henough, ?_, ?_⟩, hrest, hhalt⟩
  · simp [received, readExact, record, receivedBy, htaken]
  · rw [htaken, List.length_take, Nat.min_eq_left henough] at hunread
    exact hunread

/-- A read that asks for more than is delivered takes all of it, and fails with the event that stops
it. -/
theorem readExact_of_lt {stream : Stream} {n : Nat}
    (hshort : (delivered stream.reads).length < n) :
    ∃ next, stream.readExact n =
        (.error (shortfall n (delivered stream.reads).length (halt stream.reads).1), next) ∧
      stream.Took next (delivered stream.reads).length := by
  obtain ⟨hresult, htaken, -⟩ := intake_of_lt n [] (by simpa using hshort)
  have hunread := unread_intake n [] stream.reads
  rw [List.nil_append] at hresult htaken
  refine ⟨_, Prod.ext hresult rfl, ⟨Nat.le_refl _, ?_, ?_⟩⟩
  · simp [received, readExact, record, receivedBy, htaken]
  · rw [htaken] at hunread
    exact hunread

/-- A read fails with the event that stops it. -/
theorem readExact_eq_error {n : Nat} {stream next : Stream} {error : ProtocolError}
    (h : stream.readExact n = (.error error, next)) :
    error = shortfall n (delivered stream.reads).length (halt stream.reads).1 := by
  rcases Nat.lt_or_ge (delivered stream.reads).length n with hshort | henough
  · obtain ⟨after, hread, -⟩ := readExact_of_lt hshort
    rw [hread] at h
    cases h
    rfl
  · obtain ⟨after, hread, -⟩ := readExact_of_le henough
    rw [hread] at h
    cases h

/-- A stream that delivers these octets and then its end, however they are cut. -/
structure Delivers (stream : Stream) (data : Bytes) : Prop where
  delivered : delivered stream.reads = data
  ends : (halt stream.reads).1 = none

namespace Delivers

variable {stream : Stream} {bytes rest : Bytes}

/-- A read takes what it asks for off the front. -/
theorem readExact (h : stream.Delivers (bytes ++ rest)) {n : Nat} (hn : bytes.length = n) :
    ∃ next, stream.readExact n = (.ok bytes, next) ∧ next.Delivers rest := by
  subst hn
  have henough : bytes.length ≤ (Stream.delivered stream.reads).length := by
    rw [h.delivered, List.length_append]
    exact Nat.le_add_right _ _
  obtain ⟨next, hread, -, hrest, hhalt⟩ := readExact_of_le henough
  rw [h.delivered, List.take_left] at hread
  rw [h.delivered, List.drop_left] at hrest
  exact ⟨next, hread, hrest, (congrArg Prod.fst hhalt).trans h.ends⟩

/-- At the end a read finds nothing. -/
theorem readExact_nil (h : stream.Delivers []) {n : Nat} (hn : 0 < n) :
    ∃ next, stream.readExact n = (.error (.connectionClosed (.byPeer 0 n)), next) := by
  have hshort : (Stream.delivered stream.reads).length < n := by rwa [h.delivered]
  obtain ⟨next, hread, -⟩ := readExact_of_lt hshort
  rw [h.delivered, h.ends] at hread
  exact ⟨next, hread⟩

end Delivers

/-! ## Writing -/

/-- Whether a step of a write script takes something, or at least does not end the writing. -/
def Accepts : WriteStep → Prop
  | .take limit => 0 < limit
  | .fault fault => fault.kind = .interrupted

/-- Where every write is accepted, all octets are taken, in as many pieces as it needs. -/
theorem outlet_of_accepts (bytes taken : Bytes) {writes : List WriteStep}
    (haccepts : ∀ step ∈ writes, Accepts step) :
    (outlet bytes taken writes).result = .ok () ∧
      (outlet bytes taken writes).taken = taken ++ bytes ∧
      ∀ step ∈ (outlet bytes taken writes).rest, Accepts step := by
  fun_induction outlet bytes taken writes with
  | case1 writes taken => exact ⟨rfl, (List.append_nil _).symm, haccepts⟩
  | case2 bytes taken hne =>
    -- Where the script is used up, everything is taken.
    exact ⟨rfl, rfl, by simp⟩
  | case3 bytes taken hne rest =>
    have hzero : 0 < 0 := haccepts (.take 0) List.mem_cons_self
    exact absurd hzero (Nat.lt_irrefl 0)
  | case4 bytes taken hne limit rest hlimit ih =>
    obtain ⟨hresult, htaken, hrest⟩ := ih fun step hstep =>
      haccepts step (List.mem_cons_of_mem _ hstep)
    refine ⟨hresult, ?_, hrest⟩
    rw [htaken, List.append_assoc, List.take_append_drop]
  | case5 bytes taken hne fault rest hint ih =>
    exact ih fun step hstep => haccepts step (List.mem_cons_of_mem _ hstep)
  | case6 bytes taken hne fault rest hint =>
    exact absurd (haccepts (.fault fault) List.mem_cons_self) hint

/-! ## Streams that answer -/

/-- Giving up a stream reads nothing. -/
theorem received_release (stream : Stream) : stream.release.received = stream.received := by
  simp [release, record, received, receivedBy]

/-- A stream that accepts every write and every flush, and delivers these replies and then its
end, however they are cut. -/
structure Serves (stream : Stream) (replies : Bytes) : Prop where
  writes : ∀ step ∈ stream.writes, Accepts step
  flushes : ∀ outcome ∈ stream.flushes, outcome = none
  delivered : delivered stream.reads = replies
  ends : (halt stream.reads).1 = none

namespace Serves

variable {stream : Stream} {replies : Bytes}

/-- A write succeeds, and the stream still answers. -/
theorem writeAll (h : stream.Serves replies) (bytes : Bytes) :
    ∃ next, stream.writeAll bytes = (.ok (), next) ∧ next.Serves replies ∧
      next.log = stream.log ++ [.wrote bytes bytes] := by
  obtain ⟨hresult, htaken, hrest⟩ := outlet_of_accepts bytes [] h.writes
  refine ⟨_, Prod.ext hresult rfl, ⟨hrest, h.flushes, h.delivered, h.ends⟩, ?_⟩
  simp [Stream.writeAll, record, htaken]

/-- A flush succeeds, and the stream still answers. -/
theorem flush (h : stream.Serves replies) :
    ∃ next, stream.flush = (.ok (), next) ∧ next.Serves replies ∧
      next.log = stream.log ++ [.flushed true] := by
  have hflushes := h.flushes
  unfold Stream.flush
  split
  next fault rest heq =>
    cases hflushes (some fault) (by simp [heq])
  next rest heq =>
    refine ⟨_, rfl, ⟨h.writes, fun outcome hmem => ?_, h.delivered, h.ends⟩, rfl⟩
    exact hflushes outcome (by rw [heq]; exact List.mem_cons_of_mem _ hmem)
  next => exact ⟨_, rfl, ⟨h.writes, h.flushes, h.delivered, h.ends⟩, rfl⟩

/-- A stream that was given up still answers. -/
theorem release (h : stream.Serves replies) : stream.release.Serves replies :=
  ⟨h.writes, h.flushes, h.delivered, h.ends⟩

/-- A read takes what it asks for off the front of the replies. -/
theorem readExact (h : stream.Serves replies) {n : Nat} (henough : n ≤ replies.length) :
    ∃ next, stream.readExact n = (.ok (replies.take n), next) ∧ next.Serves (replies.drop n) ∧
      next.log = stream.log ++ [.received (replies.take n)] := by
  obtain ⟨hwrites, hflushes, rfl, hends⟩ := h
  obtain ⟨hresult, htaken, hrest, hhalt⟩ := intake_of_le n [] (Nat.zero_le n)
    (by simpa using henough)
  refine ⟨_, Prod.ext hresult rfl, ⟨hwrites, hflushes, hrest, ?_⟩, ?_⟩
  · exact (congrArg Prod.fst hhalt).trans hends
  · exact congrArg (fun bytes => stream.log ++ [.received bytes]) htaken

/-- A read that asks for more than the replies hold finds the end of the stream. -/
theorem readExact_of_short (h : stream.Serves replies) {n : Nat} (hshort : replies.length < n) :
    ∃ next, stream.readExact n =
      (.error (.connectionClosed (.byPeer replies.length n)), next) := by
  obtain ⟨-, -, rfl, hends⟩ := h
  obtain ⟨next, hread, -⟩ := readExact_of_lt hshort
  rw [hends] at hread
  exact ⟨next, hread⟩

end Serves

end Stream

namespace Exchange

variable {stream : Stream} {replies : Bytes}

/-- On a stream that answers, a message is accepted as a whole and flushed, and what remains of its
exchange is the answer. -/
theorem transact_eq_readExact (message : Bytes) (size : Nat) (h : stream.Serves replies) :
    ∃ sent : Stream,
      (transact message size : Exchange Stream Id Bytes).on stream = sent.readExact size ∧
      sent.Serves replies ∧ sent.log = stream.log ++ [.wrote message message, .flushed true] := by
  obtain ⟨written, hwritten, hserves, hlog⟩ := h.writeAll message
  obtain ⟨sent, hsent, hserves', hlog'⟩ := hserves.flush
  refine ⟨sent, ?_, hserves', by simp [hlog', hlog]⟩
  unfold transact
  rw [on_bind, writeAll_on, hwritten]
  dsimp only [Except.mapError]
  rw [on_bind, flush_on, hsent]
  dsimp only [Except.mapError]
  rw [readExact_on]

/-- The exchange of a message takes its answer off the front of the replies. -/
theorem transact_of_serves (message : Bytes) (size : Nat) (h : stream.Serves replies)
    (henough : size ≤ replies.length) :
    ∃ next, (transact message size : Exchange Stream Id Bytes).on stream =
        (.ok (replies.take size), next) ∧ next.Serves (replies.drop size) ∧
      next.log = stream.log ++
        [.wrote message message, .flushed true, .received (replies.take size)] := by
  obtain ⟨sent, hsent, hserves, hlog⟩ := transact_eq_readExact message size h
  obtain ⟨next, hread, hnext, hlog'⟩ := hserves.readExact henough
  exact ⟨next, hsent.trans hread, hnext, by simp [hlog', hlog]⟩

/-- Where the replies are used up, the exchange of a message finds the end of the stream. -/
theorem transact_of_short (message : Bytes) (size : Nat) (h : stream.Serves replies)
    (hshort : replies.length < size) :
    ∃ next, (transact message size : Exchange Stream Id Bytes).on stream =
      (.error (.connectionClosed (.byPeer replies.length size)), next) := by
  obtain ⟨sent, hsent, hserves, -⟩ := transact_eq_readExact message size h
  obtain ⟨next, hread⟩ := hserves.readExact_of_short hshort
  exact ⟨next, hsent.trans hread⟩

end Exchange

end TelemetryLink
