import TelemetryLink.Proofs.Stream.Delivery

/-!
# Exact reads, read by read

An exact read is a loop of single reads, each of which may take any part of what is there, be
interrupted, find the end of the stream, or fail. `Stream.ReadLoop` is that loop, as a relation
between the octets that are missing, the script, the single reads, and what stops them, if anything
does.

- `intake_loop`: the exact read of a scripted stream is such a loop.
- `ReadLoop.length_le`: no loop makes more reads than there are octets to take and steps to follow.
- `ReadLoop.exists_from`: from any of its reads on, a loop is one that reads what is missing there.
- `ReadLoop.asks`, `ReadLoop.retries`: each read asks for what is missing, and one that was
  interrupted is made again.
- `readExact_exact`: what an exact read returns, what it takes, and when it fails with which error.
-/

namespace TelemetryLink

/-! ## Sorting faults -/

/-- A fault is a timeout, the end of the connection, or else a failure of the transport. -/
theorem ProtocolError.ofFault_eq (fault : Fault) :
    ofFault fault =
      if fault.kind ∈ [.timedOut, .wouldBlock] then .timeout fault.text
      else if fault.kind ∈ [.connectionReset, .connectionAborted, .brokenPipe, .unexpectedEof]
      then .connectionClosed (.reported fault.text)
      else .transport (.reported fault.text) := by
  obtain ⟨kind, text⟩ := fault
  cases kind <;> rfl

namespace Stream

/-! ## Single reads -/

/-- How a read with room for so many octets ends on a stream that follows the script, and the script
after it. No octets are the end of the stream; past its end a script finds nothing else. -/
def singleRead (room : Nat) : List ReadStep → Except Fault Bytes × List ReadStep
  | [] => (.ok [], [])
  -- A chunk that is used up is no end of the stream.
  | .chunk [] :: script => singleRead room script
  | .chunk (byte :: bytes) :: script =>
    (.ok ((byte :: bytes).take room), .chunk ((byte :: bytes).drop room) :: script)
  | .eof :: script => (.ok [], script)
  | .fault fault :: script => (.error fault, script)

/-- One read: how many octets it had room for, and those that it took, or why it failed. -/
structure SingleRead where
  room : Nat
  outcome : Except Fault Bytes

namespace SingleRead

/-- The first read on a stream that follows the script. -/
def first (room : Nat) (script : List ReadStep) : SingleRead := ⟨room, (singleRead room script).1⟩

/-- The octets that a read took. -/
def taken (read : SingleRead) : Bytes :=
  match read.outcome with
  | .ok taken => taken
  | .error _ => []

/-- What keeps a reader from reading more: the end of the stream, or any fault but an
interruption. -/
def stop? (read : SingleRead) : Option (Option Fault) :=
  match read.outcome with
  | .ok [] => some none
  | .ok (_ :: _) => none
  | .error fault => if fault.kind = .interrupted then none else some (some fault)

/-- A read that took anything went well. -/
theorem stop?_of_taken {room : Nat} {taken : Bytes} (h : taken ≠ []) :
    (⟨room, .ok taken⟩ : SingleRead).stop? = none := by
  obtain ⟨byte, others, rfl⟩ := List.exists_cons_of_ne_nil h
  rfl

/-- A read takes no more than it has room for. -/
theorem length_taken_first_le (room : Nat) (script : List ReadStep) :
    (first room script).taken.length ≤ room := by
  unfold first
  fun_induction singleRead room script with
  | case2 script ih => exact ih
  | case3 byte bytes script => exact List.length_take_le _ _
  | case1 | case4 script | case5 fault script => exact Nat.zero_le room

end SingleRead

open SingleRead (first)

/-- A read on a script that begins with octets takes from these. -/
theorem singleRead_chunk {bytes : Bytes} (hne : bytes ≠ []) (room : Nat) (script : List ReadStep) :
    singleRead room (.chunk bytes :: script) =
      (.ok (bytes.take room), .chunk (bytes.drop room) :: script) := by
  obtain ⟨byte, others, rfl⟩ := List.exists_cons_of_ne_nil hne
  rfl

/-! ## The loop -/

/-- The single reads that an exact read makes while so many octets are missing, what stops it, if
anything does, and the script after it: a read asks for all that is missing; one that finds the end
or fails is the last, and after anything else the reading goes on with what is missing then. -/
inductive ReadLoop : Nat → List ReadStep → List SingleRead → Option (Option Fault) →
    List ReadStep → Prop
  /-- Nothing is missing. -/
  | done (script : List ReadStep) : ReadLoop 0 script [] none script
  /-- A read has found the end, or has failed for good. -/
  | stopped {missing script stop} (hmissing : 0 < missing)
    (hstop : (first missing script).stop? = some stop) :
    ReadLoop missing script [first missing script] (some stop) (singleRead missing script).2
  /-- A read has taken something, or was interrupted. -/
  | next {missing left script calls stop? rest} (hmissing : 0 < missing)
    (hstop : (first missing script).stop? = none)
    (hleft : (first missing script).taken.length + left = missing)
    (hrest : ReadLoop left (singleRead missing script).2 calls stop? rest) :
    ReadLoop missing script (first missing script :: calls) stop? rest

namespace ReadLoop

variable {missing : Nat} {script rest : List ReadStep} {calls : List SingleRead}
  {stop? : Option (Option Fault)}

/-- As long as something is missing, a chunk without octets makes no difference. -/
theorem skip (h : ReadLoop missing script calls stop? rest) (hmissing : 0 < missing) :
    ReadLoop missing (.chunk [] :: script) calls stop? rest := by
  have hfirst : first missing script = first missing (.chunk [] :: script) := rfl
  have hafter : (singleRead missing script).2 = (singleRead missing (.chunk [] :: script)).2 := rfl
  cases h with
  | done => exact absurd hmissing (Nat.lt_irrefl 0)
  | stopped _ hstop =>
    rw [hfirst] at hstop ⊢
    rw [hafter]
    exact .stopped hmissing hstop
  | next _ hstop hleft hrest =>
    rw [hfirst] at hstop hleft ⊢
    rw [hafter] at hrest
    exact .next hmissing hstop hleft hrest

end ReadLoop

/-- An exact read of a scripted stream is such a loop. -/
theorem intake_loop (n : Nat) (taken : Bytes) (reads : List ReadStep) (h : taken.length ≤ n) :
    ∃ calls stop?, ReadLoop (n - taken.length) reads calls stop? (intake n taken reads).rest ∧
      (intake n taken reads).taken = taken ++ calls.flatMap SingleRead.taken ∧
      (intake n taken reads).result = match stop? with
        | none => .ok (intake n taken reads).taken
        | some stop => .error (shortfall n (intake n taken reads).taken.length stop) := by
  fun_induction intake n taken reads with
  | case1 reads taken hn =>
    have hzero : n - taken.length = 0 := Nat.sub_eq_zero_of_le hn
    rw [hzero]
    exact ⟨[], none, .done reads, (List.append_nil taken).symm, rfl⟩
  | case2 taken hn | case3 taken hn rest =>
    exact ⟨_, some none, .stopped (by omega) rfl, (List.append_nil taken).symm, rfl⟩
  | case4 taken hn fault rest hint ih =>
    obtain ⟨calls, stop?, hloop, htaken, hresult⟩ := ih h
    exact ⟨_, stop?, .next (by omega) (if_pos hint) (Nat.zero_add _) hloop, htaken, hresult⟩
  | case5 taken hn fault rest hint =>
    exact ⟨_, some (some fault), .stopped (by omega) (if_neg hint), (List.append_nil taken).symm,
      rfl⟩
  | case6 taken hn bytes rest missing hle =>
    -- The chunk holds all that is missing.
    have hall : n - taken.length = missing := rfl
    have hmissing : 0 < missing := Nat.sub_pos_of_lt (Nat.lt_of_not_le hn)
    have hne : bytes ≠ [] := List.ne_nil_of_length_pos (by omega)
    have hsome : bytes.take missing ≠ [] := by
      rw [← List.length_pos_iff, List.length_take]
      omega
    have hread := singleRead_chunk hne missing rest
    have hfirst : first missing (.chunk bytes :: rest) = ⟨missing, .ok (bytes.take missing)⟩ := by
      rw [first, hread]
    have hstop : (first missing (.chunk bytes :: rest)).stop? = none := by
      rw [hfirst]
      exact SingleRead.stop?_of_taken hsome
    have hlength : (first missing (.chunk bytes :: rest)).taken.length + 0 = missing := by
      rw [hfirst, SingleRead.taken, List.length_take]
      exact Nat.min_eq_left hle
    have hdone : ReadLoop 0 (singleRead missing (.chunk bytes :: rest)).2 [] none
        (.chunk (bytes.drop missing) :: rest) := by
      rw [hread]
      exact .done _
    refine ⟨[first missing (.chunk bytes :: rest)], none, .next hmissing hstop hlength hdone, ?_,
      rfl⟩
    simp [hfirst, SingleRead.taken]
  | case7 taken hn bytes rest missing hle ih =>
    -- The chunk is taken as a whole, and something is missing after it.
    have hall : n - taken.length = missing := rfl
    obtain ⟨calls, stop?, hloop, htaken, hresult⟩ := ih (by rw [List.length_append]; omega)
    have hleft : n - (taken ++ bytes).length = missing - bytes.length := by
      rw [List.length_append]
      omega
    rw [hleft] at hloop
    have hskipped := hloop.skip (by omega)
    by_cases hne : bytes = []
    · subst hne
      rw [List.append_nil] at hskipped htaken hresult ⊢
      exact ⟨calls, stop?, hskipped, htaken, hresult⟩
    · have hread := singleRead_chunk hne missing rest
      rw [List.take_of_length_le (by omega), List.drop_of_length_le (by omega)] at hread
      have hfirst : first missing (.chunk bytes :: rest) = ⟨missing, .ok bytes⟩ := by
        rw [first, hread]
      have hstop : (first missing (.chunk bytes :: rest)).stop? = none := by
        rw [hfirst]
        exact SingleRead.stop?_of_taken hne
      have hlength : (first missing (.chunk bytes :: rest)).taken.length +
          (missing - bytes.length) = missing := by
        rw [hfirst]
        exact Nat.add_sub_of_le (Nat.le_of_lt (Nat.lt_of_not_le hle))
      have hrest : ReadLoop (missing - bytes.length)
          (singleRead missing (.chunk bytes :: rest)).2 calls stop?
          (intake n (taken ++ bytes) rest).rest := by
        rw [hread]
        exact hskipped
      refine ⟨_, stop?, .next (by omega) hstop hlength hrest, ?_, hresult⟩
      rw [htaken, List.flatMap_cons, hfirst, List.append_assoc]
      rfl

/-- A read after which the reading goes on has taken something or used up a step of the script, so
that less is left of both together. -/
theorem length_singleRead_lt {room : Nat} {script : List ReadStep}
    (hstop : (first room script).stop? = none) :
    (singleRead room script).2.length < (first room script).taken.length + script.length := by
  unfold first at hstop ⊢
  fun_induction singleRead room script with
  | case1 => cases hstop
  | case2 script ih => exact Nat.lt_succ_of_lt (ih hstop)
  | case3 byte bytes script =>
    have hsome : (byte :: bytes).take room ≠ [] := by
      intro hnil
      rw [hnil] at hstop
      cases hstop
    exact Nat.lt_add_of_pos_left (List.length_pos_iff.2 hsome)
  | case4 script => cases hstop
  | case5 fault script => exact Nat.lt_add_left _ (Nat.lt_succ_self _)

namespace ReadLoop

variable {missing : Nat} {script rest : List ReadStep} {calls : List SingleRead}
  {stop? : Option (Option Fault)}

/-- The reading ends: there are no more reads than octets to take and steps to follow, and one that
finds the end. -/
theorem length_le (h : ReadLoop missing script calls stop? rest) :
    calls.length ≤ missing + script.length + 1 := by
  induction h with
  | done script => exact Nat.zero_le _
  | stopped hmissing hstop => exact Nat.le_add_left 1 _
  | next hmissing hstop hleft hrest ih =>
    have hless := length_singleRead_lt hstop
    rw [List.length_cons]
    omega

/-- Where nothing is missing, nothing is read. -/
theorem eq_nil (h : ReadLoop 0 script calls stop? rest) : calls = [] ∧ rest = script := by
  cases h with
  | done => exact ⟨rfl, rfl⟩
  | stopped hmissing => exact absurd hmissing (Nat.lt_irrefl 0)
  | next hmissing => exact absurd hmissing (Nat.lt_irrefl 0)

/-- The first read of a loop asks for all that is missing, which is something. -/
theorem first_call {call : SingleRead} (h : ReadLoop missing script (call :: calls) stop? rest) :
    0 < missing ∧ call = first missing script := by
  cases h with
  | stopped hmissing => exact ⟨hmissing, rfl⟩
  | next hmissing => exact ⟨hmissing, rfl⟩

/-- From each of its reads on, a loop is a loop that reads what is missing there. -/
theorem exists_from (h : ReadLoop missing script calls stop? rest)
    {before after : List SingleRead} {call : SingleRead} (hcalls : calls = before ++ call :: after) :
    ∃ left script', (before.flatMap SingleRead.taken).length + left = missing ∧
      ReadLoop left script' (call :: after) stop? rest := by
  induction before generalizing missing script calls with
  | nil =>
    obtain rfl : calls = call :: after := hcalls
    exact ⟨missing, script, Nat.zero_add _, h⟩
  | cons read before ih =>
    rw [List.cons_append] at hcalls
    cases h with
    | done => cases hcalls
    | stopped =>
      -- The read that stops the loop is the last one.
      obtain ⟨-, hnil⟩ := List.cons.inj hcalls
      simp at hnil
    | next hmissing hstop hleft hrest =>
      obtain ⟨rfl, hothers⟩ := List.cons.inj hcalls
      obtain ⟨left, script', hlength, hloop⟩ := ih hrest hothers
      refine ⟨left, script', ?_, hloop⟩
      rw [List.flatMap_cons, List.length_append]
      omega

/-- Each read asks for all that those before it have left, which is something, and takes no more. -/
theorem asks (h : ReadLoop missing script calls stop? rest) {before after : List SingleRead}
    {call : SingleRead} (hcalls : calls = before ++ call :: after) :
    (before.flatMap SingleRead.taken).length + call.room = missing ∧ 0 < call.room ∧
      call.taken.length ≤ call.room := by
  obtain ⟨left, script', hlength, hloop⟩ := h.exists_from hcalls
  obtain ⟨hpos, rfl⟩ := hloop.first_call
  exact ⟨hlength, hpos, SingleRead.length_taken_first_le _ _⟩

/-- The loop ends with the read that finds the end or fails. -/
theorem stops (h : ReadLoop missing script calls stop? rest) {before after : List SingleRead}
    {call : SingleRead} (hcalls : calls = before ++ call :: after) {stop : Option Fault}
    (hcall : call.stop? = some stop) : after = [] ∧ stop? = some stop := by
  obtain ⟨left, script', -, hloop⟩ := h.exists_from hcalls
  cases hloop with
  | stopped hmissing hstop =>
    rw [hstop] at hcall
    exact ⟨rfl, hcall⟩
  | next hmissing hstop hleft hrest =>
    rw [hstop] at hcall
    cases hcall

/-- An interrupted read is made again: the next one asks for as much. -/
theorem retries (h : ReadLoop missing script calls stop? rest) {before after : List SingleRead}
    {call : SingleRead} (hcalls : calls = before ++ call :: after) {fault : Fault}
    (hcall : call.outcome = .error fault) (hint : fault.kind = .interrupted) :
    ∃ again later, after = again :: later ∧ again.room = call.room := by
  have htaken : call.taken = [] := by rw [SingleRead.taken, hcall]
  have hgoes : call.stop? = none := by
    rw [SingleRead.stop?, hcall]
    exact if_pos hint
  obtain ⟨left, script', -, hloop⟩ := h.exists_from hcalls
  cases hloop with
  | stopped hmissing hstop =>
    rw [hgoes] at hstop
    cases hstop
  | @next _ left' _ _ _ _ hmissing hstop hleft hrest =>
    -- Nothing was taken, so that as much is missing, which is something.
    obtain rfl : left' = left := by
      rw [htaken] at hleft
      exact (Nat.zero_add left').symm.trans hleft
    cases after with
    | nil =>
      cases hrest
      exact absurd hmissing (Nat.lt_irrefl 0)
    | cons again later =>
      obtain ⟨-, rfl⟩ := hrest.first_call
      exact ⟨_, later, rfl, rfl⟩

end ReadLoop

/-! ## Exact reads -/

/-- What stops a reader is no interruption. -/
theorem kind_of_halt {reads : List ReadStep} {fault : Fault} (h : (halt reads).1 = some fault) :
    fault.kind ≠ .interrupted := by
  fun_induction halt reads with
  | case1 => cases h
  | case2 bytes rest ih => exact ih h
  | case3 rest => cases h
  | case4 other rest hint ih => exact ih h
  | case5 other rest hint =>
    obtain rfl := Option.some.inj h
    exact hint

/-- How it went to read exactly `n` octets, by which single reads, and what stopped them, if anything
did. -/
structure ExactRead (n : Nat) (stream next : Stream) (result : Except ProtocolError Bytes)
    (calls : List SingleRead) (stop? : Option (Option Fault)) : Prop where
  /-- The stream was asked for `n` octets, and then for whatever was missing. -/
  loop : ReadLoop n stream.reads calls stop? next.reads
  /-- The reading ends. -/
  finite : calls.length ≤ n + stream.reads.length + 1
  /-- Each read asks for what is missing of the `n` octets, which is something, and takes at most
  that. -/
  asks : ∀ before call after, calls = before ++ call :: after →
    (before.flatMap SingleRead.taken).length + call.room = n ∧ 0 < call.room ∧
      call.taken.length ≤ call.room
  /-- An interrupted read is made again. -/
  retries : ∀ before call after fault, calls = before ++ call :: after →
    call.outcome = .error fault → fault.kind = .interrupted →
    ∃ again later, after = again :: later ∧ again.room = call.room
  /-- A read that finds the end, or fails otherwise, is the last. -/
  stops : ∀ before call after stop, calls = before ++ call :: after → call.stop? = some stop →
    after = [] ∧ stop? = some stop
  /-- Where nothing is asked for, nothing is read. -/
  idle : n = 0 → calls = [] ∧ next.reads = stream.reads
  /-- What the reads took is what was read of the stream. -/
  received : next.received = stream.received ++ calls.flatMap SingleRead.taken
  /-- It is what is returned, unless something stopped the reads. -/
  returned : result = match stop? with
    | none => .ok (calls.flatMap SingleRead.taken)
    | some stop => .error (shortfall n (calls.flatMap SingleRead.taken).length stop)

/-- Every exact read goes like that. -/
theorem exists_exactRead (n : Nat) (stream : Stream) :
    ∃ calls stop?, ExactRead n stream (stream.readExact n).2 (stream.readExact n).1 calls stop? := by
  obtain ⟨calls, stop?, hloop, htaken, hresult⟩ := intake_loop n [] stream.reads (Nat.zero_le n)
  rw [List.nil_append] at htaken
  rw [htaken] at hresult
  refine ⟨calls, stop?, hloop, hloop.length_le, fun _ _ _ h => hloop.asks h,
    fun _ _ _ _ h => hloop.retries h, fun _ _ _ _ h => hloop.stops h, ?_, ?_, hresult⟩
  · rintro rfl
    exact hloop.eq_nil
  · simp [readExact, record, Stream.received, receivedBy, htaken]

/-- An exact read ends after finitely many single reads, none of which asks for more than is missing,
and none is made for no octets. It returns `n` octets if and only if so many are delivered before the
first end of the stream or fault other than an interruption, and then the first `n` of these; exactly
these are taken off the stream, and all others stay. Otherwise it takes all that is delivered and
what stops it, and fails: at the end of the stream with the count of what was there, and after a
fault by its kind. -/
theorem readExact_exact (n : Nat) (stream : Stream) :
    let result := (stream.readExact n).1
    let next := (stream.readExact n).2
    let before := delivered stream.reads
    (∃ calls stop?, ExactRead n stream next result calls stop?) ∧
    (∀ bytes, result = .ok bytes ↔ n ≤ before.length ∧ bytes = before.take n) ∧
    stream.Took next (min n before.length) ∧
    (n ≤ before.length →
      delivered next.reads = before.drop n ∧ halt next.reads = halt stream.reads) ∧
    (before.length < n → next.reads = (halt stream.reads).2 ∧
      ((halt stream.reads).1 = none →
        result = .error (.connectionClosed (.byPeer before.length n)) ∧
        (Closure.byPeer before.length n).message =
          "peer closed after " ++ toString before.length ++ " of " ++ toString n ++ " bytes") ∧
      ∀ fault, (halt stream.reads).1 = some fault → fault.kind ≠ .interrupted ∧
        result = .error (
          if fault.kind ∈ [.timedOut, .wouldBlock] then .timeout fault.text
          else if fault.kind ∈ [.connectionReset, .connectionAborted, .brokenPipe, .unexpectedEof]
          then .connectionClosed (.reported fault.text)
          else .transport (.reported fault.text))) := by
  intro result next before
  refine ⟨exists_exactRead n stream, ?_⟩
  rcases Nat.lt_or_ge before.length n with hshort | henough
  · obtain ⟨after, hread, htook⟩ := readExact_of_lt hshort
    obtain ⟨-, -, hrest⟩ := intake_of_lt n [] (by simpa using hshort)
    obtain rfl : next = after := congrArg Prod.snd hread
    have hresult : result = .error (shortfall n before.length (halt stream.reads).1) :=
      congrArg Prod.fst hread
    have hmin : min n before.length = before.length := Nat.min_eq_right (Nat.le_of_lt hshort)
    rw [hresult, hmin]
    refine ⟨fun bytes => ?_, htook, fun h => absurd h (Nat.not_le.2 hshort),
      fun _ => ⟨hrest, fun hend => ⟨?_, rfl⟩, fun fault hfault => ⟨kind_of_halt hfault, ?_⟩⟩⟩
    · exact iff_of_false nofun fun h => absurd h.1 (Nat.not_le.2 hshort)
    · rw [hend]
      rfl
    · rw [hfault, shortfall, ProtocolError.ofFault_eq]
  · obtain ⟨after, hread, htook, hrest, hhalt⟩ := readExact_of_le henough
    obtain rfl : next = after := congrArg Prod.snd hread
    have hresult : result = .ok (before.take n) := congrArg Prod.fst hread
    have hmin : min n before.length = n := Nat.min_eq_left henough
    rw [hresult, hmin]
    refine ⟨fun bytes => ?_, htook, fun _ => ⟨hrest, hhalt⟩,
      fun h => absurd h (Nat.not_lt.2 henough)⟩
    exact ⟨fun h => ⟨henough, (Except.ok.inj h).symm⟩, fun h => congrArg Except.ok h.2.symm⟩

/-- A stream that ends after three octets, in two pieces with an interruption between them: three are
read, and four are not. On another one the read after the first octet takes too long. -/
theorem readExact_exact_interrupted :
    let stream : Stream :=
      { reads := [.chunk [1, 2], .fault (.bare .interrupted), .chunk [3], .eof, .chunk [4]] }
    let slow : Stream := { reads := [.chunk [1], .fault (.bare .wouldBlock)] }
    (3 ≤ (delivered stream.reads).length ∧ (stream.readExact 3).1 = .ok [1, 2, 3] ∧
      delivered (stream.readExact 3).2.reads = []) ∧
    ((delivered stream.reads).length < 4 ∧ (halt stream.reads).1 = none ∧
      (stream.readExact 4).1 = .error (.connectionClosed (.byPeer 3 4)) ∧
      (stream.readExact 4).2.reads = [.chunk [4]]) ∧
    ((delivered slow.reads).length < 2 ∧
      (slow.readExact 2).1 = .error (.timeout "operation would block")) ∧
    (slow.readExact 0).2.reads = slow.reads := by
  intro stream slow
  have henough : 3 ≤ (delivered stream.reads).length := by decide
  have hshort : (delivered stream.reads).length < 4 := by decide
  have hslow : (delivered slow.reads).length < 2 := by decide
  have hend : (halt stream.reads).1 = none := rfl
  have hfault : (halt slow.reads).1 = some (.bare .wouldBlock) := rfl
  obtain ⟨-, hok, -, hrest, -⟩ := readExact_exact 3 stream
  obtain ⟨-, -, -, -, hfails⟩ := readExact_exact 4 stream
  obtain ⟨-, -, -, -, hwaits⟩ := readExact_exact 2 slow
  obtain ⟨⟨calls, stop?, hread⟩, -⟩ := readExact_exact 0 slow
  obtain ⟨hafter, hclosed, -⟩ := hfails hshort
  exact ⟨⟨henough, (hok [1, 2, 3]).2 ⟨henough, rfl⟩, (hrest henough).1⟩,
    ⟨hshort, hend, (hclosed hend).1, hafter⟩, ⟨hslow, ((hwaits hslow).2.2 _ hfault).2⟩,
    (hread.idle rfl).2⟩

end Stream

end TelemetryLink
