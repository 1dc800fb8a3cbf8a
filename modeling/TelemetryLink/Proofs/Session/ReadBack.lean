import TelemetryLink.Proofs.Frame.Reading
import TelemetryLink.Proofs.Session.Provider
import TelemetryLink.Proofs.Session.Replies
import TelemetryLink.Proofs.Session.Wire

/-!
# A collector reads what a session wrote

A run that succeeds wrote its messages one after another, and nothing else. A collector that reads
them off a connection finds the handshake, and then one frame for each of the other messages, with
the records that were to be sent, however the connection cuts the octets.

- `Message.sequence_frames`: messages after the handshake are frames one after another.
- `Session.written_of_run`: what a run writes that succeeds on a new session.
- `Exchange.receive`: what a collector does on a connection.
- `Session.run_readBack`: the collector finds what the run sent.
-/

namespace TelemetryLink

/-! ## Messages as frames -/

namespace Message

/-- The frame that a message is. The handshake is none. -/
def frame? : Message → Option Frame
  | handshake _ => none
  | ping => some ⟨.ping, []⟩
  | data record => some ⟨.data, record.encodePresent⟩

theorem exists_ofByte_of_frame? {message : Message} {frame : Frame}
    (h : message.frame? = some frame) : ∃ byte, frame.type = .ofByte byte := by
  cases message with
  | handshake nonce => cases h
  | ping =>
    cases h
    exact ⟨0x02, rfl⟩
  | data record =>
    cases h
    exact ⟨0x01, rfl⟩

/-- Messages without a handshake are frames one after another. -/
theorem sequence_frames (credentials : Credentials) {messages : List Message}
    (h : ∀ message ∈ messages, message.isHandshake = false) :
    Frame.Sequence (messages.filterMap frame?)
      (messages.map (Message.bytes credentials)).flatten := by
  induction messages with
  | nil => exact .nil
  | cons message messages ih =>
    have hrest := ih fun other hother => h other (List.mem_cons_of_mem _ hother)
    cases message with
    | handshake nonce => cases h (handshake nonce) List.mem_cons_self
    | ping => exact .cons (build_ping credentials) hrest
    | data record => exact .cons (build_data credentials record) hrest

end Message

/-- The messages of a run after its handshake. -/
def Plan.messages (plan : Plan) (records : List Record) : List Message :=
  (if plan.ping then [.ping] else []) ++ records.map .data

/-- The frames of a run: a ping if the plan has one, and one frame for each record. -/
theorem Plan.filterMap_frame?_messages (plan : Plan) (records : List Record) :
    (plan.messages records).filterMap Message.frame? =
      (if plan.ping then [⟨.ping, []⟩] else []) ++
        records.map fun record => ⟨.data, record.encodePresent⟩ := by
  have hrecords : (records.map Message.data).filterMap Message.frame? =
      records.map fun record => ⟨.data, record.encodePresent⟩ := by
    rw [List.filterMap_map]
    exact congrFun (@List.filterMap_eq_map _ _
      fun record : Record => (⟨.data, record.encodePresent⟩ : Frame)) records
  rw [messages, List.filterMap_append, hrecords]
  cases plan.ping <;> rfl

theorem Plan.isHandshake_messages {plan : Plan} {records : List Record} {message : Message}
    (h : message ∈ plan.messages records) : message.isHandshake = false := by
  rcases List.mem_append.1 h with hping | hdata
  · split at hping
    next => rw [List.mem_singleton.1 hping]; rfl
    next => cases hping
  · obtain ⟨record, -, rfl⟩ := List.mem_map.1 hdata
    rfl

namespace Session

theorem script_messages (plan : Plan) (nonce : Nonce) (record : UInt32 → Record) :
    (script .connecting plan nonce record).filterMap Call.message =
      .handshake nonce :: plan.messages (plan.records record) := by
  have hrecords : ((plan.records record).map Call.sendRecord).filterMap Call.message =
      (plan.records record).map Message.data := by
    rw [List.filterMap_map]
    exact congrFun (@List.filterMap_eq_map _ _ Message.data) _
  rw [script_eq, preamble, if_pos rfl, List.filterMap_append, List.filterMap_append,
    List.filterMap_append, hrecords, Plan.messages]
  cases plan.ping <;> simp [Call.message]

/-- A run that succeeds on a new session wrote its messages, one after another. -/
theorem written_of_run {plan : Plan} {nonce : Nonce} {record : UInt32 → Record} {link : Stream}
    {credentials : Credentials} {ended : Session Stream} {report : Report} (hlink : link.log = [])
    (hrun : (run plan nonce (fun i => pure (record i)) : SessionM Stream Id Report).on
      (Session.new link credentials) = (.ok report, ended)) :
    ended.link.written =
      (Handshake.build credentials.key credentials.deviceId credentials.flags nonce).toBytes ++
        ((plan.messages (plan.records record)).map (Message.bytes credentials)).flatten := by
  obtain ⟨receipts, hsequence, -⟩ := run_ok hrun
  obtain ⟨turns, hafter, hcredentials, hmessages, -⟩ :=
    (Accounts.new link credentials hlink).sequence_ok hsequence
  have hcredentials : ended.credentials = credentials := hcredentials
  have hsent : turns.map Turn.message = .handshake nonce :: plan.messages (plan.records record) :=
    hmessages.trans (script_messages plan nonce record)
  -- Nothing broke off, so that the log holds every message as a whole.
  have hwritten := hafter.written_log_of_none rfl
  rw [Dialogue.messages_eq rfl, Dialogue.answered, List.nil_append, hsent, hcredentials] at hwritten
  exact hwritten

end Session

/-! ## Collectors -/

namespace Exchange

/-- What a collector does on a connection: it reads the handshake, and then so many frames. -/
def receive {σ : Type} {m : Type → Type} [Monad m] [Link σ m] (n : Nat) :
    Exchange σ m (Handshake × List Frame) := do
  let opening ← readExact Handshake.size
  let message ← ExceptT.mk (pure (Handshake.ofBytes opening))
  let frames ← readFrames n
  return (message, frames)

/-- A collector finds a handshake and frames that were built, and then the end. -/
theorem receive_of_sequence {message : Handshake} {frames : List Frame} {bytes : Bytes}
    {stream : Stream} (hframes : Frame.Sequence frames bytes)
    (htypes : ∀ frame ∈ frames, ∃ byte, frame.type = .ofByte byte)
    (h : stream.Delivers (message.toBytes ++ bytes)) :
    ∃ done, (receive frames.length : Exchange Stream Id (Handshake × List Frame)).on stream =
      (.ok (message, frames), done) ∧ done.Delivers [] := by
  obtain ⟨next, hopening, hnext⟩ := h.readExact message.length_toBytes
  rw [← List.append_nil bytes] at hnext
  obtain ⟨done, hreads, hdone⟩ := readFrames_of_sequence hframes htypes hnext
  refine ⟨done, ?_, hdone⟩
  rw [receive, on_bind, readExact_on, hopening]
  dsimp only
  rw [on_bind, on_ofResult, message.ofBytes_toBytes]
  dsimp only
  rw [on_bind, hreads]
  rfl

end Exchange

namespace Session

open TelemetryLink.Stream (delivered halt)

/-- What a collector finds of a run: a handshake and frames. -/
structure ReadBack (credentials : Credentials) (plan : Plan) (nonce : Nonce)
    (records : List Record) (message : Handshake) (frames : List Frame) : Prop where
  /-- The handshake proves that its sender knows the key. -/
  verifies : message.verify credentials.key = true
  magic : message.magic.val = [0x52, 0x47, 0x57, 0x31]
  version : message.version = 1
  flags : message.flags = credentials.flags
  deviceId : message.deviceId = credentials.deviceId
  nonce : message.nonce = nonce
  /-- There is one ping, with an empty payload, if the plan has one. Behind it there are as many
  data frames as the plan says, and they hold the records in order. -/
  frames : ∃ data, frames = (if plan.ping then [⟨.ping, []⟩] else []) ++ data ∧
    data.length = plan.frames.toNat ∧ (∀ frame ∈ data, frame.type = .data) ∧
    data.map (fun frame => Record.decodeOptional frame.payload) =
      records.map fun record => .ok (some record)

variable {S : Type} {provider : UInt32 → StateM S Record} {start finish : S} {plan : Plan}
  {nonce : Nonce} {link : Stream} {credentials : Credentials} {ended : Session Stream}
  {report : Report}

/-- What a session writes in a run that succeeds, a collector reads, however the octets are cut
into chunks and wherever its reads are interrupted: it finds the handshake, the ping if there was
one, a frame for each record that the provider gave, and then the end. The provider was asked once
for each index, in order. -/
theorem run_readBack (hlink : link.log = [])
    (hrun : (run plan nonce provider).onWith (Session.new link credentials) start =
      ((.ok report, ended), finish)) :
    ∃ records,
      ((List.range plan.frames.toNat).mapM fun i => provider (.ofNat i)).run start =
        pure (records, finish) ∧
      ∀ wire : Stream, delivered wire.reads = ended.link.written → (halt wire.reads).1 = none →
        ∃ message frames done,
          (Exchange.receive frames.length : Exchange Stream Id (Handshake × List Frame)).on wire =
            (.ok (message, frames), done) ∧
          ReadBack credentials plan nonce records message frames ∧
          delivered done.reads = [] ∧
          ((Exchange.readFrame : Exchange Stream Id Frame).on done).1 =
            .error (.connectionClosed (.byPeer 0 4)) := by
  -- The run is the one with the records that the provider gives in order, and it asked for all.
  obtain ⟨asked, -, hasking, hall⟩ :=
    run_onWith provider start plan nonce (Session.new link credentials)
  obtain ⟨houtcome, hfinish⟩ := Prod.mk.inj (hrun.symm.trans hasking)
  obtain rfl := hall report ended houtcome.symm
  have hfit : plan.frames.toNat ≤ UInt32.size := Nat.le_of_lt plan.frames.toNat_lt
  refine ⟨plan.records (Provider.record provider start), ?_, fun wire hwire hends => ?_⟩
  · rw [hfinish]
    exact Provider.mapM_provider provider start hfit
  -- What the collector is sent is the handshake, and behind it frames that can be built.
  rw [written_of_run hlink houtcome.symm] at hwire
  generalize hrecords : plan.records (Provider.record provider start) = records at hwire ⊢
  have hsequence := Message.sequence_frames credentials
    fun message => @Plan.isHandshake_messages plan records message
  have htypes : ∀ frame ∈ (plan.messages records).filterMap Message.frame?,
      ∃ byte, frame.type = .ofByte byte := by
    intro frame hframe
    obtain ⟨message, -, hmessage⟩ := List.mem_filterMap.1 hframe
    exact Message.exists_ofByte_of_frame? hmessage
  obtain ⟨done, hreceive, hdone⟩ := Exchange.receive_of_sequence hsequence htypes ⟨hwire, hends⟩
  refine ⟨_, _, done, hreceive, ?_, hdone.delivered, Exchange.readFrame_of_end hdone⟩
  refine ⟨Handshake.verify_build _ _ _ _, rfl, rfl, rfl, rfl, rfl, ?_⟩
  -- Behind the ping stands one data frame for each record.
  refine ⟨_, plan.filterMap_frame?_messages records, ?_, ?_, ?_⟩
  · rw [List.length_map, ← hrecords, plan.length_records]
  · intro frame hframe
    obtain ⟨record, -, rfl⟩ := List.mem_map.1 hframe
    rfl
  · rw [List.map_map]
    refine List.map_congr_left fun record _ => ?_
    rw [Function.comp_apply, record.decodeOptional_encodePresent]

/-- A ping and two data frames, with a provider that keeps what it was asked, on a connection that
cuts the handshake in two and interrupts the reader there. -/
theorem run_readBack_logged :
    let device : DeviceId := ⟨⟨[1, 2, 3, 4, 5, 6], rfl⟩⟩
    let credentials : Credentials := { key := ⟨[107], by decide⟩, deviceId := device }
    let nonce : Nonce := ⟨[0, 0, 0, 0, 0, 0, 0, 1], rfl⟩
    let provider : UInt32 → StateM (List UInt32) Record := fun i asked =>
      pure (⟨5, 0, 0, 0, 0, 0, 0, 0, 0, i.toUInt16, device⟩, asked ++ [i])
    let plan : Plan := { frames := 2, ping := true }
    let link : Stream := { reads := [.chunk [0x01, 0x03, 0x02, 0x03, 0x01, 0x03, 0x01]] }
    ∃ report ended message frames done,
      (run plan nonce provider).onWith (Session.new link credentials) [] =
        ((.ok report, ended), [0, 1]) ∧
      (Exchange.receive 3 : Exchange Stream Id (Handshake × List Frame)).on
          { reads := [.chunk (ended.link.written.take 50), .fault (.bare .interrupted),
              .chunk (ended.link.written.drop 50), .eof] } = (.ok (message, frames), done) ∧
      message.verify credentials.key = true ∧ message.nonce = nonce ∧
      frames.map Frame.type = [.ping, .data, .data] := by
  intro device credentials nonce provider plan link
  have hserves : link.Serves [0x01, 0x03, 0x02, 0x03, 0x01, 0x03, 0x01] :=
    ⟨by simp [link], by simp [link], rfl, rfl⟩
  obtain ⟨ended, hok, -⟩ := run_of_accepted nonce (Provider.record provider []) credentials rfl
    hserves (@Replies.Accepted.intro plan [0x03, 0x02] [0x01, 0x01] [] rfl rfl)
  obtain ⟨asked, -, hrun, hall⟩ := run_onWith provider [] plan nonce (Session.new link credentials)
  obtain rfl := hall _ _ hok
  rw [hok] at hrun
  obtain ⟨records, hasked, hread⟩ := run_readBack rfl hrun
  obtain ⟨message, frames, done, hreceive, hback, -⟩ := hread
    { reads := [.chunk (ended.link.written.take 50), .fault (.bare .interrupted),
        .chunk (ended.link.written.drop 50), .eof] }
    (by simp [Stream.delivered, Fault.bare]) rfl
  obtain ⟨data, hframes, hlength, htypes, -⟩ := hback.frames
  have hframes : frames = ⟨.ping, []⟩ :: data := hframes
  have hlength : data.length = 2 := hlength
  have hdata : data.map Frame.type = [.data, .data] := by
    rw [List.map_congr_left htypes, List.map_const', hlength]
    rfl
  rw [hframes, List.length_cons, hlength] at hreceive
  refine ⟨_, ended, message, _, done, hrun, hreceive, hback.verifies, hback.nonce, ?_⟩
  rw [List.map_cons, hdata]

end Session

end TelemetryLink
