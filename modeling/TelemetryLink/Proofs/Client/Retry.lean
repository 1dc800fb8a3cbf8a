import TelemetryLink.Proofs.Client.Progress
import TelemetryLink.Proofs.Session.Rejection

/-!
# When a client tries again

A run of a client is a history of attempts, `Client.History`, each made on the network as the one
before left it. The client tries again after an attempt that failed with an error that may pass, as
long as its policy allows it, and the collector's answer to the handshake decides about that:
`Client.Fate` ties the octet on the wire to the error.

- `Client.attempt_asked`: what an attempt leaves on the record of the network.
- `Client.runFrom_history`: a run ends with the first attempt after which it does not try again.
- `Client.History.fate`: what the log of each attempt tells about its result.
- `Client.run_retries`: what this means for all attempts of a run.
-/

namespace TelemetryLink

/-! ## Errors that repeat -/

/-- Whether an error repeats in every session: a value that cannot be built, an exchange at the
wrong time, or a rejection for magic, version or authentication. -/
def ProtocolError.Permanent : ProtocolError → Prop
  | validation _ => True
  | invalidState _ => True
  | handshakeRejected reason => reason ∈ [.badMagic, .badVersion, .badAuthentication]
  | _ => False

theorem ProtocolError.isRetryable_eq_false_iff (error : ProtocolError) :
    error.isRetryable = false ↔ error.Permanent := by
  cases error with
  | handshakeRejected reason => cases reason <;> simp [isRetryable, Permanent]
  | validation => exact iff_of_true rfl trivial
  | invalidState => exact iff_of_true rfl trivial
  | _ => exact iff_of_false (by simp [isRetryable]) id

/-- The octets that reject a handshake for good. -/
def Rejection.permanentCodes : List UInt8 := [0xFF, 0xFE, 0xFD]

/-- The reason of a rejection repeats exactly if it has one of three octets. -/
theorem Rejection.permanent_ofCode_iff (byte : UInt8) :
    (ProtocolError.handshakeRejected (.ofCode byte)).Permanent ↔ byte ∈ permanentCodes := by
  rw [ProtocolError.Permanent, permanentCodes, ofCode]
  by_cases hmagic : byte = 0xFF
  · simp [code, hmagic]
  by_cases hversion : byte = 0xFE
  · simp [code, hversion]
  by_cases hauthentication : byte = 0xFD
  · simp [code, hauthentication]
  simp [code, hmagic, hversion, hauthentication]

namespace Client

/-- One attempt of a run: how it ended, and the logs of the connections that it released. -/
structure Episode where
  /-- The result of the session, or why there is none. -/
  result : Except SessionError Report
  /-- The logs of the connections, oldest first. -/
  logs : List Log

/-- The octet that answered the handshake of an attempt. -/
def Episode.verdict? (episode : Episode) : Option UInt8 := episode.logs.findSome? Log.verdict?

variable (client : Client)

/-- What the network has on record of so many attempts, made from one state of it to another. The
text of an address is tried once in each of them. Any other name is looked up once in each, unless
it holds NUL: then the network is not asked at all. -/
structure Asked (network : Net.Network Stream) (attempts : Nat) (after : Net.Network Stream) :
    Prop where
  address : ∀ ip, Net.IpAddress.parse client.host = some ip →
    after.tried = network.tried ++ List.replicate attempts ⟨ip, client.port⟩ ∧
      after.lookedUp = network.lookedUp
  name : Net.IpAddress.parse client.host = none → Char.ofNat 0 ∉ client.host.toList →
    after.lookedUp = network.lookedUp ++ List.replicate attempts client.host

/-- Attempts one after another. Each is made on the network as the one before left it, which has it
on record, and sends the records that are not confirmed yet. -/
inductive History : Progress → Net.Network Stream → List Episode → Progress →
    Net.Network Stream → Prop
  | nil (progress network) : History progress network [] progress network
  | cons {progress network confirmed result logs next episodes final after}
      (hattempt :
        client.attemptOn progress.framesAcknowledged network = ((confirmed, result), next))
      (hasked : Asked client network 1 next)
      (hlogs : next.retired.map Stream.log = network.retired.map Stream.log ++ logs)
      (hrest : History ⟨progress.attempts + 1, progress.framesAcknowledged + confirmed⟩ next
        episodes final after) :
      History progress network (⟨result, logs⟩ :: episodes) final after

/-- How the result of an attempt and the octet that answered its handshake go together. -/
inductive Fate : Except SessionError Report → Option UInt8 → Prop
  /-- No session was opened. -/
  | unopened {error} (herror : error.isRetryable = true) : Fate (.error ⟨.connect, error⟩) none
  /-- The handshake was rejected, and the error says with which octet. -/
  | rejected {byte} (hbyte : byte ≠ 0x01) :
    Fate (.error ⟨.handshake, .handshakeRejected (.ofCode byte)⟩) (some byte)
  /-- The handshake was not answered, or it was accepted and something failed after it. -/
  | failed {e verdict} (hverdict : ∀ byte, verdict = some byte → byte = 0x01)
    (herror : e.error.isRetryable = true) : Fate (.error e) verdict
  /-- The session completed. -/
  | completed {report} : Fate (.ok report) (some 0x01)

/-! ## Attempts -/

variable {client}

theorem Episode.verdict?_singleton (result : Except SessionError Report) (log : Log) :
    Episode.verdict? ⟨result, [log]⟩ = log.verdict? := by
  simp only [Episode.verdict?, List.findSome?_cons, List.findSome?_nil]
  cases log.verdict? <;> rfl

theorem asked_nil (network : Net.Network Stream) : client.Asked network 0 network where
  address _ _ := ⟨(List.append_nil _).symm, rfl⟩
  name _ _ := (List.append_nil _).symm

theorem Asked.trans {network next after : Net.Network Stream} {m n : Nat}
    (h : client.Asked network m next) (hrest : client.Asked next n after) :
    client.Asked network (m + n) after where
  address ip hip := by
    obtain ⟨htried, hlookedUp⟩ := h.address ip hip
    obtain ⟨htried', hlookedUp'⟩ := hrest.address ip hip
    rw [htried', htried, List.append_assoc, List.replicate_append_replicate]
    exact ⟨rfl, hlookedUp'.trans hlookedUp⟩
  name hname hnul := by
    rw [hrest.name hname hnul, h.name hname hnul, List.append_assoc,
      List.replicate_append_replicate]

/-- The network is asked once in an attempt, for the session that is opened in it. -/
theorem attempt_asked (client : Client) (done : UInt32) (network : Net.Network Stream) :
    client.Asked network 1 (client.attemptOn done network).2 := by
  obtain ⟨hlookedUp, ips, htried, honly⟩ := Net.Dialer.openSession_recorded client.port
    client.credentials client.options network client.host
  obtain ⟨hlookedUp', htried'⟩ := client.attemptOn_record done network
  constructor
  · intro ip hip
    -- The text of an address stands for this one alone, so that it is all that is tried.
    rw [htried', htried, hlookedUp', hlookedUp, Net.namesOf_address hip,
      honly ip (Net.Network.resolve_address hip)]
    exact ⟨rfl, List.append_nil _⟩
  · intro hname hnul
    rw [hlookedUp', hlookedUp, Net.namesOf_name hname hnul]
    rfl

/-- An attempt meets one of the fates. -/
theorem fate_of_attempt {done confirmed : UInt32} {network next : Net.Network Stream}
    {result : Except SessionError Report} {logs : List Log} (hunused : network.Unused)
    (hattempt : client.attemptOn done network = ((confirmed, result), next))
    (hlogs : next.retired.map Stream.log = network.retired.map Stream.log ++ logs) :
    next.Unused ∧ Fate result (Episode.verdict? ⟨result, logs⟩) := by
  rcases client.attempt_cases done hunused with
    ⟨link, nonce, result, ended, after, hlink, hrun, hattempt', hafter, hretired⟩ |
      ⟨error, released, after, herror, hreleased, hattempt', hafter, hretired⟩
  · cases hattempt.symm.trans hattempt'
    refine ⟨hafter, ?_⟩
    rw [hretired, List.map_append, List.append_cancel_left_eq] at hlogs
    subst hlogs
    rw [List.map_singleton, Episode.verdict?_singleton]
    rcases result with e | report
    · rcases Session.new_run_failed hlink hrun with
        ⟨byte, hbyte, hverdict, rfl⟩ | ⟨hverdict, hpass⟩
      · rw [hverdict]
        exact .rejected hbyte
      · exact .failed hverdict hpass
    · rw [Session.new_run_accepted hlink hrun]
      exact .completed
  · cases hattempt.symm.trans hattempt'
    refine ⟨hafter, ?_⟩
    rw [hretired, List.map_append, List.append_cancel_left_eq] at hlogs
    subst hlogs
    -- A connection that could not be set up was only given up, so that nothing was answered on it.
    have hnone : Episode.verdict? ⟨.error ⟨.connect, error⟩, released.map Stream.log⟩ = none := by
      refine List.findSome?_eq_none_iff.2 fun log hlog => ?_
      obtain ⟨link, hlink, rfl⟩ := List.mem_map.1 hlog
      rw [hreleased link hlink]
      rfl
    rw [hnone]
    exact .unopened herror.isRetryable

namespace Fate

variable {result : Except SessionError Report} {verdict : Option UInt8}

/-- Every octet but one that answers a handshake rejects it. -/
theorem eq_rejected (h : Fate result verdict) {byte : UInt8} (hverdict : verdict = some byte)
    (hbyte : byte ≠ 0x01) :
    result = .error ⟨.handshake, .handshakeRejected (.ofCode byte)⟩ := by
  cases h with
  | unopened => cases hverdict
  | rejected =>
    cases hverdict
    rfl
  | failed hall => exact absurd (hall byte hverdict) hbyte
  | completed =>
    cases hverdict
    exact absurd rfl hbyte

/-- An attempt that failed, but was not rejected for good, may be made again. -/
theorem isRetryable (h : Fate result verdict) {e : SessionError} (he : result = .error e)
    (hverdict : ∀ byte ∈ Rejection.permanentCodes, verdict ≠ some byte) :
    e.error.isRetryable = true := by
  cases h with
  | unopened herror =>
    cases he
    exact herror
  | @rejected byte =>
    cases he
    by_contra hpass
    rw [Bool.not_eq_true, ProtocolError.isRetryable_eq_false_iff,
      Rejection.permanent_ofCode_iff] at hpass
    exact hverdict byte hpass rfl
  | failed _ herror =>
    cases he
    exact herror
  | completed => cases he

end Fate

namespace History

variable {progress final : Progress} {network after : Net.Network Stream}
  {episodes : List Episode}

/-- Every attempt of a history meets one of the fates. -/
theorem fate (h : client.History progress network episodes final after)
    (hunused : network.Unused) : ∀ episode ∈ episodes, Fate episode.result episode.verdict? := by
  induction h with
  | nil => simp
  | cons hattempt _ hlogs _ ih =>
    obtain ⟨hnext, hfate⟩ := fate_of_attempt hunused hattempt hlogs
    exact List.forall_mem_cons.2 ⟨hfate, ih hnext⟩

/-- The progress counts the attempts. -/
theorem attempts (h : client.History progress network episodes final after) :
    final.attempts = progress.attempts + .ofNat episodes.length := by
  induction h with
  | nil => exact (UInt32.add_zero _).symm
  | cons _ _ _ _ ih =>
    rw [ih, List.length_cons, UInt32.ofNat_add, UInt32.add_assoc, UInt32.add_comm 1]
    rfl

/-- The network has all attempts on record. -/
theorem asked (h : client.History progress network episodes final after) :
    client.Asked network episodes.length after := by
  induction h with
  | nil => exact asked_nil _
  | cons _ hasked _ _ ih =>
    rw [List.length_cons, Nat.add_comm]
    exact hasked.trans ih

end History

/-! ## Runs -/

/-- With so many retries a run makes some attempts and ends with the last. -/
structure Until (retries : Nat) (earlier : List Episode) (last : Episode) : Prop where
  /-- There are not more retries than allowed. -/
  fits : earlier.length ≤ retries
  /-- The earlier attempts failed with errors that may pass. -/
  passes : ∀ episode ∈ earlier, ∃ e, episode.result = .error e ∧ e.error.isRetryable = true
  /-- If the last one failed, then for good, or no retry is left. -/
  ends : ∀ e, last.result = .error e → earlier.length = retries ∨ e.error.isRetryable = false

/-- A run is a history, and ends with its last attempt. -/
theorem runFrom_history (client : Client) (retries : Nat) (progress : Progress)
    {network : Net.Network Stream} (hunused : network.Unused) :
    ∃ earlier last final after, client.History progress network (earlier ++ [last]) final after ∧
      client.runFromOn retries progress network = (conclude final last.result, after) ∧
      Until retries earlier last := by
  -- The induction is on the retries that are left, which every further attempt uses up one by one.
  induction retries using Nat.strongRecOn generalizing progress network with
  | ind retries ih =>
    obtain ⟨confirmed, result, next, logs, hattempt, hnext, hlogs, -⟩ :=
      client.attempt_outcome progress.framesAcknowledged hunused
    have hasked := client.attempt_asked progress.framesAcknowledged network
    rw [hattempt] at hasked
    rcases runFromOn_eq retries hattempt with
      ⟨hrun, hend⟩ | ⟨error, fewer, rfl, hpass, rfl, hrun⟩
    · exact ⟨[], ⟨result, logs⟩, _, next, .cons hattempt hasked hlogs (.nil _ _), hrun,
        Nat.zero_le _, by simp, fun e he => (hend e he).imp_left Eq.symm⟩
    · obtain ⟨earlier, last, final, after, hhistory, hrest, huntil⟩ :=
        ih fewer (Nat.lt_succ_self fewer) _ hnext
      exact ⟨⟨.error error, logs⟩ :: earlier, last, final, after,
        .cons hattempt hasked hlogs hhistory, hrun.trans hrest, Nat.succ_le_succ huntil.fits,
        List.forall_mem_cons.2 ⟨⟨error, rfl, hpass⟩, huntil.passes⟩,
        fun e he => (huntil.ends e he).imp_left (congrArg Nat.succ)⟩

namespace Until

variable {retries : Nat} {earlier before after : List Episode} {last episode : Episode}

/-- An attempt that another one follows failed with an error that may pass. -/
theorem isRetryable (h : Until retries earlier last)
    (hsplit : earlier ++ [last] = before ++ episode :: after) (hafter : after ≠ []) :
    ∃ e, episode.result = .error e ∧ e.error.isRetryable = true := by
  refine h.passes episode ?_
  have hdrop := congrArg List.dropLast hsplit
  rw [List.dropLast_concat, List.dropLast_append_of_ne_nil (List.cons_ne_nil _ _),
    List.dropLast_cons_of_ne_nil hafter] at hdrop
  rw [hdrop]
  exact List.mem_append_right _ List.mem_cons_self

/-- The last attempt, if it failed with an error that may pass, used up the retries. -/
theorem length_eq (h : Until retries earlier last)
    (hsplit : earlier ++ [last] = before ++ [episode]) {e : SessionError}
    (he : episode.result = .error e) (hpass : e.error.isRetryable = true) :
    before.length = retries := by
  obtain ⟨rfl, hlast⟩ := List.append_inj' hsplit rfl
  cases hlast
  rcases h.ends e he with hlength | hfail
  · exact hlength
  · rw [hpass] at hfail
    cases hfail

end Until

theorem retries_none {client : Client} (h : client.reconnect = none) : client.retries = 0 := by
  rw [retries, h]

theorem retries_some {client : Client} {policy : ReconnectPolicy}
    (h : client.reconnect = some policy) : client.retries = policy.maxAttempts.toNat - 1 := by
  rw [retries, h]

/-- The retries fit into the counter of attempts. -/
theorem retries_lt (client : Client) : client.retries + 1 < UInt32.size := by
  rcases hreconnect : client.reconnect with _ | policy
  · rw [retries_none hreconnect]
    decide
  · have hmax := policy.maxAttempts.toNat_lt
    rw [retries_some hreconnect]
    simp only [UInt32.size]
    omega

/-- The attempts of a run of a client, and how the run ends. -/
structure Retries (client : Client) (episodes : List Episode)
    (result : Except RunError Summary) : Prop where
  /-- The attempts that are reported are those that were made. -/
  attempts : (reached result).attempts.toNat = episodes.length
  /-- Without a policy there is one attempt. -/
  once : client.reconnect = none → episodes.length = 1
  /-- With a policy there is one, or as many as the policy allows. -/
  bounded : ∀ policy, client.reconnect = some policy →
    episodes.length ≤ max 1 policy.maxAttempts.toNat
  /-- Every attempt but the last failed with an error that may pass. -/
  passes : ∀ episode ∈ episodes.dropLast, ∃ e, episode.result = .error e ∧
    e.error.isRetryable = true
  /-- A run that succeeds does so by its last attempt, and reports how that one's ping ended. -/
  ok : ∀ summary, result = .ok summary → ∃ report,
    episodes.getLast?.map Episode.result = some (.ok report) ∧ summary.ping = report.ping
  /-- It does so as soon as an attempt succeeds. -/
  completes : ∀ episode ∈ episodes, ∀ report, episode.result = .ok report →
    ∃ summary, result = .ok summary
  /-- A run that fails returns the error of its last attempt, and had a reason to give up. -/
  error : ∀ e, result = .error e →
    episodes.getLast?.map Episode.result = some (.error e.error) ∧
      (client.reconnect = none ∨
        (∃ policy, client.reconnect = some policy ∧
          policy.maxAttempts.toNat ≤ episodes.length) ∨
        e.error.error.Permanent)
  /-- It does so as soon as its last attempt fails. -/
  fails : ∀ e, episodes.getLast?.map Episode.result = some (.error e) →
    ∃ runError, result = .error runError ∧ runError.error = e
  /-- Every octet but one that answers a handshake rejects it. -/
  rejected : ∀ episode ∈ episodes, ∀ byte, episode.verdict? = some byte → byte ≠ 0x01 →
    episode.result = .error ⟨.handshake, .handshakeRejected (.ofCode byte)⟩
  /-- There is no attempt after one that was rejected for good. -/
  stops : ∀ before episode after, episodes = before ++ episode :: after →
    ∀ byte ∈ Rejection.permanentCodes, episode.verdict? = some byte → after = []
  /-- There is one after every other attempt that failed, as long as the policy allows it. -/
  goesOn : ∀ before episode after, episodes = before ++ episode :: after →
    (∃ e, episode.result = .error e) →
    (∀ byte ∈ Rejection.permanentCodes, episode.verdict? ≠ some byte) →
    ∀ policy, client.reconnect = some policy → before.length + 1 < policy.maxAttempts.toNat →
    after ≠ []

/-- What the last attempt makes of a run. -/
theorem Until.retries {client : Client} {earlier : List Episode} {last : Episode}
    {final : Progress} (h : Until client.retries earlier last)
    (hfate : ∀ episode ∈ earlier ++ [last], Fate episode.result episode.verdict?)
    (hattempts : final.attempts = .ofNat (earlier ++ [last]).length) :
    client.Retries (earlier ++ [last]) (conclude final last.result) := by
  have hlength := h.fits
  have hcount : (earlier ++ [last]).length = earlier.length + 1 := by simp
  exact {
    attempts := by
      have hfits := client.retries_lt
      rw [reached_conclude, hattempts, UInt32.toNat_ofNat_of_lt' (by omega)]
    once := fun hnone => by
      rw [retries_none hnone] at hlength
      omega
    bounded := fun policy hsome => by
      rw [retries_some hsome] at hlength
      omega
    passes := by
      rw [List.dropLast_concat]
      exact h.passes
    ok := fun summary hsummary => by
      rw [List.getLast?_concat]
      cases hresult : last.result with
      | ok report =>
        rw [hresult] at hsummary
        cases hsummary
        exact ⟨report, congrArg some hresult, rfl⟩
      | error e =>
        rw [hresult] at hsummary
        cases hsummary
    completes := fun episode hmem report hreport => by
      rcases List.mem_append.1 hmem with hmem | hmem
      · obtain ⟨e, he, -⟩ := h.passes episode hmem
        rw [hreport] at he
        cases he
      · rw [← List.mem_singleton.1 hmem, hreport]
        exact ⟨_, rfl⟩
    error := fun e he => by
      rw [List.getLast?_concat]
      cases hresult : last.result with
      | ok report =>
        rw [hresult] at he
        cases he
      | error failure =>
        rw [hresult] at he
        cases he
        refine ⟨congrArg some hresult, ?_⟩
        rcases h.ends failure hresult with hexhausted | hpermanent
        · rcases hreconnect : client.reconnect with _ | policy
          · exact .inl rfl
          · rw [retries_some hreconnect] at hexhausted
            exact .inr (.inl ⟨policy, rfl, by omega⟩)
        · exact .inr (.inr (failure.error.isRetryable_eq_false_iff.1 hpermanent))
    fails := fun e he => by
      rw [List.getLast?_concat] at he
      rw [show last.result = .error e from Option.some.inj he]
      exact ⟨_, rfl, rfl⟩
    rejected := fun episode hmem byte hverdict hbyte =>
      (hfate episode hmem).eq_rejected hverdict hbyte
    stops := fun before episode after hsplit byte hbyte hverdict => by
      by_contra hafter
      -- The rejection would be an error that may pass, if there were another attempt.
      obtain ⟨e, he, hpass⟩ := h.isRetryable hsplit hafter
      have hmem : episode ∈ earlier ++ [last] := by simp [hsplit]
      have hne : byte ≠ 0x01 := by
        rintro rfl
        revert hbyte
        decide
      cases he.symm.trans ((hfate episode hmem).eq_rejected hverdict hne)
      rw [← Rejection.permanent_ofCode_iff, ← ProtocolError.isRetryable_eq_false_iff,
        hpass] at hbyte
      cases hbyte
    goesOn := fun before episode after hsplit herror hverdict policy hsome hmore => by
      rintro rfl
      -- Without another attempt the retries are used up, against what the policy allows.
      obtain ⟨e, he⟩ := herror
      have hmem : episode ∈ earlier ++ [last] := by simp [hsplit]
      have hall := h.length_eq hsplit he ((hfate episode hmem).isRetryable he hverdict)
      rw [retries_some hsome] at hall
      omega }

/-- In a run of a client over a network the attempts that are reported are those that were made, at
most as many as the policy allows, and the network has as many on record. The run ends with the first attempt that succeeds, or fails for
good, or exhausts the policy, and returns what that one returned. No attempt follows one whose
handshake was rejected for magic, version or authentication, and one follows every other that
failed, as long as the policy allows it. -/
theorem run_retries (client : Client) (network : Net.Network Stream) (hunused : network.Unused) :
    let outcome := client.runOn network
    ∃ episodes, client.History {} network episodes (reached outcome.1) outcome.2 ∧
      client.Retries episodes outcome.1 ∧
      client.Asked network (reached outcome.1).attempts.toNat outcome.2 := by
  intro outcome
  obtain ⟨earlier, last, final, after, hhistory, hrun, huntil⟩ :=
    client.runFrom_history client.retries {} hunused
  have hattempts : final.attempts = .ofNat (earlier ++ [last]).length :=
    hhistory.attempts.trans (UInt32.zero_add _)
  have houtcome : outcome = (conclude final last.result, after) := hrun
  have hretries := huntil.retries (hhistory.fate hunused) hattempts
  rw [houtcome, hretries.attempts, reached_conclude]
  exact ⟨_, hhistory, hretries, hhistory.asked⟩

/-- A run that completes in its third attempt. In the first the handshake was rejected with an octet
that has no name, and in the second there was no connection. -/
theorem run_retries_twice :
    let device : DeviceId := ⟨⟨[1, 2, 3, 4, 5, 6], rfl⟩⟩
    let client : Client :=
      { host := "127.0.0.1", port := 9090, options := {},
        credentials := { key := ⟨[107], by decide⟩, deviceId := device },
        plan := { frames := 1, ping := true }, sample := ⟨5, 0, 0, 0, 0, 0, 0, 0, 0, 7, device⟩,
        reconnect := some ⟨3, .zero, .zero⟩ }
    let network : Net.Network Stream :=
      { hosts := fun _ => .ok [], dials := [none, some .refused],
        links := [⟨[.chunk [0x42]], [], [], []⟩,
          ⟨[.chunk [0x01, 0x03, 0x02, 0x03, 0x01]], [], [], []⟩],
        spare := ⟨[], [], [], []⟩, spareNonce := ⟨[0, 0, 0, 0, 0, 0, 0, 1], rfl⟩ }
    let outcome := client.runOn network
    network.Unused ∧
      outcome.1 = .ok { attempts := 3, framesAcknowledged := 1, ping := some .acknowledged } ∧
      outcome.2.tried = List.replicate 3 ⟨.v4 127 0 0 1, 9090⟩ ∧
      ∃ episodes, client.History {} network episodes (reached outcome.1) outcome.2 ∧
        client.Retries episodes outcome.1 ∧
        client.Asked network (reached outcome.1).attempts.toNat outcome.2 :=
  ⟨⟨by simp, rfl⟩, by decide +kernel, by decide +kernel, run_retries _ _ ⟨by simp, rfl⟩⟩

end Client

end TelemetryLink
