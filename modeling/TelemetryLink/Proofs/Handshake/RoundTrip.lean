import TelemetryLink.Handshake

/-!
# Handshakes are read as they were written

Every message is read back from its 52 octets, and any 52 octets are those of the message that is
read from them. One that was built under a key verifies under it, and whatever verifies, with the
magic and the version of the protocol, was built.

- `ofBytes_toBytes`, `ofBytes_eq_ok_iff`: the two directions.
- `verify_eq_true_iff`: a message verifies if its tag is that of what it signs.
- `verify_iff_built`: verifying against building, and what follows for both.
-/

namespace TelemetryLink

namespace Handshake

section

variable (message : Handshake)

theorem length_signedPart : message.signedPart.length = signedSize := by
  have hid : message.deviceId.bytes.length = 6 := message.deviceId.block.property
  simp [signedPart, signed, signedSize, message.magic.property, hid, message.nonce.property]

theorem length_toBytes : message.toBytes.length = size := by
  rw [toBytes, List.length_append, length_signedPart, message.tag.property]
  rfl

/-- A message is read back field by field. -/
theorem ofBytes_toBytes : ofBytes message.toBytes = .ok message := by
  have hsize := message.length_toBytes
  obtain ⟨⟨magic, hmagic⟩, version, flags, ⟨⟨deviceId, hdeviceId⟩⟩, ⟨nonce, hnonce⟩, tag⟩ := message
  match magic, hmagic, deviceId, hdeviceId, nonce, hnonce with
  | [_, _, _, _], _, [_, _, _, _, _, _], _, [_, _, _, _, _, _, _, _], _ =>
    -- With the parts before it written out, only the length of the tag is not seen by evaluation.
    have htag : tag.val.take 32 = tag.val := List.take_of_length_le (Nat.le_of_eq tag.property)
    rw [ofBytes, dif_pos hsize]
    exact congrArg (fun tag => Except.ok (Handshake.mk _ _ _ _ _ tag)) (Subtype.ext htag)

/-- The collector accepts what was built under its key. -/
theorem verify_build (key : AuthKey) (deviceId : DeviceId) (flags : Flags) (nonce : Nonce) :
    (build key deviceId flags nonce).verify key = true :=
  decide_eq_true rfl

end

/-! ## From octets to messages -/

/-- Octets of the size of a message are one. -/
theorem exists_toBytes_eq {bytes : Bytes} (h : bytes.length = size) :
    ∃ message : Handshake, bytes = message.toBytes := by
  match bytes, h with
  | m0 :: m1 :: m2 :: m3 :: version :: flags :: d0 :: d1 :: d2 :: d3 :: d4 :: d5 :: n0 :: n1 ::
      n2 :: n3 :: n4 :: n5 :: n6 :: n7 :: tag, h =>
    have htag : tag.length = Digest.Sha256.size := by
      simp only [List.length_cons, size] at h
      rw [Digest.Sha256.size]
      omega
    exact ⟨⟨⟨[m0, m1, m2, m3], rfl⟩, version, ⟨flags⟩, ⟨⟨[d0, d1, d2, d3, d4, d5], rfl⟩⟩,
      ⟨[n0, n1, n2, n3, n4, n5, n6, n7], rfl⟩, ⟨tag, htag⟩⟩, rfl⟩

theorem ofBytes_eq_ok_iff {bytes : Bytes} {message : Handshake} :
    ofBytes bytes = .ok message ↔ bytes = message.toBytes := by
  constructor
  · intro h
    have hsize : bytes.length = size := by
      by_cases hsize : bytes.length = size
      · exact hsize
      · rw [ofBytes, dif_neg hsize] at h
        cases h
    obtain ⟨other, rfl⟩ := exists_toBytes_eq hsize
    rw [other.ofBytes_toBytes, Except.ok.injEq] at h
    rw [h]
  · rintro rfl
    exact message.ofBytes_toBytes

/-- Only the number of octets matters to whether they are a message. -/
theorem exists_ofBytes_iff {bytes : Bytes} :
    (∃ message, ofBytes bytes = .ok message) ↔ bytes.length = size := by
  constructor
  · rintro ⟨message, h⟩
    rw [ofBytes_eq_ok_iff.1 h, length_toBytes]
  · intro h
    obtain ⟨message, rfl⟩ := exists_toBytes_eq h
    exact ⟨message, message.ofBytes_toBytes⟩

/-- What the tag covers stands in front of it. -/
theorem take_toBytes (message : Handshake) :
    message.toBytes.take signedSize = message.signedPart := by
  rw [toBytes, ← message.length_signedPart, List.take_left]

/-! ## Tags -/

theorem verify_eq_true_iff {message : Handshake} {key : AuthKey} :
    message.verify key = true ↔ message.tag = Digest.hmac key.bytes message.signedPart :=
  decide_eq_true_iff

/-- A message that verifies, with the magic and the version of the protocol, is the one that is
built of its other fields. -/
theorem verify_iff_eq_build {message : Handshake} {key : AuthKey} :
    message.verify key = true ∧ message.magic = protocolMagic ∧
        message.version = protocolVersion ↔
      message = build key message.deviceId message.flags message.nonce := by
  rw [verify_eq_true_iff]
  obtain ⟨magic, version, flags, deviceId, nonce, tag⟩ := message
  constructor
  · rintro ⟨htag, hmagic, hversion⟩
    cases hmagic
    cases hversion
    exact congrArg (Handshake.mk _ _ _ _ _) htag
  · intro h
    rw [build, Handshake.mk.injEq] at h
    obtain ⟨rfl, rfl, -, -, -, htag⟩ := h
    exact ⟨htag, rfl, rfl⟩

/-- Under one key a signed part has one tag. -/
theorem eq_of_verify {key : AuthKey} {message other : Handshake}
    (hpart : message.signedPart = other.signedPart) (hmessage : message.verify key = true)
    (hother : other.verify key = true) : message.toBytes = other.toBytes := by
  rw [verify_eq_true_iff] at hmessage hother
  rw [toBytes, toBytes, hmessage, hother, hpart]

theorem buildRaw_eq_ok_iff {key : AuthKey} {id : Bytes} {flags : Flags} {nonce : Nonce}
    {message : Handshake} :
    buildRaw key id flags nonce = .ok message ↔
      ∃ h : id.length = deviceIdSize, message = build key ⟨⟨id, h⟩⟩ flags nonce := by
  unfold buildRaw DeviceId.ofBytes
  by_cases h : id.length = deviceIdSize
  · rw [dif_pos h]
    exact ⟨fun hok => ⟨h, (Except.ok.inj hok).symm⟩, fun ⟨_, hbuilt⟩ => congrArg _ hbuilt.symm⟩
  · rw [dif_neg h]
    exact ⟨nofun, fun ⟨hsize, _⟩ => absurd hsize h⟩

/-- Verifying accepts exactly what building makes. Fifty-two octets verify under a key, with the
magic and the version of the protocol, if and only if they are what is built under the key of the
fields that are read from them. So what is built verifies, shows the fields that it was built of and
is read back; no other tag verifies for the same twenty octets before it; any fifty-two octets are
read, and a message is built for every device id of six. -/
theorem verify_iff_built :
    (∀ key bytes message, ofBytes bytes = .ok message →
      (message.verify key = true ∧ message.magic.val = [0x52, 0x47, 0x57, 0x31] ∧
          message.version = 1 ↔
        bytes = (build key message.deviceId message.flags message.nonce).toBytes)) ∧
    (∀ key deviceId (word : UInt32) nonce,
      let message := build key deviceId (.ofWord word) nonce
      message.verify key = true ∧ message.magic.val = [0x52, 0x47, 0x57, 0x31] ∧
        message.version = 1 ∧ message.flags.byte.toNat = word.toNat % 256 ∧
        message.deviceId = deviceId ∧ message.nonce = nonce ∧
        ofBytes message.toBytes = .ok message) ∧
    (∀ key bytes bytes' message message', ofBytes bytes = .ok message →
      ofBytes bytes' = .ok message' → bytes.take 20 = bytes'.take 20 →
      message.verify key = true → message'.verify key = true → bytes = bytes') ∧
    (∀ bytes, (∃ message, ofBytes bytes = .ok message) ↔ bytes.length = 52) ∧
    ∀ key id flags nonce, (∃ message, buildRaw key id flags nonce = .ok message) ↔
      id.length = 6 := by
  refine ⟨fun key bytes message hread => ?_, fun key deviceId word nonce => ?_,
    fun key bytes bytes' message message' hread hread' hpart hverify hverify' => ?_,
    fun bytes => exists_ofBytes_iff, fun key id flags nonce => ⟨?_, fun h => ?_⟩⟩
  · have hmagic : message.magic.val = [0x52, 0x47, 0x57, 0x31] ↔ message.magic = protocolMagic :=
      ⟨fun h => Subtype.ext h, fun h => congrArg Subtype.val h⟩
    obtain rfl := ofBytes_eq_ok_iff.1 hread
    rw [hmagic]
    refine verify_iff_eq_build.trans ⟨fun h => congrArg toBytes h, fun h => ?_⟩
    -- Reading takes equal octets back to equal messages.
    rw [← ofBytes_eq_ok_iff, ofBytes_toBytes] at h
    exact Except.ok.inj h
  · exact ⟨verify_build key deviceId _ nonce, rfl, rfl, UInt32.toNat_toUInt8 word, rfl, rfl,
      ofBytes_toBytes _⟩
  · obtain rfl := ofBytes_eq_ok_iff.1 hread
    obtain rfl := ofBytes_eq_ok_iff.1 hread'
    have hsigned : message.signedPart = message'.signedPart := by
      rw [← message.take_toBytes, ← message'.take_toBytes]
      exact hpart
    exact eq_of_verify hsigned hverify hverify'
  · rintro ⟨message, h⟩
    exact (buildRaw_eq_ok_iff.1 h).1
  · exact ⟨_, buildRaw_eq_ok_iff.2 ⟨h, rfl⟩⟩

/-- The handshake of a device, and the same with the last octet of its tag changed. -/
theorem verify_iff_built_tampered :
    let key : AuthKey := ⟨[0x73], by decide⟩
    let deviceId : DeviceId := ⟨⟨[0xDE, 0xAD, 0xBE, 0xEF, 0, 1], rfl⟩⟩
    let nonce : Nonce := ⟨[1, 2, 3, 4, 5, 6, 7, 8], rfl⟩
    let message := build key deviceId (.ofWord 0x1FF) nonce
    let tampered := { message with
      tag := ⟨message.tag.val.set 31 0, by rw [List.length_set, message.tag.property]⟩ }
    ofBytes tampered.toBytes = .ok tampered ∧ tampered.verify key = false ∧
      (tampered.verify key = true ∧ tampered.magic.val = [0x52, 0x47, 0x57, 0x31] ∧
          tampered.version = 1 ↔ tampered.toBytes = message.toBytes) ∧
      message.verify key = true ∧ message.flags.byte.toNat = 255 := by
  intro key deviceId nonce message tampered
  obtain ⟨hiff, hbuilt, -⟩ := verify_iff_built
  obtain ⟨hverify, -, -, hflags, -⟩ := hbuilt key deviceId 0x1FF nonce
  have hread := tampered.ofBytes_toBytes
  exact ⟨hread, by decide +kernel, hiff key _ _ hread, hverify, hflags⟩

end Handshake

end TelemetryLink
