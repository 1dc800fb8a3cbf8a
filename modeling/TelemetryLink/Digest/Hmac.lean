import TelemetryLink.Digest.Sha256

/-!
# Keyed digests

HMAC over SHA-256. Keys longer than a block are hashed first, shorter ones are
filled up with zeros.
-/

namespace TelemetryLink.Digest

/-- The key as exactly one block. -/
def blockKey (key : Bytes) : Bytes :=
  -- A hash is shorter than a block, so that both kinds are filled up alike.
  let short := if key.length > Sha256.blockSize then Sha256.hash key else key
  short ++ List.replicate (Sha256.blockSize - short.length) 0

/-- The HMAC-SHA-256 of `data` under `key`. -/
def hmac (key data : Bytes) : Block Sha256.size :=
  let k := blockKey key
  let inner := Sha256.hash (k.map (· ^^^ 0x36) ++ data)
  ⟨Sha256.hash (k.map (· ^^^ 0x5c) ++ inner), Sha256.length_hash _⟩

end TelemetryLink.Digest
