import TelemetryLink.Bytes

/-!
# SHA-256

The hash SHA-256 on byte strings: padding to whole blocks, the message schedule, and the
compression of each block into a state of eight words. A digest always has `size` octets.
-/

namespace TelemetryLink.Digest.Sha256

/-- Octets in a digest. -/
def size : Nat := 32

/-- Octets in a block. -/
def blockSize : Nat := 64

/-- The eight chaining words. -/
structure State where
  a : UInt32
  b : UInt32
  c : UInt32
  d : UInt32
  e : UInt32
  f : UInt32
  g : UInt32
  h : UInt32

/-- The chaining words before the first block. -/
def State.initial : State :=
  ⟨0x6a09e667, 0xbb67ae85, 0x3c6ef372, 0xa54ff53a, 0x510e527f, 0x9b05688c, 0x1f83d9ab, 0x5be0cd19⟩

/-- The round constants, one a round. -/
def roundConstants : List UInt32 := [
  0x428a2f98, 0x71374491, 0xb5c0fbcf, 0xe9b5dba5, 0x3956c25b, 0x59f111f1, 0x923f82a4, 0xab1c5ed5,
  0xd807aa98, 0x12835b01, 0x243185be, 0x550c7dc3, 0x72be5d74, 0x80deb1fe, 0x9bdc06a7, 0xc19bf174,
  0xe49b69c1, 0xefbe4786, 0x0fc19dc6, 0x240ca1cc, 0x2de92c6f, 0x4a7484aa, 0x5cb0a9dc, 0x76f988da,
  0x983e5152, 0xa831c66d, 0xb00327c8, 0xbf597fc7, 0xc6e00bf3, 0xd5a79147, 0x06ca6351, 0x14292967,
  0x27b70a85, 0x2e1b2138, 0x4d2c6dfc, 0x53380d13, 0x650a7354, 0x766a0abb, 0x81c2c92e, 0x92722c85,
  0xa2bfe8a1, 0xa81a664b, 0xc24b8b70, 0xc76c51a3, 0xd192e819, 0xd6990624, 0xf40e3585, 0x106aa070,
  0x19a4c116, 0x1e376c08, 0x2748774c, 0x34b0bcb5, 0x391c0cb3, 0x4ed8aa4a, 0x5b9cca4f, 0x682e6ff3,
  0x748f82ee, 0x78a5636f, 0x84c87814, 0x8cc70208, 0x90befffa, 0xa4506ceb, 0xbef9a3f7, 0xc67178f2]

/-- A word rotated right by `n` bits, `0 < n < 32`. -/
def rotateRight (x : UInt32) (n : UInt32) : UInt32 :=
  (x >>> n) ||| (x <<< (32 - n))

/-- The message followed by a one bit, zeros to the end of a block, and its length in bits. -/
def pad (message : Bytes) : Bytes :=
  -- One octet for the bit and eight for the length leave 55 octets of the last block.
  let zeros := (119 - message.length % 64) % 64
  let bits := message.length * 8
  message ++ [0x80] ++ List.replicate zeros 0 ++ Bytes.be32 (bits / 4294967296) ++ Bytes.be32 bits

/-- The big-endian words of a block. -/
def words : Bytes → List UInt32
  | a :: b :: c :: d :: rest => UInt32.ofNat (Bytes.ofBe [a, b, c, d]) :: words rest
  | _ => []

/-- `n` further words of the schedule; the words so far stand latest first. -/
def extend : Nat → List UInt32 → List UInt32
  | 0, ws => ws
  | n + 1, ws =>
    let x := ws.getD 1 0
    let y := ws.getD 14 0
    let s1 := rotateRight x 17 ^^^ rotateRight x 19 ^^^ (x >>> 10)
    let s0 := rotateRight y 7 ^^^ rotateRight y 18 ^^^ (y >>> 3)
    -- The words 2, 7, 15 and 16 places back.
    extend n ((s1 + ws.getD 6 0 + s0 + ws.getD 15 0) :: ws)

/-- The 64 words of a block's schedule. -/
def schedule (block : Bytes) : List UInt32 :=
  (extend 48 (words block).reverse).reverse

/-- One round on the schedule word `w` with the constant `k`. -/
def round (s : State) (w k : UInt32) : State :=
  let s1 := rotateRight s.e 6 ^^^ rotateRight s.e 11 ^^^ rotateRight s.e 25
  let choice := (s.e &&& s.f) ^^^ (~~~s.e &&& s.g)
  let t1 := s.h + s1 + choice + k + w
  let s0 := rotateRight s.a 2 ^^^ rotateRight s.a 13 ^^^ rotateRight s.a 22
  let majority := (s.a &&& s.b) ^^^ (s.a &&& s.c) ^^^ (s.b &&& s.c)
  ⟨t1 + (s0 + majority), s.a, s.b, s.c, s.d + t1, s.e, s.f, s.g⟩

/-- The chaining words after a block. -/
def compress (s : State) (block : Bytes) : State :=
  let t := (List.zip (schedule block) roundConstants).foldl (fun s wk => round s wk.1 wk.2) s
  ⟨s.a + t.a, s.b + t.b, s.c + t.c, s.d + t.d, s.e + t.e, s.f + t.f, s.g + t.g, s.h + t.h⟩

/-- The chaining words after `n` blocks of a padded message. -/
def absorb : Nat → State → Bytes → State
  | 0, s, _ => s
  | n + 1, s, bytes => absorb n (compress s (bytes.take blockSize)) (bytes.drop blockSize)

/-- The chaining words as octets. -/
def State.toBytes (s : State) : Bytes :=
  [s.a, s.b, s.c, s.d, s.e, s.f, s.g, s.h].flatMap fun word => Bytes.be32 word.toNat

/-- The digest of a message. -/
def hash (message : Bytes) : Bytes :=
  let padded := pad message
  (absorb (padded.length / blockSize) State.initial padded).toBytes

/-- Every digest has 32 octets. -/
@[simp]
theorem length_hash (message : Bytes) : (hash message).length = size := rfl

end TelemetryLink.Digest.Sha256
