import PlayServer.Bytes

/-!
# SHA-256 and key derivation

The hash function SHA-256, the keyed hash HMAC built on it, and the first block of PBKDF2 with
that keyed hash. A derived key here is always one block, 32 bytes, long.
-/

namespace PlayServer.Sha256

/-- The chaining state: eight words. -/
structure State where
  a : UInt32
  b : UInt32
  c : UInt32
  d : UInt32
  e : UInt32
  f : UInt32
  g : UInt32
  h : UInt32
  deriving DecidableEq, Repr

/-- The state before the first block. -/
def initial : State :=
  ⟨0x6a09e667, 0xbb67ae85, 0x3c6ef372, 0xa54ff53a, 0x510e527f, 0x9b05688c, 0x1f83d9ab, 0x5be0cd19⟩

/-- The word added in each round. -/
def roundConstants : List UInt32 :=
  [0x428a2f98, 0x71374491, 0xb5c0fbcf, 0xe9b5dba5, 0x3956c25b, 0x59f111f1, 0x923f82a4, 0xab1c5ed5,
   0xd807aa98, 0x12835b01, 0x243185be, 0x550c7dc3, 0x72be5d74, 0x80deb1fe, 0x9bdc06a7, 0xc19bf174,
   0xe49b69c1, 0xefbe4786, 0x0fc19dc6, 0x240ca1cc, 0x2de92c6f, 0x4a7484aa, 0x5cb0a9dc, 0x76f988da,
   0x983e5152, 0xa831c66d, 0xb00327c8, 0xbf597fc7, 0xc6e00bf3, 0xd5a79147, 0x06ca6351, 0x14292967,
   0x27b70a85, 0x2e1b2138, 0x4d2c6dfc, 0x53380d13, 0x650a7354, 0x766a0abb, 0x81c2c92e, 0x92722c85,
   0xa2bfe8a1, 0xa81a664b, 0xc24b8b70, 0xc76c51a3, 0xd192e819, 0xd6990624, 0xf40e3585, 0x106aa070,
   0x19a4c116, 0x1e376c08, 0x2748774c, 0x34b0bcb5, 0x391c0cb3, 0x4ed8aa4a, 0x5b9cca4f, 0x682e6ff3,
   0x748f82ee, 0x78a5636f, 0x84c87814, 0x8cc70208, 0x90befffa, 0xa4506ceb, 0xbef9a3f7, 0xc67178f2]

/-- Rotation to the right. -/
def rotateRight (x n : UInt32) : UInt32 := (x >>> n) ||| (x <<< (32 - n))

/-- The big-endian words of a byte string; up to three bytes left over at its end do not count. -/
def words : Bytes → List UInt32
  | a :: b :: c :: d :: rest =>
    (a.toUInt32 <<< 24 ||| b.toUInt32 <<< 16 ||| c.toUInt32 <<< 8 ||| d.toUInt32) :: words rest
  | _ => []

/-- One more word of the message schedule, from the sixteen before it. -/
def extend (w : Array UInt32) : Array UInt32 :=
  let back (n : Nat) := w.getD (w.size - n) 0
  let small0 := rotateRight (back 15) 7 ^^^ rotateRight (back 15) 18 ^^^ (back 15 >>> 3)
  let small1 := rotateRight (back 2) 17 ^^^ rotateRight (back 2) 19 ^^^ (back 2 >>> 10)
  w.push (back 16 + small0 + back 7 + small1)

/-- The sixty-four words of the message schedule of a block. -/
def schedule (block : Bytes) : Array UInt32 := Nat.repeat extend 48 (words block).toArray

/-- One round, with the sum of its constant and its schedule word. -/
def round (s : State) (kw : UInt32) : State :=
  let big1 := rotateRight s.e 6 ^^^ rotateRight s.e 11 ^^^ rotateRight s.e 25
  let choice := (s.e &&& s.f) ^^^ (~~~s.e &&& s.g)
  let t1 := s.h + big1 + choice + kw
  let big0 := rotateRight s.a 2 ^^^ rotateRight s.a 13 ^^^ rotateRight s.a 22
  let majority := (s.a &&& s.b) ^^^ (s.a &&& s.c) ^^^ (s.b &&& s.c)
  ⟨t1 + big0 + majority, s.a, s.b, s.c, s.d + t1, s.e, s.f, s.g⟩

/-- Takes one block of 64 bytes into the state. -/
def compress (s : State) (block : Bytes) : State :=
  let kws := List.zipWith (· + ·) roundConstants (schedule block).toList
  let t := kws.foldl round s
  ⟨s.a + t.a, s.b + t.b, s.c + t.c, s.d + t.d, s.e + t.e, s.f + t.f, s.g + t.g, s.h + t.h⟩

/-- Takes a number of blocks into the state. -/
def absorb : (blocks : Nat) → State → Bytes → State
  | 0, s, _ => s
  | blocks + 1, s, bs => absorb blocks (compress s (bs.take 64)) (bs.drop 64)

/-- The end of a message: its bytes, a one bit, zeros, and the length in bits of the whole message,
of which `before` bytes have been taken already. -/
def pad (before : Nat) (bs : Bytes) : Bytes :=
  let zeros := (64 - (bs.length + 9) % 64) % 64
  bs ++ 0x80 :: List.replicate zeros 0 ++ BigEndian.encode 8 ((before + bs.length) * 8)

/-- The 32 bytes of a state. -/
def State.bytes (s : State) : Bytes :=
  [s.a, s.b, s.c, s.d, s.e, s.f, s.g, s.h].flatMap fun (w : UInt32) =>
    [(w >>> 24).toUInt8, (w >>> 16).toUInt8, (w >>> 8).toUInt8, w.toUInt8]

/-- Takes the end of a message into a state that has taken `before` bytes of it. -/
def finish (s : State) (before : Nat) (bs : Bytes) : State :=
  let padded := pad before bs
  absorb (padded.length / 64) s padded

/-- The SHA-256 hash of a message. -/
def hash (message : Bytes) : Bytes := (finish initial 0 message).bytes

/-- A key made ready: the states after the inner and the outer key block. -/
structure Key where
  inner : State
  outer : State

/-- Makes a key ready; one longer than a block is hashed first. -/
def Key.ofBytes (key : Bytes) : Key :=
  let short := if 64 < key.length then hash key else key
  let block := short ++ List.replicate (64 - short.length) 0
  ⟨compress initial (block.map (· ^^^ 0x36)), compress initial (block.map (· ^^^ 0x5c))⟩

/-- The keyed hash of a message. -/
def Key.hmac (k : Key) (message : Bytes) : State :=
  finish k.outer 64 (finish k.inner 64 message).bytes

/-- Adds two states bit by bit without carry. -/
def State.xor (s t : State) : State :=
  ⟨s.a ^^^ t.a, s.b ^^^ t.b, s.c ^^^ t.c, s.d ^^^ t.d, s.e ^^^ t.e, s.f ^^^ t.f, s.g ^^^ t.g,
    s.h ^^^ t.h⟩

/-- Applies the keyed hash again and again, adding up the results. -/
def Key.chain (k : Key) : (rounds : Nat) → (last sum : State) → State
  | 0, _, sum => sum
  | rounds + 1, last, sum =>
    let next := k.hmac last.bytes
    chain k rounds next (sum.xor next)

/-- The key of 32 bytes derived from a password and a salt. -/
def derive (password salt : Bytes) (iterations : Nat) : Bytes :=
  let k := Key.ofBytes password
  let first := k.hmac (salt ++ BigEndian.encode 4 1)
  (k.chain (iterations - 1) first first).bytes

/-- A derived key is 32 bytes long. -/
theorem length_derive (password salt : Bytes) (iterations : Nat) :
    (derive password salt iterations).length = 32 := by
  simp [derive, State.bytes]

end PlayServer.Sha256
