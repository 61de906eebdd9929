import Mathlib.Algebra.Group.Nat.Defs

/-!
# SHA-256

The digest of a list of bytes, as an integer. The message is padded to whole
blocks of sixteen words, and every block is compressed into the eight words of
the state by sixty-four rounds.
-/

set_option autoImplicit false

namespace AgentServe.Lib.Sha256

/-- The round constants. -/
def roundConstants : List UInt32 := [
  0x428a2f98, 0x71374491, 0xb5c0fbcf, 0xe9b5dba5, 0x3956c25b, 0x59f111f1, 0x923f82a4, 0xab1c5ed5,
  0xd807aa98, 0x12835b01, 0x243185be, 0x550c7dc3, 0x72be5d74, 0x80deb1fe, 0x9bdc06a7, 0xc19bf174,
  0xe49b69c1, 0xefbe4786, 0x0fc19dc6, 0x240ca1cc, 0x2de92c6f, 0x4a7484aa, 0x5cb0a9dc, 0x76f988da,
  0x983e5152, 0xa831c66d, 0xb00327c8, 0xbf597fc7, 0xc6e00bf3, 0xd5a79147, 0x06ca6351, 0x14292967,
  0x27b70a85, 0x2e1b2138, 0x4d2c6dfc, 0x53380d13, 0x650a7354, 0x766a0abb, 0x81c2c92e, 0x92722c85,
  0xa2bfe8a1, 0xa81a664b, 0xc24b8b70, 0xc76c51a3, 0xd192e819, 0xd6990624, 0xf40e3585, 0x106aa070,
  0x19a4c116, 0x1e376c08, 0x2748774c, 0x34b0bcb5, 0x391c0cb3, 0x4ed8aa4a, 0x5b9cca4f, 0x682e6ff3,
  0x748f82ee, 0x78a5636f, 0x84c87814, 0x8cc70208, 0x90befffa, 0xa4506ceb, 0xbef9a3f7, 0xc67178f2]

/-- The eight words of the compression state. -/
structure State where
  a : UInt32
  b : UInt32
  c : UInt32
  d : UInt32
  e : UInt32
  f : UInt32
  g : UInt32
  h : UInt32

def initial : State :=
  ⟨0x6a09e667, 0xbb67ae85, 0x3c6ef372, 0xa54ff53a, 0x510e527f, 0x9b05688c, 0x1f83d9ab, 0x5be0cd19⟩

def rotr (x : UInt32) (n : UInt32) : UInt32 := (x >>> n) ||| (x <<< (32 - n))

/-- The mixing of earlier words into a later word of the schedule. -/
def smallSigma0 (x : UInt32) : UInt32 := rotr x 7 ^^^ rotr x 18 ^^^ (x >>> 3)

def smallSigma1 (x : UInt32) : UInt32 := rotr x 17 ^^^ rotr x 19 ^^^ (x >>> 10)

def bigSigma0 (x : UInt32) : UInt32 := rotr x 2 ^^^ rotr x 13 ^^^ rotr x 22

def bigSigma1 (x : UInt32) : UInt32 := rotr x 6 ^^^ rotr x 11 ^^^ rotr x 25

def choose (x y z : UInt32) : UInt32 := (x &&& y) ^^^ ((~~~ x) &&& z)

def majority (x y z : UInt32) : UInt32 := (x &&& y) ^^^ (x &&& z) ^^^ (y &&& z)

/-- One round, with its constant and its schedule word. -/
def round (s : State) (kw : UInt32 × UInt32) : State :=
  let t1 := s.h + bigSigma1 s.e + choose s.e s.f s.g + kw.1 + kw.2
  let t2 := bigSigma0 s.a + majority s.a s.b s.c
  ⟨t1 + t2, s.a, s.b, s.c, s.d + t1, s.e, s.f, s.g⟩

/-- Extend a schedule, kept with its latest word first. -/
def extend : Nat → List UInt32 → List UInt32
  | 0, latest => latest
  | n + 1, latest =>
    extend n ((smallSigma1 (latest.getD 1 0) + latest.getD 6 0 + smallSigma0 (latest.getD 14 0) +
      latest.getD 15 0) :: latest)

/-- The sixty-four schedule words of a block. -/
def schedule (block : List UInt32) : List UInt32 := (extend 48 block.reverse).reverse

def compress (s : State) (block : List UInt32) : State :=
  let t := (roundConstants.zip (schedule block)).foldl round s
  ⟨s.a + t.a, s.b + t.b, s.c + t.c, s.d + t.d, s.e + t.e, s.f + t.f, s.g + t.g, s.h + t.h⟩

/-- The `n` bytes of a number, most significant first. -/
def bigEndian : Nat → Nat → List UInt8
  | 0, _ => []
  | n + 1, v => bigEndian n (v / 256) ++ [UInt8.ofNat v]

/-- The message with a one bit, zero bytes up to the last eight bytes of a block, and the
message's length in bits. -/
def pad (message : List UInt8) : List UInt8 :=
  message ++ 0x80 :: List.replicate ((119 - message.length % 64) % 64) 0 ++
    bigEndian 8 (8 * message.length)

/-- Big-endian words of a list of bytes. -/
def words : List UInt8 → List UInt32
  | w :: x :: y :: z :: rest =>
    ((w.toUInt32 <<< 24) ||| (x.toUInt32 <<< 16) ||| (y.toUInt32 <<< 8) ||| z.toUInt32) ::
      words rest
  | _ => []

/-- The first `n` blocks of sixteen words. -/
def blocks : Nat → List UInt32 → List (List UInt32)
  | 0, _ => []
  | n + 1, ws => ws.take 16 :: blocks n (ws.drop 16)

/-- The digest of a message, as an integer. -/
def digest (message : List UInt8) : Nat :=
  let ws := words (pad message)
  let s := (blocks (ws.length / 16) ws).foldl compress initial
  [s.a, s.b, s.c, s.d, s.e, s.f, s.g, s.h].foldl (fun v w => v * 2 ^ 32 + w.toNat) 0

/-- The digest of the empty message. -/
example : digest [] = 0xe3b0c44298fc1c149afbf4c8996fb92427ae41e4649b934ca495991b7852b855 := by
  decide +kernel

end AgentServe.Lib.Sha256
