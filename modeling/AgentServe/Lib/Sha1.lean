import AgentServe.Lib.Sha256

/-!
# SHA-1

The digest of a list of bytes, in hexadecimal. The message is padded and cut into
blocks as for SHA-256, and every block is compressed into the five words of the
state by eighty rounds.
-/

set_option autoImplicit false

namespace AgentServe.Lib.Sha1

/-- The five words of the compression state. -/
structure State where
  a : UInt32
  b : UInt32
  c : UInt32
  d : UInt32
  e : UInt32

def initial : State := ⟨0x67452301, 0xefcdab89, 0x98badcfe, 0x10325476, 0xc3d2e1f0⟩

def rotl (x : UInt32) (n : UInt32) : UInt32 := (x <<< n) ||| (x >>> (32 - n))

def parity (x y z : UInt32) : UInt32 := x ^^^ y ^^^ z

/-- The four stages of twenty rounds, with the mixing and the constant of each. -/
def stages : List ((UInt32 → UInt32 → UInt32 → UInt32) × UInt32) := [
  (Sha256.choose, 0x5a827999), (parity, 0x6ed9eba1), (Sha256.majority, 0x8f1bbcdc),
  (parity, 0xca62c1d6)]

/-- The mixings and constants of the eighty rounds. -/
def rounds : List ((UInt32 → UInt32 → UInt32 → UInt32) × UInt32) :=
  stages.flatMap (List.replicate 20)

/-- One round, with its mixing, its constant and its schedule word. -/
def round (s : State) (r : ((UInt32 → UInt32 → UInt32 → UInt32) × UInt32) × UInt32) : State :=
  ⟨rotl s.a 5 + r.1.1 s.b s.c s.d + s.e + r.1.2 + r.2, s.a, rotl s.b 30, s.c, s.d⟩

/-- Extend a schedule, kept with its latest word first. -/
def extend : Nat → List UInt32 → List UInt32
  | 0, latest => latest
  | n + 1, latest =>
    extend n (rotl (latest.getD 2 0 ^^^ latest.getD 7 0 ^^^ latest.getD 13 0 ^^^
      latest.getD 15 0) 1 :: latest)

/-- The eighty schedule words of a block. -/
def schedule (block : List UInt32) : List UInt32 := (extend 64 block.reverse).reverse

def compress (s : State) (block : List UInt32) : State :=
  let t := (rounds.zip (schedule block)).foldl round s
  ⟨s.a + t.a, s.b + t.b, s.c + t.c, s.d + t.d, s.e + t.e⟩

/-- The words of the digest of a message. -/
def digest (message : List UInt8) : List UInt32 :=
  let ws := Sha256.words (Sha256.pad message)
  let s := (Sha256.blocks (ws.length / 16) ws).foldl compress initial
  [s.a, s.b, s.c, s.d, s.e]

/-- The last `n` hexadecimal digits of a number. -/
def hexDigits : Nat → Nat → List Char
  | 0, _ => []
  | n + 1, v => hexDigits n (v / 16) ++ [Nat.digitChar (v % 16)]

/-- The digest of a message in hexadecimal. -/
def hexdigest (message : List UInt8) : List Char :=
  (digest message).flatMap fun w => hexDigits 8 w.toNat

theorem length_hexDigits (n v : Nat) : (hexDigits n v).length = n := by
  induction n generalizing v with
  | zero => rfl
  | succ n ih => rw [hexDigits, List.length_append, ih, List.length_singleton]

theorem length_hexdigest (message : List UInt8) : (hexdigest message).length = 40 := by
  simp [hexdigest, digest, length_hexDigits]

/-- The digest of the empty message. -/
example : hexdigest [] = "da39a3ee5e6b4b0d3255bfef95601890afd80709".toList := by
  decide +kernel

end AgentServe.Lib.Sha1
