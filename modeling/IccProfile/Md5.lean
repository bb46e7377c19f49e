import IccProfile.ProfileId

/-!
# MD5

The digest of a byte string, on which profile identities rest. The message is
filled up to whole blocks of 64 bytes and absorbed block by block into four words.
-/

set_option autoImplicit false

namespace IccProfile.Md5

/-- The words that a message is absorbed into. -/
structure State where
  a : UInt32
  b : UInt32
  c : UInt32
  d : UInt32
deriving DecidableEq, Inhabited

/-- The words before the first block. -/
def State.initial : State := ⟨0x67452301, 0xefcdab89, 0x98badcfe, 0x10325476⟩

/-- The word added in each step: the whole part of `2 ^ 32 * |sin (i + 1)|`. -/
def addends : Array UInt32 :=
  #[0xd76aa478, 0xe8c7b756, 0x242070db, 0xc1bdceee,
    0xf57c0faf, 0x4787c62a, 0xa8304613, 0xfd469501,
    0x698098d8, 0x8b44f7af, 0xffff5bb1, 0x895cd7be,
    0x6b901122, 0xfd987193, 0xa679438e, 0x49b40821,
    0xf61e2562, 0xc040b340, 0x265e5a51, 0xe9b6c7aa,
    0xd62f105d, 0x02441453, 0xd8a1e681, 0xe7d3fbc8,
    0x21e1cde6, 0xc33707d6, 0xf4d50d87, 0x455a14ed,
    0xa9e3e905, 0xfcefa3f8, 0x676f02d9, 0x8d2a4c8a,
    0xfffa3942, 0x8771f681, 0x6d9d6122, 0xfde5380c,
    0xa4beea44, 0x4bdecfa9, 0xf6bb4b60, 0xbebfbc70,
    0x289b7ec6, 0xeaa127fa, 0xd4ef3085, 0x04881d05,
    0xd9d4d039, 0xe6db99e5, 0x1fa27cf8, 0xc4ac5665,
    0xf4292244, 0x432aff97, 0xab9423a7, 0xfc93a039,
    0x655b59c3, 0x8f0ccc92, 0xffeff47d, 0x85845dd1,
    0x6fa87e4f, 0xfe2ce6e0, 0xa3014314, 0x4e0811a1,
    0xf7537e82, 0xbd3af235, 0x2ad7d2bb, 0xeb86d391]

/-- The rotation of each step: four amounts in turn, others in each group of sixteen steps. -/
def rotation (i : Nat) : UInt32 :=
  match i / 16, i % 4 with
  | 0, 0 => 7
  | 0, 1 => 12
  | 0, 2 => 17
  | 0, _ => 22
  | 1, 0 => 5
  | 1, 1 => 9
  | 1, 2 => 14
  | 1, _ => 20
  | 2, 0 => 4
  | 2, 1 => 11
  | 2, 2 => 16
  | 2, _ => 23
  | _, 0 => 6
  | _, 1 => 10
  | _, 2 => 15
  | _, _ => 21

/-- The word of the block that a step reads. -/
def wordIndex (i : Nat) : Nat :=
  match i / 16 with
  | 0 => i
  | 1 => (5 * i + 1) % 16
  | 2 => (3 * i + 5) % 16
  | _ => 7 * i % 16

/-- The mix of three words in a step. -/
def mix (i : Nat) (b c d : UInt32) : UInt32 :=
  match i / 16 with
  | 0 => (b &&& c) ||| (~~~b &&& d)
  | 1 => (d &&& b) ||| (~~~d &&& c)
  | 2 => b ^^^ c ^^^ d
  | _ => c ^^^ (b ||| ~~~d)

/-- A word turned to the left. -/
def rotateLeft (w n : UInt32) : UInt32 := (w <<< n) ||| (w >>> (32 - n))

/-- One of the 64 steps of a block. -/
def step (block : Array UInt32) (s : State) (i : Nat) : State :=
  let sum := s.a + mix i s.b s.c s.d + addends.getD i 0 + block.getD (wordIndex i) 0
  ⟨s.d, s.b + rotateLeft sum (rotation i), s.b, s.c⟩

/-- The sixteen words of a block, least significant byte first. -/
def blockWords (block : Bytes) : Array UInt32 :=
  ((Bytes.splitEvery 4 16 block).map fun b => UInt32.ofNat (Bytes.toNat b.reverse)).toArray

/-- Absorbs a block of 64 bytes. -/
def absorb (s : State) (block : Bytes) : State :=
  let t := (List.range 64).foldl (step (blockWords block)) s
  ⟨s.a + t.a, s.b + t.b, s.c + t.c, s.d + t.d⟩

/-- The message filled up to whole blocks: a one bit, zeros, the length in bits. -/
def padded (message : Bytes) : Bytes :=
  message ++ 0x80 :: List.replicate ((119 - message.length % 64) % 64) 0
    ++ (Bytes.ofNat 8 (message.length * 8)).reverse

/-- The four words of a message. -/
def finalState (message : Bytes) : State :=
  (Bytes.chunks 64 (padded message)).foldl absorb State.initial

/-- The digest of a message. -/
def digest (message : Bytes) : ProfileId :=
  let s := finalState message
  ⟨[s.a, s.b, s.c, s.d].flatMap fun w => (Bytes.ofWord32 w).reverse, by simp⟩

end IccProfile.Md5
