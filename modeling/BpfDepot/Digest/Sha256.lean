/-! # The 256-bit hash of a sequence of bytes

A message is padded with a one bit, zeros and its length in bits to a multiple of
64 bytes. Each block of 64 bytes is spread over 64 words, and 64 rounds stir them
into a state of eight words. The hash is the state after the last block. -/

namespace BpfDepot.Sha256

/-- The eight words that the rounds stir. -/
structure State where
  (a b c d e f g h : UInt32)
  deriving DecidableEq, Repr

/-- The state before the first block: the first bits of the fractional parts of
the square roots of the first eight primes. -/
def State.initial : State where
  a := 0x6a09e667
  b := 0xbb67ae85
  c := 0x3c6ef372
  d := 0xa54ff53a
  e := 0x510e527f
  f := 0x9b05688c
  g := 0x1f83d9ab
  h := 0x5be0cd19

/-- One word for each round: the first bits of the fractional parts of the cube
roots of the first 64 primes. -/
def roundConstants : List UInt32 :=
  [0x428a2f98, 0x71374491, 0xb5c0fbcf, 0xe9b5dba5, 0x3956c25b, 0x59f111f1, 0x923f82a4, 0xab1c5ed5,
   0xd807aa98, 0x12835b01, 0x243185be, 0x550c7dc3, 0x72be5d74, 0x80deb1fe, 0x9bdc06a7, 0xc19bf174,
   0xe49b69c1, 0xefbe4786, 0x0fc19dc6, 0x240ca1cc, 0x2de92c6f, 0x4a7484aa, 0x5cb0a9dc, 0x76f988da,
   0x983e5152, 0xa831c66d, 0xb00327c8, 0xbf597fc7, 0xc6e00bf3, 0xd5a79147, 0x06ca6351, 0x14292967,
   0x27b70a85, 0x2e1b2138, 0x4d2c6dfc, 0x53380d13, 0x650a7354, 0x766a0abb, 0x81c2c92e, 0x92722c85,
   0xa2bfe8a1, 0xa81a664b, 0xc24b8b70, 0xc76c51a3, 0xd192e819, 0xd6990624, 0xf40e3585, 0x106aa070,
   0x19a4c116, 0x1e376c08, 0x2748774c, 0x34b0bcb5, 0x391c0cb3, 0x4ed8aa4a, 0x5b9cca4f, 0x682e6ff3,
   0x748f82ee, 0x78a5636f, 0x84c87814, 0x8cc70208, 0x90befffa, 0xa4506ceb, 0xbef9a3f7, 0xc67178f2]

/-- Rotates a word to the right. -/
def rotate (x : UInt32) (n : UInt32) : UInt32 := (x >>> n) ||| (x <<< (32 - n))

/-- One round with its constant and its word of the message. -/
def State.round (s : State) (constant word : UInt32) : State :=
  let stirred := rotate s.e 6 ^^^ rotate s.e 11 ^^^ rotate s.e 25
  let chosen := (s.e &&& s.f) ^^^ (~~~s.e &&& s.g)
  let first := s.h + stirred + chosen + constant + word
  let spread := rotate s.a 2 ^^^ rotate s.a 13 ^^^ rotate s.a 22
  let majority := (s.a &&& s.b) ^^^ (s.a &&& s.c) ^^^ (s.b &&& s.c)
  { a := first + (spread + majority), b := s.a, c := s.b, d := s.c
    e := s.d + first, f := s.e, g := s.f, h := s.g }

/-- The sum of two states, word by word. -/
def State.add (s t : State) : State where
  a := s.a + t.a
  b := s.b + t.b
  c := s.c + t.c
  d := s.d + t.d
  e := s.e + t.e
  f := s.f + t.f
  g := s.g + t.g
  h := s.h + t.h

/-- The byte at a position, zero past the end. -/
def byteAt (bytes : ByteArray) (i : Nat) : UInt32 :=
  if inside : i < bytes.size then bytes[i].toUInt32 else 0

/-- The word of four bytes at a position, most significant byte first. -/
def wordAt (bytes : ByteArray) (i : Nat) : UInt32 :=
  (byteAt bytes i <<< 24) ||| (byteAt bytes (i + 1) <<< 16) ||| (byteAt bytes (i + 2) <<< 8)
    ||| byteAt bytes (i + 3)

/-- The word of a schedule that lies a number of places before its end. -/
def fromEnd (words : Array UInt32) (back : Nat) : UInt32 :=
  if inside : words.size - back < words.size then words[words.size - back] else 0

/-- Adds the next word to a schedule of sixteen or more. -/
def extend (words : Array UInt32) : Array UInt32 :=
  let x := fromEnd words 15
  let y := fromEnd words 2
  let small := rotate x 7 ^^^ rotate x 18 ^^^ (x >>> 3)
  let large := rotate y 17 ^^^ rotate y 19 ^^^ (y >>> 10)
  words.push (fromEnd words 16 + small + fromEnd words 7 + large)

/-- The 64 words of the block at a position. -/
def schedule (bytes : ByteArray) (start : Nat) : Array UInt32 :=
  (List.range 48).foldl (fun words _ => extend words)
    (Array.ofFn (n := 16) fun i => wordAt bytes (start + 4 * i))

/-- The state after the block at a position. -/
def State.compress (s : State) (bytes : ByteArray) (start : Nat) : State :=
  s.add ((roundConstants.zip (schedule bytes start).toList).foldl
    (fun t round => t.round round.1 round.2) s)

/-- The bytes of a number, the given count of them, most significant first. -/
def bigEndian : Nat → Nat → List UInt8
  | 0, _ => []
  | count + 1, n => UInt8.ofNat (n / Nat.pow 256 count) :: bigEndian count n

/-- What follows a message of the given length before it is cut into blocks. -/
def padding (length : Nat) : List UInt8 :=
  0x80 :: List.replicate ((119 - length % 64) % 64) 0 ++ bigEndian 8 (8 * length)

/-- The message with its padding. -/
def pad (message : ByteArray) : ByteArray :=
  (padding message.size).foldl ByteArray.push message

/-- The 32 bytes of a state. -/
def State.toList (s : State) : List UInt8 :=
  [s.a, s.b, s.c, s.d, s.e, s.f, s.g, s.h].flatMap fun word => bigEndian 4 word.toNat

/-- The hash of a message. -/
def hash (message : ByteArray) : List UInt8 :=
  let padded := pad message
  ((List.range (padded.size / 64)).foldl (fun s i => s.compress padded (64 * i))
    State.initial).toList

/-- The padding fills the last block. -/
theorem length_padding (length : Nat) : (length + (padding length).length) % 64 = 0 := by
  have count (n m : Nat) : (bigEndian n m).length = n := by
    induction n with
    | zero => rfl
    | succ n ih => simp [bigEndian, ih]
  simp only [padding, List.cons_append, List.length_cons, List.length_append,
    List.length_replicate, count]
  omega

end BpfDepot.Sha256
