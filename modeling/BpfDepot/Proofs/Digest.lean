import BpfDepot.Manifest
import BpfDepot.Proofs.Json.Text

/-! # Hashes in natural numbers

A word of a hash is a natural number below `UInt32.size`, and each step of the hash is a step on
such numbers: sums are taken modulo that size, and what is shifted out is dropped. One round, the
words of a block and a whole block agree with the same on numbers, and so does the hash of any
message (`Sha256.hash_eq_numbers`). Numbers are what a proof can reckon with when it depends on what
a digest is, also that of a manifest (`Manifest.digest_eq_numbers`).
-/

namespace BpfDepot.Sha256

/-- The eight words of a state as numbers. -/
structure Numbers where
  (a b c d e f g h : Nat)

/-- The numbers of the words of a state. -/
def State.numbers (s : State) : Numbers where
  a := s.a.toNat
  b := s.b.toNat
  c := s.c.toNat
  d := s.d.toNat
  e := s.e.toNat
  f := s.f.toNat
  g := s.g.toNat
  h := s.h.toNat

namespace Numbers

/-! ## The steps -/

/-- The number of a word that is rotated to the right. -/
def rotate (x n : Nat) : Nat := x >>> n ||| x <<< (32 - n) % UInt32.size

/-- One round with its constant and its word of the message. -/
def round (s : Numbers) (constant word : Nat) : Numbers :=
  let stirred := rotate s.e 6 ^^^ rotate s.e 11 ^^^ rotate s.e 25
  let chosen := (s.e &&& s.f) ^^^ ((UInt32.size - 1 - s.e) &&& s.g)
  let first := s.h + stirred + chosen + constant + word
  let spread := rotate s.a 2 ^^^ rotate s.a 13 ^^^ rotate s.a 22
  let majority := (s.a &&& s.b) ^^^ (s.a &&& s.c) ^^^ (s.b &&& s.c)
  { a := (first + (spread + majority)) % UInt32.size, b := s.a, c := s.b, d := s.c
    e := (s.d + first) % UInt32.size, f := s.e, g := s.f, h := s.g }

/-- The sum of two states, word by word. -/
def add (s t : Numbers) : Numbers where
  a := (s.a + t.a) % UInt32.size
  b := (s.b + t.b) % UInt32.size
  c := (s.c + t.c) % UInt32.size
  d := (s.d + t.d) % UInt32.size
  e := (s.e + t.e) % UInt32.size
  f := (s.f + t.f) % UInt32.size
  g := (s.g + t.g) % UInt32.size
  h := (s.h + t.h) % UInt32.size

/-- The number of the word that some bytes begin with, most significant byte first. -/
def word (bytes : List Nat) : Nat :=
  bytes.getD 0 0 <<< 24 % UInt32.size ||| bytes.getD 1 0 <<< 16 % UInt32.size |||
    bytes.getD 2 0 <<< 8 % UInt32.size ||| bytes.getD 3 0

/-- Adds the next word to a schedule that lists the latest word first. -/
def extend (words : List Nat) : List Nat :=
  let x := words.getD 14 0
  let y := words.getD 1 0
  let small := rotate x 7 ^^^ rotate x 18 ^^^ x >>> 3
  let large := rotate y 17 ^^^ rotate y 19 ^^^ y >>> 10
  (words.getD 15 0 + small + words.getD 6 0 + large) % UInt32.size :: words

/-- The 64 words of the block that some bytes begin with, the latest one first. -/
def schedule (bytes : List Nat) : List Nat :=
  (List.range 48).foldl (fun words _ => extend words)
    ((List.range 16).map fun i => word (bytes.drop (4 * i))).reverse

/-- The state after the block that some bytes begin with. -/
def compress (s : Numbers) (bytes : List Nat) : Numbers :=
  s.add (((roundConstants.map UInt32.toNat).zip (schedule bytes).reverse).foldl
    (fun t round => t.round round.1 round.2) s)

/-- The 32 bytes of a state. -/
def toList (s : Numbers) : List UInt8 :=
  [s.a, s.b, s.c, s.d, s.e, s.f, s.g, s.h].flatMap (bigEndian 4)

/-- The hash of a message. -/
def hash (message : List UInt8) : List UInt8 :=
  let padded := (message ++ padding message.length).map UInt8.toNat
  ((List.range (padded.length / 64)).foldl (fun s i => s.compress (padded.drop (64 * i)))
    State.initial.numbers).toList

end Numbers

/-! ## One block -/

theorem toNat_rotate (x : UInt32) {n : UInt32} (some : 0 < n.toNat) (few : n.toNat < 32) :
    (rotate x n).toNat = Numbers.rotate x.toNat n.toNat := by
  have rest : (32 - n).toNat = 32 - n.toNat :=
    UInt32.toNat_sub_of_le _ _ (UInt32.le_iff_toNat_le.mpr (Nat.le_of_lt few))
  rw [rotate, UInt32.toNat_or, UInt32.toNat_shiftRight, UInt32.toNat_shiftLeft, rest,
    Nat.mod_eq_of_lt few, Nat.mod_eq_of_lt (by omega : 32 - n.toNat < 32)]
  rfl

/-- A round on words is the round on their numbers. -/
theorem State.numbers_round (s : State) (constant word : UInt32) :
    (s.round constant word).numbers = s.numbers.round constant.toNat word.toNat := by
  simp (disch := decide) [State.round, State.numbers, Numbers.round, toNat_rotate, UInt32.size]

theorem State.numbers_add (s t : State) : (s.add t).numbers = s.numbers.add t.numbers := by
  simp [State.add, State.numbers, Numbers.add, UInt32.size]

/-! ## The words of a block -/

/-- The numbers of some bytes. -/
def numbersOf (bytes : ByteArray) : List Nat := bytes.data.toList.map UInt8.toNat

/-- The numbers of some words, the last one first. -/
def latest (words : Array UInt32) : List Nat := (words.toList.map UInt32.toNat).reverse

variable {words : Array UInt32}

theorem toNat_byteAt (bytes : ByteArray) (i : Nat) :
    (byteAt bytes i).toNat = (numbersOf bytes).getD i 0 := by
  unfold byteAt numbersOf
  rw [List.getD_eq_getElem?_getD, List.getElem?_map]
  split
  · next inside =>
    rw [List.getElem?_eq_getElem (l := bytes.data.toList) inside]
    rfl
  · next outside =>
    rw [List.getElem?_eq_none (l := bytes.data.toList) (Nat.le_of_not_lt outside)]
    rfl

theorem toNat_wordAt (bytes : ByteArray) (i : Nat) :
    (wordAt bytes i).toNat = Numbers.word ((numbersOf bytes).drop i) := by
  simp [wordAt, Numbers.word, toNat_byteAt, UInt32.size, List.getD_eq_getElem?_getD]

theorem toNat_fromEnd {back : Nat} (inside : back < words.size) :
    (fromEnd words (back + 1)).toNat = (latest words).getD back 0 := by
  have before : words.size - (back + 1) < words.size := by omega
  have place : words.toList.length - 1 - back = words.size - (back + 1) := by
    rw [Array.length_toList]
    omega
  rw [fromEnd, dif_pos before, latest, List.getD_eq_getElem?_getD,
    List.getElem?_reverse (by simpa using inside), List.length_map, place]
  simp [before]

theorem latest_push (words : Array UInt32) (word : UInt32) :
    latest (words.push word) = word.toNat :: latest words := by
  simp [latest]

theorem latest_extend (long : 16 ≤ words.size) :
    latest (extend words) = Numbers.extend (latest words) := by
  have word {back : Nat} (few : back < 16) :
      (fromEnd words (back + 1)).toNat = (latest words).getD back 0 :=
    toNat_fromEnd (Nat.lt_of_lt_of_le few long)
  simp (disch := decide) [extend, latest_push, Numbers.extend, toNat_rotate, word, UInt32.size]

/-- A schedule is extended any number of times as its numbers are. -/
theorem latest_foldl_extend (count : List Nat) (long : 16 ≤ words.size) :
    latest (count.foldl (fun words _ => extend words) words) =
      count.foldl (fun words _ => Numbers.extend words) (latest words) := by
  induction count generalizing words with
  | nil => rfl
  | cons i rest ih =>
      -- a schedule only grows, so that the words that are looked back at are there
      have longer : 16 ≤ (extend words).size := by
        rw [extend, Array.size_push]
        exact Nat.le_succ_of_le long
      rw [List.foldl_cons, List.foldl_cons, ih longer, latest_extend long]

theorem latest_schedule (bytes : ByteArray) (start : Nat) :
    latest (schedule bytes start) = Numbers.schedule ((numbersOf bytes).drop start) := by
  have first : latest (Array.ofFn (n := 16) fun i => wordAt bytes (start + 4 * i)) =
      ((List.range 16).map fun i =>
        Numbers.word (((numbersOf bytes).drop start).drop (4 * i))).reverse := by
    simp only [latest, Array.toList_ofFn, List.drop_drop, ← toNat_wordAt]
    rfl
  rw [schedule, latest_foldl_extend _ (by simp), first]
  rfl

/-! ## The whole message -/

/-- A block is stirred in as its numbers are. -/
theorem State.numbers_compress (s : State) (bytes : ByteArray) (start : Nat) :
    (s.compress bytes start).numbers = s.numbers.compress ((numbersOf bytes).drop start) := by
  have rounds (pairs : List (UInt32 × UInt32)) :
      (pairs.foldl (fun t round => t.round round.1 round.2) s).numbers =
        (pairs.map (Prod.map UInt32.toNat UInt32.toNat)).foldl
          (fun t round => t.round round.1 round.2) s.numbers := by
    rw [List.foldl_map]
    exact (List.foldl_hom State.numbers fun t round => (t.numbers_round _ _).symm).symm
  have words : (Numbers.schedule ((numbersOf bytes).drop start)).reverse =
      (schedule bytes start).toList.map UInt32.toNat := by
    rw [← latest_schedule, latest, List.reverse_reverse]
  rw [compress, State.numbers_add, rounds, Numbers.compress, words, List.zip_map]

/-- The padding follows the message. -/
theorem numbersOf_pad (message : ByteArray) :
    numbersOf (pad message) =
      (message.data.toList ++ padding message.data.toList.length).map UInt8.toNat := by
  have pushed (bytes : ByteArray) (rest : List UInt8) :
      (rest.foldl ByteArray.push bytes).data.toList = bytes.data.toList ++ rest := by
    induction rest generalizing bytes with
    | nil => exact (List.append_nil _).symm
    | cons b rest ih =>
        rw [List.foldl_cons, ih, ByteArray.data_push, Array.toList_push, List.append_assoc]
        rfl
  exact congrArg (List.map UInt8.toNat) (pushed message _)

theorem State.toList_numbers (s : State) : s.numbers.toList = s.toList := rfl

/-- **Hashes in numbers.** The hash of a message is what is reckoned from the numbers of its
bytes. -/
theorem hash_eq_numbers (message : ByteArray) :
    hash message = Numbers.hash message.data.toList := by
  have blocks (count : List Nat) (s : State) :
      (count.foldl (fun s i => s.compress (pad message) (64 * i)) s).numbers =
        count.foldl (fun s i => s.compress ((numbersOf (pad message)).drop (64 * i)))
          s.numbers :=
    (List.foldl_hom State.numbers fun s i => (s.numbers_compress _ _).symm).symm
  have size : (pad message).size = (numbersOf (pad message)).length := by
    rw [numbersOf, List.length_map]
    rfl
  rw [hash, ← State.toList_numbers, blocks, size, numbersOf_pad]
  rfl

end BpfDepot.Sha256

namespace BpfDepot

namespace Digest

theorem ofBytes_eq_numbers (bytes : ByteArray) :
    ofBytes bytes = algorithm ++ Text.hex (Sha256.Numbers.hash bytes.data.toList) := by
  rw [ofBytes, Sha256.hash_eq_numbers]

theorem ofBytes_toUTF8 (text : String) : ofBytes text.toUTF8 =
    algorithm ++ Text.hex (Sha256.Numbers.hash (Json.bytesOf text.toList)) := by
  rw [ofBytes_eq_numbers, String.toUTF8_eq_toByteArray, Json.toByteArray_eq,
    List.toList_data_toByteArray]

end Digest

/-- **Digests in numbers.** The digest of a manifest is what is reckoned from the characters of
its document. -/
theorem Manifest.digest_eq_numbers (m : Manifest) : m.digest = Digest.algorithm ++
    Text.hex (Sha256.Numbers.hash (Json.bytesOf (codec.write m).compact)) := by
  have document : m.document.toList = (codec.write m).compact := String.toList_ofList
  rw [← document]
  exact Digest.ofBytes_toUTF8 m.document

end BpfDepot
