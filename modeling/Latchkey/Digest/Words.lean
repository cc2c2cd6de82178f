/-
Sixteen words of 64 bits: the message of one compression step and one row of a larger
block. Words are written in little-endian byte order.
-/

namespace Latchkey.Digest

def littleEndian : (count number : Nat) → List UInt8
  | 0, _ => []
  | count + 1, number => UInt8.ofNat number :: littleEndian count (number / 256)

@[simp] theorem length_littleEndian (count number : Nat) :
    (littleEndian count number).length = count := by
  induction count generalizing number with
  | zero => rfl
  | succ count ih => simp [littleEndian, ih]

def ofLittleEndian (bytes : List UInt8) : Nat :=
  bytes.foldr (fun byte high => byte.toNat + 256 * high) 0

structure Words where
  w0 : UInt64
  w1 : UInt64
  w2 : UInt64
  w3 : UInt64
  w4 : UInt64
  w5 : UInt64
  w6 : UInt64
  w7 : UInt64
  w8 : UInt64
  w9 : UInt64
  w10 : UInt64
  w11 : UInt64
  w12 : UInt64
  w13 : UInt64
  w14 : UInt64
  w15 : UInt64
  deriving DecidableEq, Repr

namespace Words

def zero : Words := ⟨0, 0, 0, 0, 0, 0, 0, 0, 0, 0, 0, 0, 0, 0, 0, 0⟩

def toList (words : Words) : List UInt64 :=
  [words.w0, words.w1, words.w2, words.w3, words.w4, words.w5, words.w6, words.w7, words.w8,
    words.w9, words.w10, words.w11, words.w12, words.w13, words.w14, words.w15]

def get (words : Words) : Nat → UInt64
  | 0 => words.w0
  | 1 => words.w1
  | 2 => words.w2
  | 3 => words.w3
  | 4 => words.w4
  | 5 => words.w5
  | 6 => words.w6
  | 7 => words.w7
  | 8 => words.w8
  | 9 => words.w9
  | 10 => words.w10
  | 11 => words.w11
  | 12 => words.w12
  | 13 => words.w13
  | 14 => words.w14
  | _ => words.w15

def ofList (list : List UInt64) : Words :=
  match list with
  | [w0, w1, w2, w3, w4, w5, w6, w7, w8, w9, w10, w11, w12, w13, w14, w15] =>
      ⟨w0, w1, w2, w3, w4, w5, w6, w7, w8, w9, w10, w11, w12, w13, w14, w15⟩
  | _ => ofPadded (list ++ List.replicate 16 0)
where
  ofPadded : List UInt64 → Words
    | w0 :: w1 :: w2 :: w3 :: w4 :: w5 :: w6 :: w7 :: w8 :: w9 :: w10 :: w11 :: w12 :: w13 :: w14 :: w15 :: _ =>
        ⟨w0, w1, w2, w3, w4, w5, w6, w7, w8, w9, w10, w11, w12, w13, w14, w15⟩
    | _ => zero

def xor (left right : Words) : Words :=
  ⟨left.w0 ^^^ right.w0, left.w1 ^^^ right.w1, left.w2 ^^^ right.w2, left.w3 ^^^ right.w3,
    left.w4 ^^^ right.w4, left.w5 ^^^ right.w5, left.w6 ^^^ right.w6, left.w7 ^^^ right.w7,
    left.w8 ^^^ right.w8, left.w9 ^^^ right.w9, left.w10 ^^^ right.w10, left.w11 ^^^ right.w11,
    left.w12 ^^^ right.w12, left.w13 ^^^ right.w13, left.w14 ^^^ right.w14,
    left.w15 ^^^ right.w15⟩

end Words

def wordsOfBytes : (count : Nat) → List UInt8 → List UInt64
  | 0, _ => []
  | count + 1, bytes =>
      UInt64.ofNat (ofLittleEndian (bytes.take 8)) :: wordsOfBytes count (bytes.drop 8)

def bytesOfWords (words : List UInt64) : List UInt8 :=
  words.flatMap fun word => littleEndian 8 word.toNat

/-- Rotation to the right by `count` bits, which lies strictly between 0 and 64. -/
@[inline] def rotateRight (word count : UInt64) : UInt64 :=
  (word >>> count) ||| (word <<< (64 - count))

end Latchkey.Digest
