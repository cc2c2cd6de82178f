/-
BLAKE2b without a key, for outputs of up to 64 bytes.
-/

import Latchkey.Digest.Words

namespace Latchkey.Digest.Blake2b

def initial : List UInt64 :=
  [0x6A09E667F3BCC908, 0xBB67AE8584CAA73B, 0x3C6EF372FE94F82B, 0xA54FF53A5F1D36F1,
    0x510E527FADE682D1, 0x9B05688C2B3E6C1F, 0x1F83D9ABFB41BD6B, 0x5BE0CD19137E2179]

def schedules : List (List Nat) :=
  [[0, 1, 2, 3, 4, 5, 6, 7, 8, 9, 10, 11, 12, 13, 14, 15],
    [14, 10, 4, 8, 9, 15, 13, 6, 1, 12, 0, 2, 11, 7, 5, 3],
    [11, 8, 12, 0, 5, 2, 15, 13, 10, 14, 3, 6, 7, 1, 9, 4],
    [7, 9, 3, 1, 13, 12, 11, 14, 2, 6, 5, 10, 4, 0, 15, 8],
    [9, 0, 5, 7, 2, 4, 10, 15, 14, 1, 11, 12, 6, 8, 3, 13],
    [2, 12, 6, 10, 0, 11, 8, 3, 4, 13, 7, 5, 15, 14, 1, 9],
    [12, 5, 1, 15, 14, 13, 4, 10, 0, 7, 6, 3, 9, 2, 8, 11],
    [13, 11, 7, 14, 12, 1, 3, 9, 5, 0, 15, 4, 8, 6, 2, 10],
    [6, 15, 14, 9, 11, 3, 0, 8, 12, 2, 13, 7, 1, 4, 10, 5],
    [10, 2, 8, 4, 7, 6, 1, 5, 15, 11, 9, 14, 3, 12, 13, 0],
    [0, 1, 2, 3, 4, 5, 6, 7, 8, 9, 10, 11, 12, 13, 14, 15],
    [14, 10, 4, 8, 9, 15, 13, 6, 1, 12, 0, 2, 11, 7, 5, 3]]

structure Quad where
  a : UInt64
  b : UInt64
  c : UInt64
  d : UInt64

@[inline] def mix (a b c d x y : UInt64) : Quad :=
  let a := a + b + x
  let d := rotateRight (d ^^^ a) 32
  let c := c + d
  let b := rotateRight (b ^^^ c) 24
  let a := a + b + y
  let d := rotateRight (d ^^^ a) 16
  let c := c + d
  let b := rotateRight (b ^^^ c) 63
  ⟨a, b, c, d⟩

def round (message : Words) (state : Words) (schedule : List Nat) : Words :=
  let m (place : Nat) : UInt64 := message.get (schedule.getD place 0)
  let p := mix state.w0 state.w4 state.w8 state.w12 (m 0) (m 1)
  let q := mix state.w1 state.w5 state.w9 state.w13 (m 2) (m 3)
  let r := mix state.w2 state.w6 state.w10 state.w14 (m 4) (m 5)
  let s := mix state.w3 state.w7 state.w11 state.w15 (m 6) (m 7)
  let t := mix p.a q.b r.c s.d (m 8) (m 9)
  let u := mix q.a r.b s.c p.d (m 10) (m 11)
  let v := mix r.a s.b p.c q.d (m 12) (m 13)
  let w := mix s.a p.b q.c r.d (m 14) (m 15)
  ⟨t.a, u.a, v.a, w.a, w.b, t.b, u.b, v.b, v.c, w.c, t.c, u.c, u.d, v.d, w.d, t.d⟩

/-- Compresses one message block. `count` bytes have been read with it, and `last`
marks the final block. -/
def compress (chain : List UInt64) (block : List UInt8) (count : Nat) (last : Bool) :
    List UInt64 :=
  let message := Words.ofList (wordsOfBytes 16 block)
  let counters : List UInt64 :=
    [UInt64.ofNat count, UInt64.ofNat (count / 18446744073709551616),
      if last then 0xFFFFFFFFFFFFFFFF else 0, 0]
  let tail := List.zipWith (· ^^^ ·) (initial.drop 4) counters
  let start := Words.ofList (chain ++ initial.take 4 ++ tail)
  let final := (schedules.foldl (round message) start).toList
  List.zipWith (· ^^^ ·) chain (List.zipWith (· ^^^ ·) (final.take 8) (final.drop 8))

def blockLength : Nat := 128

/-- Compresses a message block by block; `count` bytes have been read before. The last
block is filled up with zeros and is there even for an empty message. -/
def absorb (chain : List UInt64) (count : Nat) (message : List UInt8) : List UInt64 :=
  if message.length ≤ blockLength then
    compress chain message (count + message.length) true
  else
    absorb (compress chain (message.take blockLength) (count + blockLength) false)
      (count + blockLength) (message.drop blockLength)
termination_by message.length
decreasing_by
  simp only [List.length_drop]
  simp only [blockLength] at *
  omega

def hash (length : Nat) (message : List UInt8) : List UInt8 :=
  let parameters := UInt64.ofNat (0x01010000 + length)
  let chain :=
    match initial with
    | word :: rest => (word ^^^ parameters) :: rest
    | [] => []
  ((bytesOfWords (absorb chain 0 message)) ++ List.replicate length 0).take length

@[simp] theorem length_hash (length : Nat) (message : List UInt8) :
    (hash length message).length = length := by
  simp [hash]

end Latchkey.Digest.Blake2b
