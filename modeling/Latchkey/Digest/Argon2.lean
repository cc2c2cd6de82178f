/-
Argon2 in its three variants and two versions. The memory is a matrix of blocks with
one row (a lane) for each degree of parallelism. Each pass fills every lane in four
slices; a new block is compressed from the one before it and from an earlier block
that is picked by the memory itself or, for the data-independent parts, by a counter.
-/

import Latchkey.Digest.Argon2Block
import Latchkey.Digest.Blake2b

namespace Latchkey.Digest.Argon2

inductive Variant where
  | d
  | i
  | id
  deriving DecidableEq, Repr

def Variant.number : Variant → Nat
  | d => 0
  | i => 1
  | id => 2

inductive Version where
  | v16
  | v19
  deriving DecidableEq, Repr

def Version.number : Version → Nat
  | v16 => 16
  | v19 => 19

structure Parameters where
  variant : Variant
  version : Version
  memory : Nat
  passes : Nat
  lanes : Nat
  tagLength : Nat
  deriving DecidableEq, Repr

def sliceCount : Nat := 4

def Parameters.segmentLength (parameters : Parameters) : Nat :=
  parameters.memory / (sliceCount * parameters.lanes)

def Parameters.laneLength (parameters : Parameters) : Nat :=
  sliceCount * parameters.segmentLength

def Parameters.blockCount (parameters : Parameters) : Nat :=
  parameters.lanes * parameters.laneLength

def word32 (number : Nat) : List UInt8 := littleEndian 4 number

def counted (bytes : List UInt8) : List UInt8 := word32 bytes.length ++ bytes

/-- Hashes to more than 64 bytes: half of each digest is given out and the whole of it
is hashed again. `fuel` bounds the number of digests. -/
def stretch (length : Nat) (digest : List UInt8) : (fuel : Nat) → List UInt8
  | 0 => digest
  | fuel + 1 =>
      if length ≤ 64 then Blake2b.hash length digest
      else
        let next := Blake2b.hash 64 digest
        next.take 32 ++ stretch (length - 32) next fuel

def longHash (length : Nat) (message : List UInt8) : List UInt8 :=
  (stretch length (word32 length ++ message) (length / 32 + 1)
    ++ List.replicate length 0).take length

@[simp] theorem length_longHash (length : Nat) (message : List UInt8) :
    (longHash length message).length = length := by
  simp [longHash]

def seed (parameters : Parameters) (password salt associated : List UInt8) : List UInt8 :=
  Blake2b.hash 64
    (word32 parameters.lanes ++ word32 parameters.tagLength ++ word32 parameters.memory
      ++ word32 parameters.passes ++ word32 parameters.version.number
      ++ word32 parameters.variant.number ++ counted password ++ counted salt
      ++ counted [] ++ counted associated)

def blockOfBytes (bytes : List UInt8) : Block := Block.ofList (wordsOfBytes 128 bytes)

/-- The block at a place of a lane before the first pass. -/
def firstBlock (seed : List UInt8) (lane column : Nat) : Block :=
  blockOfBytes (longHash 1024 (seed ++ word32 column ++ word32 lane))

structure Position where
  pass : Nat
  slice : Nat
  lane : Nat
  /-- The place within the segment that the slice has in the lane. -/
  index : Nat
  deriving DecidableEq, Repr

/-- Whether the segment picks its earlier blocks without looking at the memory. -/
def Parameters.isDataIndependent (parameters : Parameters) (position : Position) : Bool :=
  match parameters.variant with
  | .d => false
  | .i => true
  | .id => position.pass == 0 && position.slice < 2

/-- The block of picks with the given number, counted from one. -/
def addressBlock (parameters : Parameters) (position : Position) (number : Nat) : Block :=
  let input := Block.ofList
    ([position.pass, position.lane, position.slice, parameters.blockCount, parameters.passes,
      parameters.variant.number, number].map UInt64.ofNat)
  compress Block.zero (compress Block.zero input)

def Position.isFirst (position : Position) : Bool := position.pass == 0 && position.slice == 0

/-- The lane and the column of the earlier block that a random word picks. -/
def reference (parameters : Parameters) (position : Position) (random : UInt64) : Nat × Nat :=
  let segment := parameters.segmentLength
  let lane :=
    if position.isFirst then position.lane
    else (random >>> 32).toNat % parameters.lanes
  let finished :=
    if position.pass = 0 then position.slice * segment
    else parameters.laneLength - segment
  let area :=
    if lane = position.lane then finished + position.index - 1
    else if position.index = 0 then finished - 1
    else finished
  let low := (random &&& 0xFFFFFFFF).toNat
  let distance := area * (low * low / 4294967296) / 4294967296
  let start :=
    if position.pass = 0 ∨ position.slice + 1 = sliceCount then 0
    else (position.slice + 1) * segment
  (lane, (start + (area - 1 - distance)) % parameters.laneLength)

/-- Fills the rest of a segment, `left` blocks of it from `index` on. `addresses` is the
current block of picks and `number` its number. -/
def fillSegment (parameters : Parameters) (position : Position) (independent : Bool) :
    (left index : Nat) → (addresses : Block) → (number : Nat) → Array Block → Array Block
  | 0, _, _, _, memory => memory
  | left + 1, index, addresses, number, memory =>
      let position := { position with index := index }
      let base := position.lane * parameters.laneLength
      let column := position.slice * parameters.segmentLength + index
      let before := if column = 0 then parameters.laneLength - 1 else column - 1
      let previous := memory.getD (base + before) Block.zero
      let renew := independent && index % 128 == 0
      let number := if renew then number + 1 else number
      let addresses := if renew then addressBlock parameters position number else addresses
      let random := if independent then addresses.get (index % 128) else previous.get 0
      let (lane, place) := reference parameters position random
      let earlier := memory.getD (lane * parameters.laneLength + place) Block.zero
      let fresh := compress previous earlier
      let block :=
        if position.pass = 0 ∨ parameters.version = .v16 then fresh
        else fresh.xor (memory.getD (base + column) Block.zero)
      fillSegment parameters position independent left (index + 1) addresses number
        (memory.setIfInBounds (base + column) block)

def fillLane (parameters : Parameters) (memory : Array Block) (position : Position) :
    Array Block :=
  let independent := parameters.isDataIndependent position
  let segment := parameters.segmentLength
  if position.isFirst then
    let addresses := if independent then addressBlock parameters position 1 else Block.zero
    fillSegment parameters position independent (segment - 2) 2 addresses 1 memory
  else
    fillSegment parameters position independent segment 0 Block.zero 0 memory

def positions (parameters : Parameters) : List Position :=
  (List.range parameters.passes).flatMap fun pass =>
    (List.range sliceCount).flatMap fun slice =>
      (List.range parameters.lanes).map fun lane => ⟨pass, slice, lane, 0⟩

def firstMemory (parameters : Parameters) (seed : List UInt8) : Array Block :=
  (List.range parameters.lanes).foldl
    (fun memory lane =>
      let base := lane * parameters.laneLength
      (memory.setIfInBounds base (firstBlock seed lane 0)).setIfInBounds (base + 1)
        (firstBlock seed lane 1))
    (Array.replicate parameters.blockCount Block.zero)

def lastColumn (parameters : Parameters) (memory : Array Block) : Block :=
  (List.range parameters.lanes).foldl
    (fun sum lane =>
      sum.xor (memory.getD (lane * parameters.laneLength + parameters.laneLength - 1) Block.zero))
    Block.zero

def tag (parameters : Parameters) (password salt associated : List UInt8) : List UInt8 :=
  let memory := firstMemory parameters (seed parameters password salt associated)
  let memory := (positions parameters).foldl (fillLane parameters) memory
  longHash parameters.tagLength (bytesOfWords (lastColumn parameters memory).toList)

@[simp] theorem length_tag (parameters : Parameters) (password salt associated : List UInt8) :
    (tag parameters password salt associated).length = parameters.tagLength := by
  simp [tag]

end Latchkey.Digest.Argon2
