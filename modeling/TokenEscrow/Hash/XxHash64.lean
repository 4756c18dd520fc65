import TokenEscrow.Bytes.Basic

/-!
# XXH64

A checksum of 64 bits. Stripes of 32 bytes go into four lanes, and what is left over
is mixed in afterwards, in words of eight bytes, of four bytes, and byte by byte.
-/

namespace TokenEscrow

namespace XxHash64

def prime1 : UInt64 := 0x9E3779B185EBCA87
def prime2 : UInt64 := 0xC2B2AE3D27D4EB4F
def prime3 : UInt64 := 0x165667B19E3779F9
def prime4 : UInt64 := 0x85EBCA77C2B2AE63
def prime5 : UInt64 := 0x27D4EB2F165667C5

/-- Rotation to the left. -/
def rotl (x : UInt64) (n : UInt64) : UInt64 := (x <<< n) ||| (x >>> (64 - n))

/-- A word of some bytes. -/
def word (bs : Bytes) : UInt64 := UInt64.ofNat (LittleEndian.decode bs)

/-- Mixes a word into a lane. -/
def round (lane input : UInt64) : UInt64 := rotl (lane + input * prime2) 31 * prime1

/-- Mixes a stripe into the lanes, a word each. -/
def stripe (lanes : List UInt64) (bs : Bytes) : List UInt64 :=
  List.zipWith round lanes ((chunksOf 8 bs).map word)

/-- The lanes before the first stripe. -/
def initialLanes : List UInt64 := [prime1 + prime2, prime2, 0, 0 - prime1]

/-- Mixes a lane into the checksum. -/
def mergeLane (hash lane : UInt64) : UInt64 := (hash ^^^ round 0 lane) * prime1 + prime4

/-- The checksum of the lanes. -/
def mergeLanes (lanes : List UInt64) : UInt64 :=
  let rotations : List UInt64 := [1, 7, 12, 18]
  lanes.foldl mergeLane ((List.zipWith rotl lanes rotations).foldl (· + ·) 0)

/-- Mixes in what is left over behind the stripes, which is less than one of them. -/
def mixRest (hash : UInt64) (bs : Bytes) : UInt64 :=
  let (eights, rest) := bs.splitAt (bs.length / 8 * 8)
  let (fours, ones) := rest.splitAt (rest.length / 4 * 4)
  let mixEight (h : UInt64) (bs : Bytes) :=
    rotl (h ^^^ round 0 (word bs)) 27 * prime1 + prime4
  let mixFour (h : UInt64) (bs : Bytes) := rotl (h ^^^ word bs * prime1) 23 * prime2 + prime3
  let mixOne (h : UInt64) (b : UInt8) := rotl (h ^^^ word [b] * prime5) 11 * prime1
  ones.foldl mixOne ((chunksOf 4 fours).foldl mixFour ((chunksOf 8 eights).foldl mixEight hash))

/-- The last mixing. -/
def finish (hash : UInt64) : UInt64 :=
  let hash := (hash ^^^ hash >>> 33) * prime2
  let hash := (hash ^^^ hash >>> 29) * prime3
  hash ^^^ hash >>> 32

/-- The checksum of a byte string, with seed 0. -/
def digest (bs : Bytes) : UInt64 :=
  let (stripes, rest) := bs.splitAt (bs.length / 32 * 32)
  let hash := if stripes.isEmpty then prime5
    else mergeLanes ((chunksOf 32 stripes).foldl stripe initialLanes)
  finish (mixRest (hash + UInt64.ofNat bs.length) rest)

end XxHash64

end TokenEscrow
