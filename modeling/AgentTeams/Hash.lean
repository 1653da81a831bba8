/-!
XXH3, the 64-bit variant with seed 0. Short inputs are mixed directly with the secret; long ones
run in stripes of 64 bytes through eight accumulators.
-/
namespace AgentTeams.Hash

private def prime32a : UInt64 := 0x9e3779b1
private def prime32b : UInt64 := 0x85ebca77
private def prime32c : UInt64 := 0xc2b2ae3d
private def prime64a : UInt64 := 0x9e3779b185ebca87
private def prime64b : UInt64 := 0xc2b2ae3d27d4eb4f
private def prime64c : UInt64 := 0x165667b19e3779f9
private def prime64d : UInt64 := 0x85ebca77c2b2ae63
private def prime64e : UInt64 := 0x27d4eb2f165667c5
private def primeMix : UInt64 := 0x165667919e3779f9
private def primeShort : UInt64 := 0x9fb21c651e98df25

/-- The default secret. -/
def secret : ByteArray := ⟨#[
  0xb8, 0xfe, 0x6c, 0x39, 0x23, 0xa4, 0x4b, 0xbe, 0x7c, 0x01, 0x81, 0x2c, 0xf7, 0x21, 0xad, 0x1c,
  0xde, 0xd4, 0x6d, 0xe9, 0x83, 0x90, 0x97, 0xdb, 0x72, 0x40, 0xa4, 0xa4, 0xb7, 0xb3, 0x67, 0x1f,
  0xcb, 0x79, 0xe6, 0x4e, 0xcc, 0xc0, 0xe5, 0x78, 0x82, 0x5a, 0xd0, 0x7d, 0xcc, 0xff, 0x72, 0x21,
  0xb8, 0x08, 0x46, 0x74, 0xf7, 0x43, 0x24, 0x8e, 0xe0, 0x35, 0x90, 0xe6, 0x81, 0x3a, 0x26, 0x4c,
  0x3c, 0x28, 0x52, 0xbb, 0x91, 0xc3, 0x00, 0xcb, 0x88, 0xd0, 0x65, 0x8b, 0x1b, 0x53, 0x2e, 0xa3,
  0x71, 0x64, 0x48, 0x97, 0xa2, 0x0d, 0xf9, 0x4e, 0x38, 0x19, 0xef, 0x46, 0xa9, 0xde, 0xac, 0xd8,
  0xa8, 0xfa, 0x76, 0x3f, 0xe3, 0x9c, 0x34, 0x3f, 0xf9, 0xdc, 0xbb, 0xc7, 0xc7, 0x0b, 0x4f, 0x1d,
  0x8a, 0x51, 0xe0, 0x4b, 0xcd, 0xb4, 0x59, 0x31, 0xc8, 0x9f, 0x7e, 0xc9, 0xd9, 0x78, 0x73, 0x64,
  0xea, 0xc5, 0xac, 0x83, 0x34, 0xd3, 0xeb, 0xc3, 0xc5, 0x81, 0xa0, 0xff, 0xfa, 0x13, 0x63, 0xeb,
  0x17, 0x0d, 0xdd, 0x51, 0xb7, 0xf0, 0xda, 0x49, 0xd3, 0x16, 0x55, 0x26, 0x29, 0xd4, 0x68, 0x9e,
  0x2b, 0x16, 0xbe, 0x58, 0x7d, 0x47, 0xa1, 0xfc, 0x8f, 0xf8, 0xb8, 0xd1, 0x7a, 0xd0, 0x31, 0xce,
  0x45, 0xcb, 0x3a, 0x8f, 0x95, 0x16, 0x04, 0x28, 0xaf, 0xd7, 0xfb, 0xca, 0xbb, 0x4b, 0x40, 0x7e]⟩

/-- The byte at an offset; there are zeros after the end. -/
def byteAt (bytes : ByteArray) (offset : Nat) : UInt64 :=
  if inside : offset < bytes.size then bytes[offset].toUInt64 else 0

/-- Four bytes as a number, least significant first. -/
def read32 (bytes : ByteArray) (offset : Nat) : UInt64 :=
  byteAt bytes offset ||| (byteAt bytes (offset + 1) <<< 8) |||
    (byteAt bytes (offset + 2) <<< 16) ||| (byteAt bytes (offset + 3) <<< 24)

/-- Eight bytes as a number, least significant first. -/
def read64 (bytes : ByteArray) (offset : Nat) : UInt64 :=
  read32 bytes offset ||| (read32 bytes (offset + 4) <<< 32)

/-- The eight bytes of a number, least significant first. -/
def littleEndian (value : UInt64) : List UInt8 :=
  (List.range 8).map fun i => (value >>> (8 * UInt64.ofNat i)).toUInt8

private def swapBytes (value : UInt64) : UInt64 :=
  (littleEndian value).foldl (fun swapped byte => (swapped <<< 8) ||| byte.toUInt64) 0

private def rotateLeft (value amount : UInt64) : UInt64 :=
  (value <<< amount) ||| (value >>> (64 - amount))

/-- Both halves of the 128-bit product, xored. -/
def foldProduct (left right : UInt64) : UInt64 :=
  let product := left.toNat * right.toNat
  UInt64.ofNat product ^^^ UInt64.ofNat (product / UInt64.size)

private def avalanche (hash : UInt64) : UInt64 :=
  let hash := (hash ^^^ (hash >>> 37)) * primeMix
  hash ^^^ (hash >>> 32)

private def avalancheShort (hash : UInt64) : UInt64 :=
  let hash := (hash ^^^ (hash >>> 33)) * prime64b
  let hash := (hash ^^^ (hash >>> 29)) * prime64c
  hash ^^^ (hash >>> 32)

private def sizeOf (input : ByteArray) : UInt64 :=
  UInt64.ofNat input.size

private def upTo3 (input : ByteArray) : UInt64 :=
  let first := byteAt input 0
  let middle := byteAt input (input.size / 2)
  let last := byteAt input (input.size - 1)
  let combined := (first <<< 16) ||| (middle <<< 24) ||| last ||| (sizeOf input <<< 8)
  avalancheShort (combined ^^^ read32 secret 0 ^^^ read32 secret 4)

private def from4to8 (input : ByteArray) : UInt64 :=
  let joined := read32 input (input.size - 4) + (read32 input 0 <<< 32)
  let hash := joined ^^^ read64 secret 8 ^^^ read64 secret 16
  let hash := (hash ^^^ rotateLeft hash 49 ^^^ rotateLeft hash 24) * primeShort
  let hash := (hash ^^^ ((hash >>> 35) + sizeOf input)) * primeShort
  hash ^^^ (hash >>> 28)

private def from9to16 (input : ByteArray) : UInt64 :=
  let low := read64 input 0 ^^^ read64 secret 24 ^^^ read64 secret 32
  let high := read64 input (input.size - 8) ^^^ read64 secret 40 ^^^ read64 secret 48
  avalanche (sizeOf input + swapBytes low + high + foldProduct low high)

/-- Mix sixteen bytes of input with sixteen of the secret. -/
private def mix (input : ByteArray) (offset key : Nat) : UInt64 :=
  foldProduct (read64 input offset ^^^ read64 secret key)
    (read64 input (offset + 8) ^^^ read64 secret (key + 8))

/-- Pairs of blocks from both ends of the input. -/
private def from17to128 (input : ByteArray) : UInt64 :=
  let pairs := (input.size - 1) / 32 + 1
  avalanche <| (List.range pairs).foldl (fun sum i =>
    sum + mix input (16 * i) (32 * i) + mix input (input.size - 16 * (i + 1)) (32 * i + 16))
    (sizeOf input * prime64a)

private def from129to240 (input : ByteArray) : UInt64 :=
  let head := (List.range 8).foldl (fun sum i => sum + mix input (16 * i) (16 * i))
    (sizeOf input * prime64a)
  let body := (List.range (input.size / 16 - 8)).foldl
    (fun sum i => sum + mix input (16 * (i + 8)) (16 * i + 3)) (avalanche head)
  avalanche (body + mix input (input.size - 16) (136 - 17))

/-- The eight accumulators. -/
private abbrev Lanes := List UInt64

private def startLanes : Lanes :=
  [prime32c, prime64a, prime64b, prime64c, prime64d, prime32b, prime64e, prime32a]

private def lane (lanes : Lanes) (index : Nat) : UInt64 :=
  lanes.getD index 0

/-- Take in one stripe. -/
private def accumulate (input : ByteArray) (offset key : Nat) (lanes : Lanes) : Lanes :=
  (List.range 8).map fun i =>
    let keyed := read64 input (offset + 8 * i) ^^^ read64 secret (key + 8 * i)
    let neighbour := if i % 2 = 0 then i + 1 else i - 1
    lane lanes i + read64 input (offset + 8 * neighbour) +
      (keyed &&& (0xffffffff : UInt64)) * (keyed >>> 32)

private def scramble (lanes : Lanes) : Lanes :=
  (List.range 8).map fun i =>
    let value := lane lanes i
    ((value ^^^ (value >>> 47)) ^^^ read64 secret (secret.size - 64 + 8 * i)) * prime32a

/-- A block has as many stripes as the secret has places for. -/
private def stripesPerBlock : Nat := 16

private def blockSize : Nat := 64 * stripesPerBlock

private def stripes (input : ByteArray) (start count : Nat) (lanes : Lanes) : Lanes :=
  (List.range count).foldl (fun lanes i => accumulate input (start + 64 * i) (8 * i) lanes) lanes

private def over240 (input : ByteArray) : UInt64 :=
  let blocks := (input.size - 1) / blockSize
  let lanes := (List.range blocks).foldl
    (fun lanes i => scramble (stripes input (blockSize * i) stripesPerBlock lanes)) startLanes
  let lanes := stripes input (blockSize * blocks) ((input.size - 1 - blockSize * blocks) / 64) lanes
  let lanes := accumulate input (input.size - 64) (secret.size - 64 - 7) lanes
  avalanche <| (List.range 4).foldl (fun sum i =>
    sum + foldProduct (lane lanes (2 * i) ^^^ read64 secret (11 + 16 * i))
      (lane lanes (2 * i + 1) ^^^ read64 secret (11 + 16 * i + 8)))
    (sizeOf input * prime64a)

/-- The hash of a sequence of bytes. -/
def xxh3 (input : ByteArray) : UInt64 :=
  if input.size = 0 then avalancheShort (read64 secret 56 ^^^ read64 secret 64)
  else if input.size ≤ 3 then upTo3 input
  else if input.size ≤ 8 then from4to8 input
  else if input.size ≤ 16 then from9to16 input
  else if input.size ≤ 128 then from17to128 input
  else if input.size ≤ 240 then from129to240 input
  else over240 input

end AgentTeams.Hash
