import Garlemald.Library.Utf8

/-!
The hash that names the properties of an actor. It walks back from the end of a key in
blocks of four bytes, and takes what is left from the start.
-/

namespace Garlemald.Common

open Library

def murmurM : UInt32 := 0x5bd1e995

/-- The block of four bytes behind an index, mixed. -/
def murmurBlock (data : Bytes) (index : ℕ) : UInt32 :=
  let raw := u32Value ((data.drop index).take 4)
  let k := ((raw >>> 24) &&& (0xff : UInt32)) ||| ((raw <<< 8) &&& (0x00ff0000 : UInt32)) |||
    ((raw >>> 8) &&& (0x0000ff00 : UInt32)) ||| ((raw <<< 24) &&& (0xff000000 : UInt32))
  let k := k * murmurM
  let k := k ^^^ (k >>> 24)
  k * murmurM

/-- The blocks from the end, then the bytes before the first of them. -/
def murmurBlocks (data : Bytes) : ℕ → UInt32 → UInt32
  | len + 4, h => murmurBlocks data len ((h * murmurM) ^^^ murmurBlock data len)
  | len, h =>
      let byte (i : ℕ) : UInt32 := (data.getD i 0).toUInt32
      if len = 3 then (h ^^^ (byte 0 <<< 16) ^^^ (byte 1 <<< 8) ^^^ byte 2) * murmurM
      else if len = 2 then (h ^^^ (byte 0 <<< 8) ^^^ byte 1) * murmurM
      else if len = 1 then (h ^^^ byte 0) * murmurM
      else h

def murmurHash2 (key : Text) (seed : UInt32) : UInt32 :=
  let data := utf8 key
  let h := murmurBlocks data data.length (seed ^^^ .ofNat data.length)
  let h := h ^^^ (h >>> 13)
  let h := h * murmurM
  h ^^^ (h >>> 15)

end Garlemald.Common
