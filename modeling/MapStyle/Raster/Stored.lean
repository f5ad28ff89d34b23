/-
Data inside a compressed stream that are not compressed.

The data stand in blocks of at most 65535 bytes, each behind its length and the
complement of its length; the stream has a header of two bytes and a checksum.

* `unblocks?` — the data of a run of blocks;
* `unwrap?` — the data of a stream that holds such blocks only.
-/
import MapStyle.Raster.Bytes

namespace MapStyle.Raster

/-- The most bytes that one block holds. -/
def maxBlock : Nat := 65535

/-- The data of a run of blocks, and what follows the last. -/
def unblocks? (bytes : List UInt8) : Option (List UInt8 × List UInt8) :=
  match bytes with
  | mark :: low :: high :: low' :: high' :: rest =>
    let size := low.toNat + 256 * high.toNat
    if 1 < mark ∨ low'.toNat + 256 * high'.toNat + size ≠ maxBlock then none
    else
      match h : takeExactly? size rest with
      | none => none
      | some (data, rest) =>
        if mark = 1 then some (data, rest)
        else do
          let (more, rest) ← unblocks? rest
          some (data ++ more, rest)
  | _ => none
termination_by bytes.length
decreasing_by
  have := length_of_takeExactly? h
  simp only [List.length_cons]
  omega

/-- The data of a stream, if the blocks and the checksum are as they should be. -/
def unwrap? : List UInt8 → Option (List UInt8)
  | method :: flags :: rest =>
    if method ≠ 0x78 ∨ (256 * method.toNat + flags.toNat) % 31 ≠ 0 then none
    else do
      let (data, check) ← unblocks? rest
      if check = bigEndian (adler32 data) then some data else none
  | _ => none

end MapStyle.Raster
