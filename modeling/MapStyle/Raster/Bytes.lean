/-
Numbers and checksums in lists of bytes.

* `bigEndian`, `ofBigEndian` — 32-bit numbers, first byte first;
* `takeExactly?` — so many bytes from the front, and what follows them;
* `crc32`, `adler32` — the two checksums of image files.
-/
namespace MapStyle.Raster

/-- The four bytes of a number, the highest first. -/
def bigEndian (n : UInt32) : List UInt8 :=
  [(n >>> 24).toUInt8, (n >>> 16).toUInt8, (n >>> 8).toUInt8, n.toUInt8]

/-- The number whose bytes these are, the highest first. -/
def ofBigEndian (bytes : List UInt8) : UInt32 :=
  bytes.foldl (fun n b => (n <<< 8) ||| b.toUInt32) 0

/-- The first `n` bytes and the rest, if there are so many. -/
def takeExactly? (n : Nat) (bytes : List UInt8) : Option (List UInt8 × List UInt8) :=
  let front := bytes.take n
  if front.length = n then some (front, bytes.drop n) else none

theorem length_of_takeExactly? {n : Nat} {bytes front rest : List UInt8}
    (h : takeExactly? n bytes = some (front, rest)) : bytes.length = n + rest.length := by
  simp only [takeExactly?] at h
  split at h
  · next hn =>
    simp only [Option.some.injEq, Prod.mk.injEq] at h
    obtain ⟨_, rfl⟩ := h
    rw [List.length_take] at hn
    rw [List.length_drop]
    omega
  · contradiction

/-- One step of the cyclic redundancy check for each bit of a byte. -/
def crcByte (crc : UInt32) (b : UInt8) : UInt32 :=
  (List.range 8).foldl
    (fun c _ => if c &&& 1 == 1 then (c >>> 1) ^^^ 0xEDB88320 else c >>> 1)
    (crc ^^^ b.toUInt32)

/-- The cyclic redundancy check of some bytes. -/
def crc32 (bytes : List UInt8) : UInt32 := bytes.foldl crcByte 0xFFFFFFFF ^^^ 0xFFFFFFFF

/-- The sum of some bytes and the sum of its values on the way, modulo 65521. -/
def adler32 (bytes : List UInt8) : UInt32 :=
  let (a, b) := bytes.foldl
    (fun (s : Nat × Nat) byte =>
      let a := (s.1 + byte.toNat) % 65521
      (a, (s.2 + a) % 65521))
    (1, 0)
  UInt32.ofNat (b * 65536 + a)

end MapStyle.Raster
