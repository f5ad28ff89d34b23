/-
Images as PNG files.

A file is a signature and a run of chunks: the size and kind of the image, its
data, and an end.  Only one kind is read: four bytes for each pixel, rows neither
interlaced nor filtered, data not compressed.

* `chunks?` — the chunks of a file;
* `decode?` — the image of a file, `none` for anything else.
-/
import MapStyle.Raster.Image
import MapStyle.Raster.Stored

namespace MapStyle.Raster

/-- A part of a file: a name of four bytes and data. -/
structure Chunk where
  name : List UInt8
  data : List UInt8

/-- The bytes in front of every file. -/
def signature : List UInt8 := [0x89, 0x50, 0x4E, 0x47, 0x0D, 0x0A, 0x1A, 0x0A]

/-- The name of a chunk as bytes. -/
def chunkName (name : String) : List UInt8 := name.toUTF8.toList

/-- The chunk at the front of some bytes, if its checksum is right, and the rest. -/
def chunk? (bytes : List UInt8) : Option (Chunk × List UInt8) := do
  let (size, afterSize) ← takeExactly? 4 bytes
  let (name, afterName) ← takeExactly? 4 afterSize
  let (data, afterData) ← takeExactly? (ofBigEndian size).toNat afterName
  let (check, rest) ← takeExactly? 4 afterData
  if check = bigEndian (crc32 (name ++ data)) then some (⟨name, data⟩, rest) else none

theorem length_lt_of_chunk? {bytes rest : List UInt8} {c : Chunk}
    (h : chunk? bytes = some (c, rest)) : rest.length < bytes.length := by
  simp only [chunk?, Option.bind_eq_bind, Option.bind_eq_some_iff] at h
  obtain ⟨⟨_, r1⟩, h1, ⟨_, r2⟩, h2, ⟨_, r3⟩, h3, ⟨_, r4⟩, h4, h5⟩ := h
  dsimp only at h2 h3 h4 h5
  split at h5
  · simp only [Option.some.injEq, Prod.mk.injEq] at h5
    obtain ⟨_, rfl⟩ := h5
    have e1 := length_of_takeExactly? h1
    have e2 := length_of_takeExactly? h2
    have e3 := length_of_takeExactly? h3
    have e4 := length_of_takeExactly? h4
    omega
  · contradiction

/-- The chunks that fill some bytes. -/
def chunks? (bytes : List UInt8) : Option (List Chunk) :=
  if bytes.isEmpty then some []
  else
    match h : chunk? bytes with
    | none => none
    | some (c, rest) => (chunks? rest).map (c :: ·)
termination_by bytes.length
decreasing_by exact length_lt_of_chunk? h

/-- The kind of image that is read: eight bits, four channels, plain rows. -/
def imageKind : List UInt8 := [8, 6, 0, 0, 0]

/-- The pixels of so many rows that fill some bytes, each behind a byte that says it is not
filtered. -/
def unrows? (width : Nat) : Nat → List UInt8 → Option (List UInt8)
  | 0, bytes => if bytes.isEmpty then some [] else none
  | n + 1, bytes =>
    match bytes with
    | 0 :: rest => do
      let (row, rest) ← takeExactly? (4 * width) rest
      let more ← unrows? width n rest
      some (row ++ more)
    | _ => none

/-- The image of a head chunk and some data. -/
def image? (head data : List UInt8) : Option Image := do
  let (width, afterWidth) ← takeExactly? 4 head
  let (height, kind) ← takeExactly? 4 afterWidth
  let width := ofBigEndian width
  let height := ofBigEndian height
  if kind ≠ imageKind ∨ width = 0 ∨ height = 0 then none
  else
    let pixels ← unrows? width.toNat height.toNat (← unwrap? data)
    some ⟨width, height, pixels⟩

/-- The image of a file. -/
def decode? (bytes : List UInt8) : Option Image := do
  let (start, rest) ← takeExactly? signature.length bytes
  if start ≠ signature then none
  else
    match ← chunks? rest with
    | head :: body =>
      let data := body.dropLast
      if head.name = chunkName "IHDR" ∧ (body.getLast?.map Chunk.name) = some (chunkName "IEND") ∧
          data.all (fun c => c.name == chunkName "IDAT") then
        image? head.data (data.flatMap Chunk.data)
      else none
    | [] => none

end MapStyle.Raster
