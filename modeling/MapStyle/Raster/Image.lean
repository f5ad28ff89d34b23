/-
Images of pixels with red, green, blue and alpha in one byte each.

* `Image.Decoder` — what reads the files of images.
-/
namespace MapStyle

/-- An image, its rows from top to bottom and four bytes for each pixel. -/
structure Image where
  width : UInt32
  height : UInt32
  pixels : List UInt8
deriving DecidableEq

/-- What reads the files of images, and gives `none` for any other file. -/
abbrev Image.Decoder := List UInt8 → Option Image

end MapStyle
