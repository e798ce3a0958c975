import SlideDeck.Text.Quoted

/-!
Formats of picture files. What a file is shows in its octets, never in its name. Whoever reads
pictures has the last word on them; `PictureFormat.verdict` looks at the first octets only.
-/

namespace SlideDeck.Drawing

inductive PictureFormat where
  | bmp
  | gif
  | jpeg
  | png
  | tiff
  | wmf
  | webp
deriving DecidableEq, Repr, Inhabited

/-- What a reader of pictures makes of the octets of a file: a picture that can be drawn, or none
for a reason that can be told; or it breaks off. -/
inductive PictureVerdict where
  | drawable
  | refused (reason : String)
  | broken (message : String)
deriving DecidableEq, Repr

abbrev PictureReader := List UInt8 → PictureVerdict

namespace PictureFormat

def name : PictureFormat → String
  | .bmp => "BMP"
  | .gif => "GIF"
  | .jpeg => "JPEG"
  | .png => "PNG"
  | .tiff => "TIFF"
  | .wmf => "WMF"
  | .webp => "WEBP"

/-- The formats that a presentation can hold. -/
def drawable : List PictureFormat := [.bmp, .gif, .jpeg, .png, .tiff, .wmf]

/-- How a file of a format begins, and the fewest octets that its header takes. -/
def signatures : List (List UInt8 × Nat × PictureFormat) := [
  ([0x89, 0x50, 0x4e, 0x47, 0x0d, 0x0a, 0x1a, 0x0a], 33, .png),
  ([0x47, 0x49, 0x46, 0x38, 0x37, 0x61], 13, .gif),
  ([0x47, 0x49, 0x46, 0x38, 0x39, 0x61], 13, .gif),
  ([0xff, 0xd8, 0xff], 4, .jpeg),
  ([0x42, 0x4d], 26, .bmp),
  ([0x49, 0x49, 0x2a, 0x00], 8, .tiff),
  ([0x4d, 0x4d, 0x00, 0x2a], 8, .tiff),
  ([0xd7, 0xcd, 0xc6, 0x9a, 0x00, 0x00], 22, .wmf)]

/-- The container format has its length between its own name and that of what it holds. -/
def isWebp (s : List UInt8) : Bool :=
  s.take 4 == [0x52, 0x49, 0x46, 0x46] && (s.drop 8).take 4 == [0x57, 0x45, 0x42, 0x50]

def ofOctets? (s : List UInt8) : Option PictureFormat :=
  match signatures.find? fun (start, size, _) => start.isPrefixOf s && size ≤ s.length with
  | some (_, _, format) => some format
  | none => if isWebp s then some .webp else none

def unidentified : String := "cannot identify image file <stream>"

def unsupported (format : PictureFormat) : String :=
  "unsupported image format, expected one of: dict_keys([" ++
    String.intercalate ", " (drawable.map fun f => Text.quoted f.name) ++ "]), got " ++
    Text.quoted format.name

/-- A reader that goes by the first octets alone. It never breaks off, and takes some files for
pictures that cannot be decoded. -/
def verdict : PictureReader := fun s =>
  match ofOctets? s with
  | none => .refused unidentified
  | some format => if drawable.contains format then .drawable else .refused (unsupported format)

end PictureFormat

end SlideDeck.Drawing
