import Servatory.Lib.Painting

/-! The buffer that a whole picture is drawn into before it goes to the display, two bytes for each pixel, and what is drawn
    on it without text. -/

namespace Servatory

/-- A colour with five bits of red, six of green and five of blue. -/
structure Rgb565 where
  raw : UInt16
  deriving DecidableEq, Repr

namespace Rgb565

def new (r g b : UInt8) : Rgb565 :=
  ⟨(r &&& 31).toUInt16 <<< 11 ||| (g &&& 63).toUInt16 <<< 5 ||| (b &&& 31).toUInt16⟩

def black : Rgb565 := new 0 0 0
def white : Rgb565 := new 31 63 31

/-- The bytes of a colour, the higher one first. -/
def toBeBytes (c : Rgb565) : UInt8 × UInt8 := ((c.raw >>> 8).toUInt8, c.raw.toUInt8)

def ofBeBytes (bytes : UInt8 × UInt8) : Rgb565 := ⟨bytes.1.toUInt16 <<< 8 ||| bytes.2.toUInt16⟩

end Rgb565

structure Point where
  x : Int
  y : Int
  deriving DecidableEq, Repr

namespace ScreenBuffer

def width : Nat := 240
def height : Nat := 135
def bytesPerPixel : Nat := 2
def bufferSize : Nat := width * height * bytesPerPixel

end ScreenBuffer

structure ScreenBuffer where
  data : List UInt8
  size : data.length = ScreenBuffer.bufferSize

namespace ScreenBuffer

/-- The buffer starts with zeros. -/
def new : ScreenBuffer := ⟨List.replicate bufferSize 0, List.length_replicate⟩

/-- Whether a point is on the screen. -/
def Visible (p : Point) : Prop := 0 ≤ p.x ∧ 0 ≤ p.y ∧ p.x.toNat < width ∧ p.y.toNat < height

instance (p : Point) : Decidable (Visible p) := inferInstanceAs (Decidable (_ ∧ _))

/-- Where the bytes of a point are. -/
def index (p : Point) : Nat := (p.y.toNat * width + p.x.toNat) * bytesPerPixel

/-- A point that is not on the screen is left out. -/
def setPixel (b : ScreenBuffer) (point : Point) (color : Rgb565) : ScreenBuffer :=
  if Visible point then
    let bytes := color.toBeBytes
    ⟨(b.data.set (index point) bytes.1).set (index point + 1) bytes.2, by rw [List.length_set, List.length_set, b.size]⟩
  else b

def drawIter (b : ScreenBuffer) (pixels : List (Point × Rgb565)) : ScreenBuffer :=
  pixels.foldl (fun b pixel => b.setPixel pixel.1 pixel.2) b

/-- Every chunk of two bytes is replaced. -/
def clear (b : ScreenBuffer) (color : Rgb565) : ScreenBuffer :=
  let bytes := color.toBeBytes
  ⟨(List.range (b.data.length / bytesPerPixel)).flatMap fun _ => [bytes.1, bytes.2], by
    rw [List.length_flatMap, List.map_const', List.sum_replicate_nat, List.length_range, b.size]
    rfl⟩

/-- The buffer as an image: the colour of a point, from its two bytes. -/
def asImage (b : ScreenBuffer) (p : Point) : Option Rgb565 :=
  if Visible p then do return .ofBeBytes (← b.data[index p]?, ← b.data[index p + 1]?) else none

/-- What is drawn on the buffer comes to these. -/
inductive DrawCall
  | drawIter (pixels : List (Point × Rgb565))
  | clear (color : Rgb565)

def draw (b : ScreenBuffer) : DrawCall → ScreenBuffer
  | .drawIter pixels => b.drawIter pixels
  | .clear color => b.clear color

end ScreenBuffer

/-- The points of a rectangle, row by row. -/
def rectangle (origin : Point) (width height : Nat) : List Point :=
  (List.range height).flatMap fun (y : Nat) => (List.range width).map fun (x : Nat) => ⟨origin.x + x, origin.y + y⟩

/-! ### The code to scan -/

/-- The squares of a QR code; `getModule` tells the dark ones. -/
structure QrCode where
  size : Nat
  getModule : Nat → Nat → Bool

namespace QrCode

def scale : Nat := 3
def quietZone : Nat := 4

/-- The largest version that a code is encoded in. -/
def maxVersion : Nat := 3

/-- A code of a version is that many squares wide. -/
def sizeOf (version : Nat) : Nat := 4 * version + 17

def total (code : QrCode) : Nat := (code.size + quietZone * 2) * scale

def origin (code : QrCode) : Point := ⟨232 - code.total, 12⟩

/-- The pixels of a square, counted from the first behind the quiet zone. -/
def moduleArea (code : QrCode) (x y : Nat) : List Point :=
  rectangle ⟨code.origin.x + (x + quietZone) * scale, code.origin.y + (y + quietZone) * scale⟩ scale scale

/-- The dark squares, row by row. -/
def darkAreas (code : QrCode) : List (List Point) :=
  (List.range code.size).flatMap fun y =>
    ((List.range code.size).filter fun x => code.getModule x y).map fun x => code.moduleArea x y

end QrCode

def drawQr (display : ScreenBuffer) (code : QrCode) : ScreenBuffer :=
  display.drawIter
    (Painting.fill (rectangle code.origin code.total code.total) Rgb565.white ++
      code.darkAreas.flatMap fun area => Painting.fill area Rgb565.black)

end Servatory
