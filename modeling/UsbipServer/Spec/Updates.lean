import UsbipServer.Gud.Display
import UsbipServer.Library.Gather
import UsbipServer.Library.Raster

namespace UsbipServer.Gud

open Wire Library

/-! What the display is for: `GUD_REQ_SET_BUFFER` orders the update of a
rectangle, and the update is made when its pixels have arrived. -/

abbrev Action := Gather.Action SetBufferReq Byte

/-- What a callback means for the picture.  A `GUD_REQ_SET_BUFFER` counts when
it leaves the status OK. -/
def Callback.action (display : Display) : Callback → Action
  | .control nowMs setup data =>
      if setup.bmRequestType = requestTypeVendorInterfaceOut ∧
          setup.bRequest = gudReqSetBuffer ∧
          (display.controlData nowMs setup data).1.lastStatus = .ok then
        .announced (SetBufferReq.decode data)
      else .other
  | .endpoint _ data => .piece data
  | .reset _ => .cleared

namespace SetBufferReq

def wanted (req : SetBufferReq) : Nat := req.length.toNat

def area (req : SetBufferReq) : Block :=
  ⟨req.x.toNat, req.y.toNat, req.width.toNat, req.height.toNat⟩

/-- Each pixel of the rectangle gets its two bytes from the pixel data, counted
line by line. -/
def apply (req : SetBufferReq) (pixels : List Byte) (image : Buffer Byte) :
    Buffer Byte := fun offset =>
  match req.area.place displayWidth.toNat (offset / 2) with
  | some index => pixels.getD (2 * index + offset % 2) 0
  | none => image offset

end SetBufferReq

def blank : Buffer Byte := fun _ => 0

/-- The updates completed since the last reset, in the order of their
completion. -/
def updates (actions : List Action) : List (SetBufferReq × List Byte) :=
  Gather.completions SetBufferReq.wanted actions

def pixelOffset (column row : Nat) : Nat :=
  2 * (row * displayWidth.toNat + column)

/-- The two bytes of pixel `(x + i, y + j)` become those of pixel
`j * width + i` of the pixel data, and no other byte changes. -/
structure Sets (req : SetBufferReq) (pixels : List Byte)
    (before after : Buffer Byte) : Prop where
  inside : ∀ i < req.width.toNat, ∀ j < req.height.toNat, ∀ part < 2,
    pixels[2 * (j * req.width.toNat + i) + part]? =
      some (after (pixelOffset (req.x.toNat + i) (req.y.toNat + j) + part))
  outside : ∀ offset,
    (∀ i < req.width.toNat, ∀ j < req.height.toNat, ∀ part < 2,
      offset ≠ pixelOffset (req.x.toNat + i) (req.y.toNat + j) + part) →
    after offset = before offset

/-- The pixel data before the first other callback, and each other callback
with the pixel data after it, not cut into chunks. -/
def uncut : List Callback → List Byte × List (Callback × List Byte)
  | [] => ([], [])
  | .endpoint _ data :: rest => (data ++ (uncut rest).1, (uncut rest).2)
  | callback :: rest => ([], (callback, (uncut rest).1) :: (uncut rest).2)

/-- A chunk has more bytes than the update still needs. -/
def Callback.overshoots (display : Display) : Callback → Bool
  | .endpoint _ data => display.pending.active &&
      (display.pending.transferLength - display.pending.received).toNat <
        data.length
  | _ => false

end UsbipServer.Gud
