import TrackSelection.Media.Group
import TrackSelection.Number.Rounding
import TrackSelection.Parameters.Basic

/-!
# Tracks worth showing on a viewport

A video shown on a surface keeps its aspect ratio, so that it fills the surface in one dimension.
The smallest track that fills almost all of the space its video can take sets a budget of pixels:
larger tracks, and tracks of unknown size, are not worth showing. Almost all is 98 per cent in
single precision, rounded down to a whole number.
-/

namespace TrackSelection

structure Size where
  width : UInt32
  height : UInt32
deriving DecidableEq, Repr

namespace Size

def isLandscape (size : Size) : Bool :=
  size.height < size.width

/-- The size turned by a right angle. -/
def turned (size : Size) : Size :=
  ⟨size.height, size.width⟩

def pixels (size : Size) : Nat :=
  size.width.toNat * size.height.toNat

/-- The product of two dimensions, in 64 bits. -/
def product (a b : UInt32) : UInt64 :=
  a.toUInt64 * b.toUInt64

def ceilDiv (num den : UInt64) : UInt64 :=
  if num % den = 0 then num / den else num / den + 1

/-- A dimension times a ratio of two others, rounded up. -/
def scale (dimension num den : UInt32) : UInt64 :=
  ceilDiv (product dimension num) den.toUInt64

/-- A number of pixels as a dimension, or the greatest dimension if it is more than that. -/
def clamp (count : UInt64) : UInt32 :=
  UInt32.ofNatClamp count.toNat

/-- The largest size a video can be shown at on a surface with its aspect ratio kept. A dimension is
rounded up. A video without area has no aspect ratio. -/
def fitOn? (video surface : Size) : Option Size :=
  if video.width = 0 ∨ video.height = 0 then none
  else if product video.height surface.width ≤ product video.width surface.height then
    some ⟨surface.width, clamp (scale surface.width video.height video.width)⟩
  else some ⟨clamp (scale surface.height video.width video.height), surface.height⟩

/-- The bits of 0.98 in single precision, as a multiple of `2 ^ -24`. -/
def fullScreenFraction : Nat := 16441672

/-- The least dimension that counts as all of a dimension: 98 per cent in single precision, rounded
down. -/
def almostAll (dimension : UInt32) : Nat :=
  Number.roundBits 24 (Number.roundBits 24 dimension.toNat * fullScreenFraction) >>> 24

/-- Whether a video almost takes up some space. -/
def fills (video space : Size) : Bool :=
  almostAll space.width ≤ video.width.toNat && almostAll space.height ≤ video.height.toNat

end Size

def Format.size? (format : Format) : Option Size :=
  match format.width, format.height with
  | some width, some height => some ⟨width, height⟩
  | _, _ => none

namespace Viewport

/-- The surface for a video: the viewport, turned to the video's orientation if it may be. -/
def surfaceFor (viewport : Viewport) (video : Size) : Size :=
  let surface : Size := ⟨viewport.width, viewport.height⟩
  if viewport.mayRotate && video.isLandscape != surface.isLandscape then surface.turned else surface

/-- The pixels of a video that fills the viewport. -/
def filling? (viewport : Viewport) (video : Size) : Option Nat :=
  match video.fitOn? (viewport.surfaceFor video) with
  | none => none
  | some space => if video.fills space then some video.pixels else none

/-- The pixels of the smallest format that fills the viewport. -/
def budget? (viewport : Viewport) (formats : List Format) : Option Nat :=
  (formats.filterMap fun format => format.size?.bind viewport.filling?).min?

/-- The tracks of a group that are worth showing: all of them when the viewport is not set or no
track fills it, else those within the budget. -/
def worthShowing (viewport : Viewport) (group : TrackGroup) : List Nat :=
  let tracks := List.range group.size
  if !viewport.isSet then tracks
  else match viewport.budget? group.formats with
    | none => tracks
    | some budget => tracks.filter fun track =>
      (group.formats[track]?.bind Format.pixelCount).any (· ≤ budget)

end Viewport

end TrackSelection
