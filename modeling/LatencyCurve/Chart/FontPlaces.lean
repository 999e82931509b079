import LatencyCurve.Disk.Path

/-!
# Where fonts are

The files in which systems keep a regular sans-serif font, in the order in which they are tried.
-/

namespace LatencyCurve

/-- The files in which a sans-serif font is looked for. -/
def fontPlaces : List Path :=
  [⟨"/usr/share/fonts/truetype/dejavu/DejaVuSans.ttf"⟩,
    ⟨"/usr/share/fonts/TTF/DejaVuSans.ttf"⟩,
    ⟨"/usr/share/fonts/dejavu/DejaVuSans.ttf"⟩,
    ⟨"/usr/share/fonts/dejavu-sans-fonts/DejaVuSans.ttf"⟩,
    ⟨"/usr/share/fonts/truetype/liberation/LiberationSans-Regular.ttf"⟩,
    ⟨"/usr/share/fonts/liberation-sans/LiberationSans-Regular.ttf"⟩,
    ⟨"/usr/share/fonts/truetype/freefont/FreeSans.ttf"⟩,
    ⟨"/System/Library/Fonts/Supplemental/Arial.ttf"⟩,
    ⟨"/Library/Fonts/Arial.ttf"⟩,
    ⟨"C:\\Windows\\Fonts\\arial.ttf"⟩]

end LatencyCurve
