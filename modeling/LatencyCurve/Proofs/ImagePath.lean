import LatencyCurve.Config.Basic
import LatencyCurve.Image.Format
import LatencyCurve.Proofs.Segments

/-!
# The path beside the input

The image of a run that names no other path stands beside the log, at the log's path with `.png`
behind it. The suffix is added to the text, and everything that looks at the path cuts that text up
again: at slashes, then at dots. A suffix without a slash only makes the last segment longer
(`Path.segments_append`), and a segment that was not empty has an extension then, whatever dots are
in it (`Path.extensionOf?_append_png`).
-/

namespace LatencyCurve

namespace Path

/-- No short text ends with the suffix. -/
theorem append_png_ne {name t : String} (h : t.length < 4) : name ++ ".png" ≠ t := by
  intro heq
  have hlength := congrArg String.length heq
  rw [String.length_append, show ".png".length = 4 from rfl] at hlength
  omega

/-- A name that is not empty has the extension `png` once the suffix stands behind it. -/
theorem extensionOf?_append_png {name : String} (h : name ≠ "") :
    extensionOf? (name ++ ".png") = some "png" := by
  have hafter : (((name ++ ".png").toList.reverse.takeWhile (· != '.')).reverse) =
      ['p', 'n', 'g'] := by
    rw [String.toList_append, List.reverse_append]
    rfl
  have hlength : 0 < name.toList.length := by
    rw [List.length_pos_iff]
    exact fun hnil ↦ h (String.toList_eq_nil_iff.1 hnil)
  have hbefore : ¬ (name ++ ".png").toList.length - 3 ≤ 1 := by
    rw [String.toList_append, List.length_append, show ".png".toList.length = 4 from rfl]
    omega
  simp only [extensionOf?, if_neg (append_png_ne (t := "..") (by decide)), hafter,
    List.length_cons, List.length_nil, if_neg hbefore]

/-- The file name of a path with the suffix: what stood behind the last slash, and the suffix. -/
theorem fileName?_append_png (p : Path) :
    ∃ init last, p.segments = init ++ [last] ∧
      (p.append ".png").fileName? = some (last ++ ".png") := by
  obtain ⟨init, last, hp, happend⟩ := p.segments_append (s := ".png") (by decide)
  have hidle : isIdle (last ++ ".png") = false := by
    simp [isIdle, append_png_ne (t := "") (by decide), append_png_ne (t := ".") (by decide)]
  exact ⟨init, last, hp, fileName?_of_segments happend hidle (append_png_ne (by decide))⟩

end Path

/-- **The path beside an input has the format PNG**, unless the input's path ends with a slash. -/
theorem formatOf_besideInput {input : Path} (h : input.segments.getLast? ≠ some "") :
    formatOf (Config.besideInput input) = .ok .png := by
  obtain ⟨init, last, hinput, hname⟩ := input.fileName?_append_png
  have hlast : last ≠ "" := by
    rintro rfl
    exact h (by rw [hinput, List.getLast?_concat])
  have hextension : (Config.besideInput input).extension? = some "png" := by
    rw [Path.extension?, Config.besideInput, hname]
    exact Path.extensionOf?_append_png hlast
  have hlower : "png".toLower = "png" := by decide +kernel
  rw [formatOf, ImageFormat.ofPath?, hextension]
  simp only [Option.bind_some, hlower, ImageFormat.ofExtension?]

end LatencyCurve
