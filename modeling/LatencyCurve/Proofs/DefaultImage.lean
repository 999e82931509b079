import LatencyCurve.Proofs.ImageContent
import LatencyCurve.Proofs.ImagePath
import LatencyCurve.Proofs.Spelling

/-!
# The image that nobody has named

If no path is given for the image, it is written beside the log, under the log's name with `.png`
behind it. The suffix goes to the end of the text, whereas everything that is asked of the path
afterwards is asked of its parts: its directory, its name, its extension, its components. For a log
whose path ends with an ordinary name (`Path.EndsIn`) these all come out as one expects.

The directory of such a path is the same with and without the suffix, and its components are those
of the directory and the name (`Path.exists_stem`). So adding the suffix is one-to-one, on
texts as on components (`Path.EndsIn.same_append_png`), and no path is the same as itself with it.
-/

namespace LatencyCurve

namespace Path

/-- The text of a path ends with an ordinary name: what stands behind its last slash is not empty
and is neither of the two dots. -/
structure EndsIn (p : Path) (name : String) : Prop where
  /-- It is what stands behind the last slash. -/
  last : p.segments.getLast? = some name
  /-- It is not empty. -/
  ne_empty : name ≠ ""
  /-- It is not the dot for the directory itself. -/
  ne_here : name ≠ "."
  /-- It is not the dots for the directory above. -/
  ne_up : name ≠ ".."

/-- **The directory and the name of a path are apart.** Whatever ordinary name stands behind the
same segments, the path has the same parent, and the components of the same directory in front of
its name. -/
theorem exists_stem (init : List String) :
    ∃ (dir : Path) (stem : List Component), ∀ (p : Path) (name : String),
      p.segments = init ++ [name] → p.EndsIn name →
        p.parent? = some dir ∧ p.components = stem ++ [.name name] := by
  have hcomponent {p : Path} {name : String} (h : p.EndsIn name) :
      isIdle name = false ∧ componentOf? name = some (.name name) := by
    simp [componentOf?, isIdle, h.ne_empty, h.ne_here, h.ne_up]
  cases init with
  | nil =>
    refine ⟨⟨""⟩, [], fun p name hp h ↦ ?_⟩
    obtain ⟨hidle, hname⟩ := hcomponent h
    refine ⟨parent?_of_single hp hidle, ?_⟩
    simp [components, hp, leading, h.ne_empty, h.ne_here, hname]
  | cons first mid =>
    -- What the first component is depends on whether something follows it, and something does.
    refine ⟨ofSegments (first :: dropIdle mid),
      leading first [first] ++ mid.filterMap componentOf?, fun p name hp h ↦ ?_⟩
    obtain ⟨hidle, hname⟩ := hcomponent h
    refine ⟨parent?_of_cons hp hidle, ?_⟩
    simp [components, hp, leading, hname]

namespace EndsIn

variable {p q : Path} {name name' : String}

/-- With the suffix a path still ends with an ordinary name, and nothing in front of it changes. -/
theorem append_png (h : p.EndsIn name) :
    (p.append ".png").EndsIn (name ++ ".png") ∧ ∃ init, p.segments = init ++ [name] ∧
      (p.append ".png").segments = init ++ [name ++ ".png"] := by
  obtain ⟨init, last, hp, happend⟩ := p.segments_append (s := ".png") (by decide)
  obtain rfl : last = name := by
    have hlast := h.last
    rw [hp, List.getLast?_concat] at hlast
    exact Option.some.inj hlast
  refine ⟨⟨by rw [happend, List.getLast?_concat], ?_, ?_, ?_⟩, init, hp, happend⟩ <;>
    exact append_png_ne (by decide)

/-- The components of a path without and with the suffix. -/
theorem components_append_png (h : p.EndsIn name) :
    ∃ stem, p.components = stem ++ [.name name] ∧
      (p.append ".png").components = stem ++ [.name (name ++ ".png")] := by
  obtain ⟨happend, init, hp, hpng⟩ := h.append_png
  obtain ⟨_, stem, hstem⟩ := exists_stem init
  exact ⟨stem, (hstem p name hp h).2, (hstem _ _ hpng happend).2⟩

/-- The directory stays the same. -/
theorem parent?_append_png (h : p.EndsIn name) :
    ∃ dir, p.parent? = some dir ∧ (p.append ".png").parent? = some dir := by
  obtain ⟨happend, init, hp, hpng⟩ := h.append_png
  obtain ⟨dir, _, hdir⟩ := exists_stem init
  exact ⟨dir, (hdir p name hp h).1, (hdir _ _ hpng happend).1⟩

/-- The name is the file name. -/
theorem fileName? (h : p.EndsIn name) : p.fileName? = some name := by
  obtain ⟨stem, hstem, -⟩ := h.components_append_png
  rw [Path.fileName?, hstem, List.getLast?_concat]

/-- **Paths with the suffix are the same exactly if they are the same without it.** -/
theorem same_append_png (h : p.EndsIn name) (h' : q.EndsIn name') :
    (p.append ".png").same (q.append ".png") = p.same q := by
  obtain ⟨stem, hp, hpng⟩ := h.components_append_png
  obtain ⟨stem', hq, hpng'⟩ := h'.components_append_png
  rw [same, same, hp, hq, hpng, hpng', decide_eq_decide, List.append_singleton_inj,
    List.append_singleton_inj, Component.name.injEq, Component.name.injEq, String.append_left_inj]

/-- A path is never the same as itself with the suffix. -/
theorem same_append_png_self (h : p.EndsIn name) : (p.append ".png").same p = false := by
  obtain ⟨stem, hp, hpng⟩ := h.components_append_png
  rw [same, hp, hpng]
  simp

end EndsIn

end Path

namespace Config

/-- **The image beside a log.** For a log whose path ends with an ordinary name, whatever dots are in
it, the image that nobody has named stands in the directory of the log and bears the log's name with
`.png` behind it. So its extension is `png`, it is written in the format PNG, and no notice says
that it is not. It is never the log itself, and different logs have different images: different as
texts if the logs are different as texts, and different as paths if they are different paths. -/
theorem image_beside_log {c : Config} {name : String} (houtput : c.output = none)
    (hname : c.input.EndsIn name) :
    let image := c.resolvedOutput
    (∃ dir, c.input.parent? = some dir ∧ image.parent? = some dir) ∧
      (c.input.fileName? = some name ∧ image.fileName? = some (name ++ ".png")) ∧
      (image.extension? = some "png" ∧ formatOf image = .ok .png) ∧
      (∀ d notices, c.check d = .ok notices → pngPromise image ∉ notices) ∧
      image.same c.input = false ∧
      (∀ c' : Config, c'.output = none → (c'.resolvedOutput = image ↔ c'.input = c.input)) ∧
      ∀ (c' : Config) (name' : String), c'.output = none → c'.input.EndsIn name' →
        c'.resolvedOutput.same image = c'.input.same c.input := by
  intro image
  have hbeside {c' : Config} (h : c'.output = none) :
      c'.resolvedOutput = c'.input.append ".png" := by
    rw [resolvedOutput, h]
    rfl
  have himage : image = c.input.append ".png" := hbeside houtput
  have hfile : image.fileName? = some (name ++ ".png") := himage ▸ hname.append_png.1.fileName?
  have hextension : image.extension? = some "png" := by
    rw [Path.extension?, hfile]
    exact Path.extensionOf?_append_png hname.ne_empty
  have hpng : hasPngExtension image = true := by
    rw [hasPngExtension, hextension]
    decide +kernel
  refine ⟨himage ▸ hname.parent?_append_png, ⟨hname.fileName?, hfile⟩,
    ⟨hextension, formatOf_eq_png_iff.2 hpng⟩, fun d notices hcheck ↦ ?_,
    himage ▸ hname.same_append_png_self, fun c' h ↦ ?_, fun c' name' h h' ↦ ?_⟩
  · rw [pngPromise_mem_iff hcheck]
    simp [image, hpng]
  · rw [hbeside h, himage, Path.append, Path.append, Path.mk.injEq, String.append_left_inj]
    exact ⟨fun htext ↦ congrArg Path.mk htext, congrArg Path.text⟩
  · rw [hbeside h, himage]
    exact h'.same_append_png hname

/-- A hidden log, spelled in two ways: two texts for the image, and one path. -/
theorem image_beside_hidden_log :
    let c := forInput ⟨"runs/./.a..b."⟩
    let c' := forInput ⟨"runs//.a..b."⟩
    c.resolvedOutput.fileName? = some ".a..b..png" ∧ c.resolvedOutput.extension? = some "png" ∧
      (∀ notices, c.check Run.loneDisk = .ok notices →
        pngPromise c.resolvedOutput ∉ notices) ∧
      c'.resolvedOutput ≠ c.resolvedOutput ∧ c'.resolvedOutput.same c.resolvedOutput = true := by
  intro c c'
  have hname : c.input.EndsIn ".a..b." := ⟨by decide, by decide, by decide, by decide⟩
  have hname' : c'.input.EndsIn ".a..b." := ⟨by decide, by decide, by decide, by decide⟩
  obtain ⟨-, ⟨-, hfile⟩, ⟨hextension, -⟩, hnotice, -, htext, hsame⟩ := image_beside_log rfl hname
  refine ⟨hfile, hextension, hnotice Run.loneDisk, ?_, ?_⟩
  · rw [Ne, htext c' rfl]
    decide
  · rw [hsame c' _ rfl hname']
    decide

end Config

end LatencyCurve
