import LatencyCurve.Proofs.Course
import Mathlib.Data.List.Infix

/-!
# The font of a process

A process draws one chart after the other, and in between its files may change in any way: fonts
appear, are replaced and are taken away. Each drawing finds a registry and leaves one. Followed from
the first chart on, this comes down to one equation (`registered_eq_findSome?`): the font that is
registered is the first that any chart so far could have had by itself. How it is written says what
becomes of it. The first of a list stays the first when the list grows, so a font that is
registered stays; and a chart finds either that one or nothing.

Whether and where a chart is drawn does not depend on fonts (`Call.result_draw_eq_ok_iff`,
`Call.result_draw_asking`). A font that is missing only takes away the text, and the outcome says so.
What the text looks like is no matter here: pictures are drawn without any.
-/

namespace LatencyCurve

namespace Font

/-! ### Choosing -/

/-- A font that is registered is had by every chart, whatever it asks for. -/
theorem choose_some (d : Disk) (active : Path) (requested : Option Path) :
    choose d (some active) requested = ⟨some active, none⟩ := by
  cases requested with
  | none => rfl
  | some p => rfl

/-- There is a font at a path. -/
def Usable (d : Disk) (p : Path) : Prop :=
  ∃ bytes, d.read p = .ok bytes ∧ isUsable bytes = true

/-- The first font to be registered is one that can be used. -/
theorem register_none_eq_ok_iff {d : Disk} {p active : Path} :
    register d none p = .ok active ↔ Usable d p ∧ p = active := by
  rw [register.eq_def, Usable]
  dsimp only
  cases hread : d.read p with
  | error e => simp
  | ok bytes =>
    dsimp only
    split
    next husable => simp [husable]
    next husable => simp [husable]

theorem font_fallback_none_eq_some_iff {d : Disk} {warning : Option String} {p : Path} :
    (fallback d none warning).font = some p ↔ Usable d p ∧ discover? d = some p := by
  rw [fallback.eq_def]
  dsimp only
  cases discover? d with
  | none => simp
  | some place =>
    dsimp only
    cases hregister : register d none place with
    | ok active =>
      obtain ⟨husable, rfl⟩ := register_none_eq_ok_iff.1 hregister
      constructor
      · rintro ⟨⟩
        exact ⟨husable, rfl⟩
      · rintro ⟨-, h⟩
        exact h
    | error reason =>
      constructor
      · nofun
      · rintro ⟨husable, ⟨⟩⟩
        rw [register_none_eq_ok_iff.2 ⟨husable, rfl⟩] at hregister
        cases hregister

/-- **Which font is chosen** where none is registered: the one that is asked for if it can be used,
or else the first of the usual places where there is a file, if that can be used. -/
theorem font_choose_none_eq_some_iff {d : Disk} {requested : Option Path} {p : Path} :
    (choose d none requested).font = some p ↔ Usable d p ∧
      (requested = some p ∨ (∀ r ∈ requested, ¬ Usable d r) ∧ discover? d = some p) := by
  cases requested with
  | none =>
    rw [choose.eq_def]
    dsimp only
    rw [font_fallback_none_eq_some_iff]
    simp
  | some r =>
    rw [choose.eq_def]
    dsimp only
    cases hregister : register d none r with
    | ok active =>
      obtain ⟨husable, rfl⟩ := register_none_eq_ok_iff.1 hregister
      constructor
      · rintro ⟨⟩
        exact ⟨husable, .inl rfl⟩
      · rintro ⟨-, h | ⟨hr, -⟩⟩
        · exact h
        · exact absurd husable (hr r rfl)
    | error reason =>
      have hr : ¬ Usable d r := by
        intro husable
        rw [register_none_eq_ok_iff.2 ⟨husable, rfl⟩] at hregister
        cases hregister
      dsimp only
      rw [font_fallback_none_eq_some_iff]
      constructor
      · rintro ⟨husable, hplace⟩
        refine ⟨husable, .inr ⟨?_, hplace⟩⟩
        rintro r' ⟨⟩
        exact hr
      · rintro ⟨husable, ⟨⟨⟩⟩ | ⟨-, hplace⟩⟩
        · exact absurd husable hr
        · exact ⟨husable, hplace⟩

theorem font_or_warning_fallback (d : Disk) (registry : Registry) (warning : Option String) :
    (fallback d registry warning).font.isSome = true ∨
      (fallback d registry warning).warning.isSome = true := by
  cases registry with
  | some active => exact .inl rfl
  | none =>
    rw [fallback.eq_def]
    dsimp only
    cases discover? d with
    | none => exact .inr (by cases warning <;> rfl)
    | some place =>
      dsimp only
      cases register d none place with
      | ok active => exact .inl rfl
      | error reason => exact .inr rfl

/-- There is a font, or it is said why there is none. -/
theorem font_or_warning (d : Disk) (registry : Registry) (requested : Option Path) :
    (choose d registry requested).font.isSome = true ∨
      (choose d registry requested).warning.isSome = true := by
  cases requested with
  | none => exact font_or_warning_fallback d registry none
  | some p =>
    rw [choose.eq_def]
    dsimp only
    cases register d registry p with
    | ok active => exact .inl rfl
    | error reason => exact font_or_warning_fallback d registry (some reason)

end Font

namespace Chart

/-! ### One drawing -/

/-- A chart that is asked for, and the file system at that time. -/
structure Call where
  /-- The file system -/
  disk : Disk
  /-- What the chart should be like -/
  options : ChartOptions
  /-- The curve -/
  curve : List (CurvePoint Float Float)
  /-- Where the image goes -/
  output : Path

namespace Call

/-- Draws the chart, with what is registered at that time. -/
def draw (q : Call) (registry : Font.Registry) : Drawing :=
  render q.disk registry q.options q.curve q.output

/-- The font that the chart has. -/
def choice (q : Call) (registry : Font.Registry) : Font.Choice :=
  Font.choose q.disk registry q.options.font

/-- The font that the chart would have by itself. A chart without a curve, or whose image has no
directory, is given up before there is a font. -/
def ownFont (q : Call) : Option Path :=
  if q.curve = [] ∨ missingDirectory? q.disk q.output ≠ none then none else (q.choice none).font

/-- There is a curve, and its image can be written. -/
def Drawable (q : Call) : Prop :=
  q.curve ≠ [] ∧ ∃ format l content, formatOf q.output = .ok format ∧
    q.disk.target q.output = .ok l ∧
    encodeImage format (picture q.options q.curve) = .ok content

/-- The same chart, with another font asked for. -/
def asking (q : Call) (font : Option Path) : Call :=
  { q with options := { q.options with font } }

variable (q : Call) (registry : Font.Registry)

theorem draw_of_nil (h : q.curve = []) :
    q.draw registry = ⟨.error nothingToPlot, q.disk, registry⟩ := by
  rw [draw, render, h]
  rfl

/-- A chart with a curve, step by step. -/
theorem draw_of_ne (h : q.curve ≠ []) :
    q.draw registry =
      match missingDirectory? q.disk q.output,
          writeImage q.disk q.output (picture q.options q.curve) with
      | some dir, _ => ⟨.error (noDirectory dir), q.disk, registry⟩
      | none, (.error e, d) =>
        ⟨.error ⟨.render, e.text⟩, d, Font.registryAfter registry (q.choice registry)⟩
      | none, (.ok (), d) =>
        ⟨.ok ⟨q.output, (q.choice registry).font, (q.choice registry).warning⟩, d,
          Font.registryAfter registry (q.choice registry)⟩ :=
  render_of_ne _ _ _ _ h

/-- **What a drawing does to the registry**: a font that is registered stays, and otherwise the own
font of the chart becomes it, whether the image is written in the end or not. -/
theorem registry_draw : (q.draw registry).registry = registry.or q.ownFont := by
  have hnone : registry = registry.or none := (Option.or_none).symm
  by_cases hcurve : q.curve = []
  · rw [draw_of_nil q registry hcurve, ownFont, if_pos (.inl hcurve)]
    exact hnone
  rw [draw_of_ne q registry hcurve, ownFont]
  cases hdir : missingDirectory? q.disk q.output with
  | some dir =>
    rw [if_pos (.inr nofun)]
    exact hnone
  | none =>
    rw [if_neg (by simp [hcurve])]
    have hregistry : Font.registryAfter registry (q.choice registry) =
        registry.or (q.choice none).font := by
      cases registry with
      | none => rfl
      | some active => rfl
    rcases writeImage q.disk q.output (picture q.options q.curve) with ⟨_ | _, d⟩
    · exact hregistry
    · exact hregistry

variable {q} in
/-- The image of a chart with a curve can be written exactly if that is what happens. -/
theorem drawable_iff (h : q.curve ≠ []) :
    q.Drawable ↔ ∃ d, writeImage q.disk q.output (picture q.options q.curve) = (.ok (), d) := by
  constructor
  · rintro ⟨-, format, l, content, hformat, htarget, hencode⟩
    exact ⟨_, writeImage_eq_ok_iff.2 ⟨format, l, content, hformat, htarget, hencode, rfl⟩⟩
  · rintro ⟨d, himage⟩
    obtain ⟨format, l, content, hformat, htarget, hencode, -⟩ := writeImage_eq_ok_iff.1 himage
    exact ⟨h, format, l, content, hformat, htarget, hencode⟩

/-- **What a drawing leads to**: a chart that can be drawn is, with the font that is chosen. -/
theorem result_draw_eq_ok_iff {o : ChartOutcome} :
    (q.draw registry).result = .ok o ↔
      q.Drawable ∧ o = ⟨q.output, (q.choice registry).font, (q.choice registry).warning⟩ := by
  by_cases hcurve : q.curve = []
  · rw [draw_of_nil q registry hcurve]
    constructor
    · nofun
    · rintro ⟨hdrawable, -⟩
      exact absurd hcurve hdrawable.1
  rw [draw_of_ne q registry hcurve]
  cases hdir : missingDirectory? q.disk q.output with
  | some dir =>
    constructor
    · nofun
    · rintro ⟨⟨-, format, l, content, -, htarget, -⟩, -⟩
      rw [missingDirectory?_of_target htarget] at hdir
      cases hdir
  | none =>
    rw [drawable_iff hcurve]
    rcases writeImage q.disk q.output (picture q.options q.curve) with ⟨e | _, d⟩
    · constructor
      · nofun
      · rintro ⟨⟨d', himage⟩, -⟩
        cases himage
    · constructor
      · rintro ⟨⟩
        exact ⟨⟨d, rfl⟩, rfl⟩
      · rintro ⟨-, rfl⟩
        rfl

/-- Whether and where the chart is written, or else why not, does not depend on which font is asked
for or registered. -/
theorem result_draw_asking (font : Option Path) (registry' : Font.Registry) :
    ((q.asking font).draw registry').result.map ChartOutcome.output =
      (q.draw registry).result.map ChartOutcome.output := by
  by_cases hcurve : q.curve = []
  · rw [draw_of_nil q registry hcurve, draw_of_nil (q.asking font) registry' hcurve]
  have hpicture : picture (q.asking font).options q.curve = picture q.options q.curve := rfl
  rw [draw_of_ne q registry hcurve, draw_of_ne (q.asking font) registry' hcurve]
  dsimp only [asking] at hpicture ⊢
  rw [hpicture]
  cases missingDirectory? q.disk q.output with
  | some dir => rfl
  | none => rcases writeImage q.disk q.output (picture q.options q.curve) with ⟨e | _, d⟩ <;> rfl

end Call

/-! ### One drawing after the other -/

/-- The font that is registered after some drawings, of which the first finds none. -/
def registered (calls : List Call) : Font.Registry :=
  calls.foldl (fun registry q ↦ (q.draw registry).registry) none

theorem registered_concat (calls : List Call) (q : Call) :
    registered (calls ++ [q]) = (q.draw (registered calls)).registry := by
  rw [registered, List.foldl_concat, registered]

/-- **The registered font is the first own font** among the charts so far. -/
theorem registered_eq_findSome? (calls : List Call) :
    registered calls = calls.findSome? Call.ownFont := by
  -- What one drawing leaves is what the next one finds, so the last comes off first.
  induction calls using List.reverseRecOn with
  | nil => rfl
  | append_singleton calls q ih =>
    rw [registered_concat, Call.registry_draw, ih, List.findSome?_append, List.findSome?_singleton]

/-- What is registered was asked for or found by a chart, and could be used then. -/
theorem exists_choosing_of_registered {calls : List Call} {font : Path}
    (h : registered calls = some font) : ∃ q ∈ calls, Font.Usable q.disk font ∧
      (q.options.font = some font ∨
        (∀ r ∈ q.options.font, ¬ Font.Usable q.disk r) ∧ Font.discover? q.disk = some font) := by
  rw [registered_eq_findSome?] at h
  obtain ⟨q, hq, hfont⟩ := List.exists_of_findSome?_eq_some h
  rw [Call.ownFont] at hfont
  split at hfont
  · cases hfont
  · exact ⟨q, hq, Font.font_choose_none_eq_some_iff.1 hfont⟩

/-- A font that is registered stays. -/
theorem registered_of_prefix {before calls : List Call} (h : before <+: calls) {font : Path}
    (hfont : registered before = some font) : registered calls = some font := by
  obtain ⟨after, rfl⟩ := h
  rw [registered_eq_findSome?] at hfont ⊢
  rw [List.findSome?_append, hfont, Option.some_or]

/-- After the charts `before`, drawing the chart `q` changes what is registered. -/
def Registers (before : List Call) (q : Call) : Prop :=
  registered (before ++ [q]) ≠ registered before

namespace Registers

variable {calls before before' : List Call} {q q' : Call}

/-- Only a drawing that finds no font changes what is registered. -/
theorem registered_eq_none (h : Registers before q) : registered before = none := by
  cases hfont : registered before with
  | none => rfl
  | some font =>
    rw [Registers, hfont, registered_of_prefix (List.prefix_append before [q]) hfont] at h
    exact absurd rfl h

/-- A second such drawing does not come later: it would find what the first has registered. -/
theorem length_le (h : Registers before q) (h' : Registers before' q')
    (hq : before ++ [q] <+: calls) (hbefore' : before' <+: calls) :
    before'.length ≤ before.length := by
  by_contra! hlt
  have hprefix : before ++ [q] <+: before' := by
    refine List.prefix_of_prefix_length_le hq hbefore' ?_
    rw [List.length_append, List.length_singleton]
    omega
  have hne : registered (before ++ [q]) ≠ none := by
    intro hnone
    exact h (hnone.trans h.registered_eq_none.symm)
  obtain ⟨font, hfont⟩ := Option.ne_none_iff_exists'.1 hne
  have hkept : registered before' = some font := registered_of_prefix hprefix hfont
  rw [h'.registered_eq_none] at hkept
  cases hkept

/-- **A font is registered once.** -/
theorem unique (h : Registers before q) (h' : Registers before' q') (hq : before ++ [q] <+: calls)
    (hq' : before' ++ [q'] <+: calls) : before = before' := by
  have hbefore : before <+: calls := (List.prefix_append before [q]).trans hq
  have hbefore' : before' <+: calls := (List.prefix_append before' [q']).trans hq'
  have hlength : before.length = before'.length :=
    Nat.le_antisymm (h'.length_le h hq' hbefore) (h.length_le h' hq hbefore')
  exact (List.prefix_of_prefix_length_le hbefore hbefore' hlength.le).eq_of_length hlength

end Registers

/-- `Drawn before q o`: after the charts `before`, the chart `q` is drawn with the outcome `o`. -/
def Drawn (before : List Call) (q : Call) (o : ChartOutcome) : Prop :=
  (q.draw (registered before)).result = .ok o

namespace Drawn

variable {before : List Call} {q : Call} {o : ChartOutcome}

/-- The font of an outcome is what is registered by then. -/
theorem font_eq (h : Drawn before q o) : o.font = registered (before ++ [q]) := by
  obtain ⟨hdrawable, rfl⟩ := (q.result_draw_eq_ok_iff _).1 h
  obtain ⟨hcurve, format, l, content, -, htarget, -⟩ := hdrawable
  rw [registered_concat, Call.registry_draw, Call.ownFont,
    if_neg (by simp [hcurve, missingDirectory?_of_target htarget])]
  cases registered before with
  | none => rfl
  | some active => rw [Call.choice, Font.choose_some]; rfl

/-- An outcome without a font says why. -/
theorem isSome_fontWarning (h : Drawn before q o) (hfont : o.font = none) :
    o.fontWarning.isSome = true := by
  obtain ⟨-, rfl⟩ := (q.result_draw_eq_ok_iff _).1 h
  rcases Font.font_or_warning q.disk (registered before) q.options.font with hsome | hwarning
  · rw [Option.isSome_iff_ne_none] at hsome
    exact absurd hfont hsome
  · exact hwarning

/-- There is nothing to say about a font that was registered before. -/
theorem fontWarning_eq_none (h : Drawn before q o) (hfont : registered before ≠ none) :
    o.fontWarning = none := by
  obtain ⟨-, rfl⟩ := (q.result_draw_eq_ok_iff _).1 h
  obtain ⟨active, hactive⟩ := Option.ne_none_iff_exists'.1 hfont
  rw [hactive, Call.choice, Font.choose_some]

end Drawn

/-- The charts of a process have one font at most. `before ++ [q] <+: calls` says that among the
charts `calls` the chart `q` is drawn after the charts `before`. -/
structure OneFont (calls : List Call) : Prop where
  /-- A font that is registered once stays to the end. -/
  kept {before : List Call} {font : Path} : before <+: calls → registered before = some font →
    registered calls = some font
  /-- The font that is registered could be used when a chart asked for it, or when a chart that asked
  for none that could be used found it in the first of the usual places where there is a file. -/
  chosen {font : Path} : registered calls = some font → ∃ q ∈ calls, Font.Usable q.disk font ∧
    (q.options.font = some font ∨
      (∀ r ∈ q.options.font, ¬ Font.Usable q.disk r) ∧ Font.discover? q.disk = some font)
  /-- No two drawings change what is registered. -/
  set_once {before before' : List Call} {q q' : Call} : before ++ [q] <+: calls →
    before' ++ [q'] <+: calls → Registers before q → Registers before' q' → before = before'
  /-- The font of an outcome is the one that is registered by then. -/
  font_eq {before : List Call} {q : Call} {o : ChartOutcome} : before ++ [q] <+: calls →
    Drawn before q o → o.font = registered (before ++ [q])
  /-- After a chart with text all have the font of that one. -/
  same_font {before before' : List Call} {q q' : Call} {o o' : ChartOutcome} :
    before ++ [q] <+: before' → before' ++ [q'] <+: calls → Drawn before q o →
    o.labelsDrawn = true → Drawn before' q' o' → o'.font = o.font
  /-- A chart without text says why. -/
  warned {before : List Call} {q : Call} {o : ChartOutcome} : before ++ [q] <+: calls →
    Drawn before q o → o.font = none → o.fontWarning.isSome = true
  /-- A chart that finds a registered font has nothing to say about it. -/
  silent {before : List Call} {q : Call} {o : ChartOutcome} : before ++ [q] <+: calls →
    Drawn before q o → registered before ≠ none → o.fontWarning = none
  /-- Whether a chart is drawn depends on its curve and its image only. -/
  drawn_iff {before : List Call} {q : Call} : before ++ [q] <+: calls →
    ((∃ o, Drawn before q o) ↔ q.Drawable)
  /-- And if another font were asked for or registered, a chart would be written in the same place, or
  refused for the same reason. -/
  font_free {before : List Call} {q : Call} : before ++ [q] <+: calls →
    ∀ (font : Option Path) (registry : Font.Registry),
      ((q.asking font).draw registry).result.map ChartOutcome.output =
        (q.draw (registered before)).result.map ChartOutcome.output

/-- **A process has one font**, whatever charts it draws, whatever they ask for, and however the
files change in between. -/
theorem one_font (calls : List Call) : OneFont calls where
  kept hbefore hfont := registered_of_prefix hbefore hfont
  chosen hfont := exists_choosing_of_registered hfont
  set_once hq hq' hset hset' := hset.unique hset' hq hq'
  font_eq _ hdrawn := hdrawn.font_eq
  same_font {before before' q q' o o'} hbefore _ hdrawn hlabels hdrawn' := by
    obtain ⟨font, hfont⟩ := Option.isSome_iff_exists.1 hlabels
    have hregistered : registered (before ++ [q]) = some font := hdrawn.font_eq.symm.trans hfont
    rw [hdrawn'.font_eq, hfont]
    exact registered_of_prefix (hbefore.trans (List.prefix_append before' [q'])) hregistered
  warned _ hdrawn hfont := hdrawn.isSome_fontWarning hfont
  silent _ hdrawn hfont := hdrawn.fontWarning_eq_none hfont
  drawn_iff {before q} _ := by
    constructor
    · rintro ⟨o, hdrawn⟩
      exact ((q.result_draw_eq_ok_iff _).1 hdrawn).1
    · intro hdrawable
      exact ⟨_, (q.result_draw_eq_ok_iff _).2 ⟨hdrawable, rfl⟩⟩
  font_free {before q} _ font registry := q.result_draw_asking (registered before) font registry

/-! ### A font that is lost again -/

/-- An entry of the table directory of a font. -/
def directoryEntry (tag offset length : Nat) : List UInt8 :=
  Bytes.big32 tag ++ Bytes.big32 0 ++ Bytes.big32 offset ++ Bytes.big32 length

/-- A font with nothing in it but the tables that a font has to have: a thousand units in an em, two
bytes for the place of a glyph, and one glyph. -/
def smallFont : ByteArray :=
  let head := List.replicate 18 0 ++ Bytes.big16 1000 ++ List.replicate 34 0
  let hhea := List.replicate 36 0
  let maxp := Bytes.big32 0x00010000 ++ Bytes.big16 1
  Bytes.ofList <|
    Bytes.big32 0x00010000 ++ Bytes.big16 3 ++ List.replicate 6 0 ++
      directoryEntry 0x68656164 60 54 ++ directoryEntry 0x68686561 114 36 ++
      directoryEntry 0x6D617870 150 6 ++ head ++ hhea ++ maxp

/-- A chart that asks for a font, with some files in the current directory. -/
def chartAmong (files : List (Location × Node)) : Call where
  disk := ⟨files, []⟩
  options := { ChartOptions.standard with font := some ⟨"a.ttf"⟩ }
  curve := [⟨1, 1⟩]
  output := ⟨"a.png"⟩

theorem drawable_chartAmong {files : List (Location × Node)}
    (htarget : (chartAmong files).disk.target ⟨"a.png"⟩ = .ok ["a.png"]) :
    (chartAmong files).Drawable := by
  have hformat : formatOf ⟨"a.png"⟩ = .ok .png := by decide +kernel
  have hencode (b : Bitmap) (hwidth : b.width = 1000) (hheight : b.height = 600) :
      encodeImage .png b = .ok (Png.encode b) := by
    simp only [encodeImage, hwidth, hheight, OfNat.ofNat_ne_zero, if_false]
  exact ⟨List.cons_ne_nil _ _, .png, _, _, hformat, htarget,
    hencode _ (width_picture _ _) (height_picture _ _)⟩

/-- A font that is not there, then is, and then is lost: the first chart has no text and says so, and
the others have the font without a word. -/
theorem one_font_of_lost_file :
    let missing := chartAmong []
    let present := chartAmong [(["a.ttf"], .file smallFont)]
    ∃ o o' o'', Drawn [] missing o ∧ o.font = none ∧ o.fontWarning.isSome = true ∧
      Drawn [missing] present o' ∧ o'.font = some ⟨"a.ttf"⟩ ∧
      Drawn [missing, present] missing o'' ∧ o''.font = some ⟨"a.ttf"⟩ ∧ o''.fontWarning = none := by
  intro missing present
  have hmissing : missing.ownFont = none := by decide +kernel
  have hpresent : present.ownFont = some ⟨"a.ttf"⟩ := by decide +kernel
  have hfirst : registered [missing] = none := by
    rw [registered_eq_findSome?, List.findSome?_singleton, hmissing]
  have hsecond : registered [missing, present] = some ⟨"a.ttf"⟩ := by
    rw [registered_eq_findSome?, List.findSome?_cons, hmissing, List.findSome?_singleton, hpresent]
  have h := one_font [missing, present, missing]
  have hone : [] ++ [missing] <+: [missing, present, missing] := ⟨[present, missing], rfl⟩
  have htwo : [missing] ++ [present] <+: [missing, present, missing] := ⟨[missing], rfl⟩
  have hthree : [missing, present] ++ [missing] <+: [missing, present, missing] := ⟨[], rfl⟩
  obtain ⟨o, ho⟩ := (h.drawn_iff hone).2 (drawable_chartAmong rfl)
  obtain ⟨o', ho'⟩ := (h.drawn_iff htwo).2 (drawable_chartAmong rfl)
  obtain ⟨o'', ho''⟩ := (h.drawn_iff hthree).2 (drawable_chartAmong rfl)
  have hfont : o.font = none := (h.font_eq hone ho).trans hfirst
  have hfont' : o'.font = some ⟨"a.ttf"⟩ := (h.font_eq htwo ho').trans hsecond
  have hlabels : o'.labelsDrawn = true := by rw [ChartOutcome.labelsDrawn, hfont']; rfl
  have hfont'' : o''.font = o'.font :=
    h.same_font (List.prefix_refl _) hthree ho' hlabels ho''
  have hregistered : registered [missing, present] ≠ none := by
    rw [hsecond]
    exact Option.some_ne_none _
  exact ⟨o, o', o'', ho, hfont, h.warned hone ho hfont, ho', hfont', ho'',
    hfont''.trans hfont', h.silent hthree ho'' hregistered⟩

end Chart

end LatencyCurve
