import LatencyCurve.Proofs.Course
import LatencyCurve.Proofs.Writing

/-!
# What the image of a run contains

The format of an image is chosen by the extension of its path. So a run leaves a PNG image if the
path ends in `.png`, in letters of either case, and then the image says the size that was asked for
(`Png.size?_encode`). For any other path a notice promises that the file will be a PNG image all the
same; it never is one. `Run.png_iff_extension` says both.

That bytes are no PNG image is told from the first of them (`Png.size?_eq_none_of_head?`), in which
the formats differ.
-/

namespace LatencyCurve

namespace Bytes

@[simp] theorem toList_data_append (a b : ByteArray) :
    (a ++ b).data.toList = a.data.toList ++ b.data.toList := by
  rw [ByteArray.data_append, Array.toList_append]

@[simp] theorem toList_data_ofList (bs : List UInt8) : (ofList bs).data.toList = bs := rfl

/-- A slice is what stands behind as many bytes as its place says. -/
theorem slice?_eq_some_iff {bytes : ByteArray} {place length : Nat} {bs : List UInt8} :
    slice? bytes place length = some bs ↔
      ∃ before after, bytes.data.toList = before ++ bs ++ after ∧ before.length = place ∧
        bs.length = length := by
  have hextract : (bytes.extract place (place + length)).data.toList =
      (bytes.data.toList.drop place).take length := by
    simp [ByteArray.data_extract, Array.toList_extract, List.extract_eq_take_drop]
  have hsize : bytes.size = bytes.data.toList.length := rfl
  rw [slice?, hextract, hsize]
  generalize bytes.data.toList = all
  constructor
  · intro h
    split at h
    next hle =>
      cases h
      refine ⟨all.take place, (all.drop place).drop length, ?_, ?_, ?_⟩
      · rw [List.append_assoc, List.take_append_drop, List.take_append_drop]
      · rw [List.length_take]; omega
      · rw [List.length_take, List.length_drop]; omega
    next => cases h
  · rintro ⟨before, after, rfl, rfl, rfl⟩
    simp

end Bytes

namespace Png

open Bytes

/-- **A PNG image says its size.** -/
theorem size?_encode {b : Bitmap} (hwidth : b.width < UInt32.size)
    (hheight : b.height < UInt32.size) : size? (encode b) = some (b.width, b.height) := by
  have hsize : (header b.width b.height).size = 13 := rfl
  obtain ⟨rest, hrest⟩ : ∃ rest, (encode b).data.toList =
      signature ++ (big32 13 ++ headerType) ++ big32 b.width ++ big32 b.height ++ rest := by
    simp only [encode, chunk, hsize, toList_data_append, toList_data_ofList, List.append_assoc]
    simp only [header, toList_data_ofList, List.append_assoc]
    exact ⟨_, rfl⟩
  have hfirst : slice? (encode b) 0 8 = some signature :=
    slice?_eq_some_iff.2 ⟨[], big32 13 ++ headerType ++ big32 b.width ++ big32 b.height ++ rest,
      by rw [hrest]; simp only [List.nil_append, List.append_assoc], rfl, rfl⟩
  have hw : slice? (encode b) 16 4 = some (big32 b.width) :=
    slice?_eq_some_iff.2 ⟨signature ++ (big32 13 ++ headerType), big32 b.height ++ rest,
      by rw [hrest, List.append_assoc], rfl, rfl⟩
  have hh : slice? (encode b) 20 4 = some (big32 b.height) :=
    slice?_eq_some_iff.2 ⟨signature ++ (big32 13 ++ headerType) ++ big32 b.width, rest, hrest, rfl,
      rfl⟩
  simp [size?, hfirst, hw, hh, valueBig_big32 hwidth, valueBig_big32 hheight]

/-- What begins with another byte is no PNG image. -/
theorem size?_eq_none_of_head? {bytes : ByteArray}
    (h : bytes.data.toList.head? ≠ signature.head?) : size? bytes = none := by
  have hfirst : slice? bytes 0 8 ≠ some signature := by
    intro hslice
    obtain ⟨before, after, heq, hbefore, -⟩ := slice?_eq_some_iff.1 hslice
    rw [List.length_eq_zero_iff.1 hbefore] at heq
    exact h (by rw [heq]; rfl)
  rw [size?]
  cases hslice : slice? bytes 0 8 with
  | none => rfl
  | some first =>
    have hne : first ≠ signature := fun heq ↦ hfirst (heq ▸ hslice)
    cases slice? bytes 16 4 <;> cases slice? bytes 20 4 <;> simp [hne]

end Png

/-- A Windows bitmap begins with a letter. -/
theorem Bmp.size?_encode (b : Bitmap) : Png.size? (encode b) = none := by
  have hhead : (encode b).data.toList.head? = some 0x42 := by
    rw [encode, Bytes.toList_data_append, Bytes.toList_data_ofList]
    unfold headers
    simp only [List.append_assoc, List.cons_append, List.head?_cons]
  exact Png.size?_eq_none_of_head? (by rw [hhead]; decide)

/-- A JPEG image begins with a marker. -/
theorem Jpeg.size?_encode (b : Bitmap) : Png.size? (encode b) = none := by
  have hhead : (encode b).data.toList.head? = some 0xFF := by
    rw [encode, Bytes.toList_data_append, Bytes.toList_data_append, Bytes.toList_data_ofList]
    unfold headers
    simp only [List.append_assoc, List.cons_append, List.head?_cons]
  exact Png.size?_eq_none_of_head? (by rw [hhead]; decide)

/-! ### Formats -/

/-- The extension of PNG images stands for no other format, and no other for it. -/
theorem formatOf_eq_png_iff {p : Path} :
    formatOf p = .ok .png ↔ Config.hasPngExtension p = true := by
  have hextension {e : String} : ImageFormat.ofExtension? e = some .png ↔ e = "png" := by
    constructor
    · intro h
      unfold ImageFormat.ofExtension? at h
      split at h
      · rfl
      all_goals simp at h
    · rintro rfl; rfl
  rw [formatOf, Config.hasPngExtension, ImageFormat.ofPath?]
  cases p.extension? with
  | none => simp
  | some e =>
    simp only [Option.bind_some, Option.any_some, decide_eq_true_eq]
    rw [← hextension]
    cases ImageFormat.ofExtension? e.toLower <;> simp

/-- What is written in a format is a PNG image if that is the format, and else none. -/
theorem size?_of_encodeImage {format : ImageFormat} {b : Bitmap} {content : ByteArray}
    (hwidth : b.width < UInt32.size) (hheight : b.height < UInt32.size)
    (h : encodeImage format b = .ok content) :
    Png.size? content = if format = .png then some (b.width, b.height) else none := by
  unfold encodeImage at h
  split at h
  next =>
    rw [if_pos rfl]
    split at h
    next => cases h
    split at h
    next => cases h
    rw [← Except.ok.inj h, Png.size?_encode hwidth hheight]
  next =>
    rw [if_neg nofun, ← Except.ok.inj h, Bmp.size?_encode]
  next =>
    split at h
    next => cases h
    rw [if_neg nofun, ← Except.ok.inj h, Jpeg.size?_encode]
  next => cases h

/-! ### The promise -/

namespace Config

/-- The notice that says that a path has another extension and yet will be a PNG image. -/
def pngPromise (output : Path) : Notice :=
  ⟨.warning, "Output '" ++ output.text ++ "' does not end in .png but will contain PNG data"⟩

/-- A notice of another level, or with another first letter, is another notice. -/
theorem pngPromise_ne {output : Path} {n : Notice}
    (h : n.level ≠ .warning ∨ n.message.toList.head? ≠ some 'O') : pngPromise output ≠ n := by
  rintro rfl
  simp [pngPromise, String.toList_append] at h

/-- The promise is made for each image path without the extension of PNG images. -/
theorem pngPromise_mem_iff {c : Config} {d : Disk} {notices : List Notice}
    (h : c.check d = .ok notices) :
    pngPromise c.resolvedOutput ∈ notices ↔ hasPngExtension c.resolvedOutput = false := by
  have hinput : pngPromise c.resolvedOutput ∉ c.inputNotices d := by
    rw [inputNotices]
    split <;> simp [pngPromise]
  have hsize : pngPromise c.resolvedOutput ∉ c.sizeNotices := by
    simp only [sizeNotices, List.mem_append, not_or]
    constructor <;> split <;> simp only [List.mem_singleton, List.not_mem_nil, not_false_eq_true]
    · exact pngPromise_ne (.inr (by simp [String.toList_append]))
    · exact pngPromise_ne (.inl nofun)
  have hfont : pngPromise c.resolvedOutput ∉ c.fontNotices d := by
    rw [fontNotices]
    split
    next => simp
    split
    · simp
    · rw [List.mem_singleton]
      exact pngPromise_ne (.inr (by simp [String.toList_append]))
  have houtput : pngPromise c.resolvedOutput ∈ c.outputNotices d ↔
      hasPngExtension c.resolvedOutput = false := by
    simp only [outputNotices, List.mem_append]
    cases hasPngExtension c.resolvedOutput with
    | false => simp [pngPromise]
    | true =>
      rw [if_pos rfl]
      split <;> simp [pngPromise]
  obtain ⟨-, rfl⟩ := check_eq_ok_iff.1 h
  simp only [List.mem_append, hinput, hsize, hfont, houtput, false_or, or_false]

/-- A size that is allowed can be said in an image. -/
theorem lt_of_sizeAllowed {n : Nat} (h : sizeAllowed n = true) : n < UInt32.size := by
  simp only [sizeAllowed, Bool.and_eq_true, decide_eq_true_eq] at h
  exact Nat.lt_of_le_of_lt h.2 (by decide)

end Config

/-! ### The image of a run -/

namespace Run

namespace Course

variable {k : Circumstances} {w : World} {t : Timers} {c : Config} {x : Execution} {r : RunReport}

/-- The image file that a successful run leaves, as it is found through the path of its report. -/
theorem exists_image (hx : Course k w t c x) (hr : x.result = .ok r) :
    ∃ content, x.world.disk.read r.chart.output = .ok content ∧
      Png.size? content =
        if Config.hasPngExtension r.chart.output then some (c.width, c.height) else none := by
  cases hx with
  | refused | unreadable | empty | noDirectory | notDrawn => cases hr
  | @drawn notices log _ _ h _ himage =>
    cases hr
    obtain ⟨format, l, content, hformat, htarget, hencode, rfl⟩ := writeImage_eq_ok_iff.1 himage
    obtain ⟨hvalid, -⟩ := Config.check_eq_ok_iff.1 h.check_eq
    obtain ⟨-, hwidth, hheight, -, -⟩ := Config.validate_eq_ok_iff.1 hvalid
    have hw : (pictureOf c log).width = c.width := Chart.width_picture _ _
    have hh : (pictureOf c log).height = c.height := Chart.height_picture _ _
    refine ⟨content, Disk.read_put_of_target htarget content, ?_⟩
    rw [size?_of_encodeImage (hw ▸ Config.lt_of_sizeAllowed hwidth)
      (hh ▸ Config.lt_of_sizeAllowed hheight) hencode, hw, hh]
    refine if_congr ?_ rfl rfl
    rw [chartOf, ← formatOf_eq_png_iff, hformat, Except.ok.injEq]

end Course

/-- **What image a successful run leaves**: a PNG image of the size asked for if its path has the
extension for it, and no PNG image at all otherwise. So the notice that promises one for other
paths is given exactly when there is none. -/
theorem png_iff_extension {k : Circumstances} {w : World} {t : Timers} {c : Config} {r : RunReport}
    (h : (execute k w t c).result = .ok r) :
    ∃ content, (execute k w t c).world.disk.read r.chart.output = .ok content ∧
      Png.size? content =
        (if Config.hasPngExtension r.chart.output then some (c.width, c.height) else none) ∧
      (Config.pngPromise r.chart.output ∈ r.notices ↔ Png.size? content = none) := by
  have hx := course_execute k w t c
  obtain ⟨content, hread, hsize⟩ := hx.exists_image h
  refine ⟨content, hread, hsize, ?_⟩
  rw [hsize, hx.output_eq h, Config.pngPromise_mem_iff (hx.check_eq_notices h)]
  cases Config.hasPngExtension c.resolvedOutput <;> simp

/-! ### A promise that is kept, and one that is not -/

/-- The configuration for that log, with the image at some path. -/
def loneConfig (output : Path) : Config :=
  { Config.forInput ⟨"a.log"⟩ with output := some output }

/-- The run for that log, with the image at some path. -/
def loneRun (output : Path) : Execution :=
  execute ⟨"run", fun _ ↦ .ofNanos 0, "build"⟩ ⟨loneDisk, none⟩ .none (loneConfig output)

/-- Such a run succeeds if its image can be written. -/
theorem exists_report_loneRun {output : Path} {format : ImageFormat} {l : Location}
    {content : ByteArray} (hvalid : (loneConfig output).validate loneDisk = .ok ())
    (hformat : formatOf output = .ok format) (htarget : loneDisk.target output = .ok l)
    (hencode : encodeImage format (pictureOf (loneConfig output) shortLog) = .ok content) :
    ∃ r, (loneRun output).result = .ok r ∧ r.chart.output = output :=
  exists_report (w := ⟨loneDisk, none⟩) (c := loneConfig output) hvalid read_loneDisk
    measurements_shortLog_ne hformat htarget hencode _ _

/-- With the extension of PNG images it leaves one. -/
theorem png_of_lone_log :
    ∃ r content, (loneRun ⟨"plot.png"⟩).result = .ok r ∧
      (loneRun ⟨"plot.png"⟩).world.disk.read r.chart.output = .ok content ∧
      Png.size? content = some (1000, 600) := by
  have hextension : Config.hasPngExtension ⟨"plot.png"⟩ = true := by decide +kernel
  have hvalid : (loneConfig ⟨"plot.png"⟩).validate loneDisk = .ok () := by decide
  have htarget : loneDisk.target ⟨"plot.png"⟩ = .ok ["plot.png"] := by decide
  obtain ⟨r, hr, houtput⟩ := exists_report_loneRun hvalid (formatOf_eq_png_iff.2 hextension) htarget
    (encodeImage_pictureOf (by decide) (by decide) shortLog)
  obtain ⟨content, hread, hsize, -⟩ := png_iff_extension hr
  rw [houtput, hextension, if_pos rfl] at hsize
  exact ⟨r, content, hr, hread, hsize⟩

/-- With another extension it promises one and leaves none. -/
theorem no_png_despite_promise :
    ∃ r content, (loneRun ⟨"plot.jpg"⟩).result = .ok r ∧
      Config.pngPromise r.chart.output ∈ r.notices ∧
      (loneRun ⟨"plot.jpg"⟩).world.disk.read r.chart.output = .ok content ∧
      Png.size? content = none := by
  have hextension : Config.hasPngExtension ⟨"plot.jpg"⟩ = false := by decide +kernel
  have hvalid : (loneConfig ⟨"plot.jpg"⟩).validate loneDisk = .ok () := by decide
  have hformat : formatOf ⟨"plot.jpg"⟩ = .ok .jpeg := by decide +kernel
  have htarget : loneDisk.target ⟨"plot.jpg"⟩ = .ok ["plot.jpg"] := by decide
  have hencode : encodeImage .jpeg (pictureOf (loneConfig ⟨"plot.jpg"⟩) shortLog) =
      .ok (Jpeg.encode (pictureOf (loneConfig ⟨"plot.jpg"⟩) shortLog)) := by
    have hw : (pictureOf (loneConfig ⟨"plot.jpg"⟩) shortLog).width = 1000 :=
      Chart.width_picture _ _
    have hh : (pictureOf (loneConfig ⟨"plot.jpg"⟩) shortLog).height = 600 :=
      Chart.height_picture _ _
    simp only [encodeImage, hw, hh]
    rw [if_neg (by decide)]
  obtain ⟨r, hr, houtput⟩ := exists_report_loneRun hvalid hformat htarget hencode
  have hx : Course _ _ _ (loneConfig ⟨"plot.jpg"⟩) (loneRun ⟨"plot.jpg"⟩) := course_execute _ _ _ _
  obtain ⟨content, hread, hsize⟩ := hx.exists_image hr
  refine ⟨r, content, hr, ?_, hread, ?_⟩
  · rw [hx.output_eq hr, Config.pngPromise_mem_iff (hx.check_eq_notices hr)]
    exact hextension
  · rw [hsize, houtput, hextension]
    rfl

end Run

end LatencyCurve
