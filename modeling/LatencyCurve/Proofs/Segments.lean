import LatencyCurve.Disk.Path
import Mathlib.Data.List.Infix

/-!
# Paths and their segments

A path is a text, and its segments are another form of it: cutting at slashes and joining with
slashes undo each other (`Path.intercalate_segments`, `Path.segments_ofSegments`). So a path may be
taken apart at any place between two segments. Two such places matter:

* in front of the last segment, which is what a suffix is added to and what the file name is;
* behind the directory of a path, whose text is then a beginning of the text of the path
  (`Path.exists_of_parent?`).
-/

namespace LatencyCurve

/-! ### Pieces -/

/-- A text without the separator is one piece. -/
theorem piecesAt_of_notMem {sep : Char} {s : List Char} (h : sep ∉ s) : piecesAt sep s = [s] := by
  induction s with
  | nil => rfl
  | cons c s ih =>
    rw [List.mem_cons, not_or] at h
    rw [piecesAt_cons, if_neg (Ne.symm h.1), ih h.2, pushFront]

/-- What is added to a text without a separator in it is added to the last piece. -/
theorem piecesAt_append_of_notMem {sep : Char} (s : List Char) {t : List Char} (h : sep ∉ t) :
    ∃ init last, piecesAt sep s = init ++ [last] ∧ piecesAt sep (s ++ t) = init ++ [last ++ t] := by
  induction s with
  | nil => exact ⟨[], [], rfl, piecesAt_of_notMem h⟩
  | cons c s ih =>
    obtain ⟨init, last, hs, hst⟩ := ih
    rw [List.cons_append, piecesAt_cons, piecesAt_cons, hs, hst]
    by_cases hc : c = sep
    · exact ⟨[] :: init, last, by rw [if_pos hc]; rfl, by rw [if_pos hc]; rfl⟩
    · rw [if_neg hc, if_neg hc]
      cases init with
      | nil => exact ⟨[], c :: last, rfl, rfl⟩
      | cons piece init => exact ⟨(c :: piece) :: init, last, rfl, rfl⟩

/-- No piece holds the separator. -/
theorem notMem_of_mem_piecesAt {sep : Char} {s piece : List Char} (h : piece ∈ piecesAt sep s) :
    sep ∉ piece := by
  induction s generalizing piece with
  | nil =>
    obtain rfl : piece = [] := by simpa using h
    exact List.not_mem_nil
  | cons c s ih =>
    rw [piecesAt_cons] at h
    split at h
    · rcases List.mem_cons.1 h with rfl | h
      · exact List.not_mem_nil
      · exact ih h
    next hc =>
      cases hs : piecesAt sep s with
      | nil => exact absurd hs (piecesAt_ne_nil sep s)
      | cons first rest =>
        rw [hs] at h ih
        rcases List.mem_cons.1 h with rfl | h
        · rw [List.mem_cons, not_or]
          exact ⟨Ne.symm hc, ih List.mem_cons_self⟩
        · exact ih (List.mem_cons_of_mem _ h)

/-- **Cutting at a separator cuts there**: what stands before it and what stands behind it are cut
independently of each other. -/
theorem piecesAt_append_sep (sep : Char) (s t : List Char) :
    piecesAt sep (s ++ sep :: t) = piecesAt sep s ++ piecesAt sep t := by
  induction s with
  | nil => rw [List.nil_append, piecesAt_cons, if_pos rfl]; rfl
  | cons c s ih =>
    rw [List.cons_append, piecesAt_cons, piecesAt_cons, ih]
    split
    next => rfl
    next =>
      cases hs : piecesAt sep s with
      | nil => exact absurd hs (piecesAt_ne_nil sep s)
      | cons first rest => rfl

/-- A piece in front of the separator is the first piece. -/
theorem piecesAt_append_cons {sep : Char} {s : List Char} (h : sep ∉ s) (t : List Char) :
    piecesAt sep (s ++ sep :: t) = s :: piecesAt sep t := by
  rw [piecesAt_append_sep, piecesAt_of_notMem h, List.singleton_append]

/-- Joining undoes cutting. -/
theorem intercalate_piecesAt (sep : Char) (s : List Char) :
    [sep].intercalate (piecesAt sep s) = s := by
  induction s with
  | nil => rfl
  | cons c s ih =>
    rw [piecesAt_cons]
    split
    next hc =>
      rw [List.intercalate_cons_of_ne_nil (piecesAt_ne_nil sep s), ih, hc]
      rfl
    next =>
      cases hs : piecesAt sep s with
      | nil => exact absurd hs (piecesAt_ne_nil sep s)
      | cons first rest =>
        rw [hs] at ih
        rw [pushFront, List.intercalate_cons_cons_left, ih]

/-- Cutting undoes joining, if no piece holds the separator. -/
theorem piecesAt_intercalate {sep : Char} {pieces : List (List Char)} (hne : pieces ≠ [])
    (h : ∀ piece ∈ pieces, sep ∉ piece) : piecesAt sep ([sep].intercalate pieces) = pieces := by
  induction pieces with
  | nil => exact absurd rfl hne
  | cons piece rest ih =>
    have hpiece : sep ∉ piece := h piece List.mem_cons_self
    cases rest with
    | nil => rw [List.intercalate_singleton, piecesAt_of_notMem hpiece]
    | cons next rest =>
      rw [List.intercalate_cons_of_ne_nil (List.cons_ne_nil _ _), List.append_assoc,
        List.singleton_append, piecesAt_append_cons hpiece,
        ih (List.cons_ne_nil _ _) fun q hq ↦ h q (List.mem_cons_of_mem _ hq)]

namespace Path

/-! ### Segments and text -/

theorem segments_ne_nil (p : Path) : p.segments ≠ [] := by
  simpa [segments] using piecesAt_ne_nil '/' p.text.toList

/-- A path is its segments with slashes in between. -/
theorem intercalate_segments (p : Path) : "/".intercalate p.segments = p.text := by
  apply String.toList_injective
  rw [String.toList_intercalate, segments, List.map_map]
  have hid : String.toList ∘ String.ofList = id := funext fun _ ↦ String.toList_ofList
  rw [hid, List.map_id]
  exact intercalate_piecesAt '/' p.text.toList

/-- No segment holds a slash. -/
theorem notMem_of_mem_segments {p : Path} {s : String} (h : s ∈ p.segments) : '/' ∉ s.toList := by
  obtain ⟨piece, hpiece, rfl⟩ := List.mem_map.1 h
  rw [String.toList_ofList]
  exact notMem_of_mem_piecesAt hpiece

/-- The path of some segments has these segments. The root is not made from its segments. -/
theorem segments_ofSegments {segs : List String} (hne : segs ≠ []) (hroot : segs ≠ [""])
    (h : ∀ s ∈ segs, '/' ∉ s.toList) : (ofSegments segs).segments = segs := by
  have hpieces : piecesAt '/' (['/'].intercalate (segs.map String.toList)) =
      segs.map String.toList := by
    refine piecesAt_intercalate (by simpa using hne) fun piece hpiece ↦ ?_
    obtain ⟨s, hs, rfl⟩ := List.mem_map.1 hpiece
    exact h s hs
  have hid : String.ofList ∘ String.toList = id := funext fun _ ↦ String.ofList_toList
  rw [segments, ofSegments, if_neg hroot, String.toList_intercalate]
  rw [show "/".toList = ['/'] from rfl, hpieces, List.map_map, hid, List.map_id]

/-! ### The last segment -/

/-- What is added to a path without a slash in it is added to the last segment. -/
theorem segments_append (p : Path) {s : String} (h : '/' ∉ s.toList) :
    ∃ init last, p.segments = init ++ [last] ∧ (p.append s).segments = init ++ [last ++ s] := by
  obtain ⟨init, last, hp, hps⟩ := piecesAt_append_of_notMem p.text.toList h
  refine ⟨init.map String.ofList, String.ofList last, ?_, ?_⟩
  · rw [segments, hp, List.map_append]
    rfl
  · rw [segments, append, String.toList_append, hps, List.map_append, List.map_singleton,
      String.ofList_append, String.ofList_toList]

/-- The last segment of a path is its last component, if it leads somewhere. -/
theorem getLast?_components {p : Path} {init : List String} {last : String}
    (h : p.segments = init ++ [last]) (hidle : isIdle last = false) :
    p.components.getLast? = componentOf? last := by
  have hlast : ∃ c, componentOf? last = some c := by
    rw [componentOf?, hidle]
    by_cases hup : last = ".." <;> simp [hup]
  obtain ⟨c, hc⟩ := hlast
  have hne : last ≠ "" ∧ last ≠ "." := by simpa [isIdle] using hidle
  rw [components, h]
  cases init with
  | nil => simp [leading, hne, hc]
  | cons first rest => simp [hc]

/-- The last segment of a path is its file name, unless it is idle or goes up. -/
theorem fileName?_of_segments {p : Path} {init : List String} {name : String}
    (h : p.segments = init ++ [name]) (hidle : isIdle name = false) (hup : name ≠ "..") :
    p.fileName? = some name := by
  rw [fileName?, getLast?_components h hidle, componentOf?, hidle, if_neg hup]
  rfl

/-- The file name of a path is its last segment, unless this is idle. -/
theorem eq_of_fileName? {p : Path} {init : List String} {last name : String}
    (h : p.segments = init ++ [last]) (hidle : isIdle last = false)
    (hname : p.fileName? = some name) : name = last := by
  rw [fileName?, getLast?_components h hidle, componentOf?, hidle] at hname
  by_cases hup : last = ".."
  · simp [hup] at hname
  · simpa [hup] using hname.symm

/-! ### The directory of a path -/

theorem dropIdle_prefix (segs : List String) : dropIdle segs <+: segs := by
  rw [dropIdle, ← List.reverse_suffix, List.reverse_reverse]
  exact List.dropWhile_suffix _

/-- A path goes on behind the segments of its directory. -/
theorem exists_of_parent? {p dir : Path} (h : p.parent? = some dir) (hdir : dir.isEmpty = false) :
    ∃ segs post, dir = ofSegments segs ∧ segs ≠ [] ∧ post ≠ [] ∧ p.segments = segs ++ post := by
  rw [parent?] at h
  cases hp : p.segments with
  | nil => exact absurd hp p.segments_ne_nil
  | cons first rest =>
    rw [hp] at h
    dsimp only at h
    cases hused : dropIdle rest with
    | nil =>
      rw [hused] at h
      dsimp only at h
      split at h <;> cases h
      exact absurd hdir (by decide)
    | cons s used =>
      rw [hused] at h
      obtain rfl := Option.some.inj h
      have hused' : s :: used <+: rest := hused ▸ dropIdle_prefix rest
      have hshort : dropIdle (s :: used).dropLast <+: (s :: used).dropLast := dropIdle_prefix _
      obtain ⟨post, hpost⟩ := (hshort.trans (List.dropLast_prefix _)).trans hused'
      refine ⟨first :: dropIdle (s :: used).dropLast, post, rfl, List.cons_ne_nil _ _, ?_, ?_⟩
      -- The last name is not in the directory, so there is something left behind it.
      · rintro rfl
        have hle := hshort.length_le
        have hle' := hused'.length_le
        rw [← hpost] at hle'
        simp only [List.length_dropLast, List.length_append, List.length_cons,
          List.length_nil] at hle hle'
        omega
      · rw [List.cons_append, hpost]

/-- The text of a path begins with the text of its directory. -/
theorem text_eq_append_of_segments {p : Path} {segs post : List String} (hsegs : segs ≠ [])
    (hpost : post ≠ []) (h : p.segments = segs ++ post) :
    ∃ t, p.text = (ofSegments segs).text ++ t := by
  have htext := p.intercalate_segments
  rw [h, String.intercalate_append_of_ne_nil hsegs hpost] at htext
  rw [← htext, ofSegments]
  split
  next hroot => exact ⟨"/".intercalate post, by rw [hroot, String.intercalate_singleton]; rfl⟩
  next => exact ⟨"/" ++ "/".intercalate post, String.append_assoc⟩

end Path

end LatencyCurve
