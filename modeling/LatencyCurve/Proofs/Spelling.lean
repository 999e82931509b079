import LatencyCurve.Disk.Basic
import LatencyCurve.Proofs.Segments

/-!
# How a path is spelled

The same place can be spelled in many ways: slashes may be repeated, and dots may stand between
them. What counts of a path is whether it starts at the root, and its *moves*, the segments that
lead somewhere. The components of a path are another account of the same, so

* paths with the same components have the same moves and start at the same place
  (`Path.moves_of_same`, `Path.isAbsolute_of_same`);
* the directory of a path starts where the path does and has its moves but for the last
  (`Disk.spelling_directoryOf`), unless the path ends with a segment that leads nowhere.
-/

namespace LatencyCurve

/-- A character other than the separator is in a text if it is in one of its pieces. -/
theorem mem_iff_exists_mem_piecesAt {sep c : Char} (hc : c ≠ sep) {s : List Char} :
    c ∈ s ↔ ∃ piece ∈ piecesAt sep s, c ∈ piece := by
  induction s with
  | nil => simp [piecesAt]
  | cons x s ih =>
    rw [List.mem_cons, ih, piecesAt_cons]
    split
    next hx => simp [hx, hc]
    next =>
      cases hs : piecesAt sep s with
      | nil => exact absurd hs (piecesAt_ne_nil sep s)
      | cons first rest => simp [pushFront, or_assoc]

/-- The segment that a component is, if it leads somewhere from wherever one is. -/
def Component.move? : Component → Option String
  | root | here => none
  | up => some ".."
  | name s => some s

namespace Path

/-! ### Moves -/

theorem isIdle_iff {s : String} : isIdle s = true ↔ s = "" ∨ s = "." := by
  simp [isIdle]

/-- The segments that lead somewhere. -/
def moves (segments : List String) : List String :=
  segments.filter (!isIdle ·)

theorem moves_append (segs segs' : List String) :
    moves (segs ++ segs') = moves segs ++ moves segs' :=
  List.filter_append ..

theorem moves_cons_of_idle {s : String} (h : isIdle s = true) (segs : List String) :
    moves (s :: segs) = moves segs := by
  rw [moves, List.filter_cons_of_neg (by simp [h]), moves]

theorem moves_cons_of_not_idle {s : String} (h : isIdle s = false) (segs : List String) :
    moves (s :: segs) = s :: moves segs := by
  rw [moves, List.filter_cons_of_pos (by simp [h]), moves]

theorem moves_dropIdle (segs : List String) : moves (dropIdle segs) = moves segs := by
  have hdrop (l : List String) : moves (l.dropWhile isIdle) = moves l := by
    induction l with
    | nil => rfl
    | cons s l ih =>
      rw [List.dropWhile_cons]
      split
      next h => rw [ih, moves_cons_of_idle h]
      next => rfl
  rw [dropIdle, moves, List.filter_reverse, ← moves, hdrop, moves, List.filter_reverse,
    List.reverse_reverse, moves]

/-! ### Components -/

/-- The component of a segment leads where the segment does. -/
theorem bind_componentOf? (s : String) :
    (componentOf? s).bind Component.move? = if isIdle s then none else some s := by
  rw [componentOf?]
  split
  next => rfl
  next =>
    split
    next hup => rw [hup]; rfl
    next => rfl

/-- **The moves of a path are read off its components.** -/
theorem filterMap_components (p : Path) :
    p.components.filterMap Component.move? = moves p.segments := by
  have hmove (segs : List String) :
      (segs.filterMap componentOf?).filterMap Component.move? = moves segs := by
    rw [List.filterMap_filterMap, moves, ← List.filterMap_eq_filter]
    refine List.filterMap_congr fun s _ ↦ ?_
    rw [bind_componentOf?, Option.guard]
    cases isIdle s <;> rfl
  have hleading (first : String) (rest : List String) :
      (leading first rest).filterMap Component.move? = moves [first] := by
    rw [leading]
    split
    next hfirst => subst hfirst; split <;> rfl
    next =>
      split
      next hfirst => subst hfirst; rfl
      next =>
        rw [← hmove [first]]
        cases h : componentOf? first <;> simp [h]
  rw [components]
  cases p.segments with
  | nil => rfl
  | cons first rest => rw [List.filterMap_append, hmove, hleading, ← moves_append]; rfl

/-- A path starts at the root if a slash follows nothing. -/
theorem isAbsolute_iff_of_segments {p : Path} {first : String} {rest : List String}
    (h : p.segments = first :: rest) : p.isAbsolute = true ↔ first = "" ∧ rest ≠ [] := by
  rw [segments] at h
  rw [isAbsolute]
  cases hp : p.text.toList with
  | nil =>
    rw [hp] at h
    obtain ⟨-, rfl⟩ := List.cons_eq_cons.1 h
    simp
  | cons c cs =>
    rw [hp, piecesAt_cons] at h
    obtain ⟨piece, pieces, hcs⟩ := List.exists_cons_of_ne_nil (piecesAt_ne_nil '/' cs)
    rw [hcs] at h
    split at h
    next hc =>
      obtain ⟨rfl, rfl⟩ := List.cons_eq_cons.1 h
      simp [hc]
    next hc =>
      obtain ⟨rfl, -⟩ := List.cons_eq_cons.1 h
      simp [hc]

/-- **Whether a path starts at the root is read off its components**, too. -/
theorem isAbsolute_iff {p : Path} : p.isAbsolute = true ↔ Component.root ∈ p.components := by
  have hroot (s : String) : componentOf? s ≠ some .root := by
    rw [componentOf?]
    split
    · simp
    · split <;> simp
  rw [components]
  cases hp : p.segments with
  | nil => exact absurd hp p.segments_ne_nil
  | cons first rest =>
    have hrest : Component.root ∉ rest.filterMap componentOf? := by
      rw [List.mem_filterMap]
      rintro ⟨s, -, hs⟩
      exact hroot s hs
    rw [isAbsolute_iff_of_segments hp]
    dsimp only
    rw [List.mem_append, or_iff_left hrest, leading]
    split
    next hfirst => by_cases hnil : rest = [] <;> simp [hfirst, hnil]
    next hfirst =>
      split
      next => simp [hfirst]
      next => simp [hfirst, hroot]

/-- Paths with the same components make the same moves. -/
theorem moves_of_same {p q : Path} (h : p.same q = true) :
    moves p.segments = moves q.segments := by
  rw [← filterMap_components, of_decide_eq_true h, filterMap_components]

/-- Paths with the same components start at the same place. -/
theorem isAbsolute_of_same {p q : Path} (h : p.same q = true) : p.isAbsolute = q.isAbsolute := by
  rw [Bool.eq_iff_iff, isAbsolute_iff, isAbsolute_iff, of_decide_eq_true h]

/-! ### Characters of a path -/

/-- A zero byte of a path is in one of its moves. -/
theorem holdsZero_iff {p : Path} :
    p.holdsZero = true ↔ ∃ s ∈ moves p.segments, '\x00' ∈ s.toList := by
  have hzero : ('\x00' : Char) ≠ '/' := by decide
  rw [holdsZero, List.contains_iff_mem, mem_iff_exists_mem_piecesAt hzero, segments]
  constructor
  · rintro ⟨piece, hpiece, hmem⟩
    refine ⟨String.ofList piece, List.mem_filter.2 ⟨List.mem_map_of_mem hpiece, ?_⟩, by simpa⟩
    -- A segment that leads nowhere is empty or a dot.
    by_contra hidle
    have hidle : isIdle (String.ofList piece) = true := by simpa using hidle
    have hcases : piece = [] ∨ piece = ['.'] := by
      rw [isIdle_iff, ← String.toList_inj, ← String.toList_inj, String.toList_ofList] at hidle
      exact hidle
    rcases hcases with rfl | rfl
    · exact List.not_mem_nil hmem
    · exact absurd hmem (by decide)
  · rintro ⟨s, hs, hmem⟩
    obtain ⟨piece, hpiece, rfl⟩ := List.mem_map.1 (List.mem_filter.1 hs).1
    exact ⟨piece, hpiece, by simpa using hmem⟩

theorem holdsZero_of_same {p q : Path} (h : p.same q = true) : p.holdsZero = q.holdsZero := by
  rw [Bool.eq_iff_iff, holdsZero_iff, holdsZero_iff, moves_of_same h]

/-! ### The last segment and the directory -/

/-- A path that does not end with a slash, or with a dot behind one, ends with a segment that leads
somewhere. The only exception is the dot alone. -/
theorem exists_last {p : Path} (hempty : p.isEmpty = false) (hslash : ¬ ['/'] <:+ p.text.toList)
    (hdot : ¬ ['/', '.'] <:+ p.text.toList) :
    p = ⟨"."⟩ ∨ ∃ init last, p.segments = init ++ [last] ∧ isIdle last = false := by
  obtain ⟨init, last, hp⟩ := (List.eq_nil_or_concat p.segments).resolve_left p.segments_ne_nil
  rw [List.concat_eq_append] at hp
  cases hidle : isIdle last with
  | false => exact .inr ⟨init, last, hp, hidle⟩
  | true =>
  have hlast := isIdle_iff.1 hidle
  have htext := p.intercalate_segments
  rw [hp] at htext
  cases init with
  | nil =>
    have htext : last = p.text := by simpa [String.intercalate_singleton] using htext
    rcases hlast with rfl | rfl
    · rw [isEmpty, ← htext] at hempty
      exact absurd hempty (by decide)
    · exact .inl (by rw [htext])
  | cons first rest =>
    rw [String.intercalate_append_of_ne_nil (List.cons_ne_nil _ _) (List.cons_ne_nil _ _),
      String.intercalate_singleton] at htext
    rw [← htext, String.toList_append, String.toList_append, List.append_assoc] at hslash hdot
    rcases hlast with rfl | rfl
    · exact absurd (List.suffix_append ..) hslash
    · exact absurd (List.suffix_append ..) hdot

theorem dropIdle_concat {last : String} (h : isIdle last = false) (segs : List String) :
    dropIdle (segs ++ [last]) = segs ++ [last] := by
  simp [dropIdle, h]

/-- The parent of a single name is the empty path. -/
theorem parent?_of_single {p : Path} {last : String} (h : p.segments = [last])
    (hidle : isIdle last = false) : p.parent? = some ⟨""⟩ := by
  have hlast : last ≠ "" := by
    rintro rfl
    exact absurd hidle (by decide)
  rw [parent?, h]
  exact if_neg hlast

/-- Else the parent has the segments before the last, without the idle ones at the end. -/
theorem parent?_of_cons {p : Path} {first last : String} {mid : List String}
    (h : p.segments = first :: mid ++ [last]) (hidle : isIdle last = false) :
    p.parent? = some (ofSegments (first :: dropIdle mid)) := by
  rw [parent?, h, List.cons_append]
  dsimp only
  rw [dropIdle_concat hidle]
  split
  next hnil => exact absurd hnil (by simp)
  next => rw [List.dropLast_concat]

theorem isEmpty_ofSegments {segs : List String} (h : segs ≠ []) :
    (ofSegments segs).isEmpty = false := by
  rw [ofSegments]
  split
  next => rfl
  next hroot =>
    obtain ⟨first, rest, rfl⟩ := List.exists_cons_of_ne_nil h
    rw [isEmpty, ← Bool.not_eq_true, String.isEmpty_iff]
    cases rest with
    | nil => simpa [String.intercalate_singleton] using hroot
    | cons s rest =>
      rw [← String.toList_eq_nil_iff, String.toList_intercalate]
      simp

end Path

namespace Disk

open LatencyCurve.Path

/-- A single name stands in the current directory. -/
theorem directoryOf_of_single {p : Path} {last : String} (h : p.segments = [last])
    (hidle : isIdle last = false) : directoryOf p = ⟨"."⟩ := by
  rw [directoryOf, parent?_of_single h hidle]
  rfl

/-- Else its directory is its parent. -/
theorem directoryOf_of_cons {p : Path} {first last : String} {mid : List String}
    (h : p.segments = first :: mid ++ [last]) (hidle : isIdle last = false) :
    directoryOf p = ofSegments (first :: dropIdle mid) := by
  rw [directoryOf, parent?_of_cons h hidle]
  dsimp only
  rw [isEmpty_ofSegments (List.cons_ne_nil _ _)]
  rfl

/-- **The directory of a path** makes the moves of the path but for the last, from where the path
starts. -/
theorem spelling_directoryOf {p : Path} {init : List String} {last : String}
    (h : p.segments = init ++ [last]) (hidle : isIdle last = false) :
    moves (directoryOf p).segments = moves init ∧ (directoryOf p).isAbsolute = p.isAbsolute := by
  cases init with
  | nil =>
    rw [directoryOf_of_single h hidle]
    refine ⟨by decide, ?_⟩
    rw [Bool.eq_iff_iff, isAbsolute_iff_of_segments h]
    simp [Path.isAbsolute]
  | cons first mid =>
    rw [directoryOf_of_cons h hidle]
    have habsolute := isAbsolute_iff_of_segments h
    -- The root is the one directory that is not made from its segments.
    by_cases hroot : first :: dropIdle mid = [""]
    · obtain ⟨rfl, hmid⟩ := List.cons_eq_cons.1 hroot
      rw [hmid]
      refine ⟨?_, ?_⟩
      · rw [moves_cons_of_idle (by decide), ← moves_dropIdle mid, hmid]
        decide
      · rw [habsolute.2 ⟨rfl, by simp⟩]
        decide
    · have hsegments : (ofSegments (first :: dropIdle mid)).segments = first :: dropIdle mid := by
        refine segments_ofSegments (List.cons_ne_nil _ _) hroot fun s hs ↦ ?_
        have hfront := dropIdle_prefix mid
        have hsub : s ∈ first :: mid := by
          rcases List.mem_cons.1 hs with rfl | hs
          · exact List.mem_cons_self
          · exact List.mem_cons_of_mem _ (hfront.subset hs)
        exact notMem_of_mem_segments (h ▸ List.mem_append_left _ hsub)
      refine ⟨?_, ?_⟩
      · rw [hsegments, ← List.singleton_append, moves_append, moves_dropIdle, ← moves_append]
        rfl
      · rw [List.cons_eq_cons, not_and] at hroot
        rw [Bool.eq_iff_iff, habsolute, isAbsolute_iff_of_segments hsegments]
        exact ⟨fun h ↦ ⟨h.1, by simp⟩, fun h ↦ ⟨h.1, hroot h.1⟩⟩

end Disk

end LatencyCurve
