import LatencyCurve.Proofs.Course
import LatencyCurve.Proofs.Resolution
import LatencyCurve.Proofs.Spelling

/-!
# When two paths are one file

Before a run the image path is compared with the input (`Disk.sameLocation`): by components, by
canonical forms, and, if the image is not there yet, by the canonical form of its directory. That
this finds out whether writing the image would reach the log rests on two facts about resolution:

* only the moves of a path count for where it leads (`Leads.moves`, `Leads.of_moves`), so neither
  equal components nor a resolved directory can be wrong about the file;
* a file can be made wherever it can be found (`Leads.make`).

What the comparison cannot know is whether the system takes the path at all: of two paths with the
same components one may be too long to be opened (`Disk.sameLocation_of_long_path`). Of canonical
forms it is assumed that they are found for every path whose segments are there, so that no prefix of
what a path resolves to is too long for the system (`Disk.canonical`).
-/

namespace LatencyCurve.Disk

open LatencyCurve.Path (moves moves_cons_of_idle moves_cons_of_not_idle)

/-! ### Well-formed file systems -/

/-- What every file system obeys: its parts form a tree, and no name holds a zero byte. -/
structure WellFormed (d : Disk) : Prop where
  /-- Everything stands in a directory. -/
  inDirectory : ∀ entry ∈ d.nodes, d.isDirectoryAt entry.1.dropLast = true
  /-- Names are free of zero bytes. -/
  zeroFree : ∀ entry ∈ d.nodes, ∀ s ∈ entry.1, '\x00' ∉ s.toList

instance (d : Disk) : Decidable d.WellFormed :=
  decidable_of_iff
    ((∀ entry ∈ d.nodes, d.isDirectoryAt entry.1.dropLast = true) ∧
      ∀ entry ∈ d.nodes, ∀ s ∈ entry.1, '\x00' ∉ s.toList)
    ⟨fun h ↦ ⟨h.1, h.2⟩, fun h ↦ ⟨h.inDirectory, h.zeroFree⟩⟩

/-- What is found somewhere is listed, unless it is the root. -/
theorem mem_nodes_of_node? {d : Disk} {l : Location} {node : Node} (h : d.node? l = some node)
    (hl : l ≠ []) : (l, node) ∈ d.nodes := by
  rw [node?, if_neg hl, List.lookup_eq_some_iff] at h
  obtain ⟨before, after, hnodes, -⟩ := h
  rw [hnodes]
  exact List.mem_append_right _ List.mem_cons_self

/-- The parent of a directory is a directory. -/
theorem WellFormed.isDirectoryAt_dropLast {d : Disk} (hd : d.WellFormed) {l : Location}
    (h : d.isDirectoryAt l = true) : d.isDirectoryAt l.dropLast = true := by
  by_cases hl : l = []
  · subst hl
    rfl
  · rw [isDirectoryAt] at h
    split at h
    next hnode => exact hd.inDirectory _ (mem_nodes_of_node? hnode hl)
    next => cases h

/-- Slashes at the end leave an empty segment there. -/
theorem getLast?_of_meansDirectory {rest : List String} (h : meansDirectory rest = true) :
    rest.getLast? = some "" := by
  rw [meansDirectory, Bool.and_eq_true, List.all_eq_true] at h
  obtain ⟨hne, hall⟩ := h
  have hne : rest ≠ [] := by simpa using hne
  rw [List.getLast?_eq_some_getLast hne]
  have hlast : rest.getLast hne = "" := by simpa using hall _ (List.getLast_mem hne)
  rw [hlast]

/-- A name without slashes behind it can be made where it can be found. -/
theorem LooksUp.make {s : String} {rest : List String} (h : LooksUp .find s rest)
    (hrest : meansDirectory rest = false) : LooksUp .make s rest :=
  ⟨h.not_idle, h.not_up, by simpa using hrest, h.short⟩

namespace Leads

variable {d : Disk} {purpose : Purpose} {n : Nat} {here l : Location} {segments : List String}
  {r : Resolved}

/-! ### Moves -/

/-- **Segments that lead nowhere can be left out.** -/
theorem moves (h : Leads d .find n here segments r) :
    Leads d .find n here (Path.moves segments) r := by
  induction segments generalizing n here with
  | nil => exact h
  | cons s rest ih =>
    cases h with
    | idle hdir hs hrest => exact moves_cons_of_idle hs rest ▸ ih hrest
    | up hdir hrest => exact .up hdir (ih hrest)
    | missing hdir hs hnode =>
      rw [moves_cons_of_not_idle hs.not_idle]
      exact .missing hdir hs hnode
    | entry hdir hs hnode hlink hrest =>
      rw [moves_cons_of_not_idle hs.not_idle]
      exact .entry hdir hs.find hnode hlink (ih hrest)
    | link hdir hs hnode hrest =>
      rw [moves_cons_of_not_idle hs.not_idle]
      refine .link hdir hs.find hnode ?_
      -- The segments of the target stay as they are; only what is behind the link is shortened.
      by_cases hne : rest = []
      · subst hne
        exact hrest
      · obtain ⟨k, m, l, rfl, hpre, hl⟩ := hrest.split hne
        exact hpre.append (ih hl)

/-- **And they can be put in**, but for the end of the path. -/
theorem of_moves {init : List String} {last : String} (hlast : Path.isIdle last = false)
    (h : Leads d .find n here (Path.moves (init ++ [last])) r) :
    Leads d .find n here (init ++ [last]) r := by
  induction init generalizing n here with
  | nil =>
    rw [List.nil_append, moves_cons_of_not_idle hlast] at h
    exact h
  | cons s init ih =>
    have hne : init ++ [last] ≠ [] := by simp
    have hne' : Path.moves (init ++ [last]) ≠ [] := by
      rw [Path.moves_append, moves_cons_of_not_idle hlast]
      simp
    rw [List.cons_append] at h ⊢
    cases hs : Path.isIdle s with
    | true =>
      rw [moves_cons_of_idle hs] at h
      have hrest := ih h
      exact .idle (hrest.isDirectoryAt_of_ne_nil hne) hs hrest
    | false =>
      rw [moves_cons_of_not_idle hs] at h
      generalize hmoves : Path.moves (init ++ [last]) = rest at h ih hne'
      cases h with
      | idle _ hidle => exact absurd hidle (by simp [hs])
      | up hdir hrest => exact .up hdir (ih hrest)
      | missing => exact absurd rfl hne'
      | entry hdir hs hnode hlink hrest => exact .entry hdir hs.find hnode hlink (ih hrest)
      | link hdir hs hnode hrest =>
        obtain ⟨k, m, l, rfl, hpre, hl⟩ := hrest.split hne'
        exact .link hdir hs.find hnode (hpre.append (ih hl))

/-! ### Files that are there -/

/-- **A file that is found can be made**: what lies behind a slash at the end is a directory. -/
theorem make (h : Leads d .find n here segments (.existing l)) (hl : d.isDirectoryAt l = false) :
    Leads d .make n here segments (.existing l) := by
  generalize hr : Resolved.existing l = r at h
  -- Nothing that the path goes on through ends with a slash.
  have hslash {pre rest : List String} {n : Nat} {here : Location}
      (hrest : Leads d .find n here (pre ++ rest) r) : meansDirectory rest = false := by
    by_contra hmeans
    have hlast : (pre ++ rest).getLast? = some "" := by
      rw [List.getLast?_append, getLast?_of_meansDirectory (by simpa using hmeans)]
      rfl
    obtain ⟨l', hl', hdir⟩ := hrest.isDirectoryAt_of_getLast? hlast (by decide)
    rw [hl', Resolved.existing.injEq] at hr
    rw [← hr, hl] at hdir
    cases hdir
  induction h with
  | arrived => exact .arrived
  | idle hdir hs _ ih => exact .idle hdir hs (ih hr hslash)
  | up hdir _ ih => exact .up hdir (ih hr hslash)
  | missing => cases hr
  | link hdir hs hnode hrest ih => exact .link hdir (hs.make (hslash hrest)) hnode (ih hr hslash)
  | @entry n here s rest r node hdir hs hnode hlink hrest ih =>
    exact .entry hdir (hs.make (hslash (List.nil_append rest ▸ hrest))) hnode hlink (ih hr hslash)

/-- What is found and is no directory was looked up in one. -/
theorem exists_looksUp (hd : d.WellFormed)
    (h : Leads d .find n here segments (.existing l)) (hne : segments ≠ [])
    (hl : d.isDirectoryAt l = false) :
    ∃ dir name, l = dir ++ [name] ∧ d.isDirectoryAt dir = true ∧ LooksUp .find name [] := by
  generalize hr : Resolved.existing l = r at h
  -- The last segment is the one that counts: only behind a name is something that is no directory.
  have hend {n : Nat} {here : Location} (hrest : Leads d .find n here [] r) : l = here :=
    Resolved.existing.inj (hr.trans hrest.eq_of_nil)
  induction h with
  | arrived => exact absurd rfl hne
  | @idle n here s rest r hdir _ hrest ih =>
    rcases eq_or_ne rest [] with rfl | hrest'
    · rw [← hend hrest, hl] at hdir
      cases hdir
    · exact ih hrest' hr hend
  | @up n here rest r hdir hrest ih =>
    rcases eq_or_ne rest [] with rfl | hrest'
    · rw [hend hrest, hd.isDirectoryAt_dropLast hdir] at hl
      cases hl
    · exact ih hrest' hr hend
  | missing => cases hr
  | @link n here s rest r target _ _ _ _ ih =>
    exact ih (List.append_ne_nil_of_left_ne_nil target.segments_ne_nil rest) hr hend
  | @entry n here s rest r node hdir hs _ _ hrest ih =>
    rcases eq_or_ne rest [] with rfl | hrest'
    · exact ⟨here, s, hend hrest, hdir, hs⟩
    · exact ih hrest' hr hend

end Leads

/-! ### Writing and canonical forms -/

/-- **Where a file is overwritten**: a path is opened for writing at a file if it has the canonical
form of that file, and the system takes the path. -/
theorem target_eq_ok_iff_of_file {d : Disk} {p : Path} {l : Location} {content : ByteArray}
    (hfile : d.node? l = some (.file content)) :
    d.target p = .ok l ↔ d.canonical p = .ok l ∧ p.text.utf8ByteSize ≤ longestPath := by
  refine ⟨fun h ↦ ⟨canonical_of_target h (by rw [hfile]; rfl), ?_⟩, fun ⟨h, hlong⟩ ↦ ?_⟩
  · rcases target_cases h with ⟨hr, -⟩ | ⟨dir, name, -, hr, -⟩
    · exact (resolve_eq_ok_iff.1 hr).1
    · exact (resolve_eq_ok_iff.1 hr).1
  · obtain ⟨hempty, hzero, hleads⟩ := canonical_eq_ok_iff.1 h
    have hdir := isDirectoryAt_of_node?_file hfile
    have hresolve : d.resolve .make p = .ok (.existing l) :=
      resolve_eq_ok_iff.2 ⟨hlong, hempty, hzero, hleads.make hdir⟩
    rw [target, hresolve]
    dsimp only
    rw [hdir]
    rfl

theorem newLocation?_eq_some_iff {d : Disk} {p : Path} {l : Location} :
    d.newLocation? p = some l ↔
      ∃ name, p.fileName? = some name ∧ ∃ dir, d.canonical (directoryOf p) = .ok dir ∧
        l = dir ++ [name] := by
  rw [newLocation?]
  cases p.fileName? <;> cases d.canonical (directoryOf p) <;> simp [Except.toOption, eq_comm]

/-- A path has the canonical form that its moves lead to. -/
theorem canonical_of_moves {d : Disk} {p : Path} {init : List String} {last : String} {l : Location}
    (h : p.segments = init ++ [last]) (hlast : Path.isIdle last = false)
    (hempty : p.isEmpty = false) (hzero : p.holdsZero = false)
    (hleads : Leads d .find linkBudget (start d.current p) (moves p.segments) (.existing l)) :
    d.canonical p = .ok l := by
  rw [h] at hleads
  exact canonical_eq_ok_iff.2 ⟨hempty, hzero, h ▸ hleads.of_moves hlast⟩

section Output

variable {d : Disk} {output input : Path} {l : Location} {log : ByteArray}
  (hinput : d.canonical input = .ok l) (hfile : d.node? l = some (.file log))
  (hempty : output.isEmpty = false) (hslash : ¬ ['/'] <:+ output.text.toList)
  (hdot : ¬ ['/', '.'] <:+ output.text.toList)

include hinput hfile hempty hslash hdot

/-- Paths with the same components are one file. -/
theorem canonical_of_same (hsame : output.same input = true) : d.canonical output = .ok l := by
  obtain ⟨-, hzero, hleads⟩ := canonical_eq_ok_iff.1 hinput
  have hmoves := Path.moves_of_same hsame
  rcases Path.exists_last hempty hslash hdot with rfl | ⟨init, last, hp, hlast⟩
  · -- The current directory is not a file.
    have hdir := hleads.isDirectoryAt_of_ne_nil input.segments_ne_nil
    have harrived : Leads d .find linkBudget (start d.current input) [] (.existing l) := by
      have hmoved := hleads.moves
      rwa [← hmoves] at hmoved
    rw [← Resolved.existing.inj harrived.eq_of_nil, isDirectoryAt_of_node?_file hfile] at hdir
    cases hdir
  · have hstart : start d.current input = start d.current output := by
      rw [start, start, Path.isAbsolute_of_same hsame]
    refine canonical_of_moves hp hlast hempty (Path.holdsZero_of_same hsame ▸ hzero) ?_
    rw [hmoves, ← hstart]
    exact hleads.moves

/-- A file that is in the directory of a path under the name of the path is found by the path. -/
theorem canonical_of_newLocation? (hd : d.WellFormed) (hnew : d.newLocation? output = some l) :
    d.canonical output = .ok l := by
  obtain ⟨-, -, hinput⟩ := canonical_eq_ok_iff.1 hinput
  obtain ⟨dir, name, rfl, hdir, hname⟩ :=
    hinput.exists_looksUp hd input.segments_ne_nil (isDirectoryAt_of_node?_file hfile)
  obtain ⟨name', hname', dir', hdir', hlocation⟩ := newLocation?_eq_some_iff.1 hnew
  obtain ⟨rfl, hnames⟩ := List.append_inj' hlocation rfl
  obtain rfl : name = name' := by simpa using hnames
  rcases Path.exists_last hempty hslash hdot with rfl | ⟨init, last, hp, hlast⟩
  · cases hname'
  obtain rfl := Path.eq_of_fileName? hp hlast hname'
  obtain ⟨hparent, habsolute⟩ := spelling_directoryOf hp hlast
  obtain ⟨-, hzero, hleads⟩ := canonical_eq_ok_iff.1 hdir'
  have hmoves : moves output.segments = moves (directoryOf output).segments ++ [name] := by
    rw [hp, Path.moves_append, moves_cons_of_not_idle hlast, hparent]
    rfl
  refine canonical_of_moves hp hlast hempty ?_ ?_
  · have hfree : '\x00' ∉ name.toList :=
      hd.zeroFree _ (mem_nodes_of_node? hfile (by simp)) name (by simp)
    rw [← Bool.not_eq_true, Path.holdsZero_iff] at hzero ⊢
    rintro ⟨s, hs, hmem⟩
    rw [hmoves, List.mem_append, List.mem_singleton] at hs
    rcases hs with hs | rfl
    · exact hzero ⟨s, hs, hmem⟩
    · exact hfree hmem
  · have hentry : Leads d .find 0 dir [name] (.existing (dir ++ [name])) :=
      .entry hdir hname hfile (by simp) .arrived
    rw [hmoves, start, ← habsolute]
    exact hleads.moves.append hentry

/-- **What the check for one file under two paths finds out**: whether the canonical form of the
image path is the log. -/
theorem sameLocation_iff_canonical (hd : d.WellFormed) :
    d.sameLocation output input = true ↔ d.canonical output = .ok l := by
  constructor
  · intro h
    rw [sameLocation, hinput, Bool.or_eq_true] at h
    rcases h with hsame | h
    · exact canonical_of_same hinput hfile hempty hslash hdot hsame
    · cases hc : d.canonical output with
      | ok here =>
        rw [hc] at h
        rw [of_decide_eq_true h]
      | error e =>
        rw [hc] at h
        rw [← hc]
        exact canonical_of_newLocation? hinput hfile hempty hslash hdot hd (of_decide_eq_true h)
  · intro h
    rw [sameLocation, hinput, h]
    simp [Except.toOption]

/-- **The overwrite check is exact.** For an image path of any spelling that does not end with a
slash, or with a dot behind one, the check says that it is the log if and only if opening it for
writing reaches the log, as far as the system takes a path of that length at all. So of the
configurations that are sound otherwise, those are refused whose image path reaches the log, and no
others. This rests on what is assumed of canonical forms (`Disk.canonical`): that nothing they
resolve is too long for the system. -/
theorem overwrite_check_exact (hd : d.WellFormed) :
    (d.target output = .ok l ↔
        d.sameLocation output input = true ∧ output.text.utf8ByteSize ≤ longestPath) ∧
      ∀ c : Config, c.input = input → c.output = some output →
        output.text.utf8ByteSize ≤ longestPath →
          (c.validate d = .ok () ↔
            { c with output := none }.validate d = .ok () ∧ d.target output ≠ .ok l) := by
  have htarget : d.target output = .ok l ↔
      d.sameLocation output input = true ∧ output.text.utf8ByteSize ≤ longestPath := by
    rw [target_eq_ok_iff_of_file hfile,
      sameLocation_iff_canonical hinput hfile hempty hslash hdot hd]
  refine ⟨htarget, fun c hc houtput hlong ↦ ?_⟩
  subst hc
  have hnot : d.sameLocation output c.input = false ↔ d.target output ≠ .ok l := by
    rw [Ne, htarget, ← Bool.not_eq_true, and_iff_left hlong]
  rw [Config.validate_eq_ok_iff_of_output houtput, hnot, and_iff_right hempty]

end Output

/-! ### Aliases -/

/-- A file system in which one log has many names: its directory has a second name, and the log is
linked from elsewhere. -/
def aliasedDisk : Disk where
  nodes := [(["data"], .directory), (["data", "a.log"], .file Run.shortLog),
    (["data", "old"], .directory), (["logs"], .link ⟨"/data/"⟩),
    (["latest"], .link ⟨"logs/./a.log"⟩)]
  current := ["data", "old"]

/-- The configuration for the linked log, with the image at some path. -/
def aliasedConfig (output : Option Path) : Config :=
  { Config.forInput ⟨"../../latest"⟩ with output := output }

/-- An image path that goes through a linked directory and back reaches the log, so it is refused,
and for no other reason. -/
theorem overwrite_check_exact_of_aliases :
    aliasedDisk.WellFormed ∧ aliasedDisk.canonical ⟨"../../latest"⟩ = .ok ["data", "a.log"] ∧
      aliasedDisk.node? ["data", "a.log"] = some (.file Run.shortLog) ∧
      aliasedDisk.target ⟨"/logs/..//data/./a.log"⟩ = .ok ["data", "a.log"] ∧
      (aliasedConfig none).validate aliasedDisk = .ok () ∧
      (aliasedConfig (some ⟨"/logs/..//data/./a.log"⟩)).validate aliasedDisk ≠ .ok () := by
  have hd : aliasedDisk.WellFormed := by decide
  have hinput : aliasedDisk.canonical ⟨"../../latest"⟩ = .ok ["data", "a.log"] := by
    decide +kernel
  have hfile : aliasedDisk.node? ["data", "a.log"] = some (.file Run.shortLog) := by decide
  have hempty : (⟨"/logs/..//data/./a.log"⟩ : Path).isEmpty = false := by decide
  obtain ⟨htarget, hvalid⟩ :=
    overwrite_check_exact hinput hfile hempty (by decide) (by decide) hd
  have hreaches := htarget.2 ⟨by decide +kernel, by decide⟩
  refine ⟨hd, hinput, hfile, hreaches, by decide, fun h ↦ ?_⟩
  exact ((hvalid (aliasedConfig _) rfl rfl (by decide)).1 h).2 hreaches

/-- A file of the same name elsewhere is not the log, whether it is there or not. -/
example : aliasedDisk.sameLocation ⟨"a.log"⟩ ⟨"../../latest"⟩ = false := by decide +kernel

/-! ### Paths that are too long -/

/-- A name in the current directory behind some slashes. -/
def behindSlashes (n : Nat) (name : String) : Path :=
  ⟨"." ++ (String.ofList (List.replicate n '/') ++ name)⟩

theorem segments_behindSlashes (n : Nat) {name : String} (h : '/' ∉ name.toList) :
    (behindSlashes (n + 1) name).segments = "." :: (List.replicate n "" ++ [name]) := by
  have hpieces (n : Nat) :
      piecesAt '/' (List.replicate n '/' ++ name.toList) =
        List.replicate n [] ++ [name.toList] := by
    induction n with
    | zero => exact piecesAt_of_notMem h
    | succ n ih =>
      rw [List.replicate_succ, List.cons_append, piecesAt_cons, if_pos rfl, ih]
      rfl
  have htext : (behindSlashes (n + 1) name).text.toList =
      ['.'] ++ '/' :: (List.replicate n '/' ++ name.toList) := by
    simp [behindSlashes, List.replicate_succ]
  rw [Path.segments, htext, piecesAt_append_cons (by decide), hpieces]
  simp

/-- The number of slashes does not count. -/
theorem same_behindSlashes (m n : Nat) {name : String} (h : '/' ∉ name.toList) :
    (behindSlashes (m + 1) name).same (behindSlashes (n + 1) name) = true := by
  have hcomponents (k : Nat) : (behindSlashes (k + 1) name).components =
      .here :: (Path.componentOf? name).toList := by
    have hidle : (List.replicate k "").filterMap Path.componentOf? = [] :=
      List.filterMap_replicate_of_none (by decide)
    rw [Path.components, segments_behindSlashes k h]
    dsimp only
    rw [List.filterMap_append, hidle]
    cases hname : Path.componentOf? name <;> simp [Path.leading, hname]
  rw [Path.same, hcomponents, hcomponents, decide_eq_true rfl]

theorem le_utf8ByteSize_behindSlashes (n : Nat) (name : String) :
    n ≤ (behindSlashes n name).text.utf8ByteSize := by
  have hslashes : (String.ofList (List.replicate n '/')).utf8ByteSize = n := by
    induction n with
    | zero => rfl
    | succ n ih =>
      rw [List.replicate_succ', String.ofList_append, String.utf8ByteSize_append, ih]
      rfl
  rw [behindSlashes, String.utf8ByteSize_append, String.utf8ByteSize_append, hslashes]
  omega

/-- Only the name says how such a path ends. -/
theorem suffix_behindSlashes {n : Nat} {name : String} {cs : List Char}
    (h : cs <:+ (behindSlashes n name).text.toList) (hcs : cs ≠ []) (hname : name ≠ "") :
    cs.getLast? = name.toList.getLast? := by
  obtain ⟨t, ht⟩ := h
  have hne : name.toList ≠ [] := by simpa using hname
  have hlast := congrArg List.getLast? ht
  rwa [List.getLast?_append_of_ne_nil _ hcs, behindSlashes, String.toList_append,
    String.toList_append, ← List.append_assoc, List.getLast?_append_of_ne_nil _ hne] at hlast

theorem isEmpty_behindSlashes (n : Nat) (name : String) :
    (behindSlashes n name).isEmpty = false := by
  rw [Path.isEmpty, ← Bool.not_eq_true, String.isEmpty_iff, ← String.toList_eq_nil_iff]
  simp [behindSlashes]

/-- **Too many slashes make a path that cannot be opened**, but they do not count for the check. -/
theorem sameLocation_behindSlashes (d : Disk) (n : Nat) {name : String} (h : '/' ∉ name.toList) :
    d.sameLocation (behindSlashes (n + 1) name) (behindSlashes 1 name) = true ∧
      (longestPath ≤ n → ∀ l content, d.node? l = some (.file content) →
        d.target (behindSlashes (n + 1) name) ≠ .ok l) := by
  refine ⟨?_, fun hn l content hfile htarget ↦ ?_⟩
  · rw [sameLocation, same_behindSlashes n 0 h, Bool.true_or]
  · have hlong := ((target_eq_ok_iff_of_file hfile).1 htarget).2
    have hsize := le_utf8ByteSize_behindSlashes (n + 1) name
    omega

/-- So the check takes a path with 4096 slashes for the log, which the path does not open. -/
theorem sameLocation_of_long_path :
    Run.loneDisk.WellFormed ∧ Run.loneDisk.canonical (behindSlashes 1 "a.log") = .ok ["a.log"] ∧
      Run.loneDisk.node? ["a.log"] = some (.file Run.shortLog) ∧
      (behindSlashes (4095 + 1) "a.log").isEmpty = false ∧
      ¬ ['/'] <:+ (behindSlashes (4095 + 1) "a.log").text.toList ∧
      ¬ ['/', '.'] <:+ (behindSlashes (4095 + 1) "a.log").text.toList ∧
      Run.loneDisk.sameLocation (behindSlashes (4095 + 1) "a.log") (behindSlashes 1 "a.log") =
        true ∧
      Run.loneDisk.target (behindSlashes (4095 + 1) "a.log") ≠ .ok ["a.log"] := by
  have hfile : Run.loneDisk.node? ["a.log"] = some (.file Run.shortLog) := by decide
  obtain ⟨hsame, htarget⟩ :=
    sameLocation_behindSlashes Run.loneDisk 4095 (by decide : '/' ∉ "a.log".toList)
  refine ⟨by decide, by decide, hfile, isEmpty_behindSlashes _ _, fun h ↦ ?_, fun h ↦ ?_, hsame,
    htarget (Nat.le_refl _) _ _ hfile⟩
  · exact absurd (suffix_behindSlashes h (by simp) (by decide)) (by decide)
  · exact absurd (suffix_behindSlashes h (by simp) (by decide)) (by decide)

end LatencyCurve.Disk
