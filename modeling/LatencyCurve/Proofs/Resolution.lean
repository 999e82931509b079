import LatencyCurve.Config.Check
import LatencyCurve.Proofs.Segments
import Mathlib.Tactic.ByContra

/-!
# Where paths lead

Following a path is a program with two loops, over segments and over links. What it finds is stated
here as rules instead (`Disk.Leads`), one for each thing a segment can be, and the two agree
(`walk_eq_ok_iff`). Every fact about places in a file system is then an induction over the rules:

* who may make a file at a place also finds that place by asking (`Leads.find`);
* a vacancy is a name that is missing (`Leads.node?_of_vacant`);
* a path that ends with a slash leads to a directory (`Leads.isDirectoryAt_of_getLast?`).

Together they say when two paths, one to read and one to write, reach the same file: the file that a
path is opened for writing at is the one that its canonical form names, if there is one already
(`canonical_of_target`).
-/

namespace LatencyCurve.Disk

/-! ### Locations -/

theorem node?_put_self (d : Disk) {l : Location} (n : Node) (h : l ≠ []) :
    (d.put l n).node? l = some n := by
  rw [node?, put, if_neg h, List.lookup_cons_self]

private theorem lookup_filter_of_ne {l l' : Location} (h : l' ≠ l)
    (nodes : List (Location × Node)) : (nodes.filter (·.1 ≠ l)).lookup l' = nodes.lookup l' := by
  induction nodes with
  | nil => rfl
  | cons entry nodes ih =>
    by_cases hentry : entry.1 = l
    · have hkey : (l' == entry.1) = false := by simpa [hentry] using h
      rw [List.filter_cons_of_neg (by simpa using hentry), ih, List.lookup_cons, hkey]
    · rw [List.filter_cons_of_pos (by simpa using hentry), List.lookup_cons, List.lookup_cons, ih]

/-- **Putting something somewhere changes nothing elsewhere.** -/
theorem node?_put_of_ne (d : Disk) {l l' : Location} (n : Node) (h : l' ≠ l) :
    (d.put l n).node? l' = d.node? l' := by
  have hkey : (l' == l) = false := by simpa using h
  rw [node?, node?, put, List.lookup_cons, hkey, lookup_filter_of_ne h]

/-- There is a file only below the root. -/
theorem ne_nil_of_node?_file {d : Disk} {l : Location} {content : ByteArray}
    (h : d.node? l = some (.file content)) : l ≠ [] := by
  rintro rfl
  simp [node?] at h

theorem isDirectoryAt_of_node?_file {d : Disk} {l : Location} {content : ByteArray}
    (h : d.node? l = some (.file content)) : d.isDirectoryAt l = false := by
  rw [isDirectoryAt, h]

/-! ### The rules -/

/-- A segment that is looked up as a name: it is not idle, does not go up, is not too long, and does
not mean a directory where a file is to be made. -/
structure LooksUp (purpose : Purpose) (s : String) (rest : List String) : Prop where
  /-- The segment leads somewhere. -/
  not_idle : Path.isIdle s = false
  /-- It does not lead up. -/
  not_up : s ≠ ".."
  /-- It is not followed by slashes only, if a file is to be made. -/
  not_directory : (purpose = .make && meansDirectory rest) = false
  /-- It is short enough. -/
  short : s.utf8ByteSize ≤ longestName

/-- Asking for a name never takes more than it takes otherwise, whatever is behind it. -/
theorem LooksUp.find {purpose : Purpose} {s : String} {rest rest' : List String}
    (h : LooksUp purpose s rest) : LooksUp .find s rest' :=
  ⟨h.not_idle, h.not_up, rfl, h.short⟩

/-- `d.Leads purpose n here segments r`: from `here`, the segments lead to `r` over at most `n`
links. -/
inductive Leads (d : Disk) (purpose : Purpose) : Nat → Location → List String → Resolved → Prop
  /-- Nothing is left to follow. -/
  | arrived {n : Nat} {here : Location} : Leads d purpose n here [] (.existing here)
  /-- A segment that leads nowhere. -/
  | idle {n : Nat} {here : Location} {s : String} {rest : List String} {r : Resolved}
      (hdir : d.isDirectoryAt here = true) (hs : Path.isIdle s = true)
      (hrest : Leads d purpose n here rest r) : Leads d purpose n here (s :: rest) r
  /-- A segment that leads to the parent. -/
  | up {n : Nat} {here : Location} {rest : List String} {r : Resolved}
      (hdir : d.isDirectoryAt here = true) (hrest : Leads d purpose n here.dropLast rest r) :
      Leads d purpose n here (".." :: rest) r
  /-- A name that is missing, at the end of the path. -/
  | missing {n : Nat} {here : Location} {s : String} (hdir : d.isDirectoryAt here = true)
      (hs : LooksUp purpose s []) (hnode : d.node? (here ++ [s]) = none) :
      Leads d purpose n here [s] (.vacant here s)
  /-- The name of a link: its target is followed in its stead. -/
  | link {n : Nat} {here : Location} {s : String} {rest : List String} {r : Resolved}
      {target : Path} (hdir : d.isDirectoryAt here = true) (hs : LooksUp purpose s rest)
      (hnode : d.node? (here ++ [s]) = some (.link target))
      (hrest : Leads d purpose n (start here target) (target.segments ++ rest) r) :
      Leads d purpose (n + 1) here (s :: rest) r
  /-- The name of anything else. -/
  | entry {n : Nat} {here : Location} {s : String} {rest : List String} {r : Resolved} {node : Node}
      (hdir : d.isDirectoryAt here = true) (hs : LooksUp purpose s rest)
      (hnode : d.node? (here ++ [s]) = some node) (hlink : ∀ target, node ≠ .link target)
      (hrest : Leads d purpose n (here ++ [s]) rest r) : Leads d purpose n here (s :: rest) r

/-! ### The rules and the program -/

/-- How a walk goes on behind a link. -/
def followLink (d : Disk) (purpose : Purpose) :
    Nat → Location → List String → Except FileError Resolved
  | 0 => fun _ _ ↦ .error .tooManyLinks
  | n + 1 => d.walk purpose n

theorem walk_eq_walkWith (d : Disk) (purpose : Purpose) (n : Nat) :
    d.walk purpose n = d.walkWith purpose (d.followLink purpose n) := by
  cases n <;> rfl

/-- A walk obeys the rules if it does so behind links. -/
private theorem leads_of_walkWith {d : Disk} {purpose : Purpose} {n : Nat}
    {follow : Location → List String → Except FileError Resolved}
    (hfollow : ∀ here segments r, follow here segments = .ok r →
      ∃ m, n = m + 1 ∧ Leads d purpose m here segments r)
    {here : Location} {segments : List String} {r : Resolved}
    (h : d.walkWith purpose follow here segments = .ok r) : Leads d purpose n here segments r := by
  induction segments generalizing here with
  | nil =>
    obtain rfl : Resolved.existing here = r := by simpa [walkWith] using h
    exact .arrived
  | cons s rest ih =>
    rw [walkWith] at h
    split at h
    · cases h
    next hdir =>
    have hdir : d.isDirectoryAt here = true := by simpa using hdir
    split at h
    next hidle => exact .idle hdir hidle (ih h)
    next hidle =>
    split at h
    next hup => exact hup ▸ .up hdir (ih h)
    next hup =>
    split at h
    · cases h
    next hdirectory =>
    split at h
    · cases h
    next hlong =>
    have hs : LooksUp purpose s rest :=
      ⟨by simpa using hidle, hup, by simpa using hdirectory, Nat.le_of_not_lt hlong⟩
    split at h
    next hnode =>
      split at h
      next hempty =>
        obtain rfl : rest = [] := by simpa using hempty
        obtain rfl : Resolved.vacant here s = r := by simpa using h
        exact .missing hdir hs hnode
      · cases h
    next target hnode =>
      obtain ⟨m, rfl, hm⟩ := hfollow _ _ _ h
      exact .link hdir hs hnode hm
    next node hlink hnode => exact .entry hdir hs hnode (fun target ht ↦ hlink target ht) (ih h)

/-- A name that is looked up goes by what is found there. -/
private theorem walkWith_name {d : Disk} {purpose : Purpose} {here : Location} {s : String}
    {rest : List String} (follow : Location → List String → Except FileError Resolved)
    (hdir : d.isDirectoryAt here = true) (hs : LooksUp purpose s rest) :
    d.walkWith purpose follow here (s :: rest) =
      match d.node? (here ++ [s]) with
      | none => if rest.isEmpty then .ok (.vacant here s) else .error .notFound
      | some (.link target) => follow (start here target) (target.segments ++ rest)
      | some _ => d.walkWith purpose follow (here ++ [s]) rest := by
  rw [walkWith, hdir, hs.not_idle, if_neg hs.not_up, hs.not_directory,
    if_neg (Nat.not_lt_of_le hs.short)]
  rfl

/-- A walk does what the rules say. -/
private theorem walk_of_leads {d : Disk} {purpose : Purpose} {n : Nat} {here : Location}
    {segments : List String} {r : Resolved} (h : Leads d purpose n here segments r) :
    d.walk purpose n here segments = .ok r := by
  induction h with
  | arrived => rw [walk_eq_walkWith, walkWith]
  | idle hdir hs _ ih =>
    rw [walk_eq_walkWith, walkWith, hdir, if_pos hs, ← walk_eq_walkWith]
    exact ih
  | up hdir _ ih =>
    rw [walk_eq_walkWith, walkWith, hdir, if_pos rfl, ← walk_eq_walkWith]
    exact ih
  | missing hdir hs hnode => rw [walk_eq_walkWith, walkWith_name _ hdir hs, hnode]; rfl
  | link hdir hs hnode _ ih => rw [walk_eq_walkWith, walkWith_name _ hdir hs, hnode]; exact ih
  | @entry n here s rest r node hdir hs hnode hlink _ ih =>
    rw [walk_eq_walkWith, walkWith_name _ hdir hs, hnode, ← walk_eq_walkWith]
    cases node with
    | link target => exact absurd rfl (hlink target)
    | directory => exact ih
    | file content => exact ih

/-- **The program follows the rules**, and finds whatever they lead to. -/
theorem walk_eq_ok_iff {d : Disk} {purpose : Purpose} {n : Nat} {here : Location}
    {segments : List String} {r : Resolved} :
    d.walk purpose n here segments = .ok r ↔ Leads d purpose n here segments r := by
  refine ⟨fun h ↦ ?_, walk_of_leads⟩
  -- Only links use up the budget; what lies between two of them is left to `leads_of_walkWith`.
  induction n generalizing here segments r with
  | zero =>
    rw [walk_eq_walkWith] at h
    exact leads_of_walkWith (fun _ _ _ h ↦ by cases h) h
  | succ n ih =>
    rw [walk_eq_walkWith] at h
    exact leads_of_walkWith (fun _ _ _ h ↦ ⟨n, rfl, ih h⟩) h

/-! ### What the rules give -/

namespace Leads

variable {d : Disk} {purpose : Purpose} {n : Nat} {here : Location} {segments : List String}

/-- **Who may make a file somewhere finds the place by asking.** Making is only stricter. -/
theorem find {r : Resolved} (h : Leads d purpose n here segments r) :
    Leads d .find n here segments r := by
  induction h with
  | arrived => exact .arrived
  | idle hdir hs _ ih => exact .idle hdir hs ih
  | up hdir _ ih => exact .up hdir ih
  | missing hdir hs hnode => exact .missing hdir hs.find hnode
  | link hdir hs hnode _ ih => exact .link hdir hs.find hnode ih
  | entry hdir hs hnode hlink _ ih => exact .entry hdir hs.find hnode hlink ih

/-- More links may always be followed. -/
theorem mono {r : Resolved} (h : Leads d purpose n here segments r) {m : Nat} (hm : n ≤ m) :
    Leads d purpose m here segments r := by
  induction h generalizing m with
  | arrived => exact .arrived
  | idle hdir hs _ ih => exact .idle hdir hs (ih hm)
  | up hdir _ ih => exact .up hdir (ih hm)
  | missing hdir hs hnode => exact .missing hdir hs hnode
  | link hdir hs hnode _ ih =>
    obtain ⟨k, rfl⟩ : ∃ k, m = k + 1 := ⟨m - 1, by omega⟩
    exact .link hdir hs hnode (ih (by omega))
  | entry hdir hs hnode hlink _ ih => exact .entry hdir hs hnode hlink (ih hm)

/-- Without segments a path leads to where it starts. -/
theorem eq_of_nil {r : Resolved} (h : Leads d purpose n here [] r) : r = .existing here := by
  cases h
  rfl

/-- Only from a directory does anything lead on. -/
theorem isDirectoryAt_of_ne_nil {r : Resolved} (h : Leads d purpose n here segments r)
    (hne : segments ≠ []) : d.isDirectoryAt here = true := by
  cases h with
  | arrived => exact absurd rfl hne
  | idle hdir | up hdir | missing hdir | link hdir | entry hdir => exact hdir

/-- **A path may be broken off anywhere before its end**: its beginning leads to some place, and the
rest leads on from there. The links are shared between the two. -/
theorem split {r : Resolved} {pre post : List String}
    (h : Leads d purpose n here (pre ++ post) r) (hpost : post ≠ []) :
    ∃ k m l, k + m = n ∧ Leads d .find k here pre (.existing l) ∧ Leads d purpose m l post r := by
  generalize hsegments : pre ++ post = segments at h
  -- Broken off at once, the path leads to where it stands; else its first segment is that of the
  -- beginning, and the rest is broken off later.
  induction h generalizing pre with
  | arrived => exact absurd (List.append_eq_nil_iff.1 hsegments).2 hpost
  | @idle n here s rest r hdir hs hrest ih =>
    cases pre with
    | nil =>
      obtain rfl : post = s :: rest := hsegments
      exact ⟨0, n, here, n.zero_add, .arrived, .idle hdir hs hrest⟩
    | cons s' pre =>
      obtain ⟨rfl, htail⟩ := List.cons_eq_cons.1 hsegments
      obtain ⟨k, m, l, hsum, hpre, hl⟩ := ih htail
      exact ⟨k, m, l, hsum, .idle hdir hs hpre, hl⟩
  | @up n here rest r hdir hrest ih =>
    cases pre with
    | nil =>
      obtain rfl : post = ".." :: rest := hsegments
      exact ⟨0, n, here, n.zero_add, .arrived, .up hdir hrest⟩
    | cons s' pre =>
      obtain ⟨rfl, htail⟩ := List.cons_eq_cons.1 hsegments
      obtain ⟨k, m, l, hsum, hpre, hl⟩ := ih htail
      exact ⟨k, m, l, hsum, .up hdir hpre, hl⟩
  | @missing n here s hdir hs hnode =>
    cases pre with
    | nil =>
      obtain rfl : post = [s] := hsegments
      exact ⟨0, n, here, n.zero_add, .arrived, .missing hdir hs hnode⟩
    | cons s' pre =>
      obtain ⟨rfl, htail⟩ := List.cons_eq_cons.1 hsegments
      exact absurd (List.append_eq_nil_iff.1 htail).2 hpost
  | @link n here s rest r target hdir hs hnode hrest ih =>
    cases pre with
    | nil =>
      obtain rfl : post = s :: rest := hsegments
      exact ⟨0, n + 1, here, (n + 1).zero_add, .arrived, .link hdir hs hnode hrest⟩
    | cons s' pre =>
      obtain ⟨rfl, rfl⟩ := List.cons_eq_cons.1 hsegments
      obtain ⟨k, m, l, hsum, hpre, hl⟩ := ih (List.append_assoc ..)
      exact ⟨k + 1, m, l, by omega, .link hdir hs.find hnode hpre, hl⟩
  | @entry n here s rest r node hdir hs hnode hlink hrest ih =>
    cases pre with
    | nil =>
      obtain rfl : post = s :: rest := hsegments
      exact ⟨0, n, here, n.zero_add, .arrived, .entry hdir hs hnode hlink hrest⟩
    | cons s' pre =>
      obtain ⟨rfl, htail⟩ := List.cons_eq_cons.1 hsegments
      obtain ⟨k, m, l, hsum, hpre, hl⟩ := ih htail
      exact ⟨k, m, l, hsum, .entry hdir hs.find hnode hlink hpre, hl⟩

/-- What leads to a place may be gone on from there. -/
theorem append {m : Nat} {l : Location} {r : Resolved} {pre post : List String}
    (h : Leads d .find n here pre (.existing l)) (hpost : Leads d .find m l post r) :
    Leads d .find (n + m) here (pre ++ post) r := by
  generalize hl : Resolved.existing l = place at h
  induction h with
  | arrived => cases hl; exact hpost.mono (Nat.le_add_left ..)
  | idle hdir hs _ ih => exact .idle hdir hs (ih hl)
  | up hdir _ ih => exact .up hdir (ih hl)
  | missing => cases hl
  | @link n here s rest r target hdir hs hnode _ ih =>
    have hrest := ih hl
    rw [List.append_assoc] at hrest
    rw [Nat.add_right_comm]
    exact .link hdir hs.find hnode hrest
  | entry hdir hs hnode hlink _ ih => exact .entry hdir hs.find hnode hlink (ih hl)

/-- **On the way to anything there are directories**: a path leads to one wherever it is broken off
before its end. -/
theorem exists_directory {r : Resolved} {pre post : List String}
    (h : Leads d purpose n here (pre ++ post) r) (hpost : post ≠ []) :
    ∃ l, Leads d .find n here pre (.existing l) ∧ d.isDirectoryAt l = true := by
  obtain ⟨k, m, l, rfl, hpre, hl⟩ := h.split hpost
  exact ⟨l, hpre.mono (Nat.le_add_right ..), hl.isDirectoryAt_of_ne_nil hpost⟩

/-- A vacancy is a name that is missing. -/
theorem node?_of_vacant {dir : Location} {name : String}
    (h : Leads d purpose n here segments (.vacant dir name)) : d.node? (dir ++ [name]) = none := by
  generalize hr : Resolved.vacant dir name = r at h
  induction h with
  | arrived => cases hr
  | idle _ _ _ ih | up _ _ ih | link _ _ _ _ ih | entry _ _ _ _ _ ih => exact ih hr
  | missing _ _ hnode => cases hr; exact hnode

/-- A path that ends with a segment that leads nowhere, as after a slash, leads to a directory. -/
theorem isDirectoryAt_of_getLast? {r : Resolved} {last : String}
    (h : Leads d purpose n here segments r) (hlast : segments.getLast? = some last)
    (hidle : Path.isIdle last = true) : ∃ l, r = .existing l ∧ d.isDirectoryAt l = true := by
  -- A name is not idle, so what ends with the same segment is not all used up behind it.
  have hrest {s : String} {rest : List String} (hs : LooksUp purpose s rest)
      (hlast : (s :: rest).getLast? = some last) : rest.getLast? = some last := by
    cases rest with
    | nil => cases hlast; exact absurd hidle (by simp [hs.not_idle])
    | cons s' rest => simpa using hlast
  induction h with
  | arrived => cases hlast
  | @idle n here s rest r hdir _ hrest' ih =>
    cases rest with
    | nil => exact ⟨here, hrest'.eq_of_nil, hdir⟩
    | cons s' rest => exact ih (by simpa using hlast)
  | @up n here rest r hdir _ ih =>
    cases rest with
    | nil => cases hlast; exact absurd hidle (by decide)
    | cons s' rest => exact ih (by simpa using hlast)
  | missing _ hs _ => exact absurd (hrest hs hlast) (by simp)
  | link _ hs _ _ ih => exact ih (by rw [List.getLast?_append, hrest hs hlast]; rfl)
  | entry _ hs _ _ _ ih => exact ih (hrest hs hlast)

end Leads

/-! ### Reading and writing -/

/-- What the system resolves a path to is what the rules lead to, if it takes the path at all. -/
theorem resolve_eq_ok_iff {d : Disk} {purpose : Purpose} {p : Path} {r : Resolved} :
    d.resolve purpose p = .ok r ↔
      p.text.utf8ByteSize ≤ longestPath ∧ p.isEmpty = false ∧ p.holdsZero = false ∧
        Leads d purpose linkBudget (start d.current p) p.segments r := by
  rw [resolve, follow, ← walk_eq_ok_iff]
  by_cases hlong : longestPath < p.text.utf8ByteSize
  · have hnot : ¬ p.text.utf8ByteSize ≤ longestPath := Nat.not_le.2 hlong
    cases p.holdsZero <;> cases p.isEmpty <;> simp [hlong, hnot]
  · have hshort : p.text.utf8ByteSize ≤ longestPath := Nat.not_lt.1 hlong
    cases p.holdsZero <;> cases p.isEmpty <;> simp [hlong, hshort]

/-- A path that the system resolves leads there by the rules. -/
theorem leads_of_resolve {d : Disk} {purpose : Purpose} {p : Path} {r : Resolved}
    (h : d.resolve purpose p = .ok r) :
    p.isEmpty = false ∧ p.holdsZero = false ∧
      Leads d purpose linkBudget (start d.current p) p.segments r :=
  (resolve_eq_ok_iff.1 h).2

/-- What the system resolves for any purpose is found by following the path at any length. -/
theorem follow_of_resolve {d : Disk} {purpose : Purpose} {p : Path} {r : Resolved}
    (h : d.resolve purpose p = .ok r) : d.follow .find p = .ok r := by
  obtain ⟨hempty, hzero, hleads⟩ := leads_of_resolve h
  rw [follow, hempty, hzero]
  exact walk_eq_ok_iff.2 hleads.find

/-- What has to exist is located where the path leads. -/
theorem bind_location_eq_ok_iff {found : Except FileError Resolved} {l : Location} :
    found.bind Resolved.location = .ok l ↔ found = .ok (.existing l) := by
  rcases found with e | l' | ⟨dir, name⟩ <;> simp [Except.bind, Resolved.location]

theorem resolve_of_locate {d : Disk} {p : Path} {l : Location} (h : d.locate p = .ok l) :
    d.resolve .find p = .ok (.existing l) :=
  bind_location_eq_ok_iff.1 h

/-- The canonical form of a path is the place that it leads to by the rules. -/
theorem canonical_eq_ok_iff {d : Disk} {p : Path} {l : Location} :
    d.canonical p = .ok l ↔
      p.isEmpty = false ∧ p.holdsZero = false ∧
        Leads d .find linkBudget (start d.current p) p.segments (.existing l) := by
  rw [canonical, bind_location_eq_ok_iff, follow, ← walk_eq_ok_iff]
  cases p.isEmpty <;> cases p.holdsZero <;> simp

/-- A path that is located has a canonical form, and it is the same. -/
theorem canonical_of_locate {d : Disk} {p : Path} {l : Location} (h : d.locate p = .ok l) :
    d.canonical p = .ok l := by
  rw [canonical, follow_of_resolve (resolve_of_locate h)]
  rfl

/-- What opening a path for writing reaches: something that is no directory, or a vacancy. -/
theorem target_cases {d : Disk} {p : Path} {l : Location} (h : d.target p = .ok l) :
    (d.resolve .make p = .ok (.existing l) ∧ d.isDirectoryAt l = false) ∨
      ∃ dir name, l = dir ++ [name] ∧ d.resolve .make p = .ok (.vacant dir name) ∧
        d.node? l = none := by
  rw [target] at h
  cases hr : d.resolve .make p with
  | error e => rw [hr] at h; cases h
  | ok r =>
    rw [hr] at h
    cases r with
    | existing l' =>
      dsimp only at h
      split at h
      next => cases h
      next hdir => cases h; exact .inl ⟨rfl, by simpa using hdir⟩
    | vacant dir name =>
      cases h
      exact .inr ⟨dir, name, rfl, rfl, (leads_of_resolve hr).2.2.node?_of_vacant⟩

/-- **A file that would be overwritten has a canonical form.** If a path that is opened for writing
reaches something that exists, this is what its canonical form names. -/
theorem canonical_of_target {d : Disk} {p : Path} {l : Location} (h : d.target p = .ok l)
    (hnode : (d.node? l).isSome = true) : d.canonical p = .ok l := by
  rcases target_cases h with ⟨hr, -⟩ | ⟨dir, name, -, -, hmissing⟩
  · rw [canonical, follow_of_resolve hr]
    rfl
  · rw [hmissing] at hnode
    cases hnode

/-- **The check for one file under two paths misses nothing**: if writing to one path reaches what
the other leads to, they are found to be the same. -/
theorem sameLocation_of_target {d : Disk} {output input : Path} {l : Location}
    (houtput : d.target output = .ok l) (hinput : d.canonical input = .ok l)
    (hnode : (d.node? l).isSome = true) : d.sameLocation output input = true := by
  rw [sameLocation, hinput, canonical_of_target houtput hnode]
  simp [Except.toOption]

theorem read_of_locate {d : Disk} {p : Path} {l : Location} {content : ByteArray}
    (h : d.locate p = .ok l) (hfile : d.node? l = some (.file content)) :
    d.read p = .ok content := by
  rw [read, h]
  dsimp only
  rw [hfile]

/-- A path that leads to a file does not end with a slash. -/
theorem isIdle_of_canonical_file {d : Disk} {p : Path} {l : Location} {content : ByteArray}
    {last : String} (h : d.canonical p = .ok l) (hfile : d.node? l = some (.file content))
    (hlast : p.segments.getLast? = some last) : Path.isIdle last = false := by
  obtain ⟨-, -, hleads⟩ := canonical_eq_ok_iff.1 h
  by_contra hidle
  obtain ⟨l', hl', hdir⟩ := hleads.isDirectoryAt_of_getLast? hlast (by simpa using hidle)
  cases hl'
  rw [isDirectoryAt_of_node?_file hfile] at hdir
  cases hdir

/-! ### The directory of a path -/

/-- A beginning of a text that the system takes as a path is taken too. -/
theorem resolve_find_of_leads {d : Disk} {purpose : Purpose} {p q : Path} {r : Resolved}
    {t : String} {l : Location} (h : d.resolve purpose p = .ok r) (htext : p.text = q.text ++ t)
    (hq : q.isEmpty = false)
    (hleads : Leads d .find linkBudget (start d.current p) q.segments (.existing l)) :
    d.resolve .find q = .ok (.existing l) := by
  obtain ⟨hlong, -, hzero, -⟩ := resolve_eq_ok_iff.1 h
  have hzero' : q.holdsZero = false := by
    rw [Path.holdsZero, htext, String.toList_append, List.contains_append,
      Bool.or_eq_false_iff] at hzero
    exact hzero.1
  have hlength : q.text.utf8ByteSize ≤ longestPath := by
    rw [htext, String.utf8ByteSize_append] at hlong
    omega
  have hstart : start d.current q = start d.current p := by
    have hne : q.text.toList ≠ [] := by
      rw [Ne, String.toList_eq_nil_iff, ← String.isEmpty_iff]
      exact Bool.eq_false_iff.1 hq
    rw [start, start, Path.isAbsolute, Path.isAbsolute, htext, String.toList_append,
      List.head?_append_of_ne_nil _ hne]
  exact resolve_eq_ok_iff.2 ⟨hlength, hq, hzero', hstart.symm ▸ hleads⟩

theorem isDirectory_root (d : Disk) : d.isDirectory ⟨"/"⟩ = true := by
  rfl

/-- **The directory of a path is there** if the path leads anywhere. -/
theorem isDirectory_of_parent? {d : Disk} {purpose : Purpose} {p dir : Path} {r : Resolved}
    (h : d.resolve purpose p = .ok r) (hparent : p.parent? = some dir)
    (hdir : dir.isEmpty = false) : d.isDirectory dir = true := by
  obtain ⟨segs, post, rfl, hsegs, hpost, hp⟩ := Path.exists_of_parent? hparent hdir
  by_cases hroot : segs = [""]
  · subst hroot
    exact d.isDirectory_root
  · obtain ⟨-, -, hleads⟩ := leads_of_resolve h
    obtain ⟨l, hl, hldir⟩ := (hp ▸ hleads).exists_directory hpost
    obtain ⟨t, htext⟩ := Path.text_eq_append_of_segments hsegs hpost hp
    have hsegments : (Path.ofSegments segs).segments = segs := by
      refine Path.segments_ofSegments hsegs hroot fun s hs ↦ ?_
      exact Path.notMem_of_mem_segments (hp ▸ List.mem_append_left post hs)
    have hresolve := resolve_find_of_leads h htext hdir (hsegments.symm ▸ hl)
    have hnode : d.node? l = some .directory := by
      rw [isDirectoryAt] at hldir
      split at hldir
      next hnode => exact hnode
      next => cases hldir
    rw [isDirectory, find?, locate, hresolve]
    dsimp only [Except.bind, Resolved.location]
    rw [hnode]

/-- So a path that can be opened for writing stands in a directory that is there. -/
theorem isDirectory_of_target {d : Disk} {p dir : Path} {l : Location} (h : d.target p = .ok l)
    (hparent : p.parent? = some dir) (hdir : dir.isEmpty = false) : d.isDirectory dir = true := by
  rcases target_cases h with ⟨hr, -⟩ | ⟨_, _, -, hr, -⟩
  · exact isDirectory_of_parent? hr hparent hdir
  · exact isDirectory_of_parent? hr hparent hdir

end LatencyCurve.Disk
