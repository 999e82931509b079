import LatencyCurve.Chart.Render
import LatencyCurve.Proofs.Resolution

/-!
# What is written where

Writing an image changes one place, the one that its path reaches when it is opened for writing
(`disk_writeImage`), and what has been written is read back through the same path
(`Disk.read_put_of_target`).

The second needs an argument. A path is resolved again after the file has been put in place, and it
could be that the file now stands in the way of the path that led to it. It does not: on the way
there are directories and links only, and the file is put where there was neither. The one place of
which this is not plain is a link that is arrived at without being followed; a path can only do that
from below (`Disk.Leads.prefix_of_link`), and then it has not come by that link.
-/

namespace LatencyCurve

/-- The place that a path leads to, whether there is something or not. -/
def Resolved.place : Resolved → Location
  | existing l => l
  | vacant dir name => dir ++ [name]

namespace Disk

/-! ### Reading back -/

theorem isDirectoryAt_put_file {d : Disk} {l here : Location} (content : ByteArray)
    (hl : d.isDirectoryAt l = false) (h : d.isDirectoryAt here = true) :
    (d.put l (.file content)).isDirectoryAt here = true := by
  have hne : here ≠ l := by
    rintro rfl
    exact absurd h (by simp [hl])
  rwa [isDirectoryAt, node?_put_of_ne d _ hne, ← isDirectoryAt]

namespace Leads

variable {d : Disk} {purpose : Purpose} {n : Nat} {here : Location} {segments : List String}

/-- A link is only arrived at from below. -/
theorem prefix_of_link {l : Location} {target : Path}
    (h : Leads d purpose n here segments (.existing l)) (hlink : d.node? l = some (.link target)) :
    l <+: here := by
  generalize hr : Resolved.existing l = r at h
  induction h with
  | arrived => cases hr; exact List.prefix_refl _
  | idle _ _ _ ih => exact ih hr
  | up _ _ ih => exact (ih hr).trans (List.dropLast_prefix _)
  | missing => cases hr
  | @link n here s rest r target' _ _ _ _ ih =>
    have hstart := ih hr
    rw [start] at hstart
    split at hstart
    next =>
      rw [List.prefix_nil] at hstart
      simp [hstart, node?] at hlink
    next => exact hstart
  | @entry n here s rest r node _ _ hnode hnolink _ ih =>
    rcases List.prefix_concat_iff.1 (ih hr) with rfl | hprefix
    · rw [hnode, Option.some.injEq] at hlink
      exact absurd hlink (hnolink target)
    · exact hprefix

/-- **A file that is put where a path leads is found by that path**, unless there was a directory:
nothing on the way is changed by it. -/
theorem put_file {r : Resolved} (h : Leads d purpose n here segments r) (content : ByteArray)
    (hplace : d.isDirectoryAt r.place = false) :
    Leads (d.put r.place (.file content)) .find n here segments (.existing r.place) := by
  have hne : r.place ≠ [] := by
    intro hroot
    rw [hroot] at hplace
    cases hplace
  induction h with
  | arrived => exact .arrived
  | idle hdir hs _ ih => exact .idle (isDirectoryAt_put_file content hplace hdir) hs (ih hplace hne)
  | up hdir _ ih => exact .up (isDirectoryAt_put_file content hplace hdir) (ih hplace hne)
  | missing hdir hs hnode =>
    exact .entry (isDirectoryAt_put_file content hplace hdir) hs.find
      (d.node?_put_self _ hne) nofun .arrived
  | @link n here s rest r target hdir hs hnode hrest ih =>
    -- The link that is followed is not the place: a vacancy is no link, and behind the link the
    -- path goes on from where the link stands, which is not below it.
    have hlink : here ++ [s] ≠ r.place := by
      intro heq
      cases r with
      | vacant dir name =>
        rw [heq, Resolved.place, hrest.node?_of_vacant] at hnode
        cases hnode
      | existing l =>
        obtain rfl : here ++ [s] = l := heq
        have hprefix := hrest.prefix_of_link hnode
        rw [start] at hprefix
        split at hprefix
        · exact hne (List.prefix_nil.1 hprefix)
        · have hlength := hprefix.length_le
          rw [List.length_append, List.length_singleton] at hlength
          omega
    exact .link (isDirectoryAt_put_file content hplace hdir) hs.find
      ((d.node?_put_of_ne _ hlink).trans hnode) (ih hplace hne)
  | @entry n here s rest r node hdir hs hnode hnolink _ ih =>
    have hdir' := isDirectoryAt_put_file content hplace hdir
    by_cases hs' : here ++ [s] = r.place
    · have hput : (d.put r.place (.file content)).node? (here ++ [s]) = some (.file content) := by
        rw [hs']
        exact d.node?_put_self _ hne
      exact .entry hdir' hs.find hput nofun (ih hplace hne)
    · exact .entry hdir' hs.find ((d.node?_put_of_ne _ hs').trans hnode) hnolink (ih hplace hne)

end Leads

/-- What opening a path for writing reaches is where the path leads, and no directory. -/
theorem place_of_target {d : Disk} {p : Path} {l : Location} (h : d.target p = .ok l) :
    ∃ r, d.resolve .make p = .ok r ∧ r.place = l ∧ d.isDirectoryAt l = false := by
  rcases target_cases h with ⟨hr, hdir⟩ | ⟨dir, name, rfl, hr, hnode⟩
  · exact ⟨_, hr, rfl, hdir⟩
  · exact ⟨_, hr, rfl, by rw [isDirectoryAt, hnode]⟩

/-- **What is written can be read back**: a file that is put where a path is opened for writing is
what the path leads to. -/
theorem read_put_of_target {d : Disk} {p : Path} {l : Location} (h : d.target p = .ok l)
    (content : ByteArray) : (d.put l (.file content)).read p = .ok content := by
  obtain ⟨r, hr, rfl, hplace⟩ := place_of_target h
  obtain ⟨hlength, hempty, hzero, hleads⟩ := resolve_eq_ok_iff.1 hr
  have hlocate : (d.put r.place (.file content)).locate p = .ok r.place := by
    rw [locate, resolve_eq_ok_iff.2 ⟨hlength, hempty, hzero, hleads.put_file content hplace⟩]
    rfl
  have hne : r.place ≠ [] := by
    intro hroot
    rw [hroot] at hplace
    cases hplace
  exact read_of_locate hlocate (d.node?_put_self _ hne)

end Disk

/-! ### Images -/

/-- An image is written if its path has a format, can be opened for writing, and the bitmap can be
said in the format. Then the image is where its path leads, and nothing else has changed. -/
theorem writeImage_eq_ok_iff {d d' : Disk} {p : Path} {b : Bitmap} :
    writeImage d p b = (.ok (), d') ↔
      ∃ format l content, formatOf p = .ok format ∧ d.target p = .ok l ∧
        encodeImage format b = .ok content ∧ d' = d.put l (.file content) := by
  rw [writeImage]
  cases formatOf p with
  | error e => simp
  | ok format =>
    cases d.target p with
    | error e => simp
    | ok l => cases hencode : encodeImage format b <;> simp [hencode, eq_comm]

/-- Writing an image changes nothing, or puts a file where its path leads. -/
theorem disk_writeImage (d : Disk) (p : Path) (b : Bitmap) :
    (writeImage d p b).2 = d ∨
      ∃ l content, d.target p = .ok l ∧ (writeImage d p b).2 = d.put l (.file content) := by
  rw [writeImage]
  cases formatOf p with
  | error e => exact .inl rfl
  | ok format =>
    dsimp only
    cases htarget : d.target p with
    | error e => exact .inl rfl
    | ok l =>
      dsimp only
      cases encodeImage format b with
      | error e => exact .inr ⟨l, _, rfl, rfl⟩
      | ok content => exact .inr ⟨l, _, rfl, rfl⟩

/-- A path that can be opened for writing has its directory. -/
theorem Chart.missingDirectory?_of_target {d : Disk} {p : Path} {l : Location}
    (h : d.target p = .ok l) : missingDirectory? d p = none := by
  rw [missingDirectory?]
  cases hparent : p.parent? with
  | none => rfl
  | some dir =>
    cases hdir : dir.isEmpty with
    | true => simp [hdir]
    | false => simp [Disk.isDirectory_of_target h hparent hdir]

end LatencyCurve
