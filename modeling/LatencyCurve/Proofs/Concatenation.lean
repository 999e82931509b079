import LatencyCurve.Proofs.Extraction
import LatencyCurve.Proofs.Lines
import LatencyCurve.Proofs.WellFormed

/-!
# Logs behind one another

Two logs that are written into one file, the second behind the first, are extracted as they are
alone; only the line numbers of the second count on from those of the first (`Extraction.append`).
The bytes may be anything as long as the first log ends with a line: decoding, cutting into lines
and numbering all commute with the concatenation.

## Shape decisions

* **Numbering is a loop**, so it is the loop that is followed: one line more at the end of the second
  log is one more at the end of both (`append_readLine`).
* **Damage is a change of one line.** What is ill formed is not described. Instead a line is
  exchanged for any other bytes that make one line, and `SameButLine` says what stays: the number of
  lines, and the measurements of all other lines with their numbers.
-/

namespace LatencyCurve

variable {ρ α : Type}

/-! ### Behind other lines -/

/-- A measurement of a log, once there are some lines in front of the log. -/
def Measurement.behind (lines : Nat) (m : Measurement α) : Measurement α :=
  { m with line := m.line + lines }

namespace Extraction

/-- What is extracted from a log with a second one behind it: the measurements of both, those of the
second with their line numbers counted on. -/
def append (e e' : Extraction α) : Extraction α where
  series := ⟨e.series.measurements ++ e'.series.measurements.map (.behind e.linesRead)⟩
  linesRead := e.linesRead + e'.linesRead

/-- Two extractions that differ at most in what they make of one line. -/
structure SameButLine (number : Nat) (e e' : Extraction α) : Prop where
  /-- They have read equally many lines. -/
  linesRead_eq : e.linesRead = e'.linesRead
  /-- They have the same measurements of all other lines. -/
  others_eq : e.series.measurements.filter (·.line ≠ number) =
    e'.series.measurements.filter (·.line ≠ number)

namespace SameButLine

variable {number : Nat} {e e' : Extraction α}

/-- What stands in front only moves the line on. -/
theorem append_left (first : Extraction α) (h : SameButLine number e e') :
    SameButLine (first.linesRead + number) (first.append e) (first.append e') where
  linesRead_eq := by rw [append, append, h.linesRead_eq]
  others_eq := by
    have hmoved : ((fun m : Measurement α ↦ decide (m.line ≠ first.linesRead + number)) ∘
        .behind first.linesRead) = fun m ↦ decide (m.line ≠ number) := by
      funext m
      simp only [Measurement.behind, Function.comp_apply, Nat.add_comm first.linesRead,
        Nat.add_right_cancel_iff, ne_eq]
    simp only [append, List.filter_append, List.filter_map, hmoved, h.others_eq]

/-- What stands behind does not matter. -/
theorem append_right (h : SameButLine number e e') (last : Extraction α) :
    SameButLine number (e.append last) (e'.append last) where
  linesRead_eq := by rw [append, append, h.linesRead_eq]
  others_eq := by simp only [append, List.filter_append, h.others_eq, h.linesRead_eq]

end SameButLine

end Extraction

/-! ### Concatenation -/

variable [LineRecognizer ρ] [Quantity α]

/-- The number of a line is all that changes behind other lines. -/
theorem measureLine_add (recognizers : List ρ) (line : List Char) (number lines : Nat) :
    (measureLine recognizers line (number + lines) : Option (Measurement α)) =
      (measureLine recognizers line number).map (.behind lines) := by
  have hmicros (n : Nat) (p : Pattern) : (Measurement.ofMicros n (number + lines) p :
      Measurement α) = (Measurement.ofMicros n number p).behind lines := rfl
  simp only [measureLine, List.map_findSome?, Function.comp_def, Option.map_map, hmicros]

namespace Extraction

/-- **One line more** at the end of the second log is one more at the end of both. -/
theorem append_readLine (recognizers : List ρ) (e e' : Extraction α) (line : List Char) :
    e.append (e'.readLine recognizers line) = (e.append e').readLine recognizers line := by
  have hmeasure : (measureLine recognizers line (e.linesRead + e'.linesRead + 1) :
      Option (Measurement α)) =
        (measureLine recognizers line (e'.linesRead + 1)).map (.behind e.linesRead) := by
    rw [← measureLine_add]
    congr 1
    omega
  simp only [readLine, append, hmeasure]
  cases measureLine (α := α) recognizers line (e'.linesRead + 1) with
  | none => simp [Nat.add_assoc]
  | some m => simp [Series.push, Nat.add_assoc]

/-- **Lines behind other lines** are extracted as they are alone. -/
theorem ofLines_append (recognizers : List ρ) (lines lines' : List (List Char)) :
    (ofLines recognizers (lines ++ lines') : Extraction α) =
      (ofLines recognizers lines).append (ofLines recognizers lines') := by
  induction lines' using List.reverseRecOn with
  | nil => simp [append, ofLines]
  | append_singleton lines' line ih =>
    rw [← List.append_assoc, ofLines_concat, ofLines_concat, ih, append_readLine]

/-- **Logs behind other logs**: the bytes of the first may end in the middle of a character, but not
in the middle of a line. -/
theorem ofBytes_append (recognizers : List ρ) {a : List UInt8} (h : Utf8.AtLineStart a)
    (b : List UInt8) :
    (ofBytes recognizers (a ++ b) : Extraction α) =
      (ofBytes recognizers a).append (ofBytes recognizers b) := by
  rw [ofBytes, ofText, Utf8.decode_append h, linesOf_append h.decode, ofLines_append]
  rfl

/-! ### One line of a log -/

/-- The bytes of one line, with its end or without: no line feed but the last byte. -/
def IsLine (bytes : List UInt8) : Prop :=
  bytes ≠ [] ∧ Utf8.lineFeed ∉ bytes.dropLast

instance (bytes : List UInt8) : Decidable (IsLine bytes) :=
  inferInstanceAs (Decidable (_ ∧ _))

/-- The bytes of a line without its end. -/
def lineContent (line : List UInt8) : List UInt8 :=
  if line.getLast? = some Utf8.lineFeed then
    if line.dropLast.getLast? = some Utf8.carriageReturn then line.dropLast.dropLast
    else line.dropLast
  else line

/-- A carriage return at the end of a text is one at the end of its bytes. -/
theorem dropReturn_decode (bytes : List UInt8) :
    dropReturn (Utf8.decode bytes) =
      Utf8.decode (if bytes.getLast? = some Utf8.carriageReturn then bytes.dropLast else bytes) := by
  have hreturn (init : List UInt8) :
      Utf8.decode (init ++ [Utf8.carriageReturn]) = Utf8.decode init ++ ['\r'] :=
    Utf8.decode_append_cons (c := '\r') rfl init []
  split
  next h =>
    obtain ⟨init, rfl⟩ := List.getLast?_eq_some_iff.1 h
    rw [hreturn, dropReturn, if_pos List.getLast?_concat, List.dropLast_concat, List.dropLast_concat]
  next h =>
    refine if_neg fun hlast ↦ h ?_
    obtain ⟨init, hinit⟩ := List.getLast?_eq_some_iff.1 hlast
    obtain ⟨before, behind, rfl, -, hbehind⟩ := Utf8.exists_of_decode_eq (c := '\r') rfl hinit
    rw [Utf8.decode_eq_nil_iff.1 hbehind]
    exact List.getLast?_concat

/-- **The bytes of one line are read as one line**, whatever they are. -/
theorem linesOf_decode {line : List UInt8} (h : IsLine line) :
    linesOf (Utf8.decode line) = [Utf8.decode (lineContent line)] := by
  obtain ⟨hne, hinner⟩ := h
  rw [lineContent]
  split
  next hlast =>
    obtain ⟨init, rfl⟩ := List.getLast?_eq_some_iff.1 hlast
    rw [List.dropLast_concat] at hinner ⊢
    rw [Utf8.decode_append_lineFeed, Utf8.decode_nil, linesOf_concat_lineFeed,
      piecesAt_of_notMem (mt Utf8.lineFeed_mem_decode_iff.1 hinner), List.map_singleton,
      dropReturn_decode]
  next hlast =>
    have hbytes : Utf8.lineFeed ∉ line := by
      rw [← List.dropLast_append_getLast hne, List.mem_append, List.mem_singleton, not_or]
      rw [List.getLast?_eq_some_getLast hne, Option.some.injEq] at hlast
      exact ⟨hinner, Ne.symm hlast⟩
    exact linesOf_of_notMem (mt Utf8.lineFeed_mem_decode_iff.1 hbytes)
      (mt Utf8.decode_eq_nil_iff.1 hne)

theorem linesRead_ofBytes_of_isLine (recognizers : List ρ) {bytes : List UInt8}
    (h : IsLine bytes) : (ofBytes recognizers bytes : Extraction α).linesRead = 1 := by
  rw [ofBytes, ofText, ofLines, linesOf_decode h, List.length_singleton]

/-- Two logs of one line each differ at most in that line. -/
theorem sameButLine_of_isLine (recognizers : List ρ) {line line' : List UInt8} (h : IsLine line)
    (h' : IsLine line') : SameButLine 1 (ofBytes recognizers line : Extraction α)
      (ofBytes recognizers line') := by
  have hnone {bytes : List UInt8} (hbytes : IsLine bytes) :
      (ofBytes recognizers bytes : Extraction α).series.measurements.filter (·.line ≠ 1) = [] := by
    have hexact : (ofBytes recognizers bytes : Extraction α).Exact recognizers _ :=
      exact_ofLines recognizers (linesOf (Utf8.decode bytes))
    refine List.filter_eq_nil_iff.2 fun m hm ↦ ?_
    obtain ⟨hle, hge⟩ := hexact.line_mem hm
    rw [linesRead_ofBytes_of_isLine recognizers hbytes] at hge
    simpa using Nat.le_antisymm hge hle
  refine ⟨?_, by rw [hnone h, hnone h']⟩
  rw [linesRead_ofBytes_of_isLine recognizers h, linesRead_ofBytes_of_isLine recognizers h']

/-- **Logs may be extracted part by part, and line by line.** Behind a log that ends with a line,
any bytes yield what they yield alone, with their line numbers counted on. So a line yields what it
yields alone, too: whatever bytes are put in its place, the lines before it and behind it keep their
numbers and their measurements. -/
theorem extraction_of_concatenation (recognizers : List ρ) :
    (∀ a b : List UInt8, Utf8.AtLineStart a →
      (ofBytes recognizers (a ++ b) : Extraction α) =
        (ofBytes recognizers a).append (ofBytes recognizers b)) ∧
      ∀ a line line' b : List UInt8, Utf8.AtLineStart a → IsLine line → IsLine line' →
        (b = [] ∨ Utf8.AtLineStart line ∧ Utf8.AtLineStart line') →
        SameButLine ((ofBytes recognizers a : Extraction α).linesRead + 1)
          (ofBytes recognizers (a ++ line ++ b) : Extraction α)
          (ofBytes recognizers (a ++ line' ++ b)) := by
  refine ⟨fun a b h ↦ ofBytes_append recognizers h b, fun a line line' b ha hline hline' hb ↦ ?_⟩
  have hlines := sameButLine_of_isLine (α := α) recognizers hline hline'
  rw [List.append_assoc, List.append_assoc, ofBytes_append recognizers ha,
    ofBytes_append recognizers ha]
  refine .append_left _ ?_
  rcases hb with rfl | ⟨hend, hend'⟩
  · rwa [List.append_nil, List.append_nil]
  · rw [ofBytes_append recognizers hend, ofBytes_append recognizers hend']
    exact hlines.append_right _

/-- A log that breaks off within a character, `took 7 us` and the first two bytes of `€`, in front
of one that begins with the third of these bytes: both lines are measured, and the second is still
measured if the first is exchanged for a byte that begins no character. -/
theorem extraction_of_broken_characters :
    let a : List UInt8 := [0x74, 0x6F, 0x6F, 0x6B, 0x20, 0x37, 0x20, 0x75, 0x73, 0xE2, 0x82, 0x0A]
    let b : List UInt8 := [0xAC, 0x3B, 0x35]
    let e (bytes : List UInt8) : Extraction Float := ofBytes Pattern.standardOrder bytes
    Utf8.AtLineStart a ∧ e (a ++ b) = (e a).append (e b) ∧
      (e (a ++ b)).series.measurements.map (·.line) = [1, 2] ∧
      IsLine a ∧ IsLine [0xFF, 0x0A] ∧ SameButLine 1 (e (a ++ b)) (e ([0xFF, 0x0A] ++ b)) := by
  intro a b e
  obtain ⟨happend, hline⟩ := extraction_of_concatenation (α := Float) Pattern.standardOrder
  have ha : Utf8.AtLineStart a := by decide
  have hisLine : IsLine a ∧ IsLine [0xFF, 0x0A] := by decide
  refine ⟨ha, happend a b ha, by decide, hisLine.1, hisLine.2, ?_⟩
  exact hline [] a [0xFF, 0x0A] b (by decide) hisLine.1 hisLine.2 (by decide)

end Extraction

end LatencyCurve
