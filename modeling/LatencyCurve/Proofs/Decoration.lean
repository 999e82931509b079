import LatencyCurve.CommandLine.Help
import LatencyCurve.Config.Check
import LatencyCurve.Journal.Clock
import LatencyCurve.Journal.Session
import LatencyCurve.Proofs.ColorSequences

/-!
# Color is only decoration

Whatever is printed in color is printed without color as well, and the two differ by color sequences
alone (`color_only_decorates`).

What is shown as a styled text is the same list of spans either way, in which only the styles
differ; so each part needs one lemma, saying that its texts are free of the escape character
(`Tints`). A line of the journal is put together from texts instead, and only its level is colored;
there the sequences around the level are taken out by hand (`Entry.withoutColors_levelText_append`).

## What has to be free of the escape character

Titles, messages and paths are printed as they are, so nothing can be said about those that hold
escape sequences of their own. Numbers and names are never such, and the values in an entry are
written as JSON, which escapes the escape character.
-/

namespace LatencyCurve

/-! ### Reports and messages -/

theorem unescaped_repeated {c : Char} (h : c ≠ '\x1b') (n : Nat) : Unescaped (repeated c n) := by
  rw [repeated, unescaped_ofList]
  intro hmem
  exact h (List.eq_of_mem_replicate hmem).symm

namespace Report

theorem unescaped_rows (verbose : Bool) (r : Report) : ∀ row ∈ r.rows verbose, Unescaped row.1 := by
  simp only [rows, List.forall_mem_append, List.forall_mem_cons, List.forall_mem_map]
  refine ⟨⟨⟨⟨by decide, by decide, List.forall_mem_nil _⟩,
    fun p _ ↦ unescaped_percentileLabel p.percent⟩, by decide, List.forall_mem_nil _⟩, ?_⟩
  have hdeviation : Unescaped "std dev" := by decide
  cases verbose with
  | true => exact List.forall_mem_singleton.2 hdeviation
  | false => exact List.forall_mem_nil _

theorem unescaped_sourceLines (verbose : Bool) {r : Report} (hinput : Unescaped r.input)
    (houtput : Unescaped r.output) :
    ∀ l ∈ r.sourceLines verbose, Unescaped l.1 ∧ Unescaped l.2 := by
  have hgap : Unescaped " " := by decide
  have htook : Unescaped "  took <N> us" := by decide
  have hsuffix : Unescaped "  ;<N> suffix" := by decide
  have hskipped : Unescaped "  skipped" ∧ Unescaped "     " := by decide
  simp only [sourceLines, List.forall_mem_append, List.forall_mem_cons, unescaped_append]
  refine ⟨⟨⟨by decide, by decide, hinput⟩, ⟨by decide, by decide, houtput⟩, ⟨by decide,
    ⟨⟨⟨hgap, unescaped_toString _⟩, by decide⟩, unescaped_toString _⟩, by decide⟩,
    List.forall_mem_nil _⟩, ?_⟩
  cases verbose with
  | true =>
    simp only [if_true, List.forall_mem_cons, unescaped_append]
    exact ⟨⟨htook, hgap, unescaped_toString _⟩, ⟨hsuffix, hgap, unescaped_toString _⟩,
      ⟨hskipped.1, hskipped.2, unescaped_toString _⟩, List.forall_mem_nil _⟩
  | false => exact List.forall_mem_nil _

end Report

namespace Colored

variable (o : Formatting) (scheme : Scheme)

theorem tints_header {title : String} (h : Unescaped title) :
    Tints (header { o with useColor := true } scheme title)
      (header { o with useColor := false } scheme title) := by
  have hborder : Unescaped (repeated '═' (title.length + 4)) := unescaped_repeated (by decide) _
  refine ⟨rfl, ?_⟩
  simp only [header, List.forall_mem_cons]
  exact ⟨hborder, by decide, h, by decide, hborder, List.forall_mem_nil _⟩

theorem tints_sourceLine {l : String × String} (hlabel : Unescaped l.1) (hvalue : Unescaped l.2) :
    Tints (sourceLine { o with useColor := true } scheme l)
      (sourceLine { o with useColor := false } scheme l) := by
  have hrest : Unescaped (":" ++ l.2 ++ "\n") :=
    unescaped_append.2 ⟨unescaped_append.2 ⟨by decide, hvalue⟩, by decide⟩
  refine ⟨rfl, ?_⟩
  simp only [sourceLine, List.forall_mem_cons]
  exact ⟨hlabel, hrest, List.forall_mem_nil _⟩

theorem tints_headerRow (names values : Nat) :
    Tints (headerRow { o with useColor := true } names values)
      (headerRow { o with useColor := false } names values) := by
  refine ⟨rfl, ?_⟩
  simp only [headerRow, List.forall_mem_cons]
  exact ⟨by decide, unescaped_pad (by decide), by decide, unescaped_pad (by decide),
    List.forall_mem_nil _⟩

theorem tints_ruleRow (names values : Nat) :
    Tints (ruleRow { o with useColor := true } scheme names values)
      (ruleRow { o with useColor := false } scheme names values) := by
  refine ⟨rfl, ?_⟩
  simp only [ruleRow, List.forall_mem_cons]
  exact ⟨by decide, unescaped_repeated (by decide) _, List.forall_mem_nil _⟩

theorem tints_valueRow (names values : Nat) {row : String × Float} (h : Unescaped row.1) :
    Tints (valueRow { o with useColor := true } names values row)
      (valueRow { o with useColor := false } names values row) := by
  have hname : Unescaped ("  " ++ pad .left names row.1 ++ "  ") :=
    unescaped_append.2 ⟨unescaped_append.2 ⟨by decide, unescaped_pad h⟩, by decide⟩
  have hvalue : Unescaped (pad .right values (fixedText o.places row.2)) :=
    unescaped_pad (unescaped_fixedText o.places row.2)
  refine ⟨rfl, ?_⟩
  simp only [valueRow, List.forall_mem_cons]
  exact ⟨hname, hvalue, List.forall_mem_nil _⟩

/-- The lines of the statistics, each by itself. -/
theorem tints_tableLines (r : Report) :
    List.Forall₂ Tints (tableLines { o with useColor := true } scheme r)
      (tableLines { o with useColor := false } scheme r) := by
  refine .cons (tints_headerRow o _ _) (.cons (tints_ruleRow o scheme _ _) ?_)
  rw [List.forall₂_map_left_iff, List.forall₂_map_right_iff, List.forall₂_same]
  intro row hrow
  exact tints_valueRow o _ _ (r.unescaped_rows o.verbose row hrow)

theorem tints_summary {r : Report} (hinput : Unescaped r.input) (houtput : Unescaped r.output) :
    Tints (summary { o with useColor := true } scheme r)
      (summary { o with useColor := false } scheme r) := by
  have hfeed : Tints ["\n"] ["\n"] := .ofString (by decide)
  have hsource := Tints.flatMap fun l hl ↦
    have hl := r.unescaped_sourceLines o.verbose hinput houtput l hl
    tints_sourceLine o scheme hl.1 hl.2
  exact ((((tints_header o scheme (by decide)).append hfeed).append hsource).append hfeed).append
    (.lines (tints_tableLines o scheme r))

theorem tints_marked (style : Style) {mark message : String} (hmark : Unescaped mark)
    (h : Unescaped message) :
    Tints (marked { o with useColor := true } style mark message)
      (marked { o with useColor := false } style mark message) := by
  refine ⟨rfl, ?_⟩
  simp only [marked, List.forall_mem_cons]
  exact ⟨hmark, unescaped_append.2 ⟨by decide, h⟩, List.forall_mem_nil _⟩

end Colored

/-! ### Faults and notices -/

theorem Fault.tints_console {f : Fault} (h : Unescaped f.message) :
    Tints (f.console true) (f.console false) := by
  have hcategory : Unescaped f.kind.category := by cases f.kind <;> decide
  have hheading : Unescaped f.kind.heading := by cases f.kind <;> decide
  refine ⟨rfl, ?_⟩
  simp only [console, List.forall_mem_cons]
  exact ⟨by decide, hcategory, by decide, unescaped_append.2 ⟨hheading, h⟩, List.forall_mem_nil _⟩

theorem Fault.tints_report {f : Fault} (h : Unescaped f.message) (verbose : Bool) :
    Tints (f.report true verbose) (f.report false verbose) := by
  have hheading : Unescaped f.kind.friendlyHeading := by cases f.kind <;> decide
  have hadvice : Unescaped f.kind.advice := by
    cases f.kind with
    | io | empty =>
      exact unescaped_append.2 ⟨unescaped_ofList.2 (by decide), unescaped_ofList.2 (by decide)⟩
    | config | validation | parse | render | internal => exact unescaped_ofList.2 (by decide)
  have hfriendly : Unescaped f.friendlyText := by
    simp only [friendlyText, unescaped_append]
    exact ⟨⟨⟨hheading, h⟩, by decide⟩, hadvice⟩
  refine (tints_console h).append ?_
  cases verbose with
  | true => exact ⟨rfl, List.forall_mem_cons.2 ⟨by decide, List.forall_mem_singleton.2 hfriendly⟩⟩
  | false => exact .nil

theorem Notice.tints_render {n : Notice} (h : Unescaped n.message) :
    Tints (n.render true) (n.render false) := by
  have hname : Unescaped n.level.name := by cases n.level <;> decide
  refine ⟨rfl, ?_⟩
  simp only [render, List.forall_mem_cons]
  exact ⟨by decide, hname, by decide, h, List.forall_mem_nil _⟩

/-! ### Help -/

namespace Help

/-- The texts of an option. -/
def OptionEntry.texts (o : OptionEntry) : List String :=
  o.letter.toList ++ [o.form, o.description] ++ o.sample.toList

/-- The texts of a way to use the program. -/
def Sample.texts (s : Sample) : List String :=
  [s.title, s.command, s.description]

theorem unescaped_options : ∀ o ∈ options, ∀ s ∈ o.texts, Unescaped s := by
  simp only [options, OptionEntry.texts, Option.toList_some, Option.toList_none, List.cons_append,
    List.nil_append, List.forall_mem_cons, List.not_mem_nil, false_imp_iff,
    implies_true, and_true]
  and_intros <;> exact unescaped_ofList.2 (by decide)

theorem unescaped_samples : ∀ s ∈ samples, ∀ t ∈ s.texts, Unescaped t := by
  simp only [samples, Sample.texts, List.forall_mem_cons, List.not_mem_nil, false_imp_iff,
    implies_true, and_true]
  and_intros <;> exact unescaped_ofList.2 (by decide)

theorem unescaped_usageForms : ∀ form ∈ usageForms, Unescaped form := by
  simp only [usageForms, List.forall_mem_cons, List.not_mem_nil, false_imp_iff,
    implies_true, and_true]
  and_intros <;> exact unescaped_ofList.2 (by decide)

theorem unescaped_fontPlaces : ∀ p ∈ fontPlaces, Unescaped p.text := by
  simp only [fontPlaces, List.forall_mem_cons, List.not_mem_nil, false_imp_iff,
    implies_true, and_true]
  and_intros <;> exact unescaped_ofList.2 (by decide)

theorem tints_optionText {o : OptionEntry} (h : ∀ s ∈ o.texts, Unescaped s) :
    Tints (optionText true o) (optionText false o) := by
  simp only [OptionEntry.texts, List.forall_mem_append, List.forall_mem_cons] at h
  obtain ⟨⟨hletter, hform, hdescription, -⟩, hsample⟩ := h
  have hletterPart : Tints (letterPart true o.letter) (letterPart false o.letter) := by
    cases hl : o.letter with
    | none => exact .ofString (by decide)
    | some l =>
      have hl : Unescaped ("-" ++ l) :=
        unescaped_append.2 ⟨by decide, hletter l (Option.mem_toList.2 hl)⟩
      exact ⟨rfl, List.forall_mem_cons.2 ⟨by decide, List.forall_mem_cons.2 ⟨hl, by decide⟩⟩⟩
  have hmiddle : Tints
      [{ Span.styledIf true (.colored .brightCyan) o.form with width := 30 }, " ",
        .styledIf true (.colored .white) o.description]
      [{ Span.styledIf false (.colored .brightCyan) o.form with width := 30 }, " ",
        .styledIf false (.colored .white) o.description] := by
    refine ⟨rfl, ?_⟩
    simp only [List.forall_mem_cons]
    exact ⟨hform, by decide, hdescription, List.forall_mem_nil _⟩
  have hsamplePart : Tints (samplePart true o.sample) (samplePart false o.sample) := by
    cases hs : o.sample with
    | none => exact .nil
    | some s =>
      have hs : Unescaped ("Example: " ++ s) :=
        unescaped_append.2 ⟨by decide, hsample s (Option.mem_toList.2 hs)⟩
      exact ⟨rfl, List.forall_mem_cons.2 ⟨by decide, List.forall_mem_singleton.2 hs⟩⟩
  exact ((hletterPart.append hmiddle).append hsamplePart).append (.ofString (by decide))

theorem tints_sampleText {s : Sample} (h : ∀ t ∈ s.texts, Unescaped t) :
    Tints (sampleText true s) (sampleText false s) := by
  simp only [Sample.texts, List.forall_mem_cons] at h
  obtain ⟨htitle, hcommand, hdescription, -⟩ := h
  refine ⟨rfl, ?_⟩
  simp only [sampleText, List.forall_mem_cons]
  exact ⟨by decide, htitle, by decide, hcommand, by decide, hdescription, by decide,
    List.forall_mem_nil _⟩

theorem tints_headerSection : Tints (headerSection true) (headerSection false) := by
  have hpurpose : Unescaped "Plot the latency CDF of a benchmark log" := by decide
  refine ⟨rfl, ?_⟩
  simp only [headerSection, List.forall_mem_cons]
  exact ⟨by decide, by decide, hpurpose, by decide, by decide, by decide, List.forall_mem_nil _⟩

theorem tints_heading {title : String} (h : Unescaped title) :
    Tints [heading true title, "\n"] [heading false title, "\n"] :=
  ⟨rfl, List.forall_mem_cons.2 ⟨h, by decide⟩⟩

theorem tints_usageSection : Tints (usageSection true) (usageSection false) := by
  refine (tints_heading (by decide)).append (.flatMap fun form hform ↦ ⟨rfl, ?_⟩)
  simp only [List.forall_mem_cons]
  exact ⟨by decide, unescaped_usageForms form hform, by decide, List.forall_mem_nil _⟩

theorem tints_optionsSection : Tints (optionsSection true) (optionsSection false) :=
  (tints_heading (by decide)).append
    (.flatMap fun o ho ↦ tints_optionText (unescaped_options o ho))

theorem tints_examplesSection : Tints (examplesSection true) (examplesSection false) :=
  (tints_heading (by decide)).append
    (.flatMap fun s hs ↦
      (tints_sampleText (unescaped_samples s hs)).append (.ofString (by decide)))

theorem unescaped_topics : ∀ t ∈ topics, Unescaped t := by decide

theorem tints_footer : Tints (footer true) (footer false) := by
  have htopics : Unescaped ("|".intercalate topics) :=
    unescaped_intercalate (by decide) unescaped_topics
  have htext : Unescaped ("More help: latplot --help-topic <" ++ "|".intercalate topics ++ ">") :=
    unescaped_append.2 ⟨unescaped_append.2 ⟨by decide, htopics⟩, by decide⟩
  exact ⟨rfl, List.forall_mem_cons.2 ⟨htext, by decide⟩⟩

theorem tints_mainPage : Tints (mainPage true) (mainPage false) := by
  have hgap : Tints ["\n"] ["\n"] := .ofString (by decide)
  have hfront := ((tints_headerSection.append hgap).append tints_usageSection).append hgap
  exact ((((hfront.append tints_optionsSection).append hgap).append tints_examplesSection).append
    hgap).append tints_footer

set_option maxRecDepth 10000 in
theorem tints_patternsPage : Tints (patternsPage true) (patternsPage false) := by
  refine ⟨rfl, ?_⟩
  simp only [patternsPage, List.forall_mem_cons]
  exact ⟨by decide, unescaped_ofList.2 (by decide +kernel), List.forall_mem_nil _⟩

set_option maxRecDepth 10000 in
theorem tints_outputPage : Tints (outputPage true) (outputPage false) := by
  have hplaces : Unescaped (String.join (fontPlaces.map fun p ↦ "  " ++ p.text ++ "\n")) := by
    refine unescaped_join ?_
    rw [List.forall_mem_map]
    intro p hp
    exact unescaped_append.2 ⟨unescaped_append.2 ⟨by decide, unescaped_fontPlaces p hp⟩, by decide⟩
  refine ⟨rfl, ?_⟩
  simp only [outputPage, List.forall_mem_cons]
  exact ⟨by decide, unescaped_ofList.2 (by decide +kernel), hplaces,
    unescaped_ofList.2 (by decide +kernel), List.forall_mem_nil _⟩

/-- The page on a topic holds nothing of the name it was asked for by. -/
theorem tints_topicPage? (t : String) :
    Option.Rel Tints (topicPage? t true) (topicPage? t false) := by
  unfold topicPage?
  split
  case h_1 | h_2 | h_3 => exact .some tints_patternsPage
  case h_4 | h_5 => exact .some tints_outputPage
  case h_6 => exact .some tints_examplesSection
  case h_7 => exact .none

theorem unescaped_unknownTopic {t : String} (h : Unescaped t) : Unescaped (unknownTopic t) := by
  have htopics : Unescaped (", ".intercalate topics) :=
    unescaped_intercalate (by decide) unescaped_topics
  have hfront : Unescaped ("Unknown help topic: '" ++ t) := unescaped_append.2 ⟨by decide, h⟩
  have hmiddle : Unescaped ("Unknown help topic: '" ++ t ++ "'\n\nAvailable topics: ") :=
    unescaped_append.2 ⟨hfront, by decide⟩
  exact unescaped_append.2 ⟨unescaped_append.2 ⟨hmiddle, htopics⟩, by decide⟩

/-- The page on every topic, and the main page for one that does not exist. -/
theorem tints_page {topic : Option String} (h : ∀ t ∈ topic, Unescaped t) :
    Tints (page topic true) (page topic false) := by
  cases topic with
  | none => exact tints_mainPage
  | some t =>
    have htopic := tints_topicPage? t
    rw [page, page]
    generalize topicPage? t true = on, topicPage? t false = off at htopic
    cases htopic with
    | some hpage => exact hpage
    | none => exact (Tints.ofString (unescaped_unknownTopic (h t rfl))).append tints_mainPage

end Help

/-! ### The journal -/

/-- The texts of an entry that are written as they are hold no escape character. Values are not
among them: they are written as JSON. -/
structure Entry.IsUnescaped (e : Entry) : Prop where
  /-- The component -/
  component : Unescaped e.component
  /-- The message -/
  message : Unescaped e.message
  /-- The operation -/
  correlation : ∀ id ∈ e.correlation, Unescaped id
  /-- The names of the fields -/
  key : ∀ f ∈ e.fields, Unescaped f.1
  /-- The file it was written in -/
  file : ∀ site ∈ e.site, Unescaped site.file

namespace Entry

/-- What follows the level in the console form. -/
def afterLevel (e : Entry) : String :=
  " [" ++ e.component ++ "] " ++ e.message ++
    (match e.correlation with
      | some id => " [" ++ shortId id ++ "]"
      | none => "") ++
    String.join (e.fields.map fun f ↦ " " ++ f.1 ++ "=" ++ f.2.compact) ++
    (match e.site with
      | some site => " @ " ++ site.file ++ ":" ++ toString site.line
      | none => "")

theorem console_eq (useColor : Bool) (stamp : Stamp) (e : Entry) :
    e.console useColor stamp =
      stamp.clock ++ " " ++ (levelText useColor e.level ++ e.afterLevel) := by
  rw [console, afterLevel]
  cases e.correlation <;> cases e.site <;> simp only [String.append_assoc]

theorem IsUnescaped.afterLevel {e : Entry} (h : e.IsUnescaped) : Unescaped e.afterLevel := by
  have hcorrelation : Unescaped (match e.correlation with
      | some id => " [" ++ shortId id ++ "]"
      | none => "") := by
    cases hid : e.correlation with
    | none => exact (by decide : Unescaped "")
    | some id =>
      have hshort : Unescaped (shortId id) :=
        unescaped_ofList.2 fun hmem ↦ h.correlation id hid (List.mem_of_mem_take hmem)
      exact unescaped_append.2 ⟨unescaped_append.2 ⟨by decide, hshort⟩, by decide⟩
  have hfields :
      Unescaped (String.join (e.fields.map fun f ↦ " " ++ f.1 ++ "=" ++ f.2.compact)) := by
    refine unescaped_join (List.forall_mem_map.2 fun f hf ↦ ?_)
    simp only [unescaped_append]
    exact ⟨⟨⟨by decide, h.key f hf⟩, by decide⟩, f.2.unescaped_compact⟩
  have hsite : Unescaped (match e.site with
      | some site => " @ " ++ site.file ++ ":" ++ toString site.line
      | none => "") := by
    cases hsite : e.site with
    | none => exact (by decide : Unescaped "")
    | some site =>
      simp only [unescaped_append]
      exact ⟨⟨⟨by decide, h.file site hsite⟩, by decide⟩, unescaped_toString site.line⟩
  simp only [Entry.afterLevel, unescaped_append]
  exact ⟨⟨⟨⟨⟨⟨by decide, h.component⟩, by decide⟩, h.message⟩, hcorrelation⟩, hfields⟩, hsite⟩

theorem withoutColors_levelText_append (level : Level) (t : String) :
    withoutColors (levelText true level ++ t) = levelText false level ++ withoutColors t := by
  have hcodes : ∀ code ∈ [level.color.code], code.toList.all isParameter = true := by
    cases level <;> decide
  have hlevel : Unescaped (levelText false level) := by cases level <;> decide
  show withoutColors (escapeSequence [level.color.code] ++ levelText false level ++ resetSequence
    ++ t) = _
  rw [String.append_assoc, String.append_assoc, withoutColors_escapeSequence_append hcodes,
    withoutColors_append hlevel, withoutColors_resetSequence_append]

theorem withoutColors_console {e : Entry} (h : e.IsUnescaped) (nanos : Nat) :
    withoutColors (e.console true (.ofNanos nanos)) = e.console false (.ofNanos nanos) := by
  have hfront : Unescaped ((Stamp.ofNanos nanos).clock ++ " ") :=
    unescaped_append.2 ⟨unescaped_clock nanos, by decide⟩
  rw [console_eq, console_eq, withoutColors_append hfront, withoutColors_levelText_append,
    withoutColors_of_unescaped h.afterLevel]

end Entry

/-- A logger writes the same line with colors and without them, but for color sequences. -/
theorem Logger.withoutColors_line? (l : Logger) {e : Entry} (h : e.IsUnescaped) (nanos : Nat) :
    ({ l with useColor := true }.line? (.ofNanos nanos) e).map withoutColors =
      { l with useColor := false }.line? (.ofNanos nanos) e := by
  have hline : withoutColors ({ l with useColor := true }.line (.ofNanos nanos) e) =
      { l with useColor := false }.line (.ofNanos nanos) e := by
    unfold line
    cases l.format with
    | console => exact Entry.withoutColors_console h nanos
    | json => exact withoutColors_of_unescaped (Json.unescaped_compact _)
  have hwritten (useColor : Bool) : { l with useColor := useColor }.line? (.ofNanos nanos) e =
      if l.writes e.level then some ({ l with useColor := useColor }.line (.ofNanos nanos) e)
      else none := rfl
  rw [hwritten, hwritten]
  split
  · exact congrArg some hline
  · rfl

/-! ### Everything that is printed -/

/-- **Color is only decoration.** Take the color sequences out of what is printed in color, and
what is printed without color is left, in particular with the same padding. This holds of all that
a formatter for terminals shows, whatever its scheme and its layout; of faults and their reports; of
notices; of the lines of the journal; and of the pages of help. Only texts that come from outside
have to be free of the escape character. -/
theorem color_only_decorates :
    (∀ (o : Formatting) (scheme : Scheme),
      let on := Formatter.colored { o with useColor := true } scheme
      let off := Formatter.colored { o with useColor := false } scheme
      (∀ title, Unescaped title → Decorates (on.header title) (off.header title)) ∧
      (∀ r : Report, Unescaped r.input → Unescaped r.output →
        Decorates (on.summary r) (off.summary r)) ∧
      ∀ message, Unescaped message →
        Decorates (on.error message) (off.error message) ∧
        Decorates (on.warning message) (off.warning message) ∧
        Decorates (on.success message) (off.success message)) ∧
    (∀ f : Fault, Unescaped f.message →
      Decorates (f.console true) (f.console false) ∧
      ∀ verbose, Decorates (f.report true verbose) (f.report false verbose)) ∧
    (∀ n : Notice, Unescaped n.message → Decorates (n.render true) (n.render false)) ∧
    (∀ (l : Logger) (e : Entry) (nanos : Nat), e.IsUnescaped →
      ({ l with useColor := true }.line? (.ofNanos nanos) e).map withoutColors =
        { l with useColor := false }.line? (.ofNanos nanos) e) ∧
    Decorates (Help.mainPage true) (Help.mainPage false) ∧
    (∀ topic, Option.Rel Decorates (Help.topicPage? topic true) (Help.topicPage? topic false)) ∧
    ∀ topic : Option String, (∀ t ∈ topic, Unescaped t) →
      Decorates (Help.page topic true) (Help.page topic false) := by
  refine ⟨fun o scheme ↦ ⟨fun title htitle ↦ ?_, fun r hinput houtput ↦ ?_, fun message h ↦ ?_⟩,
    fun f hf ↦ ?_, fun n hn ↦ ?_, fun l e nanos he ↦ ?_, ?_, fun topic ↦ ?_, fun topic h ↦ ?_⟩
  · exact (Colored.tints_header o scheme htitle).decorates
  · exact (Colored.tints_summary o scheme hinput houtput).decorates
  · exact ⟨(Colored.tints_marked o _ (by decide) h).decorates,
      (Colored.tints_marked o _ (by decide) h).decorates,
      (Colored.tints_marked o _ (by decide) h).decorates⟩
  · exact ⟨(Fault.tints_console hf).decorates, fun v ↦ (Fault.tints_report hf v).decorates⟩
  · exact (Notice.tints_render hn).decorates
  · exact l.withoutColors_line? he nanos
  · exact Help.tints_mainPage.decorates
  · have htopic := Help.tints_topicPage? topic
    generalize Help.topicPage? topic true = on, Help.topicPage? topic false = off at htopic
    cases htopic with
    | some hpage => exact .some hpage.decorates
    | none => exact .none
  · exact (Help.tints_page h).decorates

/-- The report of a fault, which is printed in color, and the entry about it. -/
theorem color_decorates_fault_and_entry :
    let f : Fault := ⟨.io, "Failed to open 'a.log'"⟩
    let l : Logger := .standard "ERR"
    let e := (l.entry .error f.text).withFault f
    Unescaped f.message ∧ e.IsUnescaped ∧
      Decorates (f.report true true) (f.report false true) ∧
      (f.console true).render true ≠ (f.console false).render true ∧
      ({ l with useColor := true }.line? (.ofNanos 0) e).map withoutColors =
        { l with useColor := false }.line? (.ofNanos 0) e := by
  intro f l e
  have hf : Unescaped f.message := by decide
  have he : e.IsUnescaped := ⟨by decide, by decide, nofun, by decide, nofun⟩
  obtain ⟨-, hfault, -, hlog, -⟩ := color_only_decorates
  exact ⟨hf, he, (hfault f hf).2 true, by decide, hlog l e 0 he⟩

end LatencyCurve
