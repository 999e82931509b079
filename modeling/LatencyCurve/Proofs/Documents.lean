import LatencyCurve.Proofs.ExitCode
import LatencyCurve.Proofs.JsonText

/-!
# Documents that hold a configuration

A document names the input and may say more: what it says about a field replaces the default, and
what it does not say leaves it (`Config.ofJson?_eq_some_iff`). A configuration that is written as a
document says everything, so it is read back as it was. Arguments that name an input and nothing
else come to the same defaults as the shortest document, apart from colors, which are up to the
environment.

How a field is read is stated once, for the forms that its values have in JSON
(`Config.readField_eq_some_iff`).
-/

namespace LatencyCurve

namespace Config

/-! ### The forms of values -/

/-- The form of a path that may be missing. -/
def pathForms (p : Option Path) : List Json :=
  [pathJson p]

/-- The form of a size: an integer of 32 bits. -/
def sizeForms (n : Nat) : List Json :=
  if n < UInt32.size then [.nat n] else []

/-- The form of a text. -/
def textForms (s : String) : List Json :=
  [.str s]

/-- The form of a switch. -/
def switchForms (b : Bool) : List Json :=
  [.bool b]

/-- The forms of a format: its name, or an object that has nothing under the name. -/
def formatForms (f : SummaryFormat) : List Json :=
  [.str f.name, .obj [(f.name, .null)]]

theorem nat_mem_sizeForms {n : Nat} (h : n < UInt32.size) : .nat n ∈ sizeForms n := by
  rw [sizeForms, if_pos h]
  exact List.mem_singleton_self _

theorem optPath?_eq_some_iff {v : Json} {p : Option Path} :
    optPath? v = some p ↔ v ∈ pathForms p := by
  rw [pathForms, List.mem_singleton]
  cases v <;> rcases p with - | ⟨⟨s⟩⟩ <;> simp [optPath?, pathJson, Json.optStr]

theorem nat?_eq_some_iff {v : Json} {n : Nat} : v.nat? = some n ↔ v = .nat n := by
  rcases v with - | - | (m | m) | - | - | - | - <;> simp [Json.nat?, Json.nat]

theorem nat32?_eq_some_iff {v : Json} {n : Nat} : v.nat32? = some n ↔ v ∈ sizeForms n := by
  rw [Json.nat32?, Option.bind_eq_some_iff, sizeForms]
  constructor
  · rintro ⟨m, hm, h⟩
    split at h
    next hlt =>
      cases h
      rw [if_pos hlt, List.mem_singleton]
      exact nat?_eq_some_iff.1 hm
    next => cases h
  · intro h
    split at h
    next hlt => exact ⟨n, nat?_eq_some_iff.2 (List.mem_singleton.1 h), if_pos hlt⟩
    next => cases h

theorem str?_eq_some_iff {v : Json} {s : String} : v.str? = some s ↔ v ∈ textForms s := by
  cases v <;> simp [Json.str?, textForms]

theorem bool?_eq_some_iff {v : Json} {b : Bool} : v.bool? = some b ↔ v ∈ switchForms b := by
  cases v <;> simp [Json.bool?, switchForms]

theorem format?_eq_some_iff {v : Json} {f : SummaryFormat} :
    format? v = some f ↔ v ∈ formatForms f := by
  have hname (s : String) : SummaryFormat.ofName? s = some f ↔ s = f.name := by
    constructor
    · intro h
      rw [SummaryFormat.ofName?] at h
      split at h
      · cases h
        assumption
      split at h <;> cases h
      assumption
    · rintro rfl
      exact SummaryFormat.ofName?_name f
  rw [formatForms, List.mem_cons, List.mem_singleton]
  constructor
  · intro h
    rw [format?.eq_def] at h
    split at h
    · exact .inl (congrArg Json.str ((hname _).1 h))
    · rw [(hname _).1 h]
      exact .inr rfl
    · cases h
  · rintro (rfl | rfl)
    · exact SummaryFormat.ofName?_name f
    · exact SummaryFormat.ofName?_name f

/-! ### Fields -/

/-- What is found for a field says something about it: nothing, or a value in one of its forms. -/
def Says {α : Type} (forms : α → List Json) : Option Json → Option α → Prop :=
  Option.Rel fun v a ↦ v ∈ forms a

/-- **A field is read as its default or as what is said.** -/
theorem readField_eq_some_iff {α : Type} {read? : Json → Option α} {forms : α → List Json}
    (hread : ∀ {v a}, read? v = some a ↔ v ∈ forms a) {j : Json} {key : String} {default a : α} :
    readField j key read? default = some a ↔
      ∃ said, Says forms (j.member? key) said ∧ said.getD default = a := by
  rw [readField]
  cases j.member? key with
  | none =>
    constructor
    · rintro ⟨⟩
      exact ⟨none, .none, rfl⟩
    · rintro ⟨_, ⟨⟩, rfl⟩
      rfl
  | some v =>
    constructor
    · intro h
      exact ⟨some a, .some (hread.1 h), rfl⟩
    · rintro ⟨_, ⟨hv⟩, rfl⟩
      exact hread.2 hv

/-- What a document says about the fields that have a default. -/
structure Overlay where
  /-- The image to write, or that none is given -/
  output : Option (Option Path)
  /-- Width of the image -/
  width : Option Nat
  /-- Height of the image -/
  height : Option Nat
  /-- The caption of the chart -/
  title : Option String
  /-- The font, or that none is given -/
  font : Option (Option Path)
  /-- Whether the summary is printed -/
  showSummary : Option Bool
  /-- The format of the summary -/
  summaryFormat : Option SummaryFormat
  /-- Whether colors are used -/
  useColor : Option Bool
  /-- Whether progress is logged -/
  verbose : Option Bool
  /-- Whether everything is logged -/
  debug : Option Bool

namespace Overlay

/-- A configuration with everything replaced that is said. -/
def onto (o : Overlay) (c : Config) : Config where
  input := c.input
  output := o.output.getD c.output
  width := o.width.getD c.width
  height := o.height.getD c.height
  title := o.title.getD c.title
  font := o.font.getD c.font
  showSummary := o.showSummary.getD c.showSummary
  summaryFormat := o.summaryFormat.getD c.summaryFormat
  useColor := o.useColor.getD c.useColor
  verbose := o.verbose.getD c.verbose
  debug := o.debug.getD c.debug

/-- The members of a document say just this. Members under other keys do not matter. -/
structure SaidBy (members : List (String × Json)) (o : Overlay) : Prop where
  output : Says pathForms (members.lookup "output_path") o.output
  width : Says sizeForms (members.lookup "width") o.width
  height : Says sizeForms (members.lookup "height") o.height
  title : Says textForms (members.lookup "title") o.title
  font : Says pathForms (members.lookup "font_path") o.font
  showSummary : Says switchForms (members.lookup "show_summary") o.showSummary
  summaryFormat : Says formatForms (members.lookup "summary_format") o.summaryFormat
  useColor : Says switchForms (members.lookup "enable_color") o.useColor
  verbose : Says switchForms (members.lookup "verbose") o.verbose
  debug : Says switchForms (members.lookup "debug") o.debug

end Overlay

theorem ofJson?_congr {j j' : Json} (h : ∀ key, j.member? key = j'.member? key) :
    ofJson? j = ofJson? j' := by
  simp only [ofJson?, readField, h]

/-- **A document is read as the defaults for its input, with everything replaced that it says.** -/
theorem ofJson?_eq_some_iff {members : List (String × Json)} {c : Config} :
    ofJson? (.obj members) = some c ↔
      ∃ input o, members.lookup "input_path" = some (.str input) ∧ Overlay.SaidBy members o ∧
        o.onto (forInput ⟨input⟩) = c := by
  -- From the outside in, so that what is read later is visited once.
  simp only [ofJson?, ↓Option.bind_eq_bind, ↓Option.bind_eq_some_iff, exists_exists_and_eq_and,
    readField_eq_some_iff optPath?_eq_some_iff, readField_eq_some_iff nat32?_eq_some_iff,
    readField_eq_some_iff str?_eq_some_iff, readField_eq_some_iff bool?_eq_some_iff,
    readField_eq_some_iff format?_eq_some_iff]
  constructor
  · rintro ⟨v, hv, input, hinput, output, houtput, width, hwidth, height, hheight, title, htitle,
      font, hfont, showSummary, hshow, format, hformat, useColor, hcolor, verbose, hverbose, debug,
      hdebug, h⟩
    rw [str?_eq_some_iff, textForms, List.mem_singleton] at hinput
    subst hinput
    exact ⟨input,
      ⟨output, width, height, title, font, showSummary, format, useColor, verbose, debug⟩, hv,
      ⟨houtput, hwidth, hheight, htitle, hfont, hshow, hformat, hcolor, hverbose, hdebug⟩,
      Option.some.inj h⟩
  · rintro ⟨input, o, hinput, h, rfl⟩
    exact ⟨_, hinput, input, rfl, _, h.output, _, h.width, _, h.height, _, h.title, _, h.font, _,
      h.showSummary, _, h.summaryFormat, _, h.useColor, _, h.verbose, _, h.debug, rfl⟩

/-! ### Configurations as documents -/

/-- Everything that a configuration says. -/
def Overlay.all (c : Config) : Overlay where
  output := some c.output
  width := some c.width
  height := some c.height
  title := some c.title
  font := some c.font
  showSummary := some c.showSummary
  summaryFormat := some c.summaryFormat
  useColor := some c.useColor
  verbose := some c.verbose
  debug := some c.debug

theorem depth_toJson_le (c : Config) : c.toJson.depth ≤ 1 := by
  have hoptional (s : Option String) : (Json.optStr s).depth = 0 := by cases s <;> rfl
  have hnat (n : Nat) : (Json.nat n).depth = 0 := rfl
  rw [toJson, Json.depth_obj_le_iff]
  simp [Json.depth, pathJson, hoptional, hnat]

section Written

variable {c : Config} (hwidth : c.width < UInt32.size) (hheight : c.height < UInt32.size)
include hwidth hheight

theorem saidBy_toJson : Overlay.SaidBy c.toJson.members (.all c) where
  output := .some (List.mem_singleton_self _)
  width := .some (nat_mem_sizeForms hwidth)
  height := .some (nat_mem_sizeForms hheight)
  title := .some (List.mem_singleton_self _)
  font := .some (List.mem_singleton_self _)
  showSummary := .some (List.mem_singleton_self _)
  summaryFormat := .some List.mem_cons_self
  useColor := .some (List.mem_singleton_self _)
  verbose := .some (List.mem_singleton_self _)
  debug := .some (List.mem_singleton_self _)

theorem ofJson?_toJson : ofJson? c.toJson = some c :=
  ofJson?_eq_some_iff.2 ⟨c.input.text, .all c, rfl, saidBy_toJson hwidth hheight, rfl⟩

theorem legible_members_toJson : ∀ m ∈ c.toJson.members, m.2.Legible := by
  have hpath (p : Option Path) : (pathJson p).Legible := Json.legible_optStr _
  simp [toJson, Json.members, Json.legible_nat hwidth, Json.legible_nat hheight, hpath,
    Json.Legible.str, Json.Legible.bool]

/-- **A configuration is read back from its document**, which is as flat as can be. -/
theorem ofJson?_read?_compact : (Json.read? c.toJson.compact).bind ofJson? = some c := by
  have hkeys : (c.toJson.members.map (·.1)).Nodup := by
    simp [toJson, Json.members]
  have hdepth : (Json.obj c.toJson.members).depth ≤ Json.depthLimit :=
    (depth_toJson_le c).trans (by decide)
  have hread := Json.bind_read?_compact_obj ofJson?_congr hkeys
    (legible_members_toJson hwidth hheight)
  rw [if_pos hdepth] at hread
  exact hread.trans (ofJson?_toJson hwidth hheight)

end Written

end Config

/-! ### Arguments that name an input only -/

namespace CommandLine

/-- The arguments give an input that is not empty, and nothing else. Behind `--` it may begin with a
dash. -/
def NamesInput (x : String) (args : List String) : Prop :=
  x ≠ "" ∧ (args = ["--", x] ∨
    (x.toList.head? ≠ some '-' ∨ x = "-") ∧ (args = [x] ∨ args = [x, "--"]))

/-- An argument that is no option is read as one. -/
theorem readAll_plain {x : String} (hx : x.toList.head? ≠ some '-' ∨ x = "-") (s : State)
    (args : List String) : readAll s (x :: args) = (readPlain s x).bind (readAll · args) := by
  have hdashes {c : Char} {cs : List Char} (h : x.toList = '-' :: c :: cs) : False := by
    rcases hx with hx | rfl
    · rw [h] at hx
      exact hx rfl
    · cases h
  rw [readAll]
  split
  next h => exact (hdashes h).elim
  next h => exact (hdashes h).elim
  next h => exact (hdashes h).elim
  next => rfl

theorem parse_of_namesInput {x : String} {args : List String} (h : NamesInput x args) :
    parse args = .ok { Options.none with input := some ⟨x⟩ } := by
  obtain ⟨hne, h⟩ := h
  have hvalue : x.isEmpty = false := by simpa using hne
  have hset : setValue .none .input x = .ok { Options.none with input := some ⟨x⟩ } := by
    rw [setValue, readPath, hvalue]
    rfl
  have hsettle : (settle ⟨.none, [], some (.input, some x), true⟩).map (·.options) =
      .ok { Options.none with input := some ⟨x⟩ } := by
    simp [settle, store, hset, Except.map]
  rw [parse]
  rcases h with rfl | ⟨hx, rfl | rfl⟩
  · exact hsettle
  · rw [readAll_plain hx]
    exact hsettle
  · rw [readAll_plain hx]
    exact hsettle

end CommandLine

theorem Options.loadConfig_of_input {x : String} (h : x ≠ "") (env : Environment) (d : Disk) :
    { Options.none with input := some ⟨x⟩ }.loadConfig env d =
      .ok { Config.forInput ⟨x⟩ with useColor := env.allowsColor } := by
  have hinput : Path.isEmpty ⟨x⟩ = false := by simpa [Path.isEmpty] using h
  have hwidth : Config.sizeAllowed Config.standardWidth = true := by decide
  have hheight : Config.sizeAllowed Config.standardHeight = true := by decide
  have htitle : Config.standardTitle.toList.all isBlank = false := by decide
  exact loadConfig_eq_ok_iff.2
    ⟨rfl, Config.validate_eq_ok_iff.2 ⟨hinput, hwidth, hheight, htitle, rfl⟩⟩

/-! ### The defaults -/

/-- **One set of defaults.** A document is read exactly if it names an input and gives well-typed
values for whatever other fields it mentions; what it comes to is the configuration for the input,
with just those fields replaced. Every configuration is read back from its document. And arguments
that name an input only come to the configuration for it, with colors if the environment allows
them. -/
theorem defaults_agree :
    (∀ members c, Config.ofJson? (.obj members) = some c ↔
      ∃ input o, members.lookup "input_path" = some (.str input) ∧
        Config.Overlay.SaidBy members o ∧ o.onto (Config.forInput ⟨input⟩) = c) ∧
      (∀ c : Config, c.width < UInt32.size → c.height < UInt32.size →
        Config.ofJson? c.toJson = some c ∧
          (Json.read? c.toJson.compact).bind Config.ofJson? = some c) ∧
      ∀ x args, CommandLine.NamesInput x args → ∀ env d, ∃ o, CommandLine.parse args = .ok o ∧
        o.loadConfig env d = .ok { Config.forInput ⟨x⟩ with useColor := env.allowsColor } := by
  refine ⟨fun members c ↦ Config.ofJson?_eq_some_iff, fun c hwidth hheight ↦ ?_,
    fun x args h env d ↦ ?_⟩
  · exact ⟨Config.ofJson?_toJson hwidth hheight, Config.ofJson?_read?_compact hwidth hheight⟩
  · exact ⟨_, CommandLine.parse_of_namesInput h, Options.loadConfig_of_input h.1 env d⟩

/-- A document with a field that nobody asks for, an explicit default and a format as an object; a
configuration that has no default; and an input that looks like an option. -/
theorem defaults_agree_for_partial_document :
    Config.ofJson? (.obj [("debug?", .arr []), ("input_path", .str "a.log"), ("width", .nat 800),
        ("font_path", .null), ("summary_format", .obj [("json", .null)])]) =
      some { Config.forInput ⟨"a.log"⟩ with width := 800, summaryFormat := .json } ∧
    (Json.read? (Config.toJson ⟨⟨"a\n.log"⟩, some ⟨"b.png"⟩, 1, 0xFFFFFFFF, "\"é\"", some ⟨""⟩, true,
        .json, false, true, true⟩).compact).bind Config.ofJson? =
      some ⟨⟨"a\n.log"⟩, some ⟨"b.png"⟩, 1, 0xFFFFFFFF, "\"é\"", some ⟨""⟩, true, .json, false, true,
        true⟩ ∧
    ∃ o, CommandLine.parse ["--", "-x"] = .ok o ∧
      o.loadConfig ⟨[("NO_COLOR", "1")]⟩ Run.loneDisk =
        .ok { Config.forInput ⟨"-x"⟩ with useColor := false } := by
  obtain ⟨hread, hagain, hargs⟩ := defaults_agree
  refine ⟨?_, (hagain _ (by decide) (by decide)).2,
    hargs "-x" _ ⟨by decide, .inl rfl⟩ ⟨[("NO_COLOR", "1")]⟩ Run.loneDisk⟩
  have hwidth : Json.nat 800 ∈ Config.sizeForms 800 := Config.nat_mem_sizeForms (by decide)
  have hformat : Json.obj [("json", .null)] ∈ Config.formatForms .json := by
    simp [Config.formatForms, SummaryFormat.name]
  exact (hread _ _).2 ⟨"a.log",
    { output := none, width := some 800, height := none, title := none, font := some none
      showSummary := none, summaryFormat := some .json, useColor := none, verbose := none
      debug := none }, rfl,
    ⟨.none, .some hwidth, .none, .none, .some (List.mem_singleton_self _), .none, .some hformat,
      .none, .none, .none⟩, rfl⟩

end LatencyCurve
