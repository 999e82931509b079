import LatencyCurve.Proofs.ExitCode
import LatencyCurve.Proofs.Forms

/-!
# Sizes of images

A width or height is checked twice: when it is read on the command line, and when the configuration
is checked. Both checks let the same sizes pass. So what has been read is never refused for its size,
and every size that passes can be given on the command line, in decimal digits.

That a size on the command line is still the one that was read rests on an invariant of the reading:
whatever holds of the options of an empty command line, and is kept when the value of an argument is
set, holds of the options that any arguments come to (`CommandLine.of_parse`).
-/

namespace LatencyCurve

/-! ### Sizes as texts -/

/-- A text states a size: it is a run of ASCII digits, with any number of zeros in front, and their
value is from 100 to 10000. -/
structure StatesSize (s : String) (n : Nat) : Prop where
  /-- There are digits, and nothing else. -/
  run : IsRun Char.isDigit s.toList
  /-- They have this value. -/
  value_eq : decimalValue s.toList = n
  /-- It is not too small. -/
  le : 100 ≤ n
  /-- It is not too large. -/
  ge : n ≤ 10000

/-- **A size is read exactly if a text states it.** -/
theorem readSize_eq_ok_iff {s : String} {n : Nat} : readSize s = .ok n ↔ StatesSize s n := by
  have hread (m : Nat) : readDecimal UInt32.size s.toList = some m ↔ _ := readDecimal_eq_some_iff
  rw [readSize]
  cases h : readDecimal UInt32.size s.toList with
  | none =>
    -- A size that is stated is below the limit, so it would have been read.
    constructor
    · nofun
    · intro hn
      have hlt : n < UInt32.size := Nat.lt_of_le_of_lt hn.ge (by decide)
      rw [(hread n).2 ⟨hn.run, hn.value_eq, hlt⟩] at h
      cases h
  | some m =>
    have hm := (hread m).1 h
    dsimp only
    split
    next hlow =>
      constructor
      · nofun
      · rintro ⟨-, rfl, hle, -⟩
        rw [hm.value_eq] at hle
        exact absurd hlow (Nat.not_lt.2 hle)
    split
    next hhigh =>
      constructor
      · nofun
      · rintro ⟨-, rfl, -, hge⟩
        rw [hm.value_eq] at hge
        exact absurd hhigh (Nat.not_lt.2 hge)
    next hlow hhigh =>
      rw [Except.ok.injEq]
      constructor
      · rintro rfl
        exact ⟨hm.run, hm.value_eq, Nat.not_lt.1 hlow, Nat.not_lt.1 hhigh⟩
      · rintro ⟨-, rfl, -, -⟩
        exact hm.value_eq.symm

theorem Config.sizeAllowed_iff {n : Nat} : sizeAllowed n = true ↔ 100 ≤ n ∧ n ≤ 10000 := by
  rw [sizeAllowed, Bool.and_eq_true, decide_eq_true_eq, decide_eq_true_eq]
  rfl

/-- A size that is read passes the check. -/
theorem StatesSize.allowed {s : String} {n : Nat} (h : StatesSize s n) :
    Config.sizeAllowed n = true :=
  Config.sizeAllowed_iff.2 ⟨h.le, h.ge⟩

/-- A size that passes the check is stated by its decimal digits. -/
theorem statesSize_toString_iff {n : Nat} :
    StatesSize (toString n) n ↔ Config.sizeAllowed n = true := by
  rw [Config.sizeAllowed_iff]
  constructor
  · intro h
    exact ⟨h.le, h.ge⟩
  · rintro ⟨hle, hge⟩
    have htext : (toString n).toList = Nat.toDigits 10 n := Nat.toList_repr
    exact ⟨htext ▸ isRun_toDigits n, htext ▸ decimalValue_toDigits n, hle, hge⟩

/-! ### Options -/

namespace CommandLine

section Invariant

variable {P : Options → Prop}

/-- If there are options, something holds of them. -/
def Holds (P : Options → Prop) : Except Usage State → Prop
  | .ok s => P s.options
  | .error _ => True

theorem Holds.bind {x : Except Usage State} {f : State → Except Usage State} (hx : Holds P x)
    (hf : ∀ s, P s.options → Holds P (f s)) : Holds P (x.bind f) := by
  cases x with
  | error => trivial
  | ok s => exact hf s hx

theorem Holds.map {x : Except Usage State} {f : State → State} (hx : Holds P x)
    (hf : ∀ s, (f s).options = s.options) : Holds P (x.map f) := by
  cases x with
  | error => trivial
  | ok s =>
    show P (f s).options
    rw [hf]
    exact hx

variable (hset : ∀ o a value o', setValue o a value = .ok o' → P o → P o')
include hset

/-! What the value of an argument keeps, each step of the reading keeps. -/

theorem holds_store {s : State} (hs : P s.options) (a : Argument) (value : String) :
    Holds P (store s a value) := by
  rw [store]
  split
  · trivial
  · cases h : setValue s.options a value with
    | error => trivial
    | ok o => exact hset _ _ _ _ h hs

theorem holds_settle {s : State} (hs : P s.options) : Holds P (settle s) := by
  rw [settle]
  split
  · exact hs
  · trivial
  · exact holds_store hset (s := { s with pending := none }) hs _ _

theorem holds_take {s : State} (hs : P s.options) (a : Argument) (value : String) :
    Holds P (take s a value) :=
  (holds_settle hset hs).bind fun _ hs ↦ holds_store hset hs a value

theorem holds_takeValue {s : State} (hs : P s.options) (a : Argument) (value? : Option String) :
    Holds P (takeValue s a value?) := by
  cases value? with
  | some value => exact holds_take hset hs a value
  | none => exact (holds_settle hset hs).map fun _ ↦ rfl

theorem holds_readInput {s : State} (hs : P s.options) (arg : String) :
    Holds P (readInput s arg) := by
  rw [readInput]
  split
  · trivial
  · exact (holds_settle hset hs).map fun _ ↦ rfl

theorem holds_readLong {s : State} (hs : P s.options) (cs : List Char) :
    Holds P (readLong s cs) := by
  rw [readLong]
  dsimp only
  split
  · trivial
  · split
    · exact holds_takeValue hset hs _ _
    · split
      · trivial
      · exact holds_take hset hs _ _

theorem holds_readShort {s : State} (hs : P s.options) (cs : List Char) :
    Holds P (readShort s cs) := by
  induction cs generalizing s with
  | nil => exact hs
  | cons c cs ih =>
    rw [readShort]
    split
    · trivial
    · split
      · exact holds_takeValue hset hs _ _
      · exact (holds_take hset hs _ _).bind fun _ hs ↦ ih hs

theorem holds_readPlain {s : State} (hs : P s.options) (arg : String) :
    Holds P (readPlain s arg) := by
  rw [readPlain]
  split
  · exact hs
  · exact holds_readInput hset hs arg

theorem holds_readInputs {s : State} (hs : P s.options) (args : List String) :
    Holds P (readInputs s args) := by
  induction args generalizing s with
  | nil => exact hs
  | cons arg args ih => exact (holds_readInput hset hs arg).bind fun _ hs ↦ ih hs

theorem holds_readAll {s : State} (hs : P s.options) (args : List String) :
    Holds P (readAll s args) := by
  induction args generalizing s with
  | nil => exact hs
  | cons arg args ih =>
    rw [readAll]
    split
    · exact holds_readInputs hset hs args
    · exact (holds_readLong hset hs _).bind fun _ hs ↦ ih hs
    · exact (holds_readShort hset hs _).bind fun _ hs ↦ ih hs
    · exact (holds_readPlain hset hs arg).bind fun _ hs ↦ ih hs

/-- **What no value changes, no command line changes**: what holds of the options of an empty command
line, and is kept when the value of an argument is set, holds of whatever a command line says. -/
theorem of_parse (hnone : P .none) {args : List String} {o : Options} (h : parse args = .ok o) :
    P o := by
  have hall : Holds P ((readAll start args).bind settle) :=
    (holds_readAll hset hnone args).bind fun _ hs ↦ holds_settle hset hs
  rw [parse] at h
  cases hread : (readAll start args).bind settle with
  | error e =>
    rw [hread] at h
    cases h
  | ok s =>
    rw [hread] at h hall
    cases h
    exact hall

end Invariant

/-- Width and height are sizes that pass the check. -/
def SizesAllowed (o : Options) : Prop :=
  Config.sizeAllowed o.width = true ∧ Config.sizeAllowed o.height = true

/-- Only a size that has been read is set. -/
theorem sizesAllowed_setValue {o o' : Options} {a : Argument} {value : String}
    (h : setValue o a value = .ok o') (ho : SizesAllowed o) : SizesAllowed o' := by
  have hmap {α : Type} {x : Except Usage α} {set : α → Options} (hx : x.map set = .ok o') :
      ∃ v, x = .ok v ∧ set v = o' := by
    cases x with
    | error => cases hx
    | ok v => exact ⟨v, rfl, Except.ok.inj hx⟩
  have hsize {n : Nat} (hn : sizeValue a value = .ok n) : Config.sizeAllowed n = true := by
    rw [sizeValue] at hn
    cases hread : readSize value with
    | error =>
      rw [hread] at hn
      cases hn
    | ok m =>
      rw [hread] at hn
      cases hn
      exact (readSize_eq_ok_iff.1 hread).allowed
  cases a with
  | width =>
    obtain ⟨n, hn, rfl⟩ := hmap h
    exact ⟨hsize hn, ho.2⟩
  | height =>
    obtain ⟨n, hn, rfl⟩ := hmap h
    exact ⟨ho.1, hsize hn⟩
  | input | output | font | format =>
    obtain ⟨v, -, rfl⟩ := hmap h
    exact ho
  | title | helpTopic | summary | color | noColor | verbose | debug =>
    cases h
    exact ho
  | help | version => cases h

/-- **The sizes that a command line says pass the check.** -/
theorem sizesAllowed_of_parse {args : List String} {o : Options} (h : parse args = .ok o) :
    SizesAllowed o :=
  of_parse (fun _ _ _ _ h ho ↦ sizesAllowed_setValue h ho) ⟨by decide, by decide⟩ h

end CommandLine

/-! ### Faults of a configuration -/

namespace Config

/-- The fault of a size that does not pass. -/
def IsSizeFault (f : Fault) : Prop :=
  ∃ what n, f = sizeFault what n

/-- A configuration whose sizes pass has no such fault. -/
theorem not_isSizeFault {c : Config} {d : Disk} {f : Fault} (hwidth : sizeAllowed c.width = true)
    (hheight : sizeAllowed c.height = true) (h : c.validate d = .error f) : ¬ IsSizeFault f := by
  rintro ⟨what, n, rfl⟩
  have hfault : c.fault? d = some (sizeFault what n) := by
    rw [validate] at h
    cases hf : c.fault? d with
    | none =>
      rw [hf] at h
      cases h
    | some f =>
      rw [hf] at h
      rw [Except.error.inj h]
  have hkind : (sizeFault what n).kind = .validation := rfl
  have hmessage : (sizeFault what n).message.toList.head? = some 'I' := by
    simp [sizeFault, String.toList_append]
  rw [fault?, hwidth, hheight] at hfault
  simp only [Bool.not_true, Bool.false_eq_true, if_false] at hfault
  generalize sizeFault what n = f at hfault hkind hmessage
  split at hfault
  · cases hfault
    cases hkind
  split at hfault
  · cases hfault
    exact absurd hmessage (by decide)
  · rw [outputFault?, Option.bind_eq_some_iff] at hfault
    obtain ⟨output, -, hfault⟩ := hfault
    split at hfault
    · cases hfault
      cases hkind
    split at hfault <;> cases hfault
    cases hkind

end Config

namespace Options

variable {o : Options} {env : Environment} {d : Disk}

/-- The sizes of a configuration are those of the options it comes from. -/
theorem sizes_of_toConfig {c : Config} (h : o.toConfig env = .ok c) :
    c.width = o.width ∧ c.height = o.height := by
  rw [toConfig] at h
  split at h
  · cases h
  split at h <;> cases h
  exact ⟨rfl, rfl⟩

/-- Options that come from a command line are never refused for a size. -/
theorem not_isSizeFault {args : List String} {f : Fault}
    (hparse : CommandLine.parse args = .ok o) (h : o.loadConfig env d = .error f) :
    ¬ Config.IsSizeFault f := by
  obtain ⟨hwidth, hheight⟩ := CommandLine.sizesAllowed_of_parse hparse
  rcases loadConfig_eq_error_iff.1 h with hconfig | ⟨c, hconfig, hvalid⟩
  · -- Options that do not go together have a fault of another kind.
    rintro ⟨what, n, rfl⟩
    rw [toConfig] at hconfig
    split at hconfig
    · cases hconfig
    split at hconfig <;> cases hconfig
  · obtain ⟨hw, hh⟩ := sizes_of_toConfig hconfig
    exact Config.not_isSizeFault (hw ▸ hwidth) (hh ▸ hheight) hvalid

end Options

/-! ### Both checks -/

/-- **One range of sizes.** On the command line a text is read as a size exactly if it is a run of
ASCII digits whose value is from 100 to 10000, and any other text is refused. A configuration is
never refused for sizes that have been read, and the sizes of a configuration that passes can be
given in decimal digits. So whatever arguments are understood, they are not refused for a size
afterwards; and the configuration that they come to passes when it is checked again. -/
theorem sizes_agree :
    (∀ s n, readSize s = .ok n ↔ StatesSize s n) ∧
      (∀ s, (∃ reason, readSize s = .error reason) ↔ ∀ n, ¬ StatesSize s n) ∧
      (∀ (c : Config) (s s' : String), readSize s = .ok c.width → readSize s' = .ok c.height →
        ∀ d f, c.validate d = .error f → ¬ Config.IsSizeFault f) ∧
      (∀ (c : Config) (d : Disk), c.validate d = .ok () →
        readSize (toString c.width) = .ok c.width ∧
          readSize (toString c.height) = .ok c.height) ∧
      (∀ args o, CommandLine.parse args = .ok o → ∀ env d f, o.loadConfig env d = .error f →
        ¬ Config.IsSizeFault f) ∧
      ∀ (o : Options) (env : Environment) (d : Disk) (c : Config), o.loadConfig env d = .ok c →
        c.validate d = .ok () := by
  refine ⟨fun s n ↦ readSize_eq_ok_iff, fun s ↦ ?_, fun c s s' hwidth hheight d f h ↦ ?_,
    fun c d h ↦ ?_, fun args o h env d f hf ↦ Options.not_isSizeFault h hf, fun o env d c h ↦ ?_⟩
  · cases h : readSize s with
    | ok n => simpa using ⟨n, readSize_eq_ok_iff.1 h⟩
    | error reason =>
      refine iff_of_true ⟨reason, rfl⟩ fun n hn ↦ ?_
      rw [readSize_eq_ok_iff.2 hn] at h
      cases h
  · exact Config.not_isSizeFault (readSize_eq_ok_iff.1 hwidth).allowed
      (readSize_eq_ok_iff.1 hheight).allowed h
  · obtain ⟨-, hwidth, hheight, -, -⟩ := Config.validate_eq_ok_iff.1 h
    exact ⟨readSize_eq_ok_iff.2 (statesSize_toString_iff.2 hwidth),
      readSize_eq_ok_iff.2 (statesSize_toString_iff.2 hheight)⟩
  · exact (Options.loadConfig_eq_ok_iff.1 h).2

/-- The least size with zeros in front and the largest one, digits that are not ASCII, and arguments
that are refused for their caption only. -/
theorem sizes_agree_at_bounds :
    let c : Config := { Config.forInput ⟨"a.log"⟩ with width := 100, height := 10000 }
    let untitled : Config := { c with title := " " }
    let args := ["a.log", "--width", "0100", "--height=10000", "--title", " "]
    (readSize "0100" = .ok 100 ∧ ∃ reason, readSize "१००" = .error reason) ∧
      (∀ f, untitled.validate Run.loneDisk = .error f → ¬ Config.IsSizeFault f) ∧
      (readSize (toString 100) = .ok 100 ∧ readSize (toString 10000) = .ok 10000) ∧
      ∃ o f, CommandLine.parse args = .ok o ∧
        (o.loadConfig ⟨[]⟩ Run.loneDisk = .error f ∧ ¬ Config.IsSizeFault f) ∧
        { o with title := none }.loadConfig ⟨[]⟩ Run.loneDisk = .ok c ∧
        c.validate Run.loneDisk = .ok () := by
  intro c untitled args
  obtain ⟨hread, hrefused, hpasses, htext, hfault, hagain⟩ := sizes_agree
  have hleast : StatesSize "0100" 100 :=
    ⟨⟨by decide, List.all_eq_true.1 (by decide)⟩, by decide, by decide, by decide⟩
  have hlargest : StatesSize "10000" 10000 :=
    ⟨⟨by decide, List.all_eq_true.1 (by decide)⟩, by decide, by decide, by decide⟩
  have hother (n : Nat) : ¬ StatesSize "१००" n := by
    intro h
    exact absurd (h.run.all '१' (by decide)) (by decide)
  let o : Options :=
    { Options.none with input := some ⟨"a.log"⟩, width := 100, height := 10000, title := some " " }
  have hparse : CommandLine.parse args = .ok o := by decide
  have huntitled : o.loadConfig ⟨[]⟩ Run.loneDisk =
      .error ⟨.validation, "Plot title cannot be empty"⟩ := by decide
  have hload : { o with title := none }.loadConfig ⟨[]⟩ Run.loneDisk = .ok c := by decide
  have hvalid : c.validate Run.loneDisk = .ok () := hagain _ _ _ _ hload
  exact ⟨⟨(hread _ _).2 hleast, (hrefused _).2 hother⟩,
    hpasses untitled _ _ ((hread _ _).2 hleast) ((hread _ _).2 hlargest) Run.loneDisk,
    htext _ _ hvalid, o, _, hparse, ⟨huntitled, hfault _ _ hparse _ _ _ huntitled⟩, hload, hvalid⟩

end LatencyCurve
