import LatencyCurve.Text.Utf8
import Mathlib.Data.List.Induction

/-!
# Decoding character by character

A character of one byte takes the decoder back to where it started, whatever stands before it: it
fits no character that has been begun, and it stands for itself. So bytes may be cut at such a
character and decoded piece by piece (`decode_append_cons`); behind a line feed, in particular
(`decode_append`). What is ill formed in one line is decoded within that line.

## What this rests on

* **What was read before does not matter.** The characters read so far are only added to
  (`foldl_step_after`), so the state of the decoder is what is owed to the character begun last.
* **The bytes of a character that has been begun are known** (`Begun`), and when nothing is owed to
  it any more they are its encoding (`Begun.encode`). So a step can be told by what it does with the
  bytes (`exists_step_eq`): those of which no replacement is read are encoded by what is read, and a
  character that is completed has the byte at the end of its encoding.

From the second it follows that a character of one byte is read of this byte and of no others
(`mem_decode_iff`), and that bytes of which no replacement is read are the encoding of what is read
(`encode_decode`).
-/

namespace LatencyCurve.Utf8

/-- The bytes that a text is encoded as. -/
def encode (text : List Char) : List UInt8 :=
  text.flatMap String.utf8EncodeChar

@[simp] theorem encode_nil : encode [] = [] := rfl

theorem encode_cons (c : Char) (text : List Char) :
    encode (c :: text) = String.utf8EncodeChar c ++ encode text :=
  List.flatMap_cons

theorem encode_append (text text' : List Char) :
    encode (text ++ text') = encode text ++ encode text' :=
  List.flatMap_append

/-- The byte that ends a line. -/
def lineFeed : UInt8 := 0x0A

/-- The byte that belongs to a line end if it stands right before the line feed. -/
def carriageReturn : UInt8 := 0x0D

/-! ### What was read before -/

/-- A state that is reached when some characters had been read before. -/
def State.after (s : State) (read : List Char) : State :=
  ⟨s.read ++ read, s.pending⟩

theorem begin_after (read earlier : List Char) (b : Nat) :
    begin (read ++ earlier) b = (begin read b).after earlier := by
  rw [begin, begin]
  rcases firstByte b with _ | c | p <;> rfl

theorem step_after (s : State) (earlier : List Char) (byte : UInt8) :
    step (s.after earlier) byte = (step s byte).after earlier := by
  rcases s with ⟨read, _ | ⟨more, code, low, high⟩⟩
  · exact begin_after read earlier byte.toNat
  · simp only [step, State.after]
    split
    · cases more <;> rfl
    · exact begin_after (replacement :: read) earlier byte.toNat

/-- **What was read before stays where it is** while any further bytes are read. -/
theorem foldl_step_after (s : State) (earlier : List Char) (bytes : List UInt8) :
    bytes.foldl step (s.after earlier) = (bytes.foldl step s).after earlier := by
  induction bytes generalizing s with
  | nil => rfl
  | cons byte bytes ih => rw [List.foldl_cons, List.foldl_cons, step_after, ih]

theorem State.finish_after (s : State) (earlier : List Char) :
    (s.after earlier).finish = earlier.reverse ++ s.finish := by
  rcases s with ⟨read, _ | p⟩ <;> simp [after, finish]

/-! ### Characters that have been begun -/

/-- The bytes read of a character that has been begun, and what is owed to it. -/
inductive Begun : List UInt8 → Pending → Prop where
  /-- The first byte has been read. -/
  | first {byte : UInt8} {p : Pending} (h : firstByte byte.toNat = some (.inr p)) : Begun [byte] p
  /-- One byte more has been read, and it is not the last. -/
  | next {part : List UInt8} {p : Pending} {byte : UInt8} {more : Nat} (h : Begun part p)
      (hmore : p.more = more + 1) (hlow : p.low ≤ byte.toNat) (hhigh : byte.toNat ≤ p.high) :
      Begun (part ++ [byte]) ⟨more, p.code * 64 + (byte.toNat - 0x80), 0x80, 0xBF⟩

theorem firstByte_eq_inl {b : Nat} {c : Char} (h : firstByte b = some (.inl c)) :
    b < 0x80 ∧ c = Char.ofNat b := by
  rw [firstByte] at h
  split at h
  next hb =>
    cases h
    exact ⟨hb, rfl⟩
  next => split_ifs at h <;> cases h

/-- What a first byte of several says about the character. -/
theorem firstByte_eq_inr_iff {b : Nat} {p : Pending} :
    firstByte b = some (.inr p) ↔
      ((0xC2 ≤ b ∧ b ≤ 0xDF) ∧ p = ⟨0, b - 0xC0, 0x80, 0xBF⟩) ∨
        ((0xE0 ≤ b ∧ b ≤ 0xEF) ∧ p = ⟨1, b - 0xE0, if b = 0xE0 then 0xA0 else 0x80,
          if b = 0xED then 0x9F else 0xBF⟩) ∨
        ((0xF0 ≤ b ∧ b ≤ 0xF4) ∧ p = ⟨2, b - 0xF0, if b = 0xF0 then 0x90 else 0x80,
          if b = 0xF4 then 0x8F else 0xBF⟩) := by
  simp only [firstByte, Bool.and_eq_true, decide_eq_true_eq]
  constructor
  · intro h
    split at h
    · cases h
    split at h
    next hb =>
      cases h
      exact .inl ⟨hb, rfl⟩
    split at h
    next hb =>
      cases h
      exact .inr (.inl ⟨hb, rfl⟩)
    split at h
    next hb =>
      cases h
      exact .inr (.inr ⟨hb, rfl⟩)
    · cases h
  · rintro (⟨hb, rfl⟩ | ⟨hb, rfl⟩ | ⟨hb, rfl⟩)
    · rw [if_neg (by omega), if_pos hb]
    · rw [if_neg (by omega), if_neg (by omega), if_pos hb]
    · rw [if_neg (by omega), if_neg (by omega), if_neg (by omega), if_pos hb]

/-- The next byte of a character that has been begun is not ASCII. -/
theorem Begun.low_le {part : List UInt8} {p : Pending} (h : Begun part p) : 0x80 ≤ p.low := by
  cases h with
  | first h =>
    rcases firstByte_eq_inr_iff.1 h with ⟨-, rfl⟩ | ⟨-, rfl⟩ | ⟨-, rfl⟩
    · exact Nat.le_refl _
    · dsimp only
      split <;> omega
    · dsimp only
      split <;> omega
  | next => exact Nat.le_refl _

/-- The encoding of a character, given its number. -/
theorem utf8EncodeChar_ofNat {n : Nat} (h : n.isValidChar) :
    String.utf8EncodeChar (Char.ofNat n) =
      if n ≤ 0x7F then [UInt8.ofNat n]
      else if n ≤ 0x7FF then [UInt8.ofNat (n / 64 % 32 + 0xC0), UInt8.ofNat (n % 64 + 0x80)]
      else if n ≤ 0xFFFF then [UInt8.ofNat (n / 4096 % 16 + 0xE0),
        UInt8.ofNat (n / 64 % 64 + 0x80), UInt8.ofNat (n % 64 + 0x80)]
      else [UInt8.ofNat (n / 262144 % 8 + 0xF0), UInt8.ofNat (n / 4096 % 64 + 0x80),
        UInt8.ofNat (n / 64 % 64 + 0x80), UInt8.ofNat (n % 64 + 0x80)] := by
  rw [Char.ofNat, dif_pos h]
  rfl

theorem ofNat_eq_of_eq_toNat {n : Nat} (byte : UInt8) (h : n = byte.toNat) :
    UInt8.ofNat n = byte := by
  rw [h, UInt8.ofNat_toNat]

section Encoding

variable {b₁ b₂ b₃ b₄ : UInt8}

/-- A character of two bytes. -/
theorem utf8EncodeChar_of_two (h₁ : 0xC2 ≤ b₁.toNat ∧ b₁.toNat ≤ 0xDF)
    (h₂ : 0x80 ≤ b₂.toNat ∧ b₂.toNat ≤ 0xBF) :
    String.utf8EncodeChar (Char.ofNat ((b₁.toNat - 0xC0) * 64 + (b₂.toNat - 0x80))) = [b₁, b₂] := by
  rw [utf8EncodeChar_ofNat (.inl (by omega)), if_neg (by omega), if_pos (by omega),
    ofNat_eq_of_eq_toNat b₁ (by omega), ofNat_eq_of_eq_toNat b₂ (by omega)]

/-- A character of three bytes: what is encoded shorter has no such encoding, and surrogates have
none. -/
theorem utf8EncodeChar_of_three (h₁ : 0xE0 ≤ b₁.toNat ∧ b₁.toNat ≤ 0xEF)
    (h₂ : (if b₁.toNat = 0xE0 then 0xA0 else 0x80) ≤ b₂.toNat ∧
      b₂.toNat ≤ if b₁.toNat = 0xED then 0x9F else 0xBF)
    (h₃ : 0x80 ≤ b₃.toNat ∧ b₃.toNat ≤ 0xBF) :
    String.utf8EncodeChar (Char.ofNat
      (((b₁.toNat - 0xE0) * 64 + (b₂.toNat - 0x80)) * 64 + (b₃.toNat - 0x80))) = [b₁, b₂, b₃] := by
  have hbounds : 0x80 ≤ b₂.toNat ∧ b₂.toNat ≤ 0xBF ∧ (b₁.toNat = 0xE0 → 0xA0 ≤ b₂.toNat) ∧
      (b₁.toNat = 0xED → b₂.toNat ≤ 0x9F) := by
    obtain ⟨hlow, hhigh⟩ := h₂
    split at hlow <;> split at hhigh <;> omega
  clear h₂
  have hvalid : Nat.isValidChar
      (((b₁.toNat - 0xE0) * 64 + (b₂.toNat - 0x80)) * 64 + (b₃.toNat - 0x80)) := by
    rw [Nat.isValidChar]
    omega
  rw [utf8EncodeChar_ofNat hvalid, if_neg (by omega), if_neg (by omega), if_pos (by omega),
    ofNat_eq_of_eq_toNat b₁ (by omega), ofNat_eq_of_eq_toNat b₂ (by omega),
    ofNat_eq_of_eq_toNat b₃ (by omega)]

/-- A character of four bytes: what is encoded shorter has no such encoding, and there are no
characters behind the last. -/
theorem utf8EncodeChar_of_four (h₁ : 0xF0 ≤ b₁.toNat ∧ b₁.toNat ≤ 0xF4)
    (h₂ : (if b₁.toNat = 0xF0 then 0x90 else 0x80) ≤ b₂.toNat ∧
      b₂.toNat ≤ if b₁.toNat = 0xF4 then 0x8F else 0xBF)
    (h₃ : 0x80 ≤ b₃.toNat ∧ b₃.toNat ≤ 0xBF) (h₄ : 0x80 ≤ b₄.toNat ∧ b₄.toNat ≤ 0xBF) :
    String.utf8EncodeChar (Char.ofNat
      ((((b₁.toNat - 0xF0) * 64 + (b₂.toNat - 0x80)) * 64 + (b₃.toNat - 0x80)) * 64 +
        (b₄.toNat - 0x80))) = [b₁, b₂, b₃, b₄] := by
  have hbounds : 0x80 ≤ b₂.toNat ∧ b₂.toNat ≤ 0xBF ∧ (b₁.toNat = 0xF0 → 0x90 ≤ b₂.toNat) ∧
      (b₁.toNat = 0xF4 → b₂.toNat ≤ 0x8F) := by
    obtain ⟨hlow, hhigh⟩ := h₂
    split at hlow <;> split at hhigh <;> omega
  clear h₂
  rw [utf8EncodeChar_ofNat (.inr (by omega)), if_neg (by omega), if_neg (by omega),
    if_neg (by omega), ofNat_eq_of_eq_toNat b₁ (by omega),
    ofNat_eq_of_eq_toNat b₂ (by omega), ofNat_eq_of_eq_toNat b₃ (by omega),
    ofNat_eq_of_eq_toNat b₄ (by omega)]

end Encoding

/-- A character has four bytes at most. -/
theorem Begun.more_add_length_le {part : List UInt8} {p : Pending} (h : Begun part p) :
    0 < part.length ∧ p.more + part.length ≤ 3 := by
  induction h with
  | first h => rcases firstByte_eq_inr_iff.1 h with ⟨-, rfl⟩ | ⟨-, rfl⟩ | ⟨-, rfl⟩ <;> simp
  | next h hmore hlow hhigh ih =>
    rw [List.length_append, List.length_singleton]
    dsimp only
    omega

/-- **The bytes of a character are its encoding**, once the last of them is read. -/
theorem Begun.encode {part : List UInt8} {p : Pending} (h : Begun part p) (hmore : p.more = 0)
    {byte : UInt8} (hbyte : p.low ≤ byte.toNat ∧ byte.toNat ≤ p.high) :
    String.utf8EncodeChar (Char.ofNat (p.code * 64 + (byte.toNat - 0x80))) = part ++ [byte] := by
  cases h with
  | first h =>
    rcases firstByte_eq_inr_iff.1 h with ⟨hb, rfl⟩ | ⟨-, rfl⟩ | ⟨-, rfl⟩
    · exact utf8EncodeChar_of_two hb hbyte
    · cases hmore
    · cases hmore
  | next h hmore₂ hlow₂ hhigh₂ =>
    obtain rfl := hmore
    cases h with
    | first h =>
      rcases firstByte_eq_inr_iff.1 h with ⟨-, rfl⟩ | ⟨hb, rfl⟩ | ⟨-, rfl⟩
      · cases hmore₂
      · exact utf8EncodeChar_of_three hb ⟨hlow₂, hhigh₂⟩ hbyte
      · cases hmore₂
    | next h hmore₃ hlow₃ hhigh₃ =>
      obtain rfl := hmore₂
      cases h with
      | first h =>
        rcases firstByte_eq_inr_iff.1 h with ⟨-, rfl⟩ | ⟨-, rfl⟩ | ⟨hb, rfl⟩
        · cases hmore₃
        · cases hmore₃
        · exact utf8EncodeChar_of_four hb ⟨hlow₃, hhigh₃⟩ ⟨hlow₂, hhigh₂⟩ hbyte
      | next h hmore₄ =>
        -- This would be the fifth byte.
        obtain rfl := hmore₃
        have hle := h.more_add_length_le
        omega

/-! ### What a step does -/

/-- What is owed behind some bytes: nothing, or the rest of a character of which `part` has been
read. -/
def Owes (part : List UInt8) : Option Pending → Prop
  | none => part = []
  | some p => Begun part p

/-- What is done with bytes: `read` are the characters that are completed, the last one first, and
`part` is what is left of the bytes. -/
structure Reads (bytes : List UInt8) (read : List Char) (part : List UInt8) : Prop where
  /-- Unless there is a replacement, the characters and the rest are the bytes. -/
  encode_eq : replacement ∉ read → encode read.reverse ++ part = bytes
  /-- Characters that are no replacements have the last of the bytes at the end. -/
  getLast?_eq : ∀ c ∈ read, c = replacement ∨ (String.utf8EncodeChar c).getLast? = bytes.getLast?

/-- What is done with a byte at the beginning of a character. -/
theorem exists_begin_eq (earlier : List Char) (byte : UInt8) :
    ∃ read part pending, begin earlier byte.toNat = ⟨read ++ earlier, pending⟩ ∧
      Owes part pending ∧ Reads [byte] read part := by
  rw [begin]
  split
  next c h =>
    have hc : String.utf8EncodeChar c = [byte] := by
      obtain ⟨hb, rfl⟩ := firstByte_eq_inl h
      rw [utf8EncodeChar_ofNat (.inl (by omega)), if_pos (by omega), UInt8.ofNat_toNat]
    exact ⟨[c], [], none, rfl, rfl, by simp [encode_cons, hc], by simp [hc]⟩
  next p h => exact ⟨[], [byte], some p, rfl, .first h, by simp, List.forall_mem_nil _⟩
  next => exact ⟨[replacement], [], none, rfl, rfl, by simp, by simp⟩

/-- **What a step does**: the bytes of the character begun last, if there is one, and the next byte
are read. -/
theorem exists_step_eq {s : State} {part : List UInt8} (h : Owes part s.pending) (byte : UInt8) :
    ∃ read part' pending, step s byte = ⟨read ++ s.read, pending⟩ ∧ Owes part' pending ∧
      Reads (part ++ [byte]) read part' := by
  rcases s with ⟨earlier, _ | ⟨more, code, low, high⟩⟩
  · obtain rfl : part = [] := h
    exact exists_begin_eq earlier byte
  · have hbegun : Begun part ⟨more, code, low, high⟩ := h
    simp only [step]
    split
    next hfits =>
      simp only [Bool.and_eq_true, decide_eq_true_eq] at hfits
      cases more with
      | zero =>
        have hc := hbegun.encode rfl hfits
        exact ⟨[Char.ofNat (code * 64 + (byte.toNat - 0x80))], [], none, rfl, rfl,
          by simp [encode_cons, hc], by simp [hc]⟩
      | succ more =>
        exact ⟨[], part ++ [byte], some ⟨more, _, _, _⟩, rfl, hbegun.next rfl hfits.1 hfits.2,
          by simp, List.forall_mem_nil _⟩
    next =>
      obtain ⟨read, part', pending, heq, howes, hreads⟩ :=
        exists_begin_eq (replacement :: earlier) byte
      refine ⟨read ++ [replacement], part', pending, by rw [heq]; simp, howes, by simp, ?_⟩
      rw [List.forall_mem_append, List.forall_mem_singleton, List.getLast?_concat]
      exact ⟨hreads.getLast?_eq, .inl rfl⟩

/-- **What a run does.** -/
theorem exists_foldl_step_eq (bytes : List UInt8) :
    ∃ read part pending, bytes.foldl step .start = ⟨read, pending⟩ ∧ Owes part pending ∧
      (replacement ∉ read → encode read.reverse ++ part = bytes) ∧
        ∀ c ∈ read, c = replacement ∨
          ∃ byte ∈ bytes, (String.utf8EncodeChar c).getLast? = some byte := by
  induction bytes using List.reverseRecOn with
  | nil => exact ⟨[], [], none, rfl, rfl, fun _ ↦ rfl, List.forall_mem_nil _⟩
  | append_singleton bytes byte ih =>
    obtain ⟨earlier, part, pending, heq, howes, hencode, hlast⟩ := ih
    rw [List.foldl_append, heq]
    obtain ⟨read, part', pending', heq', howes', hreads⟩ :=
      exists_step_eq (s := ⟨earlier, pending⟩) howes byte
    refine ⟨read ++ earlier, part', pending', heq', howes', ?_, ?_⟩
    · intro hnot
      rw [List.mem_append, not_or] at hnot
      rw [List.reverse_append, encode_append, List.append_assoc, hreads.encode_eq hnot.1,
        ← List.append_assoc, hencode hnot.2]
    · have hnew := hreads.getLast?_eq
      rw [List.getLast?_concat] at hnew
      rw [List.forall_mem_append]
      refine ⟨fun c hc ↦ ?_, fun c hc ↦ ?_⟩
      · exact (hnew c hc).imp_right fun h ↦ ⟨byte, by simp, h⟩
      · refine (hlast c hc).imp_right ?_
        rintro ⟨byte', hmem, h⟩
        exact ⟨byte', List.mem_append_left _ hmem, h⟩

/-- **What is read without a replacement is what the bytes encode.** -/
theorem encode_decode {bytes : List UInt8} (h : replacement ∉ decode bytes) :
    encode (decode bytes) = bytes := by
  obtain ⟨read, part, pending, heq, howes, hencode, -⟩ := exists_foldl_step_eq bytes
  rw [decode, heq] at h ⊢
  cases pending with
  | none =>
    obtain rfl : part = [] := howes
    have hread : replacement ∉ read := mt List.mem_reverse.2 h
    rw [State.finish, ← hencode hread, List.append_nil]
  | some p => simp [State.finish] at h

/-! ### Characters of one byte -/

section OneByte

variable {c : Char}

theorem toNat_toUInt8 (hc : c.utf8Size = 1) : c.toUInt8.toNat = c.toNat ∧ c.toNat < 0x80 := by
  have hle : c.toNat ≤ 127 := Char.utf8Size_eq_one_iff.1 hc
  exact ⟨Nat.mod_eq_of_lt (Nat.lt_of_le_of_lt hle (by decide)), by omega⟩

theorem begin_toUInt8 (hc : c.utf8Size = 1) (read : List Char) :
    begin read c.toUInt8.toNat = ⟨c :: read, none⟩ := by
  obtain ⟨hbyte, hlt⟩ := toNat_toUInt8 hc
  rw [begin, hbyte, firstByte, if_pos hlt, Char.ofNat_toNat]

/-- **A character of one byte completes what is there and stands for itself**; nothing is owed
behind it. -/
theorem step_toUInt8 (hc : c.utf8Size = 1) {s : State} {part : List UInt8}
    (h : Owes part s.pending) :
    step s c.toUInt8 = State.start.after (c :: s.finish.reverse) := by
  obtain ⟨hbyte, hlt⟩ := toNat_toUInt8 hc
  rcases s with ⟨read, _ | p⟩
  · simp [step, begin_toUInt8 hc, State.start, State.after, State.finish]
  · have hlow : ¬ p.low ≤ c.toUInt8.toNat := by
      have hlow := Begun.low_le h
      omega
    simp [step, hlow, begin_toUInt8 hc, State.start, State.after, State.finish]

/-- **Cutting at a character of one byte commutes with decoding.** -/
theorem decode_append_cons (hc : c.utf8Size = 1) (bytes rest : List UInt8) :
    decode (bytes ++ c.toUInt8 :: rest) = decode bytes ++ c :: decode rest := by
  obtain ⟨read, part, pending, heq, howes, -⟩ := exists_foldl_step_eq bytes
  rw [decode, List.foldl_append, List.foldl_cons, heq, step_toUInt8 hc howes, foldl_step_after,
    State.finish_after, ← heq]
  simp [decode]

/-- **A text has such a character where its bytes have it**, and nowhere else. -/
theorem mem_decode_iff (hc : c.utf8Size = 1) {bytes : List UInt8} :
    c ∈ decode bytes ↔ c.toUInt8 ∈ bytes := by
  have hne : c ≠ replacement := by
    rintro rfl
    cases hc
  constructor
  · intro h
    obtain ⟨read, part, pending, heq, -, -, hlast⟩ := exists_foldl_step_eq bytes
    rw [decode, heq] at h
    have hmem : c ∈ read := by
      cases pending <;> simpa [State.finish, hne] using h
    obtain ⟨byte, hbytes, hbyte⟩ := (hlast c hmem).resolve_left hne
    rw [String.utf8EncodeChar_eq_singleton hc, List.getLast?_singleton] at hbyte
    obtain rfl := Option.some.inj hbyte
    exact hbytes
  · intro h
    obtain ⟨before, behind, rfl⟩ := List.append_of_mem h
    rw [decode_append_cons hc]
    exact List.mem_append_right _ List.mem_cons_self

end OneByte

/-! ### Lines -/

theorem decode_append_lineFeed (bytes rest : List UInt8) :
    decode (bytes ++ lineFeed :: rest) = decode bytes ++ '\n' :: decode rest :=
  decode_append_cons (c := '\n') rfl bytes rest

theorem lineFeed_mem_decode_iff {bytes : List UInt8} : '\n' ∈ decode bytes ↔ lineFeed ∈ bytes :=
  mem_decode_iff (c := '\n') rfl

/-- Bytes behind which a line begins. -/
def AtLineStart (bytes : List UInt8) : Prop :=
  bytes = [] ∨ bytes.getLast? = some lineFeed

instance (bytes : List UInt8) : Decidable (AtLineStart bytes) :=
  inferInstanceAs (Decidable (_ ∨ _))

/-- **Bytes may be decoded part by part**, if the first part ends with a line. -/
theorem decode_append {a : List UInt8} (h : AtLineStart a) (b : List UInt8) :
    decode (a ++ b) = decode a ++ decode b := by
  rcases h with rfl | h
  · rfl
  · obtain ⟨init, rfl⟩ := List.getLast?_eq_some_iff.1 h
    have hlast : decode (init ++ [lineFeed]) = decode init ++ ['\n'] :=
      decode_append_lineFeed init []
    rw [List.append_assoc, List.singleton_append, decode_append_lineFeed, hlast, List.append_assoc,
      List.singleton_append]

/-- Where a line begins in the bytes, one begins in the text. -/
theorem AtLineStart.decode {a : List UInt8} (h : AtLineStart a) :
    Utf8.decode a = [] ∨ (Utf8.decode a).getLast? = some '\n' := by
  rcases h with rfl | h
  · exact .inl rfl
  · obtain ⟨init, rfl⟩ := List.getLast?_eq_some_iff.1 h
    rw [decode_append_lineFeed, decode_nil]
    exact .inr List.getLast?_concat

/-! ### Nothing is dropped -/

/-- A step always leaves something to be shown. -/
theorem finish_step_ne_nil (s : State) (byte : UInt8) : (step s byte).finish ≠ [] := by
  have hbegin (read : List Char) (b : Nat) : (begin read b).finish ≠ [] := by
    rw [begin]
    split <;> simp [State.finish]
  rcases s with ⟨read, _ | ⟨more, code, low, high⟩⟩
  · exact hbegin read byte.toNat
  · simp only [step]
    split
    · cases more <;> simp [State.finish]
    · exact hbegin (replacement :: read) byte.toNat

/-- **No bytes are dropped altogether**: only of no bytes there is no text. -/
theorem decode_eq_nil_iff {bytes : List UInt8} : decode bytes = [] ↔ bytes = [] := by
  refine ⟨fun h ↦ ?_, fun h ↦ by rw [h, decode_nil]⟩
  induction bytes using List.reverseRecOn with
  | nil => rfl
  | append_singleton init byte _ =>
    rw [decode, List.foldl_append] at h
    exact absurd h (finish_step_ne_nil _ byte)

end LatencyCurve.Utf8
