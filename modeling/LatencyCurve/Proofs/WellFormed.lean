import LatencyCurve.Proofs.Decoding

/-!
# Well-formed bytes

Bytes are well formed if they are the encoding of a text. Such bytes are read as this text
(`decode_encode`), so whether bytes are well formed can be decided by reading them
(`isWellFormed_iff`).

A part of ill-formed bytes can still be well formed. Where the part begins and ends with a character
of one byte it can be found in the text as well as in the bytes, whatever stands around it
(`decode_eq_append_iff`): damage elsewhere does not touch it.
-/

namespace LatencyCurve.Utf8

/-- Bytes that are the encoding of a text. -/
def IsWellFormed (bytes : List UInt8) : Prop :=
  ∃ text, encode text = bytes

/-! ### Reading what is encoded -/

/-- The bytes of a character that has been begun are read as its beginning. -/
theorem Begun.foldl_step {part : List UInt8} {p : Pending} (h : Begun part p) (read : List Char) :
    part.foldl step ⟨read, none⟩ = ⟨read, some p⟩ := by
  induction h with
  | first h => simp only [List.foldl_cons, List.foldl_nil, step, begin, h]
  | @next part p byte more h hmore hlow hhigh ih =>
    rw [List.foldl_append, ih, List.foldl_cons, List.foldl_nil]
    simp [step, hlow, hhigh, hmore]

theorem toNat_ofNat {n : Nat} (h : n < 256) : (UInt8.ofNat n).toNat = n := by
  rw [UInt8.toNat_ofNat']
  exact Nat.mod_eq_of_lt h

/-- The encoding of a character of several bytes: they begin a character, but for the last, which
completes it. -/
theorem exists_begun {n : Nat} (hvalid : n.isValidChar) (h : ¬ n ≤ 0x7F) :
    ∃ part p byte, String.utf8EncodeChar (Char.ofNat n) = part ++ [byte] ∧ Begun part p ∧
      p.more = 0 ∧ p.low ≤ byte.toNat ∧ byte.toNat ≤ p.high ∧
        p.code * 64 + (byte.toNat - 0x80) = n := by
  have hbounds : n < 0xD800 ∨ 0xDFFF < n ∧ n < 0x110000 := hvalid
  rw [utf8EncodeChar_ofNat hvalid, if_neg h]
  split
  next h =>
    have h₁ : (UInt8.ofNat (n / 64 % 32 + 0xC0)).toNat = n / 64 % 32 + 0xC0 := toNat_ofNat (by omega)
    have h₂ : (UInt8.ofNat (n % 64 + 0x80)).toNat = n % 64 + 0x80 := toNat_ofNat (by omega)
    refine ⟨[_], _, _, rfl, .first (firstByte_eq_inr_iff.2 (.inl ⟨?_, rfl⟩)), rfl, ?_⟩
    · rw [h₁]
      omega
    · simp only [h₁, h₂]
      omega
  split
  next h =>
    have h₁ : (UInt8.ofNat (n / 4096 % 16 + 0xE0)).toNat = n / 4096 % 16 + 0xE0 :=
      toNat_ofNat (by omega)
    have h₂ : (UInt8.ofNat (n / 64 % 64 + 0x80)).toNat = n / 64 % 64 + 0x80 := toNat_ofNat (by omega)
    have h₃ : (UInt8.ofNat (n % 64 + 0x80)).toNat = n % 64 + 0x80 := toNat_ofNat (by omega)
    refine ⟨[_] ++ [_], _, _, rfl, .next
      (.first (firstByte_eq_inr_iff.2 (.inr (.inl ⟨?_, rfl⟩)))) rfl ?_ ?_, rfl, ?_⟩
    · rw [h₁]
      omega
    · simp only [h₁, h₂]
      split <;> omega
    · simp only [h₁, h₂]
      split <;> omega
    · simp only [h₁, h₂, h₃]
      omega
  next h =>
    have h₁ : (UInt8.ofNat (n / 262144 % 8 + 0xF0)).toNat = n / 262144 % 8 + 0xF0 :=
      toNat_ofNat (by omega)
    have h₂ : (UInt8.ofNat (n / 4096 % 64 + 0x80)).toNat = n / 4096 % 64 + 0x80 :=
      toNat_ofNat (by omega)
    have h₃ : (UInt8.ofNat (n / 64 % 64 + 0x80)).toNat = n / 64 % 64 + 0x80 := toNat_ofNat (by omega)
    have h₄ : (UInt8.ofNat (n % 64 + 0x80)).toNat = n % 64 + 0x80 := toNat_ofNat (by omega)
    refine ⟨[_] ++ [_] ++ [_], _, _, rfl, .next (.next
      (.first (firstByte_eq_inr_iff.2 (.inr (.inr ⟨?_, rfl⟩)))) rfl ?_ ?_) rfl ?_ ?_, rfl, ?_⟩
    · rw [h₁]
      omega
    · simp only [h₁, h₂]
      split <;> omega
    · simp only [h₁, h₂]
      split <;> omega
    · simp only [h₃]
      omega
    · simp only [h₃]
      omega
    · simp only [h₁, h₂, h₃, h₄]
      omega

/-- **The encoding of a character is read as this character.** -/
theorem foldl_step_utf8EncodeChar (read : List Char) (c : Char) :
    (String.utf8EncodeChar c).foldl step ⟨read, none⟩ = ⟨c :: read, none⟩ := by
  by_cases hc : c.toNat ≤ 0x7F
  · have hsize : c.utf8Size = 1 := Char.utf8Size_eq_one_iff.2 hc
    rw [String.utf8EncodeChar_eq_singleton hsize]
    exact begin_toUInt8 hsize read
  · obtain ⟨part, p, byte, hencode, hbegun, hmore, hlow, hhigh, hcode⟩ :=
      exists_begun (n := c.toNat) c.valid hc
    rw [Char.ofNat_toNat] at hencode
    rw [hencode, List.foldl_append, hbegun.foldl_step, List.foldl_cons, List.foldl_nil]
    simp [step, hmore, hcode, hlow, hhigh]

/-- **What is encoded is read back.** -/
theorem decode_encode (text : List Char) : decode (encode text) = text := by
  have hfoldl : (encode text).foldl step .start = ⟨text.reverse, none⟩ := by
    induction text using List.reverseRecOn with
    | nil => rfl
    | append_singleton text c ih =>
      rw [encode_append, List.foldl_append, ih, encode_cons, encode_nil, List.append_nil,
        foldl_step_utf8EncodeChar, List.reverse_concat]
  rw [decode, hfoldl, State.finish, List.reverse_reverse]

/-- **Whether bytes are well formed** is decided by reading them. -/
theorem isWellFormed_iff {bytes : List UInt8} :
    IsWellFormed bytes ↔ encode (decode bytes) = bytes := by
  constructor
  · rintro ⟨text, rfl⟩
    rw [decode_encode]
  · intro h
    exact ⟨_, h⟩

instance (bytes : List UInt8) : Decidable (IsWellFormed bytes) :=
  decidable_of_iff _ isWellFormed_iff.symm

/-! ### Parts of a text and of its bytes -/

section Parts

variable {c : Char} {bytes : List UInt8} {s t w : List Char}

/-- **Where a text is cut at a character of one byte, its bytes can be cut.** -/
theorem exists_of_decode_eq (hc : c.utf8Size = 1) (h : decode bytes = s ++ c :: t) :
    ∃ before behind, bytes = before ++ c.toUInt8 :: behind ∧ decode before = s ∧
      decode behind = t := by
  -- The bytes are cut where they have the character first. If the text is cut further behind, so
  -- are the bytes that follow.
  induction hlength : bytes.length using Nat.strongRecOn generalizing bytes s with
  | ind n ih =>
    have hmem : c.toUInt8 ∈ bytes := (mem_decode_iff hc).1 (by simp [h])
    obtain ⟨first, rest, rfl, hfirst⟩ := List.eq_append_cons_of_mem hmem
    have hnot : c ∉ decode first := mt (mem_decode_iff hc).1 hfirst
    rw [decode_append_cons hc] at h
    rcases List.append_eq_append_iff.1 h with ⟨between, hs, hrest⟩ | ⟨between, hs, hrest⟩
    · cases between with
      | nil =>
        rw [List.append_nil] at hs
        exact ⟨first, rest, rfl, hs.symm, (List.cons_eq_cons.1 hrest).2⟩
      | cons c' between =>
        obtain ⟨rfl, htail⟩ := List.cons_eq_cons.1 hrest
        have hlt : rest.length < n := by
          rw [← hlength, List.length_append, List.length_cons]
          omega
        obtain ⟨before, behind, rfl, hbefore, hbehind⟩ := ih _ hlt htail rfl
        refine ⟨first ++ c.toUInt8 :: before, behind, by simp, ?_, hbehind⟩
        rw [decode_append_cons hc, hbefore, hs]
    · cases between with
      | nil =>
        rw [List.append_nil] at hs
        exact ⟨first, rest, rfl, hs, (List.cons_eq_cons.1 hrest).2.symm⟩
      | cons c' between =>
        obtain ⟨rfl, -⟩ := List.cons_eq_cons.1 hrest
        exact absurd (hs ▸ List.mem_append_right s List.mem_cons_self) hnot

/-- A text that begins and ends with a character of one byte and has no replacement in it. -/
def Firm (w : List Char) : Prop :=
  ∃ c m d, w = c :: (m ++ [d]) ∧ c.utf8Size = 1 ∧ d.utf8Size = 1 ∧ replacement ∉ m

/-- **A firm part of a text is a well-formed part of its bytes**, whatever stands around it. -/
theorem decode_eq_append_iff (hw : Firm w) :
    decode bytes = s ++ w ++ t ↔ ∃ before behind, bytes = before ++ encode w ++ behind ∧
      decode before = s ∧ decode behind = t := by
  obtain ⟨c, m, d, rfl, hc, hd, hm⟩ := hw
  have hone {c : Char} (hc : c.utf8Size = 1) : String.utf8EncodeChar c = [c.toUInt8] :=
    String.utf8EncodeChar_eq_singleton hc
  have hencode : encode (c :: (m ++ [d])) = c.toUInt8 :: (encode m ++ [d.toUInt8]) := by
    rw [encode_cons, encode_append, encode_cons, hone hc, hone hd]
    rfl
  rw [hencode]
  constructor
  · intro h
    have hcut : decode bytes = s ++ c :: (m ++ d :: t) := by simp [h]
    obtain ⟨before, rest, rfl, hbefore, hrest⟩ := exists_of_decode_eq hc hcut
    obtain ⟨middle, behind, rfl, rfl, hbehind⟩ := exists_of_decode_eq hd hrest
    refine ⟨before, behind, ?_, hbefore, hbehind⟩
    rw [encode_decode hm]
    simp
  · rintro ⟨before, behind, rfl, rfl, rfl⟩
    have hbytes : before ++ c.toUInt8 :: (encode m ++ [d.toUInt8]) ++ behind =
        before ++ c.toUInt8 :: (encode m ++ d.toUInt8 :: behind) := by simp
    rw [hbytes, decode_append_cons hc, decode_append_cons hd, decode_encode]
    simp

/-- A firm part at the end of a text. -/
theorem decode_eq_append_firm_iff (hw : Firm w) :
    decode bytes = s ++ w ↔ ∃ before, bytes = before ++ encode w ∧ decode before = s := by
  rw [← List.append_nil (s ++ w), decode_eq_append_iff hw]
  constructor
  · rintro ⟨before, behind, rfl, hbefore, hbehind⟩
    rw [decode_eq_nil_iff.1 hbehind, List.append_nil]
    exact ⟨before, rfl, hbefore⟩
  · rintro ⟨before, rfl, hbefore⟩
    exact ⟨before, [], by simp, hbefore, rfl⟩

/-- A firm text is somewhere in a text if its bytes are somewhere in the bytes. -/
theorem infix_decode_iff (hw : Firm w) : w <:+: decode bytes ↔ encode w <:+: bytes := by
  constructor
  · rintro ⟨s, t, h⟩
    obtain ⟨before, behind, hbytes, -⟩ := (decode_eq_append_iff hw).1 h.symm
    exact ⟨before, behind, hbytes.symm⟩
  · rintro ⟨before, behind, h⟩
    exact ⟨_, _, ((decode_eq_append_iff hw).2 ⟨before, behind, h.symm, rfl, rfl⟩).symm⟩

end Parts

end LatencyCurve.Utf8
