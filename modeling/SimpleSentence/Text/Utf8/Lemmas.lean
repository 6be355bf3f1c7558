import SimpleSentence.Text.Utf8

/-!
Laws of the encoding. A character takes as many bytes as its size says, so the
length of an encoded text is the byte length of the text. Reading gives back
every text that was written and accepts no other bytes. Below U+0080 a character is its own byte and
every other character uses only bytes from 0x80 on, so a byte below 0x80 never
stands inside another character.
-/

namespace SimpleSentence.Utf8

theorem toNat_ofNat_of_lt {number : Nat} (small : number < 256) :
    (UInt8.ofNat number).toNat = number := by
  rw [UInt8.toNat_ofNat']
  exact Nat.mod_eq_of_lt small

-- No code is a surrogate or above the last code of the standard.
theorem code_bounds (char : Char) :
    char.toNat < 0xD800 ∨ (0xDFFF < char.toNat ∧ char.toNat < 0x110000) := char.valid

theorem length_encodeChar (char : Char) : (encodeChar char).length = char.utf8Size := by
  have le_iff (bound : UInt32) : char.val ≤ bound ↔ char.toNat ≤ bound.toNat :=
    UInt32.le_iff_toNat_le
  unfold encodeChar Char.utf8Size
  simp only [le_iff]
  by_cases one : char.toNat < 0x80
  · have : char.toNat ≤ 127 := by omega
    simp [one, this]
  · by_cases two : char.toNat < 0x800
    · have first : ¬ char.toNat ≤ 127 := by omega
      have second : char.toNat ≤ 2047 := by omega
      simp [one, two, first, second]
    · have first : ¬ char.toNat ≤ 127 := by omega
      have second : ¬ char.toNat ≤ 2047 := by omega
      by_cases three : char.toNat < 0x10000
      · have third : char.toNat ≤ 65535 := by omega
        simp [one, two, three, first, second, third]
      · have third : ¬ char.toNat ≤ 65535 := by omega
        simp [one, two, three, first, second, third]

theorem length_encode (text : Text) : (encode text).length = Text.byteLength text := by
  induction text with
  | nil => rfl
  | cons char rest ih => simp [encode, Text.byteLength, length_encodeChar, ih]

theorem le_of_mem_encodeChar {char : Char} {byte : UInt8} (large : 0x80 ≤ char.toNat)
    (member : byte ∈ encodeChar char) : 0x80 ≤ byte.toNat := by
  have bounds := code_bounds char
  have atLeast {number : Nat} (low : 0x80 ≤ number) (high : number < 256)
      (same : byte = UInt8.ofNat number) : 0x80 ≤ byte.toNat := by
    rw [same, toNat_ofNat_of_lt high]
    exact low
  simp only [encodeChar] at member
  split at member
  · omega
  · split at member
    · simp only [List.mem_cons, List.not_mem_nil, or_false] at member
      rcases member with same | same <;> exact atLeast (by omega) (by omega) same
    · split at member
      · simp only [List.mem_cons, List.not_mem_nil, or_false] at member
        rcases member with same | same | same <;> exact atLeast (by omega) (by omega) same
      · simp only [List.mem_cons, List.not_mem_nil, or_false] at member
        rcases member with same | same | same | same <;>
          exact atLeast (by omega) (by omega) same

theorem decode_one {lead : UInt8} {rest : Bytes} (small : lead.toNat < 0x80) :
    decode (lead :: rest) = extend lead.toNat 1 (decode rest) := by
  rw [decode.eq_def]
  exact if_pos small

theorem decode_two {lead second : UInt8} {rest : Bytes} (large : ¬ lead.toNat < 0x80)
    (two : isTwo lead second = true) :
    decode (lead :: second :: rest) = extend (codeOfTwo lead second) 2 (decode rest) := by
  rw [decode.eq_def]
  simp only [large, two, ↓reduceIte]

theorem decode_three {lead second third : UInt8} {rest : Bytes} (large : ¬ lead.toNat < 0x80)
    (two : isTwo lead second = false) (three : isThree lead second third = true) :
    decode (lead :: second :: third :: rest) =
      extend (codeOfThree lead second third) 3 (decode rest) := by
  rw [decode.eq_def]
  simp only [large, two, three, ↓reduceIte, Bool.false_eq_true]

theorem decode_four {lead second third fourth : UInt8} {rest : Bytes}
    (large : ¬ lead.toNat < 0x80) (two : isTwo lead second = false)
    (three : isThree lead second third = false) (four : isFour lead second third fourth = true) :
    decode (lead :: second :: third :: fourth :: rest) =
      extend (codeOfFour lead second third fourth) 4 (decode rest) := by
  rw [decode.eq_def]
  simp only [large, two, three, four, ↓reduceIte, Bool.false_eq_true]

theorem decode_encodeChar (char : Char) (rest : Bytes) :
    decode (encodeChar char ++ rest) =
      extend char.toNat (encodeChar char).length (decode rest) := by
  have bounds := code_bounds char
  unfold encodeChar
  by_cases one : char.toNat < 0x80
  · have lead : (UInt8.ofNat char.toNat).toNat = char.toNat := toNat_ofNat_of_lt (by omega)
    simp only [one, ↓reduceIte, List.cons_append, List.nil_append, List.length_cons,
      List.length_nil]
    rw [decode_one (by omega), lead]
  have last : (UInt8.ofNat (0x80 + char.toNat % 64)).toNat = 0x80 + char.toNat % 64 :=
    toNat_ofNat_of_lt (by omega)
  by_cases two : char.toNat < 0x800
  · have lead : (UInt8.ofNat (0xC0 + char.toNat / 64)).toNat = 0xC0 + char.toNat / 64 :=
      toNat_ofNat_of_lt (by omega)
    have code : codeOfTwo (UInt8.ofNat (0xC0 + char.toNat / 64))
        (UInt8.ofNat (0x80 + char.toNat % 64)) = char.toNat := by
      unfold codeOfTwo
      rw [lead, last]
      omega
    simp only [one, two, ↓reduceIte, List.cons_append, List.nil_append, List.length_cons,
      List.length_nil]
    rw [decode_two (by omega), code]
    simp only [isTwo, isTail, lead, last, Bool.and_eq_true, decide_eq_true_eq]
    omega
  have middle : (UInt8.ofNat (0x80 + char.toNat / 64 % 64)).toNat =
      0x80 + char.toNat / 64 % 64 := toNat_ofNat_of_lt (by omega)
  by_cases three : char.toNat < 0x10000
  · have lead : (UInt8.ofNat (0xE0 + char.toNat / 4096)).toNat = 0xE0 + char.toNat / 4096 :=
      toNat_ofNat_of_lt (by omega)
    have code : codeOfThree (UInt8.ofNat (0xE0 + char.toNat / 4096))
        (UInt8.ofNat (0x80 + char.toNat / 64 % 64))
        (UInt8.ofNat (0x80 + char.toNat % 64)) = char.toNat := by
      unfold codeOfThree
      rw [lead, middle, last]
      omega
    simp only [one, two, three, ↓reduceIte, List.cons_append, List.nil_append, List.length_cons,
      List.length_nil]
    rw [decode_three (by omega), code]
    · simp only [isTwo, lead, Bool.and_eq_false_iff, decide_eq_false_iff_not]
      omega
    · simp only [isThree, isTail, code, lead, middle, last, Bool.and_eq_true, Bool.or_eq_true,
        decide_eq_true_eq]
      omega
  · have lead : (UInt8.ofNat (0xF0 + char.toNat / 262144)).toNat =
        0xF0 + char.toNat / 262144 := toNat_ofNat_of_lt (by omega)
    have second : (UInt8.ofNat (0x80 + char.toNat / 4096 % 64)).toNat =
        0x80 + char.toNat / 4096 % 64 := toNat_ofNat_of_lt (by omega)
    have code : codeOfFour (UInt8.ofNat (0xF0 + char.toNat / 262144))
        (UInt8.ofNat (0x80 + char.toNat / 4096 % 64))
        (UInt8.ofNat (0x80 + char.toNat / 64 % 64))
        (UInt8.ofNat (0x80 + char.toNat % 64)) = char.toNat := by
      unfold codeOfFour
      rw [lead, second, middle, last]
      omega
    simp only [one, two, three, ↓reduceIte, List.cons_append, List.nil_append, List.length_cons,
      List.length_nil]
    rw [decode_four (by omega), code]
    · simp only [isTwo, lead, Bool.and_eq_false_iff, decide_eq_false_iff_not]
      omega
    · simp only [isThree, lead, Bool.and_eq_false_iff, decide_eq_false_iff_not]
      omega
    · simp only [isFour, isTail, code, lead, second, middle, last, Bool.and_eq_true,
        decide_eq_true_eq]
      omega

-- Reading gives back every text that was written.
theorem decode_encode (text : Text) : decode (encode text) = .ok text := by
  induction text with
  | nil => rfl
  | cons char rest ih => rw [encode, decode_encodeChar, ih, extend, Char.ofNat_toNat]

theorem encode_injective {first second : Text} (same : encode first = encode second) :
    first = second := by
  have read := decode_encode first
  rw [same, decode_encode] at read
  exact (Except.ok.inj read).symm

theorem toNat_ofNat_of_valid {code : Nat} (valid : code.isValidChar) :
    (Char.ofNat code).toNat = code := by
  rw [Char.ofNat, dif_pos valid]
  rfl

theorem ofNat_of_eq_toNat {number : Nat} {byte : UInt8} (same : number = byte.toNat) :
    UInt8.ofNat number = byte := by
  rw [same, UInt8.ofNat_toNat]

theorem encodeChar_one {lead : UInt8} (small : lead.toNat < 0x80) :
    encodeChar (Char.ofNat lead.toNat) = [lead] := by
  have code := @toNat_ofNat_of_valid lead.toNat (.inl (by omega))
  simp only [encodeChar, code, small, ↓reduceIte, UInt8.ofNat_toNat]

theorem encodeChar_two {lead second : UInt8} (two : isTwo lead second = true) :
    encodeChar (Char.ofNat (codeOfTwo lead second)) = [lead, second] := by
  simp only [isTwo, isTail, Bool.and_eq_true, decide_eq_true_eq] at two
  have whole : codeOfTwo lead second =
      (lead.toNat - 0xC0) * 64 + (second.toNat - 0x80) := rfl
  generalize codeOfTwo lead second = code at whole
  have same := @toNat_ofNat_of_valid code (.inl (by omega))
  have first : UInt8.ofNat (0xC0 + code / 64) = lead := ofNat_of_eq_toNat (by omega)
  have last : UInt8.ofNat (0x80 + code % 64) = second := ofNat_of_eq_toNat (by omega)
  simp only [encodeChar, same, first, last, show ¬ code < 0x80 by omega,
    show code < 0x800 by omega, ↓reduceIte]

theorem encodeChar_three {lead second third : UInt8} (three : isThree lead second third = true) :
    encodeChar (Char.ofNat (codeOfThree lead second third)) = [lead, second, third] := by
  simp only [isThree, isTail, Bool.and_eq_true, Bool.or_eq_true, decide_eq_true_eq] at three
  have whole : codeOfThree lead second third =
      (lead.toNat - 0xE0) * 4096 + (second.toNat - 0x80) * 64 + (third.toNat - 0x80) := rfl
  generalize codeOfThree lead second third = code at three whole
  have same := @toNat_ofNat_of_valid code (by unfold Nat.isValidChar; omega)
  have first : UInt8.ofNat (0xE0 + code / 4096) = lead := ofNat_of_eq_toNat (by omega)
  have middle : UInt8.ofNat (0x80 + code / 64 % 64) = second := ofNat_of_eq_toNat (by omega)
  have last : UInt8.ofNat (0x80 + code % 64) = third := ofNat_of_eq_toNat (by omega)
  simp only [encodeChar, same, first, middle, last, show ¬ code < 0x80 by omega,
    show ¬ code < 0x800 by omega, show code < 0x10000 by omega, ↓reduceIte]

theorem encodeChar_four {lead second third fourth : UInt8}
    (four : isFour lead second third fourth = true) :
    encodeChar (Char.ofNat (codeOfFour lead second third fourth)) =
      [lead, second, third, fourth] := by
  simp only [isFour, isTail, Bool.and_eq_true, decide_eq_true_eq] at four
  have whole : codeOfFour lead second third fourth =
      (lead.toNat - 0xF0) * 262144 + (second.toNat - 0x80) * 4096 +
        (third.toNat - 0x80) * 64 + (fourth.toNat - 0x80) := rfl
  generalize codeOfFour lead second third fourth = code at four whole
  have same := @toNat_ofNat_of_valid code (by unfold Nat.isValidChar; omega)
  have first : UInt8.ofNat (0xF0 + code / 262144) = lead := ofNat_of_eq_toNat (by omega)
  have high : UInt8.ofNat (0x80 + code / 4096 % 64) = second := ofNat_of_eq_toNat (by omega)
  have middle : UInt8.ofNat (0x80 + code / 64 % 64) = third := ofNat_of_eq_toNat (by omega)
  have last : UInt8.ofNat (0x80 + code % 64) = fourth := ofNat_of_eq_toNat (by omega)
  simp only [encodeChar, same, first, high, middle, last, show ¬ code < 0x80 by omega,
    show ¬ code < 0x800 by omega, show ¬ code < 0x10000 by omega, ↓reduceIte]

-- A character that is read was read from its own bytes.
theorem encode_of_extend {code size : Nat} {source rest : Bytes} {text : Text}
    (bytes : encodeChar (Char.ofNat code) = source)
    (later : ∀ others, decode rest = .ok others → encode others = rest)
    (read : extend code size (decode rest) = .ok text) : encode text = source ++ rest := by
  cases found : decode rest with
  | error valid =>
      rw [found] at read
      cases read
  | ok others =>
      rw [found] at read
      cases read
      rw [encode, bytes, later others found]

/-- Reading accepts nothing but what is written. -/
theorem encode_of_decode {bytes : Bytes} {text : Text} (read : decode bytes = .ok text) :
    encode text = bytes := by
  fun_induction decode bytes generalizing text with
  | case1 =>
      cases read
      rfl
  | case2 lead rest small ih =>
      exact encode_of_extend (encodeChar_one small) (fun _ => ih) read
  | case3 => cases read
  | case4 lead large second rest two ih =>
      exact encode_of_extend (encodeChar_two two) (fun _ => ih) read
  | case5 => cases read
  | case6 lead large second notTwo third rest three ih =>
      exact encode_of_extend (encodeChar_three three) (fun _ => ih) read
  | case7 => cases read
  | case8 lead large second notTwo third notThree fourth rest four ih =>
      exact encode_of_extend (encodeChar_four four) (fun _ => ih) read
  | case9 => cases read

/-- Bytes as which some text is written. -/
def Valid (bytes : Bytes) : Prop := ∃ text, encode text = bytes

theorem not_valid_of_error {bytes : Bytes} {count : Nat} (failed : decode bytes = .error count) :
    ¬ Valid bytes := by
  rintro ⟨text, rfl⟩
  rw [decode_encode] at failed
  cases failed

end SimpleSentence.Utf8
