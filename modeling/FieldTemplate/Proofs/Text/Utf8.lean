import FieldTemplate.Text.Utf8

/-!
# Texts and their bytes

A text that is written as bytes is read back as it was (`Utf8.decode_encode`).  A character has
one to four bytes, by its size; the reader takes their number from the first of them and checks
the second against it (`decodeFrom_char`).
-/

namespace FieldTemplate.Utf8

set_option autoImplicit false

theorem toNat_byte {n : Nat} (small : n < 256) : (UInt8.ofNat n).toNat = n := by
  rw [UInt8.toNat_ofNat']
  exact Nat.mod_eq_of_lt small

/-! ## What the reader asks of a byte -/

theorem tailLength?_eq (a : UInt8) :
    tailLength? a =
      if a.toNat < 128 then some 0
      else if 194 ≤ a.toNat ∧ a.toNat ≤ 223 then some 1
      else if 224 ≤ a.toNat ∧ a.toNat ≤ 239 then some 2
      else if 240 ≤ a.toNat ∧ a.toNat ≤ 244 then some 3
      else none := by
  simp only [tailLength?, UInt8.lt_iff_toNat_lt, UInt8.le_iff_toNat_le]
  rfl

theorem leadBits_eq (a : UInt8) :
    leadBits a =
      if a.toNat < 128 then a.toNat
      else if a.toNat < 224 then a.toNat - 192
      else if a.toNat < 240 then a.toNat - 224
      else a.toNat - 240 := by
  simp only [leadBits, UInt8.lt_iff_toNat_lt]
  rfl

theorem readTail_cons {range : UInt8 × UInt8} {n : Nat}
    (inRange : range.1.toNat ≤ n % 64 + 128 ∧ n % 64 + 128 ≤ range.2.toNat) (bits read k : Nat)
    (rest : List UInt8) :
    readTail range bits read (k + 1) (UInt8.ofNat (n % 64 + 128) :: rest) =
      readTail (0x80, 0xBF) (bits * 64 + n % 64) (read + 1) k rest := by
  have b : (UInt8.ofNat (n % 64 + 128)).toNat = n % 64 + 128 := toNat_byte (by omega)
  have inBytes : range.1 ≤ UInt8.ofNat (n % 64 + 128) ∧ UInt8.ofNat (n % 64 + 128) ≤ range.2 :=
    ⟨UInt8.le_iff_toNat_le.2 (by rw [b]; exact inRange.1),
      UInt8.le_iff_toNat_le.2 (by rw [b]; exact inRange.2)⟩
  rw [readTail, if_pos inBytes, b, Nat.add_sub_cancel]

theorem readTail_continuation (bits read k n : Nat) (rest : List UInt8) :
    readTail (0x80, 0xBF) bits read (k + 1) (UInt8.ofNat (n % 64 + 128) :: rest) =
      readTail (0x80, 0xBF) (bits * 64 + n % 64) (read + 1) k rest := by
  refine readTail_cons ⟨Nat.le_add_left .., ?_⟩ bits read k rest
  change n % 64 + 128 ≤ 191
  omega

/-- A continuation byte may come second, but for what would make a form too long, a surrogate or a
number beyond the last code point. -/
theorem readTail_second {a : UInt8} {n : Nat} (three : a.toNat = 224 → 32 ≤ n % 64)
    (surrogate : a.toNat = 237 → n % 64 < 32) (four : a.toNat = 240 → 16 ≤ n % 64)
    (last : a.toNat = 244 → n % 64 < 16) (bits read k : Nat) (rest : List UInt8) :
    readTail (secondRange a) bits read (k + 1) (UInt8.ofNat (n % 64 + 128) :: rest) =
      readTail (0x80, 0xBF) (bits * 64 + n % 64) (read + 1) k rest := by
  refine readTail_cons ?_ bits read k rest
  have digit : n % 64 < 64 := Nat.mod_lt n (by decide)
  have named (b : UInt8) (same : a = b) : a.toNat = b.toNat := by rw [same]
  rw [secondRange]
  split
  · next same => have := three (named _ same); change 160 ≤ _ ∧ _ ≤ 191; omega
  split
  · next same => have := surrogate (named _ same); change 128 ≤ _ ∧ _ ≤ 159; omega
  split
  · next same => have := four (named _ same); change 144 ≤ _ ∧ _ ≤ 191; omega
  split
  · next same => have := last (named _ same); change 128 ≤ _ ∧ _ ≤ 143; omega
  · change 128 ≤ _ ∧ _ ≤ 191
    omega

theorem decodeFrom_cons {a : UInt8} {n bits : Nat} (position : Nat) {rest : List UInt8}
    (length : tailLength? a = some n)
    (tail : readTail (secondRange a) (leadBits a) 1 n rest = .ok bits) :
    decodeFrom position (a :: rest) =
      (decodeFrom (position + 1 + n) (rest.drop n)).map (Char.ofNat bits :: ·) := by
  rw [decodeFrom]
  simp only [length, tail]

/-! ## Numbers by their length -/

theorem decodeFrom_one {v : Nat} (upper : v ≤ 127) (position : Nat) (rest : List UInt8) :
    decodeFrom position (UInt8.ofNat v :: rest) =
      (decodeFrom (position + 1) rest).map (Char.ofNat v :: ·) := by
  have a : (UInt8.ofNat v).toNat = v := toNat_byte (by omega)
  generalize UInt8.ofNat v = first at a
  have length : tailLength? first = some 0 := by rw [tailLength?_eq, a, if_pos (by omega)]
  have lead : leadBits first = v := by rw [leadBits_eq, a, if_pos (by omega)]
  exact decodeFrom_cons position length (by rw [readTail, lead])

theorem decodeFrom_two {v : Nat} (lower : 127 < v) (upper : v ≤ 2047) (position : Nat)
    (rest : List UInt8) :
    decodeFrom position (UInt8.ofNat (v / 64 % 32 + 192) :: UInt8.ofNat (v % 64 + 128) :: rest) =
      (decodeFrom (position + 2) rest).map (Char.ofNat v :: ·) := by
  have a : (UInt8.ofNat (v / 64 % 32 + 192)).toNat = v / 64 + 192 := by
    rw [toNat_byte (by omega)]; omega
  generalize UInt8.ofNat (v / 64 % 32 + 192) = first at a
  have length : tailLength? first = some 1 := by
    rw [tailLength?_eq, a, if_neg (by omega), if_pos (by omega)]
  have lead : leadBits first = v / 64 := by
    rw [leadBits_eq, a, if_neg (by omega), if_pos (by omega)]; omega
  have bits : v / 64 * 64 + v % 64 = v := Nat.div_add_mod' v 64
  refine decodeFrom_cons position length ?_
  rw [readTail_second (by omega) (by omega) (by omega) (by omega), readTail, lead, bits]

theorem decodeFrom_three {v : Nat} (lower : 2047 < v) (upper : v ≤ 65535)
    (noSurrogate : v < 0xD800 ∨ 0xDFFF < v) (position : Nat) (rest : List UInt8) :
    decodeFrom position (UInt8.ofNat (v / 4096 % 16 + 224) :: UInt8.ofNat (v / 64 % 64 + 128) ::
        UInt8.ofNat (v % 64 + 128) :: rest) =
      (decodeFrom (position + 3) rest).map (Char.ofNat v :: ·) := by
  have a : (UInt8.ofNat (v / 4096 % 16 + 224)).toNat = v / 4096 + 224 := by
    rw [toNat_byte (by omega)]; omega
  generalize UInt8.ofNat (v / 4096 % 16 + 224) = first at a
  have length : tailLength? first = some 2 := by
    rw [tailLength?_eq, a, if_neg (by omega), if_neg (by omega), if_pos (by omega)]
  have lead : leadBits first = v / 4096 := by
    rw [leadBits_eq, a, if_neg (by omega), if_neg (by omega), if_pos (by omega)]; omega
  have bits : (v / 4096 * 64 + v / 64 % 64) * 64 + v % 64 = v := by omega
  refine decodeFrom_cons position length ?_
  rw [readTail_second (by omega) (by omega) (by omega) (by omega), readTail_continuation, readTail,
    lead, bits]

theorem decodeFrom_four {v : Nat} (lower : 65535 < v) (upper : v < 0x110000) (position : Nat)
    (rest : List UInt8) :
    decodeFrom position (UInt8.ofNat (v / 262144 % 8 + 240) :: UInt8.ofNat (v / 4096 % 64 + 128) ::
        UInt8.ofNat (v / 64 % 64 + 128) :: UInt8.ofNat (v % 64 + 128) :: rest) =
      (decodeFrom (position + 4) rest).map (Char.ofNat v :: ·) := by
  have a : (UInt8.ofNat (v / 262144 % 8 + 240)).toNat = v / 262144 + 240 := by
    rw [toNat_byte (by omega)]; omega
  generalize UInt8.ofNat (v / 262144 % 8 + 240) = first at a
  have length : tailLength? first = some 3 := by
    rw [tailLength?_eq, a, if_neg (by omega), if_neg (by omega), if_neg (by omega),
      if_pos (by omega)]
  have lead : leadBits first = v / 262144 := by
    rw [leadBits_eq, a, if_neg (by omega), if_neg (by omega), if_neg (by omega)]; omega
  have bits : ((v / 262144 * 64 + v / 4096 % 64) * 64 + v / 64 % 64) * 64 + v % 64 = v := by omega
  refine decodeFrom_cons position length ?_
  rw [readTail_second (by omega) (by omega) (by omega) (by omega), readTail_continuation,
    readTail_continuation, readTail, lead, bits]

/-! ## Characters and texts -/

/-- **The bytes of a character are read as that character**, whatever stands behind them. -/
theorem decodeFrom_char (c : Char) (position : Nat) (rest : List UInt8) :
    ∃ next, decodeFrom position (String.utf8EncodeChar c ++ rest) =
      (decodeFrom next rest).map (c :: ·) := by
  have valid : c.toNat < 0xD800 ∨ 0xDFFF < c.toNat ∧ c.toNat < 0x110000 := c.valid
  have number : Char.ofNat c.toNat = c := Char.ofNat_toNat c
  rw [String.utf8EncodeChar, show c.val.toNat = c.toNat from rfl]
  generalize c.toNat = v at valid number
  subst number
  split
  · next one => exact ⟨_, decodeFrom_one one position rest⟩
  split
  · next one two => exact ⟨_, decodeFrom_two (by omega) two position rest⟩
  split
  · next two three => exact ⟨_, decodeFrom_three (by omega) three (by omega) position rest⟩
  · next three => exact ⟨_, decodeFrom_four (by omega) (by omega) position rest⟩

/-- **A text is read back from its bytes.** -/
theorem decode_encode (s : Text) : decode (encode s) = .ok s := by
  have from_ (position : Nat) : decodeFrom position (encode s) = .ok s := by
    induction s generalizing position with
    | nil => rw [encode, List.flatMap_nil, decodeFrom]
    | cons c rest ih =>
        obtain ⟨next, read⟩ := decodeFrom_char c position (encode rest)
        rw [encode, List.flatMap_cons, ← encode, read, ih]
        rfl
  exact from_ 0

end FieldTemplate.Utf8
