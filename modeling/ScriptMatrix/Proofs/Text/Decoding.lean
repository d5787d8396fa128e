import ScriptMatrix.Proofs.Text.Utf8

/-!
# `ScriptMatrix.Proofs.Text.Decoding`: decoding undoes encoding

`decode_encode`: the bytes of a text are read as that text. A character takes
one to four bytes, by its number. For each length the front of its bytes is the
character, whatever stands behind (`utf8Front_one` to `utf8Front_four`), so
decoding takes the characters off one by one (`decodeFrom_bytesOf`). That
surrogates are no characters is what the check of the second byte needs.

The checks also keep out every other way to write a character. So a character that
is read has the bytes that it is read from (`encodeChar_of_utf8Front`), and the
bytes that are read as a text are those of that text (`decode_eq_ok_iff`).
-/

set_option autoImplicit false

namespace ScriptMatrix.Text

/-- A number that fits into a byte is the number of that byte. -/
theorem toNat_ofNat_byte {n : Nat} (h : n < 256) : (UInt8.ofNat n).toNat = n := by
  rw [UInt8.toNat_ofNat', Nat.mod_eq_of_lt h]

/-- A byte that goes on a sequence holds six bits, and `payload` gives them back. -/
theorem isContinuation_ofNat {n : Nat} (h : n < 64) :
    isContinuation (UInt8.ofNat (n + 128)) = true ∧ payload (UInt8.ofNat (n + 128)) = n := by
  have htoNat : (UInt8.ofNat (n + 128)).toNat = n + 128 := toNat_ofNat_byte (by omega)
  have hlow : (0x80 : UInt8).toNat = 128 := rfl
  have hhigh : (0xbf : UInt8).toNat = 191 := rfl
  rw [payload, isContinuation]
  simp only [UInt8.le_iff_toNat_le, htoNat, hlow, hhigh, Bool.and_eq_true, decide_eq_true_eq]
  omega

/-- The second byte is allowed if it goes on a sequence and keeps the limits that the first
byte sets. They rule out characters that could be shorter, surrogates, and numbers past the
last character. -/
theorem secondByteAllowed_ofNat {lead second : Nat} (hlead : lead < 256) (hsecond : second < 256)
    (hgoes : 128 ≤ second ∧ second ≤ 191) (he0 : lead = 0xe0 → 0xa0 ≤ second)
    (hed : lead = 0xed → second ≤ 0x9f) (hf0 : lead = 0xf0 → 0x90 ≤ second)
    (hf4 : lead = 0xf4 → second ≤ 0x8f) :
    secondByteAllowed (UInt8.ofNat lead) (UInt8.ofNat second) = true := by
  -- All comparisons are put to numbers, and then it is arithmetic.
  unfold secondByteAllowed
  simp only [UInt8.le_iff_toNat_le, beq_iff_eq, ← UInt8.toNat_inj, toNat_ofNat_byte hlead,
    toNat_ofNat_byte hsecond, apply_ite UInt8.toNat, UInt8.reduceToNat, Bool.and_eq_true,
    decide_eq_true_eq]
  grind

section
variable {n : Nat} (rest : Bytes)

/-- One byte in front is read as the character of its number. -/
theorem utf8Front_one (h : n ≤ 127) :
    utf8Front (UInt8.ofNat n) rest = .scalar (Char.ofNat n) 1 := by
  have hlead : (UInt8.ofNat n).toNat = n := toNat_ofNat_byte (by omega)
  have hlow : UInt8.ofNat n < 0x80 :=
    UInt8.lt_iff_toNat_lt.mpr (by rw [hlead]; exact Nat.lt_succ_of_le h)
  unfold utf8Front
  rw [if_pos hlow, hlead]

/-- The two bytes of a character in front are read as it. All four lemmas recover the number
from its bits. -/
theorem utf8Front_two (h : 127 < n) (h' : n ≤ 2047) :
    utf8Front (UInt8.ofNat (n / 64 % 32 + 192)) (UInt8.ofNat (n % 64 + 128) :: rest)
      = .scalar (Char.ofNat n) 2 := by
  obtain ⟨hgoes, hbits⟩ := isContinuation_ofNat (show n % 64 < 64 by omega)
  have hlead : (UInt8.ofNat (n / 64 % 32 + 192)).toNat = n / 64 + 192 := by
    rw [toNat_ofNat_byte (by omega)]
    omega
  have hsum : (n / 64 + 192 - 192) * 64 + n % 64 = n := by omega
  unfold utf8Front
  simp only [UInt8.lt_iff_toNat_lt, hgoes, hbits, hlead, UInt8.reduceToNat, Bool.or_eq_true,
    decide_eq_true_eq, hsum]
  -- The lead byte is past ASCII and past the bytes that lead nothing, and leads two.
  rw [if_neg (by omega), if_neg (by omega), if_pos (by omega), if_pos trivial]

/-- The three bytes of a character in front are read as it. That it is no surrogate (`hn`)
is what the second byte is checked for. -/
theorem utf8Front_three (h : 2047 < n) (h' : n ≤ 65535) (hn : n < 0xd800 ∨ 0xdfff < n) :
    utf8Front (UInt8.ofNat (n / 4096 % 16 + 224))
        (UInt8.ofNat (n / 64 % 64 + 128) :: UInt8.ofNat (n % 64 + 128) :: rest)
      = .scalar (Char.ofNat n) 3 := by
  obtain ⟨-, hbits₁⟩ := isContinuation_ofNat (show n / 64 % 64 < 64 by omega)
  obtain ⟨hgoes₂, hbits₂⟩ := isContinuation_ofNat (show n % 64 < 64 by omega)
  have hlead : (UInt8.ofNat (n / 4096 % 16 + 224)).toNat = n / 4096 + 224 := by
    rw [toNat_ofNat_byte (by omega)]
    omega
  have hallowed : secondByteAllowed (UInt8.ofNat (n / 4096 % 16 + 224))
      (UInt8.ofNat (n / 64 % 64 + 128)) = true :=
    secondByteAllowed_ofNat (by omega) (by omega) (by omega) (by omega) (by omega) (by omega)
      (by omega)
  have hsum : ((n / 4096 + 224 - 224) * 64 + n / 64 % 64) * 64 + n % 64 = n := by omega
  unfold utf8Front
  simp only [UInt8.lt_iff_toNat_lt, hallowed, hgoes₂, hbits₁, hbits₂, hlead, UInt8.reduceToNat,
    Bool.or_eq_true, decide_eq_true_eq, hsum, Bool.not_true]
  -- The lead byte leads neither one nor two nor four, and both bytes behind it pass their
  -- checks.
  rw [if_neg (by omega), if_neg (by omega), if_neg (by omega), if_neg Bool.false_ne_true,
    if_neg Bool.false_ne_true, if_pos (by omega)]

/-- The four bytes of a character in front are read as it, up to the last number there is. -/
theorem utf8Front_four (h : 65535 < n) (h' : n < 0x110000) :
    utf8Front (UInt8.ofNat (n / 262144 % 8 + 240))
        (UInt8.ofNat (n / 4096 % 64 + 128) :: UInt8.ofNat (n / 64 % 64 + 128) ::
          UInt8.ofNat (n % 64 + 128) :: rest)
      = .scalar (Char.ofNat n) 4 := by
  obtain ⟨-, hbits₁⟩ := isContinuation_ofNat (show n / 4096 % 64 < 64 by omega)
  obtain ⟨hgoes₂, hbits₂⟩ := isContinuation_ofNat (show n / 64 % 64 < 64 by omega)
  obtain ⟨hgoes₃, hbits₃⟩ := isContinuation_ofNat (show n % 64 < 64 by omega)
  have hlead : (UInt8.ofNat (n / 262144 % 8 + 240)).toNat = n / 262144 + 240 := by
    rw [toNat_ofNat_byte (by omega)]
    omega
  have hallowed : secondByteAllowed (UInt8.ofNat (n / 262144 % 8 + 240))
      (UInt8.ofNat (n / 4096 % 64 + 128)) = true :=
    secondByteAllowed_ofNat (by omega) (by omega) (by omega) (by omega) (by omega) (by omega)
      (by omega)
  have hsum : (((n / 262144 + 240 - 240) * 64 + n / 4096 % 64) * 64 + n / 64 % 64) * 64 + n % 64
      = n := by omega
  unfold utf8Front
  simp only [UInt8.lt_iff_toNat_lt, hallowed, hgoes₂, hgoes₃, hbits₁, hbits₂, hbits₃, hlead,
    UInt8.reduceToNat, Bool.or_eq_true, decide_eq_true_eq, hsum, Bool.not_true]
  rw [if_neg (by omega), if_neg (by omega), if_neg (by omega), if_neg Bool.false_ne_true,
    if_neg Bool.false_ne_true, if_neg (by omega), if_neg Bool.false_ne_true]

end

/-- In front of the bytes of a character stands that character, whatever is behind it. The
four lengths come together here. -/
theorem utf8Front_encodeChar (c : Char) (rest : Bytes) :
    ∃ b bs, String.utf8EncodeChar c = b :: bs ∧
      utf8Front b (bs ++ rest) = .scalar c (bs.length + 1) := by
  have hvalid : c.val.toNat < 0xd800 ∨ 0xdfff < c.val.toNat ∧ c.val.toNat < 0x110000 := c.valid
  have hchar : Char.ofNat c.val.toNat = c := Char.ofNat_toNat c
  unfold String.utf8EncodeChar
  generalize c.val.toNat = n at hvalid hchar
  -- The lengths are those that `String.utf8EncodeChar` makes, by the number of the
  -- character.
  by_cases h1 : n ≤ 127
  · exact ⟨_, _, if_pos h1, hchar ▸ utf8Front_one rest h1⟩
  by_cases h2 : n ≤ 2047
  · refine ⟨_, _, (if_neg h1).trans (if_pos h2), ?_⟩
    exact hchar ▸ utf8Front_two rest (by omega) h2
  by_cases h3 : n ≤ 65535
  · refine ⟨_, _, (if_neg h1).trans ((if_neg h2).trans (if_pos h3)), ?_⟩
    exact hchar ▸ utf8Front_three rest (by omega) h3 (by omega)
  · refine ⟨_, _, (if_neg h1).trans ((if_neg h2).trans (if_neg h3)), ?_⟩
    exact hchar ▸ utf8Front_four rest (by omega) (by omega)

/-- The bytes of some characters are read as them, wherever in a text they are. `index` is
told in faults only. -/
theorem decodeFrom_bytesOf (index : Nat) (cs : List Char) :
    decodeFrom index (bytesOf cs) = .ok cs := by
  induction cs generalizing index with
  | nil => rw [bytesOf_nil, decodeFrom]
  | cons c cs ih =>
    -- The bytes of the first character are in front, and decoding goes on behind them.
    obtain ⟨b, bs, hbytes, hfront⟩ := utf8Front_encodeChar c (bytesOf cs)
    rw [bytesOf_cons, hbytes, List.cons_append, decodeFrom, hfront]
    dsimp only
    rw [Nat.add_sub_cancel, List.drop_left, ih]
    rfl

/-- The bytes of a text are read as the text. -/
theorem decode_encode (s : String) : decode (encode s) = .ok s := by
  have hchars : decodeFrom 0 (encode s) = .ok s.toList := decodeFrom_bytesOf 0 s.toList
  rw [decode, hchars]
  exact congrArg Except.ok String.ofList_toList

/-! ### Bytes that are read as a text -/

/-- A number that is allowed is that of its character. -/
theorem toNat_ofNat_char {n : Nat} (h : n.isValidChar) : (Char.ofNat n).val.toNat = n := by
  rw [Char.ofNat, dif_pos h]
  rfl

/-- A byte is the byte of its number. -/
theorem ofNat_eq_byte {b : UInt8} {n : Nat} (h : b.toNat = n) : UInt8.ofNat n = b := by
  rw [← h, UInt8.ofNat_toNat]

/-- A byte that goes on a sequence is told by its six bits. -/
theorem toNat_of_isContinuation {b : UInt8} (h : isContinuation b = true) :
    b.toNat = payload b + 128 ∧ payload b < 64 := by
  have hlow : (0x80 : UInt8).toNat = 128 := rfl
  have hhigh : (0xbf : UInt8).toNat = 191 := rfl
  rw [isContinuation] at h
  simp only [UInt8.le_iff_toNat_le, hlow, hhigh, Bool.and_eq_true, decide_eq_true_eq] at h
  rw [payload]
  omega

/-- A second byte that is allowed goes on a sequence and keeps the limits that the first
byte sets. This is the way back from `secondByteAllowed_ofNat`, in terms of the bits. -/
theorem toNat_of_secondByteAllowed {b b₁ : UInt8} (h : secondByteAllowed b b₁ = true) :
    b₁.toNat = payload b₁ + 128 ∧ payload b₁ < 64 ∧ (b.toNat = 0xe0 → 32 ≤ payload b₁) ∧
      (b.toNat = 0xed → payload b₁ < 32) ∧ (b.toNat = 0xf0 → 16 ≤ payload b₁) ∧
      (b.toNat = 0xf4 → payload b₁ < 16) := by
  unfold secondByteAllowed at h
  simp only [UInt8.le_iff_toNat_le, beq_iff_eq, ← UInt8.toNat_inj, apply_ite UInt8.toNat,
    UInt8.reduceToNat, Bool.and_eq_true, decide_eq_true_eq] at h
  rw [payload]
  grind

section
variable {b b₁ b₂ b₃ : UInt8}

/-- A byte below 128 is all of its character. -/
theorem utf8EncodeChar_one (h : b.toNat < 128) :
    String.utf8EncodeChar (Char.ofNat b.toNat) = [b] := by
  rw [String.utf8EncodeChar, toNat_ofNat_char (.inl (by omega)), if_pos (by omega),
    UInt8.ofNat_toNat]

/-- Two bytes that are read as a character are its bytes: as the first is not below `0xc2`,
the character takes two. -/
theorem utf8EncodeChar_two (h : 0xc2 ≤ b.toNat) (h' : b.toNat < 0xe0)
    (hgoes : isContinuation b₁ = true) :
    String.utf8EncodeChar (Char.ofNat ((b.toNat - 0xc0) * 64 + payload b₁)) = [b, b₁] := by
  obtain ⟨hb₁, hbits₁⟩ := toNat_of_isContinuation hgoes
  -- The number has at least eight and at most eleven bits, so its bytes are these two.
  rw [String.utf8EncodeChar, toNat_ofNat_char (.inl (by omega)), if_neg (by omega),
    if_pos (by omega), ofNat_eq_byte (b := b) (by omega), ofNat_eq_byte (b := b₁) (by omega)]

/-- Three bytes that are read as a character are its bytes. The limits of the second byte
make the number large enough, and no surrogate. -/
theorem utf8EncodeChar_three (h : 0xe0 ≤ b.toNat) (h' : b.toNat < 0xf0)
    (hallowed : secondByteAllowed b b₁ = true) (hgoes : isContinuation b₂ = true) :
    String.utf8EncodeChar
        (Char.ofNat (((b.toNat - 0xe0) * 64 + payload b₁) * 64 + payload b₂))
      = [b, b₁, b₂] := by
  obtain ⟨hb₁, hbits₁, he0, hed, -, -⟩ := toNat_of_secondByteAllowed hallowed
  obtain ⟨hb₂, hbits₂⟩ := toNat_of_isContinuation hgoes
  -- `hed` keeps the number out of the surrogates, and `he0` makes it too large for two
  -- bytes.
  have hvalid : (((b.toNat - 0xe0) * 64 + payload b₁) * 64 + payload b₂).isValidChar := by
    rw [Nat.isValidChar]
    omega
  rw [String.utf8EncodeChar, toNat_ofNat_char hvalid, if_neg (by omega), if_neg (by omega),
    if_pos (by omega), ofNat_eq_byte (b := b) (by omega), ofNat_eq_byte (b := b₁) (by omega),
    ofNat_eq_byte (b := b₂) (by omega)]

/-- Four bytes that are read as a character are its bytes. The limits of the second byte
make the number large enough, and small enough to be one. -/
theorem utf8EncodeChar_four (h : 0xf0 ≤ b.toNat) (h' : b.toNat ≤ 0xf4)
    (hallowed : secondByteAllowed b b₁ = true) (hgoes₂ : isContinuation b₂ = true)
    (hgoes₃ : isContinuation b₃ = true) :
    String.utf8EncodeChar
        (Char.ofNat
          ((((b.toNat - 0xf0) * 64 + payload b₁) * 64 + payload b₂) * 64 + payload b₃))
      = [b, b₁, b₂, b₃] := by
  obtain ⟨hb₁, hbits₁, -, -, hf0, hf4⟩ := toNat_of_secondByteAllowed hallowed
  obtain ⟨hb₂, hbits₂⟩ := toNat_of_isContinuation hgoes₂
  obtain ⟨hb₃, hbits₃⟩ := toNat_of_isContinuation hgoes₃
  have hvalid : ((((b.toNat - 0xf0) * 64 + payload b₁) * 64 + payload b₂) * 64
      + payload b₃).isValidChar := by
    rw [Nat.isValidChar]
    omega
  rw [String.utf8EncodeChar, toNat_ofNat_char hvalid, if_neg (by omega), if_neg (by omega),
    if_neg (by omega), ofNat_eq_byte (b := b) (by omega), ofNat_eq_byte (b := b₁) (by omega),
    ofNat_eq_byte (b := b₂) (by omega), ofNat_eq_byte (b := b₃) (by omega)]

end

/-- A character that is read has the bytes that it is read from. So there is one way only to
write it. -/
theorem encodeChar_of_utf8Front {b : UInt8} {rest : Bytes} {c : Char} {width : Nat}
    (h : utf8Front b rest = .scalar c width) :
    ∃ bs behind, rest = bs ++ behind ∧ width = bs.length + 1 ∧
      String.utf8EncodeChar c = b :: bs := by
  unfold utf8Front at h
  simp only [UInt8.lt_iff_toNat_lt, UInt8.reduceToNat, Bool.or_eq_true, decide_eq_true_eq]
    at h
  -- The first byte says how many belong together; those behind it are checked in order.
  split at h
  case isTrue hone =>
    cases h
    exact ⟨[], rest, rfl, rfl, utf8EncodeChar_one hone⟩
  split at h
  case isTrue => cases h
  case isFalse hlead =>
  split at h
  case isTrue htwo =>
    cases rest with
    | nil => cases h
    | cons b₁ behind =>
      dsimp only at h
      split at h
      case isFalse => cases h
      case isTrue hgoes =>
        cases h
        exact ⟨[b₁], behind, rfl, rfl, utf8EncodeChar_two (by omega) htwo hgoes⟩
  case isFalse htwo =>
    rcases rest with _ | ⟨b₁, _ | ⟨b₂, rest₃⟩⟩
    · cases h
    · dsimp only at h
      split at h <;> cases h
    · dsimp only at h
      split at h
      case isTrue => cases h
      case isFalse hsecond =>
      have hallowed : secondByteAllowed b b₁ = true := by simpa using hsecond
      split at h
      case isTrue => cases h
      case isFalse hthird =>
      have hgoes₂ : isContinuation b₂ = true := by simpa using hthird
      split at h
      case isTrue hthree =>
        cases h
        exact ⟨[b₁, b₂], rest₃, rfl, rfl,
          utf8EncodeChar_three (by omega) hthree hallowed hgoes₂⟩
      case isFalse hfour =>
        cases rest₃ with
        | nil => cases h
        | cons b₃ behind =>
          dsimp only at h
          split at h
          case isTrue => cases h
          case isFalse hlast =>
            cases h
            exact ⟨[b₁, b₂, b₃], behind, rfl, rfl,
              utf8EncodeChar_four (by omega) (by omega) hallowed hgoes₂ (by simpa using hlast)⟩

/-- Bytes that are read as some characters are theirs. The induction follows `decodeFrom`, a
character at a time. -/
theorem bytesOf_of_decodeFrom {index : Nat} {bs : Bytes} {cs : List Char}
    (h : decodeFrom index bs = .ok cs) : bs = bytesOf cs := by
  fun_induction decodeFrom index bs generalizing cs with
  | case1 =>
    cases h
    rfl
  | case2 index b rest c width hfront ih =>
    cases hrest : decodeFrom (index + width) (rest.drop (width - 1)) with
    | error fault =>
      rw [hrest] at h
      cases h
    | ok cs' =>
      rw [hrest] at h
      cases h
      -- The first character has the bytes in front, and `ih` is about those behind them.
      obtain ⟨bs, behind, rfl, rfl, hbytes⟩ := encodeChar_of_utf8Front hfront
      rw [Nat.add_sub_cancel, List.drop_left] at ih hrest
      rw [bytesOf_cons, hbytes, List.cons_append, ← ih hrest]
  | case3 => cases h
  | case4 => cases h

/-- **Bytes are read as a text just if they are its bytes.** -/
theorem decode_eq_ok_iff {bs : Bytes} {s : String} : decode bs = .ok s ↔ bs = encode s := by
  constructor
  · intro h
    rw [decode] at h
    cases hchars : decodeFrom 0 bs with
    | error fault =>
      rw [hchars] at h
      cases h
    | ok cs =>
      rw [hchars] at h
      cases h
      rw [encode_ofList]
      exact bytesOf_of_decodeFrom hchars
  · rintro rfl
    exact decode_encode s

end ScriptMatrix.Text
