import Mathlib.Data.List.TakeWhile
import ScriptMatrix.Proofs.Decimal.Shortest
import ScriptMatrix.Yaml.Number

/-!
# `ScriptMatrix.Proofs.Yaml.NumberText`: a number is known by its text

`numeral` reads the text of a decimal: digits, perhaps with a point among them and
an exponent behind. However a decimal is written, this is the number it stands for
(`numeral_scaledText`). So real numbers with one text have one shortest decimal and
are the same number. Integers and real numbers are told apart by a point or an
exponent, and the words for the other numbers by their letters
(`Number.same_of_text_eq`).
-/

set_option autoImplicit false

namespace ScriptMatrix.Yaml

open ScriptMatrix.Decimal (Binary64 Scaled)

namespace Number

/-! ### Reading decimals -/

/-- The number that digits write, perhaps with a point among them. The digits behind the
point are counted for the power of ten. -/
def pointed (cs : List Char) : ℚ :=
  Nat.ofDigitChars 10 (cs.filter (· != '.')) 0
    * 10 ^ (-(((cs.dropWhile (· != '.')).drop 1).length : ℤ))

/-- The integer that digits write, perhaps with a minus in front. -/
def signed : List Char → Int
  | '-' :: cs => -(Nat.ofDigitChars 10 cs 0 : Int)
  | cs => Nat.ofDigitChars 10 cs 0

/-- The number that a decimal writes, perhaps with an exponent behind an `e`. It is defined
for all texts, and meant for those of `scaledText`. -/
def numeral (cs : List Char) : ℚ :=
  pointed (cs.takeWhile (· != 'e')) * 10 ^ signed ((cs.dropWhile (· != 'e')).drop 1)

/-- Only digits. What is not one of them is a mark that a reader can look for. -/
def Digits (cs : List Char) : Prop := ∀ c ∈ cs, c.isDigit = true

/-- Among digits there is no mark, be it a point, an exponent or a minus. -/
theorem Digits.bne {cs : List Char} (h : Digits cs) {mark : Char} (hmark : mark.isDigit = false) :
    ∀ c ∈ cs, (c != mark) = true := fun c hc =>
  bne_iff_ne.mpr fun heq => by
    rw [← heq, h c hc] at hmark
    cases hmark

/-- Digits behind digits are digits. -/
theorem Digits.append {cs ds : List Char} (hcs : Digits cs) (hds : Digits ds) :
    Digits (cs ++ ds) := List.forall_mem_append.mpr ⟨hcs, hds⟩

/-- The digits of a natural are digits. -/
theorem digits_toDigits (n : Nat) : Digits (Nat.toDigits 10 n) := fun _ =>
  Nat.isDigit_of_mem_toDigits (by decide) le_rfl

/-- Zeros are digits. -/
theorem digits_zeros (n : Nat) : Digits (List.replicate n '0') := fun c hc => by
  rw [List.eq_of_mem_replicate hc]
  rfl

/-- Digits in front leave no minus to read. -/
theorem signed_digits {cs : List Char} (h : Digits cs) :
    signed cs = (Nat.ofDigitChars 10 cs 0 : Int) := by
  rw [signed]
  rintro ds rfl
  cases h '-' List.mem_cons_self

/-- The text of an integer is read as the integer. So no two integers are written alike. -/
theorem signed_toString (i : Int) : signed (toString i).toList = i := by
  rw [Int.toString_eq_repr, Int.repr_eq_if]
  -- A negative integer has a minus in front of its digits.
  split
  · rw [Nat.repr_eq_ofList_toDigits, String.toList_ofList, signed_digits (digits_toDigits _),
      Nat.ofDigitChars_ten_toDigits]
    omega
  · simp only [Nat.repr_eq_ofList_toDigits, String.toList_append, String.toList_ofList]
    show -(Nat.ofDigitChars 10 (Nat.toDigits 10 (-i).toNat) 0 : Int) = i
    rw [Nat.ofDigitChars_ten_toDigits]
    omega

/-- Without a point the digits are those of a natural. -/
theorem pointed_digits {cs : List Char} (h : Digits cs) :
    pointed cs = Nat.ofDigitChars 10 cs 0 := by
  have hmark : ∀ c ∈ cs, (c != '.') = true := h.bne rfl
  rw [pointed, List.filter_eq_self.mpr hmark, List.dropWhile_eq_nil_iff.mpr hmark]
  simp

/-- With a point those behind it count as fractions, and all digits are read as one natural. -/
theorem pointed_point {front back : List Char} (hfront : Digits front) (hback : Digits back) :
    pointed (front ++ '.' :: back)
      = Nat.ofDigitChars 10 (front ++ back) 0 * 10 ^ (-(back.length : ℤ)) := by
  -- The point is left out of the digits, and those behind it are counted.
  rw [pointed, List.filter_append, List.filter_cons_of_neg (by decide),
    List.filter_eq_self.mpr (hfront.bne rfl), List.filter_eq_self.mpr (hback.bne rfl),
    List.dropWhile_append_of_pos (hfront.bne rfl), List.dropWhile_cons_of_neg (by decide)]
  rfl

/-- Without an exponent, a decimal is what its digits write. -/
theorem numeral_of_notMem {cs : List Char} (h : ∀ c ∈ cs, (c != 'e') = true) :
    numeral cs = pointed cs := by
  rw [numeral, List.takeWhile_eq_self_iff.mpr h, List.dropWhile_eq_nil_iff.mpr h, List.drop_nil]
  exact (congrArg (pointed cs * ·) (zpow_zero 10)).trans (mul_one _)

/-- With an exponent, a decimal is what its digits write, times a power of ten. -/
theorem numeral_exponent {cs : List Char} (h : ∀ c ∈ cs, (c != 'e') = true) (i : Int) :
    numeral (cs ++ 'e' :: (toString i).toList) = pointed cs * 10 ^ i := by
  rw [numeral, List.takeWhile_append_of_pos h, List.takeWhile_cons_of_neg (by decide),
    List.append_nil, List.dropWhile_append_of_pos h, List.dropWhile_cons_of_neg (by decide),
    List.drop_one, List.tail_cons, signed_toString]

/-- Digits and a point are no exponent. -/
theorem bne_of_point {front back : List Char} (hfront : Digits front) (hback : Digits back) :
    ∀ c ∈ front ++ '.' :: back, (c != 'e') = true :=
  List.forall_mem_append.mpr ⟨hfront.bne rfl, List.forall_mem_cons.mpr ⟨rfl, hback.bne rfl⟩⟩

/-- What digits with a point among them write, where there is no exponent. -/
theorem numeral_point {front back : List Char} (hfront : Digits front) (hback : Digits back) :
    numeral (front ++ '.' :: back)
      = Nat.ofDigitChars 10 (front ++ back) 0 * 10 ^ (-(back.length : ℤ)) := by
  rw [numeral_of_notMem (bne_of_point hfront hback), pointed_point hfront hback]

section
variable {digits : List Char} (hdigits : Digits digits)
include hdigits

/-- Zeros behind the digits and a fraction of zero. This is how large numbers are written,
and the first of the four forms of `scaledText`. -/
theorem numeral_whole (n : Nat) :
    numeral (digits ++ List.replicate n '0' ++ ".0".toList)
      = Nat.ofDigitChars 10 digits 0 * 10 ^ (n : ℤ) := by
  have hfraction : ".0".toList = '.' :: List.replicate 1 '0' := rfl
  -- The zeros in front of the point are a power of ten, and the one behind it makes no
  -- difference.
  rw [hfraction, numeral_point (hdigits.append (digits_zeros n)) (digits_zeros 1),
    Nat.ofDigitChars_append, Nat.ofDigitChars_append, Nat.ofDigitChars_replicate_zero,
    Nat.ofDigitChars_replicate_zero, List.length_replicate]
  push_cast
  rw [zpow_natCast, zpow_neg_one]
  ring

/-- A point among the digits, the second form. -/
theorem numeral_middle {n : Nat} (hn : n ≤ digits.length) :
    numeral (digits.take n ++ '.' :: digits.drop n)
      = Nat.ofDigitChars 10 digits 0 * 10 ^ ((n : ℤ) - digits.length) := by
  have htake : Digits (digits.take n) := fun c hc => hdigits c (List.mem_of_mem_take hc)
  have hdrop : Digits (digits.drop n) := fun c hc => hdigits c (List.mem_of_mem_drop hc)
  rw [numeral_point htake hdrop, List.take_append_drop, List.length_drop, Nat.cast_sub hn, neg_sub]

/-- Zeros in front of the digits, the third form. -/
theorem numeral_fraction (n : Nat) :
    numeral ('0' :: '.' :: (List.replicate n '0' ++ digits))
      = Nat.ofDigitChars 10 digits 0 * 10 ^ (-((n : ℤ) + digits.length)) := by
  have hfront : Digits ['0'] := digits_zeros 1
  -- Zeros in front of digits do not count.
  have hread : Nat.ofDigitChars 10 (['0'] ++ (List.replicate n '0' ++ digits)) 0
      = Nat.ofDigitChars 10 digits 0 := by
    show Nat.ofDigitChars 10 (List.replicate 1 '0' ++ (List.replicate n '0' ++ digits)) 0 = _
    rw [Nat.ofDigitChars_append, Nat.ofDigitChars_append, Nat.ofDigitChars_replicate_zero,
      Nat.ofDigitChars_replicate_zero, Nat.mul_zero]
  refine (numeral_point hfront ((digits_zeros n).append hdigits)).trans ?_
  rw [hread, List.length_append, List.length_replicate]
  push_cast
  rfl

/-- One digit in front of the point and an exponent, the last form. Where there is one digit
there is no point either. -/
theorem numeral_scientific (hne : digits ≠ []) (i : Int) :
    numeral (digits.take 1 ++ (if (digits.drop 1).isEmpty then [] else '.' :: digits.drop 1)
        ++ 'e' :: (toString i).toList)
      = Nat.ofDigitChars 10 digits 0 * 10 ^ (i + 1 - digits.length) := by
  obtain ⟨c, rest, rfl⟩ := List.exists_cons_of_ne_nil hne
  have hc : Digits [c] := fun d hd => hdigits d (List.mem_of_mem_take (i := 1) hd)
  have hrest : Digits rest := fun d hd => hdigits d (List.mem_cons_of_mem c hd)
  -- A single digit is written without a point.
  cases rest with
  | nil =>
    refine (numeral_exponent (hc.bne rfl) i).trans ?_
    rw [pointed_digits hc, List.length_singleton, Nat.cast_one, add_sub_cancel_right]
  | cons d rest =>
    refine (numeral_exponent (bne_of_point hc hrest) i).trans ?_
    rw [pointed_point hc hrest, mul_assoc, ← zpow_add₀ (by norm_num)]
    simp only [List.length_cons]
    push_cast
    rw [add_sub_add_right_eq_sub, neg_add_eq_sub]
    rfl

end

/-- The text of a decimal writes it, in whichever of the four forms. So the decimal is known
from its text. -/
theorem numeral_scaledText (d : Scaled) : numeral (scaledText d).toList = d.value := by
  obtain ⟨number, exponent⟩ := d
  have hdigits := digits_toDigits number
  have hpos : 0 < (Nat.toDigits 10 number).length := Nat.length_toDigits_pos
  have hread : Nat.ofDigitChars 10 (Nat.toDigits 10 number) 0 = number :=
    Nat.ofDigitChars_ten_toDigits
  rw [scaledText, Scaled.value]
  dsimp only
  -- From here on the digits are any digits that read as the number.
  generalize Nat.toDigits 10 number = digits at hdigits hpos hread
  split
  · rename_i hform
    simp only [Bool.and_eq_true, decide_eq_true_eq] at hform
    have hwhole := numeral_whole hdigits exponent.toNat
    rw [Int.toNat_of_nonneg hform.1, hread] at hwhole
    simpa only [zeros, String.toList_append, String.toList_ofList] using hwhole
  split
  · rename_i hwhole hform
    simp only [Bool.and_eq_true, decide_eq_true_eq, not_and] at hwhole hform
    have hmiddle := numeral_middle hdigits (n := (digits.length + exponent).toNat) (by omega)
    rw [Int.toNat_of_nonneg hform.1.le, add_sub_cancel_left, hread] at hmiddle
    simp only [String.toList_append, String.toList_ofList, List.append_assoc]
    exact hmiddle
  split
  · rename_i hform
    simp only [Bool.and_eq_true, decide_eq_true_eq] at hform
    have hfraction := numeral_fraction hdigits (-(digits.length + exponent)).toNat
    have hexponent : -(((-(digits.length + exponent)).toNat : ℤ) + digits.length) = exponent := by
      omega
    rw [hexponent, hread] at hfraction
    simp only [zeros, String.toList_append, String.toList_ofList, List.append_assoc]
    exact hfraction
  · have hscientific := numeral_scientific hdigits (List.ne_nil_of_length_pos hpos)
      (digits.length + exponent - 1)
    rw [sub_add_cancel, add_sub_cancel_left, hread] at hscientific
    simp only [String.toList_append, String.toList_ofList, apply_ite String.toList,
      List.append_assoc] at hscientific ⊢
    exact hscientific

/-! ### Telling numbers apart -/

/-- A text that begins with a digit. -/
def Unsigned (cs : List Char) : Prop := ∃ c rest, cs = c :: rest ∧ c.isDigit = true

/-- A text that begins with a digit, perhaps behind a minus. Integers and real numbers are
written so, and the words for other scalars are not. -/
def Numeric (cs : List Char) : Prop := Unsigned cs ∨ ∃ ds, cs = '-' :: ds ∧ Unsigned ds

/-- What stands behind does not change that a text begins with a digit. -/
theorem Unsigned.append {cs : List Char} (h : Unsigned cs) (ds : List Char) :
    Unsigned (cs ++ ds) := by
  obtain ⟨c, rest, rfl, hc⟩ := h
  exact ⟨c, rest ++ ds, rfl, hc⟩

/-- Digits begin with a digit, if there are any. -/
theorem Digits.unsigned {cs : List Char} (h : Digits cs) (hne : cs ≠ []) : Unsigned cs := by
  obtain ⟨c, rest, rfl⟩ := List.exists_cons_of_ne_nil hne
  exact ⟨c, rest, rfl, h c List.mem_cons_self⟩

/-- A minus is no digit. -/
theorem not_unsigned_minus (cs : List Char) : ¬Unsigned ('-' :: cs) := by
  rintro ⟨c, rest, heq, hc⟩
  cases heq
  cases hc

/-- The text of a decimal begins with a digit, and it has a point or an exponent. The first
tells it from words, the second from integers. -/
theorem scaledText_form (d : Scaled) :
    Unsigned (scaledText d).toList ∧ ∃ c ∈ (scaledText d).toList, c = '.' ∨ c = 'e' := by
  have hdigits := digits_toDigits d.digits
  have hne : Nat.toDigits 10 d.digits ≠ [] := Nat.toDigits_ne_nil
  have hpos := List.length_pos_iff.mpr hne
  rw [scaledText]
  generalize Nat.toDigits 10 d.digits = digits at hdigits hne hpos
  -- In each form the text begins with a digit of the number or with a zero.
  have htake : ∀ n : Nat, 0 < n → Unsigned (digits.take n) := fun n hn => by
    refine Digits.unsigned (fun c hc => hdigits c (List.mem_of_mem_take hc)) ?_
    simp [hne, hn.ne']
  dsimp only
  split
  · simp only [zeros, String.toList_append, String.toList_ofList]
    exact ⟨((hdigits.unsigned hne).append _).append _, '.', by simp, .inl rfl⟩
  split
  · rename_i hform
    simp only [Bool.and_eq_true, decide_eq_true_eq] at hform
    simp only [String.toList_append, String.toList_ofList]
    exact ⟨((htake _ (by omega)).append _).append _, '.', by simp, .inl rfl⟩
  split
  · simp only [zeros, String.toList_append, String.toList_ofList]
    exact ⟨⟨'0', _, rfl, rfl⟩, '.', by simp, .inl rfl⟩
  · simp only [String.toList_append, String.toList_ofList]
    exact ⟨(((htake 1 one_pos).append _).append _).append _, 'e', by simp, .inr rfl⟩

/-- The text of an integer is digits, perhaps behind a minus. -/
theorem integer_form (i : Int) :
    ∃ digits, Digits digits ∧ digits ≠ [] ∧
      ((toString i).toList = digits ∨ (toString i).toList = '-' :: digits) := by
  rw [Int.toString_eq_repr, Int.repr_eq_if]
  split
  · refine ⟨_, digits_toDigits i.toNat, Nat.toDigits_ne_nil, .inl ?_⟩
    rw [Nat.repr_eq_ofList_toDigits, String.toList_ofList]
  · refine ⟨_, digits_toDigits (-i).toNat, Nat.toDigits_ne_nil, .inr ?_⟩
    simp only [Nat.repr_eq_ofList_toDigits, String.toList_append, String.toList_ofList]
    rfl

/-- A real number is written as its sign and its shortest decimal. -/
theorem toList_text_real (negative : Bool) (x : Binary64) :
    (real negative x).text.toList
      = (if negative then ['-'] else []) ++ (scaledText x.shortest).toList := by
  rw [text, String.toList_append]
  cases negative <;> rfl

/-- Integers are written in figures. -/
theorem numeric_integer (i : Int) : Numeric (integer i).text.toList := by
  obtain ⟨digits, hdigits, hne, hform⟩ := integer_form i
  rw [text]
  exact hform.imp (fun h => by rw [h]; exact hdigits.unsigned hne)
    fun h => ⟨digits, h, hdigits.unsigned hne⟩

/-- Real numbers are written in figures. -/
theorem numeric_real (negative : Bool) (x : Binary64) : Numeric (real negative x).text.toList := by
  rw [toList_text_real]
  cases negative with
  | false => exact .inl (scaledText_form _).1
  | true => exact .inr ⟨_, rfl, (scaledText_form _).1⟩

/-- The words for other scalars are not written in figures. Their first character tells,
behind a minus. -/
theorem not_numeric_words {word : String}
    (hword : word ∈ [".inf", "-.inf", ".nan", "true", "false", ""]) : ¬Numeric word.toList := by
  -- In figures the first character behind a minus is a digit.
  have hfirst : ∀ {cs}, Numeric cs → (cs.dropWhile (· == '-')).head?.any Char.isDigit = true := by
    have hunsigned : ∀ {cs}, Unsigned cs →
        (cs.dropWhile (· == '-')).head?.any Char.isDigit = true := by
      rintro _ ⟨c, rest, rfl, hc⟩
      have hminus : ¬(c == '-') = true := fun heq => by
        rw [beq_iff_eq.mp heq] at hc
        cases hc
      rw [List.dropWhile_cons, if_neg hminus]
      exact hc
    rintro _ (h | ⟨ds, rfl, h⟩)
    · exact hunsigned h
    · rw [List.dropWhile_cons_of_pos rfl]
      exact hunsigned h
  have hwords : ∀ word ∈ [".inf", "-.inf", ".nan", "true", "false", ""],
      (word.toList.dropWhile (· == '-')).head?.any Char.isDigit = false := by
    decide
  intro h
  have htrue := hfirst h
  rw [hwords word hword] at htrue
  cases htrue

/-- The numbers that can be read: real numbers are written in the normal way. Others of the
same value have the same text. -/
def Normal : Number → Prop
  | .real _ x => x.Normal
  | _ => True

/-- No integer is written like a real number, which has a point or an exponent. -/
theorem text_integer_ne_real (i : Int) (negative : Bool) (x : Binary64) :
    (integer i).text ≠ (real negative x).text := by
  intro h
  obtain ⟨digits, hdigits, -, hform⟩ := integer_form i
  obtain ⟨-, c, hc, hmark⟩ := scaledText_form x.shortest
  have hmem : c ∈ (toString i).toList := by
    rw [show toString i = (real negative x).text from h, toList_text_real]
    exact List.mem_append_right _ hc
  -- A point or an exponent is no digit, and no minus either.
  have hdigit : c.isDigit = false ∧ c ≠ '-' := by
    rcases hmark with rfl | rfl <;> decide
  have hin : c ∈ digits := by
    rcases hform with hform | hform
    · exact hform ▸ hmem
    · rw [hform] at hmem
      exact List.mem_of_ne_of_mem hdigit.2 hmem
  rw [hdigits c hin] at hdigit
  cases hdigit.1

/-- Real numbers with one text are one number. Their shortest decimals have one value, and
that is enough (`shortest_injective`). -/
theorem real_of_text_eq {s t : Bool} {x y : Binary64} (hx : x.Normal) (hy : y.Normal)
    (h : (real s x).text = (real t y).text) : s = t ∧ x = y := by
  have hlist := congrArg String.toList h
  rw [toList_text_real, toList_text_real] at hlist
  have hsplit : s = t ∧ (scaledText x.shortest).toList = (scaledText y.shortest).toList := by
    -- One minus more on one side would have to be a digit.
    cases s <;> cases t
    · exact ⟨rfl, hlist⟩
    · have hminus : (scaledText x.shortest).toList = '-' :: (scaledText y.shortest).toList := hlist
      exact absurd (hminus ▸ (scaledText_form x.shortest).1) (not_unsigned_minus _)
    · have hminus : '-' :: (scaledText x.shortest).toList = (scaledText y.shortest).toList := hlist
      exact absurd (hminus ▸ (scaledText_form y.shortest).1) (not_unsigned_minus _)
    · exact ⟨rfl, List.tail_eq_of_cons_eq hlist⟩
  -- One text reads as one number, which is the value of both decimals.
  have hvalue : x.shortest.value = y.shortest.value := by
    rw [← numeral_scaledText, ← numeral_scaledText, hsplit.2]
  exact ⟨hsplit.1, Binary64.shortest_injective hx hy hvalue⟩

/-- An integer or a real number is not written like a word. -/
theorem text_ne_word {n : Number} (hn : Numeric n.text.toList) {word : String}
    (hword : word ∈ [".inf", "-.inf", ".nan", "true", "false", ""]) : n.text ≠ word := fun h =>
  not_numeric_words hword (h ▸ hn)

/-- The words for infinite numbers are words, and so no figures. -/
theorem text_infinite_mem (negative : Bool) :
    (infinite negative).text ∈ [".inf", "-.inf", ".nan", "true", "false", ""] := by
  cases negative <;> decide

/-- Numbers with one text are one number. There is one case for each pair of kinds. -/
theorem same_of_text_eq {m n : Number} (hm : m.Normal) (hn : n.Normal) (h : m.text = n.text) :
    m.same n = true := by
  have hword := text_infinite_mem
  have hnan : undefined.text ∈ [".inf", "-.inf", ".nan", "true", "false", ""] := by decide
  cases m with
  | integer i =>
    -- An integer is written in figures, and differently from real numbers.
    have hfigures := numeric_integer i
    cases n with
    | integer j =>
      have hij : i = j := by
        rw [← signed_toString i, ← signed_toString j]
        exact congrArg (fun s => signed s.toList) h
      rw [hij]
      exact beq_self_eq_true j
    | real t y => exact absurd h (text_integer_ne_real i t y)
    | infinite t => exact absurd h (text_ne_word hfigures (hword t))
    | undefined => exact absurd h (text_ne_word hfigures hnan)
  | real s x =>
    have hfigures := numeric_real s x
    cases n with
    | integer j => exact absurd h.symm (text_integer_ne_real j s x)
    | real t y =>
      obtain ⟨rfl, rfl⟩ := real_of_text_eq hm hn h
      simp [same]
    | infinite t => exact absurd h (text_ne_word hfigures (hword t))
    | undefined => exact absurd h (text_ne_word hfigures hnan)
  | infinite s =>
    cases n with
    | integer j => exact absurd h.symm (text_ne_word (numeric_integer j) (hword s))
    | real t y => exact absurd h.symm (text_ne_word (numeric_real t y) (hword s))
    | infinite t =>
      revert h
      cases s <;> cases t <;> decide
    | undefined =>
      revert h
      cases s <;> decide
  | undefined =>
    cases n with
    | integer j => exact absurd h.symm (text_ne_word (numeric_integer j) hnan)
    | real t y => exact absurd h.symm (text_ne_word (numeric_real t y) hnan)
    | infinite t =>
      revert h
      cases t <;> decide
    | undefined => rfl

end Number

end ScriptMatrix.Yaml
