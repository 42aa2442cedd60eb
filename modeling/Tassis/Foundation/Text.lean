import Mathlib.Data.Nat.Digits.Defs
import Mathlib.Tactic.Ring

/-! # Text

Strings as character lists, and the operations on them that do not depend on
what a text is for: splitting at a separator, decimal numerals, and how the
order of numerals as text relates to the order of the numbers they denote.
-/

namespace Tassis

/-- A string or byte sequence. Comparison with `<` is the lexicographic order
of the characters. -/
abbrev Text := List Char

instance : LawfulBEq Text := inferInstance

namespace Text

/-! ## Splitting -/

theorem splitOn_pair {separator : Char} {left right : Text}
    (leftAbsent : separator ∉ left) (rightAbsent : separator ∉ right) :
    (left ++ separator :: right).splitOn separator = [left, right] := by
  have joined := @List.splitOn_intercalate Char [left, right] _ _ separator
    (by simp [leftAbsent, rightAbsent]) (by simp)
  simpa [List.intercalate, List.intersperse] using joined

theorem splitOn_triple {separator : Char} {first second third : Text}
    (firstAbsent : separator ∉ first) (secondAbsent : separator ∉ second)
    (thirdAbsent : separator ∉ third) :
    (first ++ separator :: (second ++ separator :: third)).splitOn separator =
      [first, second, third] := by
  have joined := @List.splitOn_intercalate Char [first, second, third] _ _ separator
    (by simp [firstAbsent, secondAbsent, thirdAbsent]) (by simp)
  simpa [List.intercalate, List.intersperse] using joined

/-- Text around a separator that does not occur before it is determined by the
whole. -/
theorem append_separator_inj {separator : Char} {left left' right right' : Text}
    (leftAbsent : separator ∉ left) (leftAbsent' : separator ∉ left')
    (equal : left ++ separator :: right = left' ++ separator :: right') :
    left = left' ∧ right = right' := by
  induction left generalizing left' with
  | nil =>
      cases left' with
      | nil => simpa using equal
      | cons head tail =>
          simp only [List.nil_append, List.cons_append, List.cons.injEq] at equal
          exact absurd (by simp [equal.1]) leftAbsent'
  | cons head tail induction =>
      cases left' with
      | nil =>
          simp only [List.nil_append, List.cons_append, List.cons.injEq] at equal
          exact absurd (by simp [equal.1]) leftAbsent
      | cons head' tail' =>
          simp only [List.cons_append, List.cons.injEq] at equal
          have tails := induction (fun member => leftAbsent (by simp [member]))
            (fun member => leftAbsent' (by simp [member])) equal.2
          exact ⟨by rw [equal.1, tails.1], tails.2⟩

/-! ## Avoiding a character -/

/-- Two characters for each character, none of them the special one. -/
def escaped (special : Char) (text : Text) : Text :=
  text.flatMap fun character => if character = special then ['a', 'a'] else ['b', character]

variable {special : Char}

theorem notMem_escaped (notFirst : special ≠ 'a') (notSecond : special ≠ 'b') (text : Text) :
    special ∉ escaped special text := by
  intro member
  rcases List.mem_flatMap.mp member with ⟨character, _, inBlock⟩
  split at inBlock
  · simp [notFirst] at inBlock
  · rename_i different
    simp [notSecond, Ne.symm different] at inBlock

theorem escaped_injective : Function.Injective (escaped special) := by
  intro left right equal
  induction left generalizing right with
  | nil =>
      cases right with
      | nil => rfl
      | cons character rest =>
          simp only [escaped, List.flatMap_nil, List.flatMap_cons] at equal
          split at equal <;> cases equal
  | cons character rest induction =>
      cases right with
      | nil =>
          simp only [escaped, List.flatMap_nil, List.flatMap_cons] at equal
          split at equal <;> cases equal
      | cons character' rest' =>
          simp only [escaped, List.flatMap_cons] at equal
          have same : character = character' ∧ escaped special rest = escaped special rest' := by
            split at equal <;> split at equal <;>
              simp_all [escaped]
          rw [same.1, induction same.2]

/-! ## Decimal numerals -/

/-- The decimal numeral of a number, without leading zeros. -/
def decimal (number : Nat) : Text := Nat.toDigits 10 number

/-- The number a sequence of decimal digits denotes. -/
def value (digits : Text) : Nat := Nat.ofDigitChars 10 digits 0

def Digits (text : Text) : Prop := ∀ digit, digit ∈ text → digit.isDigit = true

@[simp] theorem value_nil : value [] = 0 := rfl

theorem value_cons (digit : Char) (rest : Text) :
    value (digit :: rest) = (digit.toNat - 48) * 10 ^ rest.length + value rest := by
  unfold value
  rw [Nat.ofDigitChars_cons, Nat.ofDigitChars_eq_ofDigitChars_zero]
  have zeroCode : '0'.toNat = 48 := rfl
  rw [zeroCode]
  ring

@[simp] theorem value_decimal (number : Nat) : value (decimal number) = number :=
  Nat.ofDigitChars_ten_toDigits

theorem decimal_digits (number : Nat) : Digits (decimal number) := fun _ member =>
  Nat.isDigit_of_mem_toDigits (by omega) (by omega) member

theorem decimal_ne_nil (number : Nat) : decimal number ≠ [] :=
  Nat.toDigits_ne_nil

theorem decimal_injective : Function.Injective decimal := by
  intro left right equal
  rw [← value_decimal left, equal, value_decimal]

theorem Digits.notMem {text : Text} (digits : Digits text) {character : Char}
    (other : character.isDigit = false) : character ∉ text := by
  intro member
  rw [digits character member] at other
  cases other

theorem digit_code {digit : Char} (isDigit : digit.isDigit = true) :
    48 ≤ digit.toNat ∧ digit.toNat ≤ 57 := by
  simp only [Char.isDigit, Bool.and_eq_true, decide_eq_true_eq] at isDigit
  exact ⟨isDigit.1, isDigit.2⟩

theorem value_lt {digits : Text} (areDigits : Digits digits) :
    value digits < 10 ^ digits.length := by
  induction digits with
  | nil => simp
  | cons digit rest induction =>
      have code := digit_code (areDigits digit (by simp))
      have restBound := induction fun other member => areDigits other (by simp [member])
      rw [value_cons, List.length_cons, Nat.pow_succ]
      have digitBound : (digit.toNat - 48) * 10 ^ rest.length ≤ 9 * 10 ^ rest.length :=
        Nat.mul_le_mul_right _ (by omega)
      omega

/-! ## The order of numerals -/

/-- Two leading digits decide the order of what they lead, and the remainders
decide it where the digits are equal. -/
theorem leading_lt_iff (digit digit' : Nat) {rest rest' bound : Nat} (restBelow : rest < bound)
    (restBelow' : rest' < bound) :
    digit * bound + rest < digit' * bound + rest' ↔
      digit < digit' ∨ digit = digit' ∧ rest < rest' := by
  rcases Nat.lt_trichotomy digit digit' with smaller | equal | greater
  · have leading : (digit + 1) * bound ≤ digit' * bound := Nat.mul_le_mul_right _ smaller
    rw [Nat.add_mul] at leading
    omega
  · subst digit'
    omega
  · have leading : (digit' + 1) * bound ≤ digit * bound := Nat.mul_le_mul_right _ greater
    rw [Nat.add_mul] at leading
    omega

theorem leading_eq_iff (digit digit' : Nat) {rest rest' bound : Nat} (restBelow : rest < bound)
    (restBelow' : rest' < bound) :
    digit * bound + rest = digit' * bound + rest' ↔ digit = digit' ∧ rest = rest' := by
  have below := leading_lt_iff digit digit' restBelow restBelow'
  have above := leading_lt_iff digit' digit restBelow' restBelow
  omega

/-- A digit sequence read as the digits after a decimal point, over a common
denominator with another sequence. -/
def fraction (digits other : Text) : Nat := value digits * 10 ^ other.length

theorem fraction_cons (digit digit' : Char) (rest rest' : Text) :
    fraction (digit :: rest) (digit' :: rest') =
      10 * ((digit.toNat - 48) * 10 ^ (rest.length + rest'.length) + fraction rest rest') := by
  rw [fraction, fraction, value_cons, List.length_cons, Nat.pow_succ, Nat.pow_add]
  ring

theorem fraction_lt {digits : Text} (areDigits : Digits digits) (other : Text) :
    fraction digits other < 10 ^ (digits.length + other.length) := by
  rw [fraction, Nat.pow_add]
  exact Nat.mul_lt_mul_of_pos_right (value_lt areDigits) (Nat.pow_pos (by omega))

/-- Digit sequences are ordered as text as the decimal fractions with these
digits are, and of two equal fractions the shorter sequence is first. -/
theorem lt_iff_fraction_lt {left right : Text} (leftDigits : Digits left)
    (rightDigits : Digits right) :
    left < right ↔ fraction left right < fraction right left ∨
      fraction left right = fraction right left ∧ left.length < right.length := by
  induction left generalizing right with
  | nil =>
      cases right with
      | nil => simp
      | cons digit rest =>
          simp only [fraction, value_nil, List.length_nil, Nat.zero_mul, Nat.pow_zero]
          simp only [List.nil_lt_cons, List.length_cons, true_iff]
          omega
  | cons digit rest induction =>
      cases right with
      | nil => simp [fraction]
      | cons digit' rest' =>
          have code := digit_code (leftDigits digit (by simp))
          have code' := digit_code (rightDigits digit' (by simp))
          have restDigits : Digits rest := fun other member =>
            leftDigits other (by simp [member])
          have restDigits' : Digits rest' := fun other member =>
            rightDigits other (by simp [member])
          have bound := fraction_lt restDigits rest'
          have bound' := fraction_lt restDigits' rest
          rw [Nat.add_comm rest'.length] at bound'
          have codes : digit < digit' ↔ digit.toNat - 48 < digit'.toNat - 48 := by
            rw [Char.lt_def, UInt32.lt_iff_toNat_lt]
            change digit.toNat < digit'.toNat ↔ _
            omega
          have sameCode : digit = digit' ↔ digit.toNat - 48 = digit'.toNat - 48 := by
            rw [← Char.toNat_inj]
            omega
          rw [List.cons_lt_cons_iff, induction restDigits restDigits', fraction_cons,
            fraction_cons, Nat.add_comm rest'.length, Nat.mul_lt_mul_left (by omega),
            Nat.mul_right_inj (by omega), leading_lt_iff _ _ bound bound',
            leading_eq_iff _ _ bound bound', codes, sameCode, List.length_cons,
            List.length_cons]
          omega

/-- Numerals of one width are ordered as text exactly as their values are. -/
theorem lt_iff_value_lt {left right : Text} (leftDigits : Digits left)
    (rightDigits : Digits right) (sameWidth : left.length = right.length) :
    left < right ↔ value left < value right := by
  rw [lt_iff_fraction_lt leftDigits rightDigits, fraction, fraction, sameWidth,
    Nat.mul_lt_mul_right (Nat.pow_pos (by omega))]
  simp

theorem decimal_lt_decimal {left right : Nat}
    (sameWidth : (decimal left).length = (decimal right).length) :
    decimal left < decimal right ↔ left < right := by
  rw [lt_iff_value_lt (decimal_digits left) (decimal_digits right) sameWidth,
    value_decimal, value_decimal]

/-- The digits of the smaller number, read after a decimal point, give no
greater fraction than the digits of the other one. -/
def SortsAsText (left right : Nat) : Prop :=
  (left < right →
    left * 10 ^ (decimal right).length ≤ right * 10 ^ (decimal left).length) ∧
  (right < left →
    right * 10 ^ (decimal left).length ≤ left * 10 ^ (decimal right).length)

instance (left right : Nat) : Decidable (SortsAsText left right) :=
  inferInstanceAs (Decidable (_ ∧ _))

/-- A smaller number with as large a fraction has fewer digits. -/
theorem width_lt_of_fraction_eq {left right width width' : Nat} (smaller : left < right)
    (equal : left * 10 ^ width' = right * 10 ^ width) : width < width' := by
  by_contra notLess
  have powers : 10 ^ width' ≤ 10 ^ width := Nat.pow_le_pow_right (by omega) (by omega)
  have strict : left * 10 ^ width' < right * 10 ^ width' :=
    Nat.mul_lt_mul_of_pos_right smaller (Nat.pow_pos (by omega))
  have widened : right * 10 ^ width' ≤ right * 10 ^ width := Nat.mul_le_mul_left _ powers
  omega

/-- What it takes for two numerals to be ordered as text as the numbers are. -/
theorem decimal_lt_iff_lt (left right : Nat) :
    (decimal left < decimal right ↔ left < right) ↔ SortsAsText left right := by
  rw [lt_iff_fraction_lt (decimal_digits left) (decimal_digits right), fraction, fraction,
    value_decimal, value_decimal, SortsAsText]
  rcases Nat.lt_trichotomy left right with smaller | equal | greater
  · have width := @width_lt_of_fraction_eq left right (decimal left).length
      (decimal right).length smaller
    omega
  · subst right
    simp
  · have width := @width_lt_of_fraction_eq right left (decimal right).length
      (decimal left).length greater
    omega

/-! ## Reading numerals -/

/-- The signed 64-bit integer a text denotes: zero when it is no numeral, and
the nearest representable integer when it is out of range. -/
def atoi (text : Text) : Int :=
  let negative := text.head? == some '-'
  let digits := if negative || text.head? == some '+' then text.tail else text
  if digits.isEmpty || !digits.all Char.isDigit then 0
  else if negative then max (-(2 ^ 63)) (-(value digits : Int))
  else min (2 ^ 63 - 1) (value digits : Int)

theorem atoi_decimal (number : Nat) :
    atoi (decimal number) = min (2 ^ 63 - 1) (number : Int) := by
  have digits := decimal_digits number
  have allDigits : (decimal number).all Char.isDigit = true :=
    List.all_eq_true.mpr digits
  cases numeral : decimal number with
  | nil => exact absurd numeral (decimal_ne_nil number)
  | cons head tail =>
      rw [numeral] at digits allDigits
      have headDigit := digits head (by simp)
      have notMinus : head ≠ '-' := by
        intro equal
        subst head
        exact absurd headDigit (by decide)
      have notPlus : head ≠ '+' := by
        intro equal
        subst head
        exact absurd headDigit (by decide)
      have denoted : value (head :: tail) = number := by
        rw [← numeral, value_decimal]
      simp [atoi, notMinus, notPlus, allDigits, denoted]

end Text

end Tassis
