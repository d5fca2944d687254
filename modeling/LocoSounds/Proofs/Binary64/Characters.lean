import LocoSounds.Binary64.Text

/-! The characters that written numbers are made of. -/

namespace LocoSounds

/-- A written number has digits, signs, a point, an exponent's mark and the letters of the values
that are no numbers or have no bound. -/
def isNumeralCharacter (c : Char) : Bool :=
  c.isDigit || ['+', '-', '.', 'a', 'e', 'f', 'i', 'n'].contains c

/-- A text is made of the characters of written numbers only. -/
def IsNumeral (text : String) : Prop := text.toList.all isNumeralCharacter

instance (text : String) : Decidable (IsNumeral text) :=
  inferInstanceAs (Decidable (text.toList.all isNumeralCharacter = true))

namespace IsNumeral

variable {text more : String}

/-- A text of digits is made of the characters of numbers. -/
theorem ofDigits {digits : List Char} (each : ∀ c ∈ digits, c.isDigit) :
    IsNumeral (String.ofList digits) := by
  -- Digits are the first kind of character that a number's text may have, checked one by one.
  rw [IsNumeral, String.toList_ofList, List.all_eq_true]
  intro c member
  rw [isNumeralCharacter, each c member, Bool.true_or]

/-- Texts made of the characters of numbers are put together to another one. -/
theorem append (first : IsNumeral text) (second : IsNumeral more) : IsNumeral (text ++ more) := by
  -- Both texts are checked character by character, so their joint list is.
  rw [IsNumeral, String.toList_append, List.all_append, Bool.and_eq_true]
  exact ⟨first, second⟩

/-- What is no character of numbers does not stand in a text made of those. -/
theorem notMem (numeral : IsNumeral text) {c : Char} (other : isNumeralCharacter c = false) :
    c ∉ text.toList := fun member => by
  rw [List.all_eq_true.mp numeral c member] at other
  cases other

/-- No capital stands in a text made of the characters of numbers. -/
theorem isUpper_eq_false (numeral : IsNumeral text) {c : Char} (member : c ∈ text.toList) :
    c.isUpper = false := by
  -- A character of a number is a digit or one of eight marks, and no capital is among them.
  have is := List.all_eq_true.mp numeral c member
  rw [isNumeralCharacter, Bool.or_eq_true, List.contains_iff_mem] at is
  rcases is with digit | mark
  · -- The digits come before the capitals.
    refine Bool.eq_false_iff.mpr fun upper => ?_
    have last : c.val ≤ '9'.val := of_decide_eq_true (Bool.and_eq_true_iff.mp digit).2
    have first : 'A'.val ≤ c.val := (of_decide_eq_true upper).1
    exact absurd (UInt32.le_trans first last) (by decide)
  · simp only [List.mem_cons, List.not_mem_nil, or_false] at mark
    rcases mark with rfl | rfl | rfl | rfl | rfl | rfl | rfl | rfl <;> rfl

end IsNumeral

namespace NumeralStyle

/-- The significant digits of a number are digits. -/
theorem isDigit_of_mem_significantDigits {digits : Nat} {c : Char}
    (member : c ∈ significantDigits digits) : c.isDigit := by
  -- Only trailing zeros were dropped, so what is left stands in the decimal digits of the number.
  rw [significantDigits, List.mem_reverse] at member
  have kept := List.mem_reverse.mp ((List.dropWhile_sublist _).subset member)
  exact Nat.isDigit_of_mem_toDigits (by decide) (by decide) kept

/-- A natural number is written with digits. -/
theorem isNumeral_toString (n : Nat) : IsNumeral (toString n) := by
  -- The text of a natural number is the list of its decimal digits, with nothing in front.
  rw [Nat.toString_eq_repr, Nat.repr_eq_ofList_toDigits]
  exact .ofDigits fun _ => Nat.isDigit_of_mem_toDigits (by decide) (by decide)

/-- An exponent is written with the characters of numbers. -/
theorem isNumeral_exponentText (exponent : Int) : IsNumeral (exponentText exponent) := by
  -- A mark, a zero if one digit would stand alone, and the digits of the exponent's size.
  refine .append ?_ ?_
  · split <;> decide
  · split
    · exact .append (by decide) (isNumeral_toString _)
    · exact isNumeral_toString _

/-- A decimal is written with the characters of numbers, where whole numbers end in such. -/
theorem isNumeral_write {style : NumeralStyle} (mark : IsNumeral style.wholeMark)
    (decimal : Decimal) : IsNumeral (style.write decimal) := by
  -- The three layouts are put together from digits, the point, zeros and the exponent.
  have digit : ∀ c ∈ significantDigits decimal.digits, c.isDigit := fun _ =>
    isDigit_of_mem_significantDigits
  -- The places that the digits leave open are filled with zeros.
  have zero : ∀ count, ∀ c ∈ List.replicate count '0', c.isDigit := fun _ c member => by
    rw [List.eq_of_mem_replicate member]
    rfl
  have fraction : ∀ places (ending : String), IsNumeral ending →
      IsNumeral (if ((significantDigits decimal.digits).drop places).isEmpty then ending
        else "." ++ String.ofList ((significantDigits decimal.digits).drop places)) := by
    intro places ending numeral
    split
    · exact numeral
    · exact .append (by decide) (.ofDigits fun c member => digit c (List.mem_of_mem_drop member))
  rw [write]
  split
  · -- A digit, the other digits behind a point, and an exponent.
    refine .append (.append (.ofDigits fun c member => ?_) (fraction 1 "" (by decide)))
      (isNumeral_exponentText _)
    exact digit c (List.mem_of_mem_take member)
  · split
    · -- Zeros behind a point, and the digits.
      refine .append (by decide) (.ofDigits fun c member => ?_)
      exact (List.mem_append.mp member).elim (zero _ c) (digit c)
    · -- Digits and zeros up to the point, and the digits behind it.
      refine .append (.ofDigits fun c member => ?_) (fraction _ _ mark)
      exact (List.mem_append.mp (List.mem_of_mem_take member)).elim (digit c) (zero _ c)

end NumeralStyle

namespace Binary64

/-- A number is written with the characters of numbers, whatever digits are chosen for it. -/
theorem isNumeral_write {style : NumeralStyle} (mark : IsNumeral style.wholeMark)
    (choose : Nat → Decimal) (x : Binary64) : IsNumeral (x.write style choose) := by
  -- The sign comes first; then a fixed word, a zero or the text of the chosen decimal.
  cases x with
  | nan =>
    show IsNumeral "nan"
    decide
  | number negative rank =>
    refine .append ?_ ?_
    · split <;> decide
    · split
      · decide
      · split
        · exact .append (by decide) mark
        · exact NumeralStyle.isNumeral_write mark _

/-- A brief text is made of the characters of numbers. -/
theorem isNumeral_briefText (x : Binary64) : IsNumeral x.briefText :=
  isNumeral_write (by decide) _ x

end Binary64

end LocoSounds
