/-!
# Numbers in digits

Natural numbers as texts write them, in a base of at most sixteen, with or without a limit on their
digits; and which texts are numerals of any kind.
-/

namespace DnsFilter

structure NumberForm where
  base : Nat
  /-- The greatest number of digits, when it is limited. -/
  maxDigits : Option Nat
  /-- Whether zeros may stand in front of other digits. -/
  leadingZeros : Bool
  bound : Nat

namespace NumberForm

/-- The value of a digit in the given base; letters of either case count from ten. -/
def digitValue? (base : Nat) (digit : Char) : Option Nat :=
  let value :=
    if '0' ≤ digit ∧ digit ≤ '9' then digit.toNat - '0'.toNat
    else if 'a' ≤ digit ∧ digit ≤ 'f' then digit.toNat - 'a'.toNat + 10
    else if 'A' ≤ digit ∧ digit ≤ 'F' then digit.toNat - 'A'.toNat + 10
    else base
  if value < base then some value else none

/-- The number that a sequence of digits stands for. -/
def valueOf (base : Nat) (digits : List Char) : Nat :=
  digits.foldl (fun value digit => value * base + (digitValue? base digit).getD 0) 0

/-- Reads the digits at the front of a text, as many as there are. -/
def read? (form : NumberForm) (text : List Char) : Option (Nat × List Char) :=
  let isDigit := fun character => (digitValue? form.base character).isSome
  let digits := text.takeWhile isDigit
  let value := valueOf form.base digits
  let tooLong := form.maxDigits.any (· < digits.length)
  let padded := !form.leadingZeros && digits.head? == some '0' && 1 < digits.length
  if digits.isEmpty || tooLong || padded || form.bound ≤ value then none
  else some (value, text.dropWhile isDigit)

end NumberForm

namespace Text

/-- A decimal number without a sign or with a plus sign in front. -/
def unsigned? (text : List Char) : Option Nat :=
  let digits := if text.head? = some '+' then text.drop 1 else text
  if digits.isEmpty || !digits.all Char.isDigit then none
  else some (NumberForm.valueOf 10 digits)

/-- Whether a text is nothing or an exponent: the letter, perhaps a sign, and digits. -/
def isExponent : List Char → Bool
  | [] => true
  | mark :: rest =>
      let digits := if rest.head? = some '+' ∨ rest.head? = some '-' then rest.drop 1 else rest
      (mark == 'e' || mark == 'E') && !digits.isEmpty && digits.all Char.isDigit

/-- Whether a text is a numeral without a sign: digits with at most one point among or around them
and perhaps an exponent, or in any letter case one of the words for what is not finite. -/
def isNumeral (text : List Char) : Bool :=
  let whole := text.takeWhile Char.isDigit
  let rest := text.dropWhile Char.isDigit
  let (fraction, rest) :=
    if rest.head? = some '.' then
      ((rest.drop 1).takeWhile Char.isDigit, (rest.drop 1).dropWhile Char.isDigit)
    else ([], rest)
  ["inf", "infinity", "nan"].contains (String.ofList (text.map Char.toLower)) ||
    (!(whole.isEmpty && fraction.isEmpty) && isExponent rest)

end Text

end DnsFilter
