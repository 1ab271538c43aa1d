import DnsFilter.Json.Reader

/-!
# Strings and numbers in documents

Which bytes may stand between the quotes of a string and which are a number, said without a reader.
Both readers take exactly these. A number has no mark at its end, so its reader takes all of it only
if what follows cannot be a part of it.
-/

namespace DnsFilter.Json

/-- That a text does not go on with a byte of the given kind. -/
def StopsAt (isPart : UInt8 → Bool) (rest : List UInt8) : Prop :=
  ∀ byte, rest.head? = some byte → isPart byte = false

section

variable {isPart : UInt8 → Bool} {front rest : List UInt8}

theorem takeWhile_append_of_stopsAt (parts : ∀ byte ∈ front, isPart byte = true)
    (stops : StopsAt isPart rest) : (front ++ rest).takeWhile isPart = front := by
  rw [List.takeWhile_append_of_pos parts]
  cases rest with
  | nil => simp
  | cons first rest => simp [stops first rfl]

theorem dropWhile_append_of_stopsAt (parts : ∀ byte ∈ front, isPart byte = true)
    (stops : StopsAt isPart rest) : (front ++ rest).dropWhile isPart = rest := by
  rw [List.dropWhile_append_of_pos parts]
  cases rest with
  | nil => rfl
  | cons first rest => simp [stops first rfl]

end

/-- What may stand between the quotes of a string. -/
inductive IsBody : List UInt8 → Prop where
  | nil : IsBody []
  | plain {byte : UInt8} {body : List UInt8} (notQuote : byte ≠ byteOf '"')
      (notControl : ¬byte < 0x20) (notBackslash : byte ≠ byteOf '\\') (rest : IsBody body) :
      IsBody (byte :: body)
  | escape {letter : UInt8} {body : List UInt8} (simple : isSimpleEscape letter = true)
      (rest : IsBody body) : IsBody (byteOf '\\' :: letter :: body)
  | unit {a b c d : UInt8} {body : List UInt8}
      (digits : isHexDigit a && isHexDigit b && isHexDigit c && isHexDigit d)
      (rest : IsBody body) : IsBody (byteOf '\\' :: byteOf 'u' :: a :: b :: c :: d :: body)

theorem readString?_append {body : List UInt8} (isBody : IsBody body) (rest : List UInt8) :
    readString? (body ++ byteOf '"' :: rest) = some (body, rest) := by
  have backslash : (byteOf '\\' == byteOf '"') = false ∧ ¬byteOf '\\' < 0x20 := by decide
  have unitMark : isSimpleEscape (byteOf 'u') = false := by decide +kernel
  induction isBody with
  | nil => simp [readString?.eq_def]
  | plain notQuote notControl notBackslash _ ih =>
      rw [List.cons_append, readString?.eq_def]
      simp [notQuote, notControl, notBackslash, ih]
  | escape simple _ ih =>
      rw [List.cons_append, List.cons_append, readString?.eq_def]
      simp [backslash, simple, ih]
  | unit digits _ ih =>
      simp only [List.cons_append]
      rw [readString?.eq_def]
      simp [backslash, unitMark, digits, ih]

theorem isBody_of_readString? {bytes body rest : List UInt8}
    (read : readString? bytes = some (body, rest)) :
    IsBody body ∧ bytes = body ++ byteOf '"' :: rest := by
  fun_induction readString? bytes generalizing body with
  | case2 byte _ quote =>
      cases read
      exact ⟨.nil, by simp [beq_iff_eq.1 quote]⟩
  | case4 byte _ _ backslash letter tail simple ih =>
      simp only [Option.map_eq_some_iff, Prod.mk.injEq, Prod.exists] at read
      rcases read with ⟨_, _, readTail, rfl, rfl⟩
      rcases ih readTail with ⟨isBody, rfl⟩
      rw [beq_iff_eq.1 backslash]
      exact ⟨.escape simple isBody, rfl⟩
  | case5 byte _ _ backslash mark _ unitMark a b c d tail digits ih =>
      simp only [Option.map_eq_some_iff, Prod.mk.injEq, Prod.exists] at read
      rcases read with ⟨_, _, readTail, rfl, rfl⟩
      rcases ih readTail with ⟨isBody, rfl⟩
      rw [beq_iff_eq.1 backslash, beq_iff_eq.1 unitMark]
      exact ⟨.unit digits isBody, rfl⟩
  | case10 byte tail notQuote notControl notBackslash ih =>
      simp only [Option.map_eq_some_iff, Prod.mk.injEq, Prod.exists] at read
      rcases read with ⟨_, _, readTail, rfl, rfl⟩
      rcases ih readTail with ⟨isBody, rfl⟩
      rw [beq_iff_eq] at notQuote notBackslash
      exact ⟨.plain notQuote notControl notBackslash isBody, rfl⟩
  | _ => contradiction

theorem ne_of_isDigit {digit other : UInt8} (isDigit : isDigit digit = true)
    (noDigit : Json.isDigit other = false) : digit ≠ other := by
  rintro rfl
  simp [isDigit] at noDigit

def AreDigits (bytes : List UInt8) : Prop := bytes ≠ [] ∧ ∀ byte ∈ bytes, isDigit byte = true

/-- That bytes are the digits before a fraction: a zero stands alone. -/
def IsWhole (bytes : List UInt8) : Prop :=
  AreDigits bytes ∧ (bytes.head? = some (byteOf '0') → bytes.length = 1)

inductive IsFraction : List UInt8 → Prop where
  | absent : IsFraction []
  | digits {digits : List UInt8} (areDigits : AreDigits digits) :
      IsFraction (byteOf '.' :: digits)

inductive IsExponent : List UInt8 → Prop where
  | absent : IsExponent []
  | digits {mark : UInt8} {sign digits : List UInt8}
      (isMark : mark = byteOf 'e' ∨ mark = byteOf 'E')
      (isSign : sign = [] ∨ sign = [byteOf '+'] ∨ sign = [byteOf '-'])
      (areDigits : AreDigits digits) : IsExponent (mark :: sign ++ digits)

inductive IsNumber : List UInt8 → Prop where
  | parts {minus whole fraction exponent : List UInt8}
      (isMinus : minus = [] ∨ minus = [byteOf '-']) (isWhole : IsWhole whole)
      (isFraction : IsFraction fraction) (isExponent : IsExponent exponent) :
      IsNumber (minus ++ whole ++ fraction ++ exponent)

/-- The bytes that a number without an exponent could go on with. -/
def isFractionPart (byte : UInt8) : Bool := isDigit byte || byte == byteOf '.'

/-- The bytes that a number could go on with. -/
def isNumberPart (byte : UInt8) : Bool :=
  isFractionPart byte || byte == byteOf 'e' || byte == byteOf 'E'

section

variable {bytes rest digits whole fraction exponent literal : List UInt8}

theorem StopsAt.mono {isPart isOther : UInt8 → Bool} (stops : StopsAt isPart rest)
    (parts : ∀ byte, isPart byte = false → isOther byte = false) : StopsAt isOther rest := by
  intro byte first
  exact parts byte (stops byte first)

theorem StopsAt.fractionPart (stops : StopsAt isNumberPart rest) :
    StopsAt isFractionPart rest := by
  apply stops.mono
  intro byte other
  simp only [isNumberPart, Bool.or_eq_false_iff] at other
  exact other.1.1

theorem StopsAt.digit (stops : StopsAt isFractionPart rest) : StopsAt isDigit rest := by
  apply stops.mono
  intro byte other
  simp only [isFractionPart, Bool.or_eq_false_iff] at other
  exact other.1

theorem stopsAt_exponent (isExponent : IsExponent exponent) (stops : StopsAt isNumberPart rest) :
    StopsAt isFractionPart (exponent ++ rest) := by
  cases isExponent with
  | absent => exact stops.fractionPart
  | digits isMark =>
      intro byte first
      simp only [List.cons_append, List.head?_cons, Option.some.injEq] at first
      subst first
      rcases isMark with rfl | rfl <;> decide

theorem stopsAt_fraction (isFraction : IsFraction fraction) (stops : StopsAt isFractionPart rest) :
    StopsAt isDigit (fraction ++ rest) := by
  cases isFraction with
  | absent => exact stops.digit
  | digits =>
      intro byte first
      simp only [List.cons_append, List.head?_cons, Option.some.injEq] at first
      subst first
      decide

theorem readDigits?_append (areDigits : AreDigits digits) (stops : StopsAt isDigit rest) :
    readDigits? (digits ++ rest) = some (digits, rest) := by
  simp [readDigits?, takeWhile_append_of_stopsAt areDigits.2 stops,
    dropWhile_append_of_stopsAt areDigits.2 stops, areDigits.1]

theorem areDigits_of_readDigits? (read : readDigits? bytes = some (digits, rest)) :
    AreDigits digits ∧ bytes = digits ++ rest := by
  simp only [readDigits?, Option.ite_none_left_eq_some, List.isEmpty_iff, Option.some.injEq,
    Prod.mk.injEq] at read
  rcases read with ⟨nonempty, rfl, rfl⟩
  exact ⟨⟨nonempty, List.all_eq_true.1 List.all_takeWhile⟩, List.takeWhile_append_dropWhile.symm⟩

theorem readWhole?_append (isWhole : IsWhole whole) (stops : StopsAt isDigit rest) :
    readWhole? (whole ++ rest) = some (whole, rest) := by
  have alone := isWhole.2
  simp only [readWhole?, readDigits?_append isWhole.1 stops, Option.filter_some]
  simpa [Decidable.or_iff_not_imp_left] using alone

theorem isWhole_of_readWhole? (read : readWhole? bytes = some (whole, rest)) :
    IsWhole whole ∧ bytes = whole ++ rest := by
  simp only [readWhole?, Option.filter_eq_some_iff] at read
  rcases areDigits_of_readDigits? read.1 with ⟨areDigits, split⟩
  refine ⟨⟨areDigits, ?_⟩, split⟩
  simpa [Decidable.or_iff_not_imp_left] using read.2

theorem readFraction?_append (isFraction : IsFraction fraction)
    (stops : StopsAt isFractionPart rest) :
    readFraction? (fraction ++ rest) = some (fraction, rest) := by
  cases isFraction with
  | absent =>
      cases rest with
      | nil => rfl
      | cons byte rest =>
          have notPoint := stops byte rfl
          simp only [isFractionPart, Bool.or_eq_false_iff] at notPoint
          simp [readFraction?, notPoint.2]
  | digits areDigits => simp [readFraction?, readDigits?_append areDigits stops.digit]

theorem isFraction_of_readFraction? (read : readFraction? bytes = some (fraction, rest)) :
    IsFraction fraction ∧ bytes = fraction ++ rest := by
  cases bytes with
  | nil =>
      cases read
      exact ⟨.absent, rfl⟩
  | cons byte bytes =>
      simp only [readFraction?] at read
      split at read
      · next point =>
          simp only [Option.map_eq_some_iff, Prod.mk.injEq, Prod.exists] at read
          rcases read with ⟨digits, _, readDigits, rfl, rfl⟩
          rcases areDigits_of_readDigits? readDigits with ⟨areDigits, rfl⟩
          rw [beq_iff_eq.1 point]
          exact ⟨.digits areDigits, rfl⟩
      · cases read
        exact ⟨.absent, rfl⟩

theorem readSign_append {sign : List UInt8}
    (isSign : sign = [] ∨ sign = [byteOf '+'] ∨ sign = [byteOf '-'])
    (areDigits : AreDigits digits) (rest : List UInt8) :
    readSign (sign ++ (digits ++ rest)) = (sign, digits ++ rest) := by
  rcases isSign with rfl | rfl | rfl
  · rcases List.exists_cons_of_ne_nil areDigits.1 with ⟨first, others, rfl⟩
    have digit := areDigits.2 first (.head _)
    have notPlus : first ≠ byteOf '+' := ne_of_isDigit digit (by decide)
    have notMinus : first ≠ byteOf '-' := ne_of_isDigit digit (by decide)
    simp [readSign, notPlus, notMinus]
  · simp [readSign]
  · simp [readSign]

theorem isSign_readSign (bytes : List UInt8) :
    ((readSign bytes).1 = [] ∨ (readSign bytes).1 = [byteOf '+'] ∨
        (readSign bytes).1 = [byteOf '-']) ∧
      bytes = (readSign bytes).1 ++ (readSign bytes).2 := by
  cases bytes with
  | nil => simp [readSign]
  | cons byte bytes =>
      simp only [readSign]
      split
      · next sign => simpa using sign
      · simp

theorem readExponent?_append (isExponent : IsExponent exponent)
    (stops : StopsAt isNumberPart rest) :
    readExponent? (exponent ++ rest) = some (exponent, rest) := by
  cases isExponent with
  | absent =>
      cases rest with
      | nil => rfl
      | cons byte rest =>
          have notMark := stops byte rfl
          simp only [isNumberPart, Bool.or_eq_false_iff] at notMark
          simp [readExponent?, notMark.1.2, notMark.2]
  | @digits mark sign digits isMark isSign areDigits =>
      have marked : (mark == byteOf 'e' || mark == byteOf 'E') = true := by simpa using isMark
      rw [List.append_assoc, List.cons_append, readExponent?, if_pos marked,
        readSign_append isSign areDigits]
      simp [readDigits?_append areDigits stops.fractionPart.digit]

theorem isExponent_of_readExponent? (read : readExponent? bytes = some (exponent, rest)) :
    IsExponent exponent ∧ bytes = exponent ++ rest := by
  cases bytes with
  | nil =>
      cases read
      exact ⟨.absent, rfl⟩
  | cons byte bytes =>
      simp only [readExponent?] at read
      split at read
      · next marked =>
          simp only [Option.map_eq_some_iff, Prod.mk.injEq, Prod.exists] at read
          rcases read with ⟨digits, _, readDigits, rfl, rfl⟩
          rcases isSign_readSign bytes with ⟨isSign, split⟩
          rcases areDigits_of_readDigits? readDigits with ⟨areDigits, unsigned⟩
          rw [Bool.or_eq_true, beq_iff_eq, beq_iff_eq] at marked
          refine ⟨.digits marked isSign areDigits, ?_⟩
          rw [List.append_assoc, ← unsigned, List.cons_append, ← split]
      · cases read
        exact ⟨.absent, rfl⟩

theorem readMinus_append {minus : List UInt8} (isMinus : minus = [] ∨ minus = [byteOf '-'])
    (isWhole : IsWhole whole) (rest : List UInt8) :
    readMinus (minus ++ (whole ++ rest)) = (minus, whole ++ rest) := by
  rcases isMinus with rfl | rfl
  · rcases List.exists_cons_of_ne_nil isWhole.1.1 with ⟨first, others, rfl⟩
    have digit := isWhole.1.2 first (.head _)
    have notMinus : first ≠ byteOf '-' := ne_of_isDigit digit (by decide)
    simp [readMinus, notMinus]
  · simp [readMinus]

theorem isMinus_readMinus (bytes : List UInt8) :
    ((readMinus bytes).1 = [] ∨ (readMinus bytes).1 = [byteOf '-']) ∧
      bytes = (readMinus bytes).1 ++ (readMinus bytes).2 := by
  cases bytes with
  | nil => simp [readMinus]
  | cons byte bytes =>
      simp only [readMinus]
      split
      · next minus => simpa using minus
      · simp

theorem readNumber?_append (isNumber : IsNumber literal) (stops : StopsAt isNumberPart rest) :
    readNumber? (literal ++ rest) = some (literal, rest) := by
  rcases isNumber with ⟨isMinus, isWhole, isFraction, isExponent⟩
  have afterFraction := stopsAt_exponent isExponent stops
  have afterWhole := stopsAt_fraction isFraction afterFraction
  simp only [List.append_assoc, readNumber?, readMinus_append isMinus isWhole,
    readWhole?_append isWhole afterWhole, readFraction?_append isFraction afterFraction,
    readExponent?_append isExponent stops, Option.bind_eq_bind, Option.bind_some]
  rfl

theorem isNumber_of_readNumber? (read : readNumber? bytes = some (literal, rest)) :
    IsNumber literal ∧ bytes = literal ++ rest := by
  simp only [readNumber?, Option.bind_eq_bind, Option.bind_eq_some_iff, Prod.exists,
    Option.pure_def, Option.some.injEq, Prod.mk.injEq] at read
  rcases read with ⟨whole, _, readWhole, fraction, _, readFraction, exponent, _, readExponent,
    rfl, rfl⟩
  rcases isMinus_readMinus bytes with ⟨isMinus, unsigned⟩
  rcases isWhole_of_readWhole? readWhole with ⟨isWhole, afterWhole⟩
  rcases isFraction_of_readFraction? readFraction with ⟨isFraction, rfl⟩
  rcases isExponent_of_readExponent? readExponent with ⟨isExponent, rfl⟩
  refine ⟨.parts isMinus isWhole isFraction isExponent, ?_⟩
  rw [afterWhole] at unsigned
  simpa using unsigned

end

end DnsFilter.Json
