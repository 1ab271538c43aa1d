import DnsFilter.DomainName

/-!
# Written names

The written form of a name determines its labels. A written byte can be read back from the front of
a text, since it starts with a backslash or is a single character other than that, and a backslash
is followed by one character or by three digits. A dot that stands alone ends a label.
-/

namespace DnsFilter

namespace Label

/-- Reads what follows a backslash. -/
def readEscape? : List Char → Option (UInt8 × List Char)
  | [] => none
  | first :: rest =>
      if first.isDigit then
        match rest with
        | second :: third :: rest =>
            some (
              (64 * (first.toNat - 48) + 8 * (second.toNat - 48) + (third.toNat - 48)).toUInt8,
              rest)
        | _ => none
      else some (first.toUInt8, rest)

/-- Reads a written byte. -/
def readByte? : List Char → Option (UInt8 × List Char)
  | [] => none
  | first :: rest => if first = '\\' then readEscape? rest else some (first.toUInt8, rest)

theorem toUInt8_ofUInt8 (byte : UInt8) : (Char.ofUInt8 byte).toUInt8 = byte := by
  change byte.toUInt32.toUInt8 = byte
  simp

theorem toNat_octalDigit (value : UInt8) : (octalDigit value).toNat = value.toNat % 8 + 48 := by
  unfold octalDigit
  rw [Nat.toNat_digitChar_of_lt_ten (by omega)]
  omega

theorem isDigit_octalDigit (value : UInt8) : (octalDigit value).isDigit = true := by
  have code := toNat_octalDigit value
  have less : value.toNat % 8 < 8 := Nat.mod_lt _ (by decide)
  simp only [Char.isDigit, Char.toNat, Bool.and_eq_true, decide_eq_true_eq, ge_iff_le,
    UInt32.le_iff_toNat_le] at code ⊢
  rw [code]
  constructor
  · exact Nat.le_add_left 48 _
  · change value.toNat % 8 + 48 ≤ 57
    omega

/-- Three octal digits are read as the byte that they were written for. -/
theorem readEscape?_octal (byte : UInt8) (rest : List Char) :
    readEscape? (octal byte ++ rest) = some (byte, rest) := by
  simp only [octal, List.cons_append, List.nil_append, readEscape?, isDigit_octalDigit, if_true,
    toNat_octalDigit, Nat.add_sub_cancel]
  have less : byte.toNat < 256 := byte.toNat_lt
  have upper : (byte >>> 6).toNat = byte.toNat / 64 := by
    simp [UInt8.toNat_shiftRight, Nat.shiftRight_eq_div_pow]
  have middle : (byte >>> 3).toNat = byte.toNat / 8 := by
    simp [UInt8.toNat_shiftRight, Nat.shiftRight_eq_div_pow]
  rw [upper, middle]
  have value : 64 * (byte.toNat / 64 % 8) + 8 * (byte.toNat / 8 % 8) + byte.toNat % 8 =
      byte.toNat := by omega
  rw [value]
  simp

/-- A byte is written as a single character, as a character after a backslash, or as three digits
after one. -/
theorem escapeByte_cases (atStart : Bool) (byte : UInt8) :
    (escapeByte atStart byte = [Char.ofUInt8 byte] ∧ Char.ofUInt8 byte ≠ '\\' ∧
        Char.ofUInt8 byte ≠ '.') ∨
      (escapeByte atStart byte = ['\\', Char.ofUInt8 byte] ∧
        (Char.ofUInt8 byte).isDigit = false) ∨
      escapeByte atStart byte = '\\' :: octal byte := by
  unfold escapeByte
  split
  · next plain =>
      refine Or.inl ⟨rfl, ?_, ?_⟩
      · intro same
        simp only [isPlain, same] at plain
        exact absurd plain (by decide)
      · intro same
        simp only [isPlain, same] at plain
        exact absurd plain (by decide)
  · next notPlain =>
      split
      · next hyphen =>
          have same : Char.ofUInt8 byte = '-' := by
            simp only [Bool.and_eq_true, beq_iff_eq] at hyphen
            exact hyphen.1
          exact Or.inl (by simp [same])
      · split
        · next asterisk =>
            have same : Char.ofUInt8 byte = '*' := by
              simp only [Bool.and_eq_true, beq_iff_eq] at asterisk
              exact asterisk.1
            exact Or.inl (by simp [same])
        · split
          · refine Or.inr (Or.inl ⟨rfl, ?_⟩)
            simp only [isPlain, Char.isAlphanum, Bool.or_eq_true, not_or] at notPlain
            exact Bool.eq_false_iff.2 notPlain.1.2
          · exact Or.inr (Or.inr rfl)

/-- A written byte is read as the byte that it was written for, whatever follows. -/
theorem readByte?_escapeByte (atStart : Bool) (byte : UInt8) (rest : List Char) :
    readByte? (escapeByte atStart byte ++ rest) = some (byte, rest) := by
  rcases escapeByte_cases atStart byte with
    ⟨written, notBackslash, _⟩ | ⟨written, notDigit⟩ | written
  · simp [written, readByte?, notBackslash, toUInt8_ofUInt8]
  · simp [written, readByte?, readEscape?, notDigit, toUInt8_ofUInt8]
  · rw [written, List.cons_append, readByte?, if_pos rfl, readEscape?_octal]

/-- No written byte begins with a dot. -/
theorem escapeByte_append_ne_dot (atStart : Bool) (byte : UInt8) (rest others : List Char) :
    escapeByte atStart byte ++ rest ≠ '.' :: others := by
  intro same
  rcases escapeByte_cases atStart byte with ⟨written, _, notDot⟩ | ⟨written, _⟩ | written
  · rw [written, List.cons_append, List.cons.injEq] at same
    exact notDot same.1
  · rw [written, List.cons_append, List.cons.injEq] at same
    exact absurd same.1 (by decide)
  · rw [written, List.cons_append, List.cons.injEq] at same
    exact absurd same.1 (by decide)

theorem escapeByte_append_inj {atStart : Bool} {byte other : UInt8} {rest otherRest : List Char}
    (same : escapeByte atStart byte ++ rest = escapeByte atStart other ++ otherRest) :
    byte = other ∧ rest = otherRest := by
  have read := readByte?_escapeByte atStart byte rest
  rw [same, readByte?_escapeByte] at read
  simpa [eq_comm] using read

/-- Bytes that are written up to a dot are determined by what is written. -/
theorem flatMap_escapeByte_inj {bytes others : Label} {rest otherRest : List Char}
    (same : bytes.flatMap (escapeByte false) ++ '.' :: rest =
      others.flatMap (escapeByte false) ++ '.' :: otherRest) :
    bytes = others ∧ rest = otherRest := by
  induction bytes generalizing others with
  | nil =>
      cases others with
      | nil => simpa using same
      | cons other others =>
          simp only [List.flatMap_nil, List.nil_append, List.flatMap_cons, List.append_assoc]
            at same
          exact absurd same.symm (escapeByte_append_ne_dot _ _ _ _)
  | cons byte bytes ih =>
      cases others with
      | nil =>
          simp only [List.flatMap_nil, List.nil_append, List.flatMap_cons, List.append_assoc]
            at same
          exact absurd same (escapeByte_append_ne_dot _ _ _ _)
      | cons other others =>
          simp only [List.flatMap_cons, List.append_assoc] at same
          rcases escapeByte_append_inj same with ⟨rfl, sameRest⟩
          rcases ih sameRest with ⟨rfl, rfl⟩
          exact ⟨rfl, rfl⟩

/-- A label that is written up to a dot is determined by what is written. -/
theorem escape_inj {label other : Label} {rest otherRest : List Char}
    (nonempty : label ≠ []) (otherNonempty : other ≠ [])
    (same : label.escape ++ '.' :: rest = other.escape ++ '.' :: otherRest) :
    label = other ∧ rest = otherRest := by
  rcases List.exists_cons_of_ne_nil nonempty with ⟨byte, bytes, rfl⟩
  rcases List.exists_cons_of_ne_nil otherNonempty with ⟨otherByte, others, rfl⟩
  simp only [escape, List.append_assoc] at same
  rcases escapeByte_append_inj same with ⟨rfl, sameRest⟩
  rcases flatMap_escapeByte_inj sameRest with ⟨rfl, rfl⟩
  exact ⟨rfl, rfl⟩

/-- The written form of a label that is not empty does not begin with a dot. -/
theorem escape_append_ne_dot {label : Label} (nonempty : label ≠ []) (rest others : List Char) :
    label.escape ++ rest ≠ '.' :: others := by
  rcases List.exists_cons_of_ne_nil nonempty with ⟨byte, bytes, rfl⟩
  rw [escape, List.append_assoc]
  exact escapeByte_append_ne_dot _ _ _ _

end Label

namespace DomainName

/-- The written form of labels, each with a dot after it. -/
def writtenLabels (labels : List Label) : List Char :=
  labels.flatMap fun label => label.escape ++ ['.']

theorem writtenLabels_inj {labels others : List Label} (nonempty : ∀ label ∈ labels, label ≠ [])
    (othersNonempty : ∀ label ∈ others, label ≠ [])
    (same : writtenLabels labels = writtenLabels others) : labels = others := by
  induction labels generalizing others with
  | nil =>
      cases others with
      | nil => rfl
      | cons other others => simp [writtenLabels] at same
  | cons label labels ih =>
      cases others with
      | nil => simp [writtenLabels] at same
      | cons other others =>
          simp only [writtenLabels, List.flatMap_cons, List.append_assoc, List.singleton_append]
            at same
          rw [List.forall_mem_cons] at nonempty othersNonempty
          rcases Label.escape_inj nonempty.1 othersNonempty.1 same with ⟨rfl, sameRest⟩
          rw [ih nonempty.2 othersNonempty.2 sameRest]

/-- The characters of a name determine it. -/
theorem characters_injective : Function.Injective characters := by
  rintro ⟨labels, nonempty⟩ ⟨others, othersNonempty⟩ same
  cases labels with
  | nil =>
      cases others with
      | nil => rfl
      | cons other others =>
          simp only [characters, List.flatMap_cons, List.append_assoc] at same
          exact absurd same.symm (Label.escape_append_ne_dot (othersNonempty _ (by simp)) _ _)
  | cons label labels =>
      cases others with
      | nil =>
          simp only [characters, List.flatMap_cons, List.append_assoc] at same
          exact absurd same (Label.escape_append_ne_dot (nonempty _ (by simp)) _ _)
      | cons other others =>
          have sameLabels := writtenLabels_inj nonempty othersNonempty same
          simpa using sameLabels

/-- Every written name ends in a dot. -/
theorem getLast?_characters (name : DomainName) : name.characters.getLast? = some '.' := by
  rcases name with ⟨labels, nonempty⟩
  rcases List.eq_nil_or_concat labels with rfl | ⟨labels, label, rfl⟩
  · rfl
  · have ends : (labels.concat label).flatMap (fun label => label.escape ++ ['.']) =
        (labels.flatMap fun label => label.escape ++ ['.']) ++ label.escape ++ ['.'] := by
      simp
    have written : characters ⟨labels.concat label, nonempty⟩ =
        (labels.flatMap fun label => label.escape ++ ['.']) ++ label.escape ++ ['.'] := by
      cases labels <;> exact ends
    rw [written, List.getLast?_concat]

end DomainName

end DnsFilter
