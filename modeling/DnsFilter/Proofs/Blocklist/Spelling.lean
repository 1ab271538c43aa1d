import DnsFilter.Proofs.Blocklist.Loading
import DnsFilter.Proofs.Question.WrittenName
import Mathlib.Data.List.Basic

/-!
# How lists spell names

A name is plain if no byte of it has to be escaped. Lists spell such a name by its labels with dots
between them, in any letter case and with or without a final dot. The written form of the name folds
to the same text as each of its spellings, so the block set and the lists agree on it.
-/

namespace DnsFilter

theorem toLower_of_not_isUpper {character : Char} (notUpper : ¬character.isUpper = true) :
    character.toLower = character := by
  unfold Char.isUpper at notUpper
  unfold Char.toLower
  split
  · next upper => exact absurd (by simpa using upper) notUpper
  · rfl

theorem toLower_eq_dot_iff {character : Char} : character.toLower = '.' ↔ character = '.' := by
  unfold Char.toLower
  split
  · next upper =>
      constructor
      · intro same
        have code := congrArg (fun lowered : Char => lowered.val.toNat) same
        rcases upper with ⟨lower, higher⟩
        simp only [ge_iff_le, UInt32.le_iff_toNat_le] at lower higher
        simp at code lower higher
        omega
      · rintro rfl
        exact absurd upper (by decide)
  · rfl

namespace NumberForm

theorem digitValue?_of_isDigit {digit : Char} (isDigit : digit.isDigit = true) :
    digitValue? 10 digit = some (digit.toNat - '0'.toNat) := by
  have inRange : '0' ≤ digit ∧ digit ≤ '9' := by
    simpa [Char.isDigit, Char.le_def] using isDigit
  have below : digit.toNat - '0'.toNat < 10 := by
    have last : digit.toNat ≤ '9'.toNat := UInt32.le_iff_toNat_le.1 inRange.2
    change digit.toNat - 48 < 10
    change digit.toNat ≤ 57 at last
    omega
  rw [digitValue?, if_pos inRange]
  exact if_pos below

/-- Reading decimal digits is reading the number of them. -/
theorem valueOf_ten {digits : List Char}
    (areDigits : ∀ digit ∈ digits, digit.isDigit = true) :
    valueOf 10 digits = Nat.ofDigitChars 10 digits 0 := by
  apply List.foldl_ext
  intro value digit member
  simp [digitValue?_of_isDigit (areDigits digit member), Nat.mul_comm]

end NumberForm

theorem Blocklist.isOctet_iff {text : List Char} (nonempty : text ≠ []) (unsigned : '+' ∉ text) :
    isOctet text = true ↔
      (∀ digit ∈ text, digit.isDigit = true) ∧ Nat.ofDigitChars 10 text 0 < 256 := by
  have bare : text.head? ≠ some '+' := fun plus => unsigned (List.mem_of_mem_head? plus)
  have read : Text.unsigned? text =
      if text.all Char.isDigit then some (NumberForm.valueOf 10 text) else none := by
    simp only [Text.unsigned?, bare, if_false, List.isEmpty_eq_false_iff.2 nonempty]
    cases text.all Char.isDigit <;> rfl
  rw [isOctet, read]
  by_cases areDigits : ∀ digit ∈ text, digit.isDigit = true
  · have value := NumberForm.valueOf_ten areDigits
    rw [if_pos (List.all_eq_true.2 areDigits), value]
    simpa using fun _ => areDigits
  · rw [if_neg (List.all_eq_true.not.2 areDigits)]
    exact iff_of_false nofun fun both => areDigits both.1

namespace Label

/-- What holds of the byte of each code holds of all bytes. -/
theorem forall_byte {holds : UInt8 → Prop} (each : ∀ code < 256, holds (UInt8.ofNat code))
    (byte : UInt8) : holds byte := by
  have held := each byte.toNat byte.toNat_lt
  rwa [UInt8.ofNat_toNat] at held

/-- Letters, digits, the underscore and the hyphen. -/
def isUnescaped (byte : UInt8) : Bool :=
  let character := Char.ofUInt8 byte
  character.isAlphanum || character == '_' || character == '-'

/-- That a label consists of such bytes and does not start with a hyphen. -/
structure IsPlainLabel (label : Label) : Prop where
  bytes : ∀ byte ∈ label, isUnescaped byte = true
  start : label.head? ≠ some 0x2d

instance (label : Label) : Decidable label.IsPlainLabel :=
  decidable_of_iff (label.all isUnescaped = true ∧ label.head? ≠ some 0x2d)
    ⟨fun ⟨bytes, start⟩ => ⟨List.all_eq_true.1 bytes, start⟩,
      fun ⟨bytes, start⟩ => ⟨List.all_eq_true.2 bytes, start⟩⟩

theorem isUnescaped_eq (byte : UInt8) : isUnescaped byte = (isPlain byte || byte == 0x2d) := by
  revert byte
  exact forall_byte (by decide +kernel)

theorem ofUInt8_lowercaseByte (byte : UInt8) :
    Char.ofUInt8 (lowercaseByte byte) = (Char.ofUInt8 byte).toLower := by
  revert byte
  exact forall_byte (by decide +kernel)

theorem isUnescaped_lowercaseByte (byte : UInt8) :
    isUnescaped (lowercaseByte byte) = isUnescaped byte := by
  revert byte
  exact forall_byte (by decide +kernel)

theorem lowercaseByte_eq_hyphen_iff (byte : UInt8) : lowercaseByte byte = 0x2d ↔ byte = 0x2d := by
  revert byte
  exact forall_byte (by decide +kernel)

theorem ofUInt8_ne_of_isUnescaped (byte : UInt8) (unescaped : isUnescaped byte = true) :
    Char.ofUInt8 byte ≠ '.' ∧ Char.ofUInt8 byte ≠ ':' ∧ Char.ofUInt8 byte ≠ '+' ∧
      Text.isBlank (Char.ofUInt8 byte) = false := by
  revert byte
  exact forall_byte (by decide +kernel)

/-- Whether a label is plain does not depend on letter case. -/
theorem isPlainLabel_lowercase_iff {label : Label} :
    IsPlainLabel (label.map lowercaseByte) ↔ label.IsPlainLabel := by
  have starts : (label.map lowercaseByte).head? = some 0x2d ↔ label.head? = some 0x2d := by
    cases label <;> simp [lowercaseByte_eq_hyphen_iff]
  constructor
  · rintro ⟨bytes, start⟩
    refine ⟨?_, starts.not.1 start⟩
    intro byte member
    rw [← isUnescaped_lowercaseByte]
    exact bytes _ (List.mem_map_of_mem member)
  · rintro ⟨bytes, start⟩
    refine ⟨?_, starts.not.2 start⟩
    simpa [isUnescaped_lowercaseByte] using bytes

/-- Plain labels are written as they are. -/
theorem escape_of_isPlainLabel {label : Label} (plain : label.IsPlainLabel) :
    label.escape = label.map Char.ofUInt8 := by
  have inside (byte : UInt8) (unescaped : isUnescaped byte = true) :
      escapeByte false byte = [Char.ofUInt8 byte] := by
    simp only [isUnescaped_eq, Bool.or_eq_true, beq_iff_eq] at unescaped
    rcases unescaped with letter | rfl
    · simp [escapeByte, letter]
    · decide
  rcases plain with ⟨bytes, start⟩
  cases label with
  | nil => rfl
  | cons first rest =>
      rw [List.forall_mem_cons] at bytes
      have letter : isPlain first = true := by
        simpa [isUnescaped_eq, show first ≠ 0x2d by simpa using start] using bytes.1
      rw [escape, escapeByte, if_pos letter, List.map_cons, List.singleton_append,
        List.map_eq_flatMap]
      congr 1
      apply List.flatMap_congr
      intro byte member
      exact inside byte (bytes.2 byte member)

end Label

namespace DomainName

/-- That a name has labels and all of them are plain. -/
structure IsPlain (name : DomainName) : Prop where
  labels_ne_nil : name.labels ≠ []
  labels : ∀ label ∈ name.labels, label.IsPlainLabel

instance (name : DomainName) : Decidable name.IsPlain :=
  decidable_of_iff (name.labels ≠ [] ∧ ∀ label ∈ name.labels, label.IsPlainLabel)
    ⟨fun ⟨nonempty, labels⟩ => ⟨nonempty, labels⟩, fun ⟨nonempty, labels⟩ => ⟨nonempty, labels⟩⟩

/-- The labels of a name as texts, one character for each byte. -/
def texts (name : DomainName) : List (List Char) :=
  name.labels.map fun label => label.map Char.ofUInt8

/-- The labels of a name in lower case with dots between them. -/
def listText (name : DomainName) : List Char := List.intercalate ['.'] name.lowercase.texts

/-- That a name is a sequence of decimal numbers below 256 with dots between them. -/
def IsDottedOctets (name : DomainName) : Prop :=
  2 ≤ name.lowercase.texts.length ∧
    ∀ piece ∈ name.lowercase.texts,
      (∀ digit ∈ piece, digit.isDigit = true) ∧ Nat.ofDigitChars 10 piece 0 < 256

instance (name : DomainName) : Decidable name.IsDottedOctets :=
  decidable_of_iff (2 ≤ name.lowercase.texts.length ∧
      name.lowercase.texts.all fun piece =>
        piece.all Char.isDigit && Nat.ofDigitChars 10 piece 0 < 256) <| by
    simp [IsDottedOctets]

theorem listText_congr {name other : DomainName} (same : name.lowercase = other.lowercase) :
    name.listText = other.listText := by
  rw [listText, same]
  rfl

theorem isPlain_lowercase_iff {name : DomainName} : name.lowercase.IsPlain ↔ name.IsPlain := by
  constructor
  · rintro ⟨nonempty, labels⟩
    refine ⟨by simpa [lowercase] using nonempty, ?_⟩
    intro label member
    exact Label.isPlainLabel_lowercase_iff.1 (labels _ (List.mem_map_of_mem member))
  · rintro ⟨nonempty, labels⟩
    refine ⟨by simpa [lowercase] using nonempty, ?_⟩
    intro label member
    rcases List.mem_map.1 member with ⟨original, isLabel, rfl⟩
    exact Label.isPlainLabel_lowercase_iff.2 (labels original isLabel)

theorem texts_lowercase (name : DomainName) :
    name.lowercase.texts = name.texts.map fun piece => piece.map Char.toLower := by
  simp [texts, lowercase, Label.ofUInt8_lowercaseByte, Function.comp_def]

end DomainName

section Dots

variable {pieces : List (List Char)}

/-- Pieces with a dot after each are the pieces with dots between them and a final dot. -/
theorem flatMap_dot_eq_intercalate (nonempty : pieces ≠ []) :
    (pieces.flatMap fun piece => piece ++ ['.']) = List.intercalate ['.'] pieces ++ ['.'] := by
  induction pieces with
  | nil => contradiction
  | cons first rest ih =>
      cases rest with
      | nil => simp
      | cons second rest =>
          rw [List.flatMap_cons, ih (by simp), List.intercalate_cons_cons]
          simp

theorem map_intercalate_dot (pieces : List (List Char)) :
    (List.intercalate ['.'] pieces).map Char.toLower =
      List.intercalate ['.'] (pieces.map fun piece => piece.map Char.toLower) := by
  induction pieces with
  | nil => rfl
  | cons first rest ih =>
      cases rest with
      | nil => simp
      | cons second rest =>
          rw [List.intercalate_cons_cons, List.map_append, List.map_append, ih]
          simp [List.intercalate_cons_cons]

theorem mem_intercalate_dot_iff {character : Char} :
    character ∈ List.intercalate ['.'] pieces ↔
      (∃ piece ∈ pieces, character ∈ piece) ∨ 2 ≤ pieces.length ∧ character = '.' := by
  induction pieces with
  | nil => simp
  | cons first rest ih =>
      cases rest with
      | nil => simp
      | cons second rest =>
          rw [List.intercalate_cons_cons, List.mem_append, List.mem_append, ih]
          grind

/-- There is no final dot where no piece is empty: splitting at it would give an empty piece. -/
theorem getLast?_intercalate_dot_ne (nonempty : ∀ piece ∈ pieces, piece ≠ [])
    (dotless : ∀ piece ∈ pieces, '.' ∉ piece) :
    (List.intercalate ['.'] pieces).getLast? ≠ some '.' := by
  intro final
  rcases List.getLast?_eq_some_iff.1 final with ⟨front, ends⟩
  have split : pieces = front.splitOn '.' ++ [[]] := by
    rw [← List.splitOn_intercalate '.' dotless, ends, List.splitOn_append_cons_self]
    · rfl
    · rintro rfl
      simp at ends
  apply nonempty [] _ rfl
  rw [split]
  simp

end Dots

namespace DomainName.IsPlain

variable {name : DomainName}

theorem of_mem_texts (plain : name.IsPlain) {piece : List Char} (member : piece ∈ name.texts) :
    piece ≠ [] ∧ '.' ∉ piece ∧ ':' ∉ piece ∧ '+' ∉ piece ∧
      ∀ character ∈ piece, Text.isBlank character = false := by
  rcases List.mem_map.1 member with ⟨label, isLabel, rfl⟩
  have other (byte : UInt8) (isByte : byte ∈ label) :=
    Label.ofUInt8_ne_of_isUnescaped byte ((plain.labels label isLabel).bytes byte isByte)
  refine ⟨?_, ?_, ?_, ?_, ?_⟩
  · simpa using name.labels_nonempty label isLabel
  · intro dot
    rcases List.mem_map.1 dot with ⟨byte, isByte, same⟩
    exact (other byte isByte).1 same
  · intro colon
    rcases List.mem_map.1 colon with ⟨byte, isByte, same⟩
    exact (other byte isByte).2.1 same
  · intro plus
    rcases List.mem_map.1 plus with ⟨byte, isByte, same⟩
    exact (other byte isByte).2.2.1 same
  · intro character present
    rcases List.mem_map.1 present with ⟨byte, isByte, rfl⟩
    exact (other byte isByte).2.2.2

theorem lowercase (plain : name.IsPlain) : name.lowercase.IsPlain := isPlain_lowercase_iff.2 plain

theorem characters_eq (plain : name.IsPlain) :
    name.characters = List.intercalate ['.'] name.texts ++ ['.'] := by
  have nonempty := plain.labels_ne_nil
  have written : name.characters = name.labels.flatMap fun label => label.escape ++ ['.'] := by
    unfold characters
    split
    · contradiction
    · rfl
  rw [written, ← flatMap_dot_eq_intercalate (by simpa [texts] using nonempty), texts,
    List.flatMap_map]
  apply List.flatMap_congr
  intro label isLabel
  rw [Label.escape_of_isPlainLabel (plain.labels label isLabel)]

theorem finalDotless (plain : name.IsPlain) :
    (List.intercalate ['.'] name.texts).getLast? ≠ some '.' := by
  apply getLast?_intercalate_dot_ne
  · intro piece member
    exact (plain.of_mem_texts member).1
  · intro piece member
    exact (plain.of_mem_texts member).2.1

/-- The block set looks for a plain name by its labels in lower case. -/
theorem foldName_eq (plain : name.IsPlain) :
    foldName (normalizeName name.toText) = String.ofList name.listText := by
  have once : normalizeName name.toText = String.ofList (List.intercalate ['.'] name.texts) := by
    simp [normalizeName, toText, dropFinalDot, plain.characters_eq]
  rw [once, foldName, String.toList_ofList, dropFinalDot, if_neg plain.finalDotless,
    map_intercalate_dot, ← texts_lowercase]
  rfl

theorem listText_ne_nil (plain : name.IsPlain) : name.listText ≠ [] := by
  rcases List.exists_cons_of_ne_nil plain.lowercase.labels_ne_nil with ⟨label, labels, split⟩
  have member : label.map Char.ofUInt8 ∈ name.lowercase.texts := by simp [DomainName.texts, split]
  rcases List.exists_mem_of_ne_nil _ (plain.lowercase.of_mem_texts member).1 with
    ⟨character, present⟩
  exact List.ne_nil_of_mem (mem_intercalate_dot_iff.2 (.inl ⟨_, member, present⟩))

theorem listText_notBlank (plain : name.IsPlain) :
    ∀ character ∈ name.listText, Text.isBlank character = false := by
  intro character present
  rcases mem_intercalate_dot_iff.1 present with ⟨piece, member, inside⟩ | ⟨_, rfl⟩
  · exact (plain.lowercase.of_mem_texts member).2.2.2.2 character inside
  · rfl

theorem isAddressLike_iff (plain : name.IsPlain) :
    Blocklist.isAddressLike name.listText = true ↔ name.IsDottedOctets := by
  have texts {piece : List Char} (member : piece ∈ name.lowercase.texts) :
      piece ≠ [] ∧ '.' ∉ piece ∧ ':' ∉ piece ∧ '+' ∉ piece ∧
        ∀ character ∈ piece, Text.isBlank character = false := plain.lowercase.of_mem_texts member
  have colonless : ':' ∉ name.listText := by
    rw [listText, mem_intercalate_dot_iff]
    rintro (⟨piece, member, colon⟩ | ⟨_, same⟩)
    · exact (texts member).2.2.1 colon
    · exact absurd same (by decide)
  have dotted : '.' ∈ name.listText ↔ 2 ≤ name.lowercase.texts.length := by
    rw [listText, mem_intercalate_dot_iff]
    constructor
    · rintro (⟨piece, member, dot⟩ | ⟨several, _⟩)
      · exact absurd dot (texts member).2.1
      · exact several
    · intro several
      exact .inr ⟨several, rfl⟩
  have split : name.listText.splitOn '.' = name.lowercase.texts := by
    apply List.splitOn_intercalate
    · intro piece member
      exact (texts member).2.1
    · simpa [DomainName.texts] using plain.lowercase.labels_ne_nil
  have octets : name.lowercase.texts.all Blocklist.isOctet = true ↔
      ∀ piece ∈ name.lowercase.texts,
        (∀ digit ∈ piece, digit.isDigit = true) ∧ Nat.ofDigitChars 10 piece 0 < 256 := by
    rw [List.all_eq_true]
    apply forall₂_congr
    intro piece member
    exact Blocklist.isOctet_iff (texts member).1 (texts member).2.2.2.1
  simp only [Blocklist.isAddressLike, split, Bool.or_eq_true, Bool.and_eq_true,
    List.contains_iff_mem, colonless, false_or, dotted, octets, IsDottedOctets]

end DomainName.IsPlain

namespace Blocklist

/-- That an entry is a text in any letter case, perhaps with a final dot. -/
def Spells (entry text : List Char) : Prop :=
  entry.map Char.toLower = text ∨ entry.map Char.toLower = text ++ ['.']

instance (entry text : List Char) : Decidable (Spells entry text) :=
  inferInstanceAs (Decidable (_ ∨ _))

theorem spells_iff {entry text : List Char} (finalDotless : text.getLast? ≠ some '.') :
    Spells entry text ↔ (dropFinalDot entry).map Char.toLower = text := by
  unfold Spells dropFinalDot
  rcases List.eq_nil_or_concat entry with rfl | ⟨front, last, rfl⟩
  · simp
  · simp only [List.concat_eq_append, List.getLast?_append, List.getLast?_singleton,
      Option.some_or, Option.some.injEq, List.map_append, List.map_cons, List.map_nil]
    by_cases final : last = '.'
    · subst final
      simp only [if_true, List.dropLast_concat]
      constructor
      · rintro (rfl | same)
        · simp at finalDotless
        · exact List.append_cancel_right same
      · rintro rfl
        exact .inr rfl
    · simp only [final, if_false, List.map_append, List.map_cons, List.map_nil, or_iff_left_iff_imp]
      intro same
      have lowered : last.toLower = '.' := by
        simpa using congrArg List.getLast? same
      exact absurd (toLower_eq_dot_iff.1 lowered) final

theorem toLower_of_isBlank {blank : Char} (white : Text.isBlank blank = true) :
    blank.toLower = blank := by
  apply toLower_of_not_isUpper
  intro upper
  unfold Char.isUpper at upper
  have range : 65 ≤ blank.toNat ∧ blank.toNat ≤ 90 := by
    simpa [UInt32.le_iff_toNat_le] using upper
  simp only [Text.isBlank, Bool.or_eq_true, Bool.and_eq_true, decide_eq_true_eq,
    beq_iff_eq] at white
  omega

/-- Where nothing is blank, neither is a spelling of it. -/
theorem Spells.notBlank {entry text : List Char} (spells : Spells entry text)
    (notBlank : ∀ character ∈ text, Text.isBlank character = false) :
    ∀ character ∈ entry, Text.isBlank character = false := by
  intro character present
  by_contra white
  rw [Bool.not_eq_false] at white
  have lowered := List.mem_map_of_mem (f := Char.toLower) present
  rw [toLower_of_isBlank white] at lowered
  rcases spells with same | same
  · rw [same] at lowered
    simp [notBlank character lowered] at white
  · rw [same, List.mem_append, List.mem_singleton] at lowered
    rcases lowered with inside | rfl
    · simp [notBlank character inside] at white
    · contradiction

theorem canonical?_eq_some_iff {entry name : String} :
    canonical? entry = some name ↔
      foldName (String.ofList (Text.trim entry.toList)) = name ∧ name ≠ "" ∧
        name ∉ systemNames ∧ isAddressLike name.toList = false := by
  simp only [canonical?, Option.ite_none_left_eq_some, Option.some.injEq, Bool.or_eq_true,
    String.isEmpty_iff, List.contains_iff_mem, not_or, Bool.not_eq_true]
  constructor
  · rintro ⟨⟨⟨nonempty, notSystem⟩, notAddress⟩, rfl⟩
    exact ⟨rfl, nonempty, notSystem, notAddress⟩
  · rintro ⟨rfl, nonempty, notSystem, notAddress⟩
    exact ⟨⟨⟨nonempty, notSystem⟩, notAddress⟩, rfl⟩

/-- That an entry, blanks around it apart, spells a text. -/
def EntrySpells (entry : String) (text : List Char) : Prop :=
  ∃ word, Text.Consists entry.toList [word] ∧ Spells word text

theorem spells_trim_iff {name : DomainName} (plain : name.IsPlain) {entry : String} :
    Spells (Text.trim entry.toList) name.listText ↔ EntrySpells entry name.listText := by
  have isWord {word : List Char} (spells : Spells word name.listText) :
      word ≠ [] ∧ ∀ character ∈ word, Text.isBlank character = false := by
    refine ⟨?_, spells.notBlank plain.listText_notBlank⟩
    rintro rfl
    rcases spells with empty | dotted
    · exact plain.listText_ne_nil empty.symm
    · simp at dotted
  constructor
  · intro spells
    rcases isWord spells with ⟨nonempty, notBlank⟩
    exact ⟨_, (Text.trim_eq_iff nonempty notBlank).1 rfl, spells⟩
  · rintro ⟨word, consists, spells⟩
    rcases isWord spells with ⟨nonempty, notBlank⟩
    rwa [(Text.trim_eq_iff nonempty notBlank).2 consists]

/-- An entry stands for a plain name if it spells it, unless no list can name it. -/
theorem canonical?_eq_some_iff_of_isPlain {name : DomainName} (plain : name.IsPlain)
    {entry : String} :
    canonical? entry = some (String.ofList name.listText) ↔
      Spells (Text.trim entry.toList) name.listText ∧
        String.ofList name.listText ∉ systemNames ∧ ¬name.IsDottedOctets := by
  have finalDotless : name.listText.getLast? ≠ some '.' := plain.lowercase.finalDotless
  rw [canonical?_eq_some_iff, String.toList_ofList, ← plain.isAddressLike_iff,
    spells_iff finalDotless]
  simp [foldName, String.ofList_inj, plain.listText_ne_nil]

end Blocklist

end DnsFilter
