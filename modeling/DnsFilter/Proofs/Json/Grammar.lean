import DnsFilter.Json.Printer
import DnsFilter.Proofs.Json.Lexemes

/-!
# Texts of documents

Which bytes are a text of which document, said without a reader: blanks may stand around values,
keys and marks. The reader accepts exactly these texts and finds the document that they are a text
of.
-/

namespace DnsFilter.Json

def AreBlanks (bytes : List UInt8) : Prop := ∀ byte ∈ bytes, isSpace byte = true

/-- That bytes are the key of a member and the colon after it. -/
inductive IsKey (key : List UInt8) : List UInt8 → Prop where
  | intro {front middle : List UInt8} (frontBlank : AreBlanks front) (isBody : IsBody key)
      (middleBlank : AreBlanks middle) : IsKey key (front ++ quoted key ++ middle ++ [byteOf ':'])

mutual

/-- That bytes are a text of a document with no blanks around it. -/
inductive IsBare : Json → List UInt8 → Prop where
  | null : IsBare .null (bytesOf "null")
  | bool (value : Bool) : IsBare (.bool value) (bytesOf (if value then "true" else "false"))
  | number {literal : List UInt8} (isNumber : IsNumber literal) : IsBare (.number literal) literal
  | string {body : List UInt8} (isBody : IsBody body) : IsBare (.string body) (quoted body)
  | emptyArray {blanks : List UInt8} (areBlanks : AreBlanks blanks) :
      IsBare (.array []) (byteOf '[' :: blanks ++ [byteOf ']'])
  | array {items : List Json} {bytes : List UInt8} (areItems : AreItems items bytes) :
      IsBare (.array items) (byteOf '[' :: bytes ++ [byteOf ']'])
  | emptyObject {blanks : List UInt8} (areBlanks : AreBlanks blanks) :
      IsBare (.object []) (byteOf '\x7b' :: blanks ++ [byteOf '\x7d'])
  | object {members : List (List UInt8 × Json)} {bytes : List UInt8}
      (areMembers : AreMembers members bytes) :
      IsBare (.object members) (byteOf '\x7b' :: bytes ++ [byteOf '\x7d'])

/-- That bytes are a text of a document. -/
inductive IsText : Json → List UInt8 → Prop where
  | padded {document : Json} {front bare back : List UInt8} (frontBlank : AreBlanks front)
      (isBare : IsBare document bare) (backBlank : AreBlanks back) :
      IsText document (front ++ bare ++ back)

/-- That bytes are texts of items with commas between them. -/
inductive AreItems : List Json → List UInt8 → Prop where
  | last {item : Json} {bytes : List UInt8} (isText : IsText item bytes) : AreItems [item] bytes
  | more {item : Json} {items : List Json} {bytes others : List UInt8}
      (isText : IsText item bytes) (areItems : AreItems items others) :
      AreItems (item :: items) (bytes ++ byteOf ',' :: others)

/-- That bytes are texts of members with commas between them. -/
inductive AreMembers : List (List UInt8 × Json) → List UInt8 → Prop where
  | last {key front bytes : List UInt8} {item : Json} (isKey : IsKey key front)
      (isText : IsText item bytes) : AreMembers [(key, item)] (front ++ bytes)
  | more {key front bytes others : List UInt8} {item : Json}
      {members : List (List UInt8 × Json)} (isKey : IsKey key front) (isText : IsText item bytes)
      (areMembers : AreMembers members others) :
      AreMembers ((key, item) :: members) (front ++ bytes ++ byteOf ',' :: others)

end

section

variable {key front back bytes rest literal bare : List UInt8} {document : Json}

theorem skipSpace_append (areBlanks : AreBlanks front) (stops : StopsAt isSpace rest) :
    skipSpace (front ++ rest) = rest := dropWhile_append_of_stopsAt areBlanks stops

theorem skipSpace_append_cons {first : UInt8} (areBlanks : AreBlanks front)
    (black : isSpace first = false) : skipSpace (front ++ first :: rest) = first :: rest := by
  apply skipSpace_append areBlanks
  intro byte same
  cases same
  exact black

theorem exists_eq_append_skipSpace (bytes : List UInt8) :
    ∃ front, AreBlanks front ∧ bytes = front ++ skipSpace bytes :=
  ⟨bytes.takeWhile isSpace, List.all_eq_true.1 List.all_takeWhile,
    List.takeWhile_append_dropWhile.symm⟩

theorem readLiteral?_eq_some_iff :
    readLiteral? literal bytes = some rest ↔ bytes = literal ++ rest := by
  simp only [readLiteral?, Option.ite_none_right_eq_some, Option.some.injEq,
    List.isPrefixOf_iff_prefix]
  constructor
  · rintro ⟨⟨tail, rfl⟩, rfl⟩
    simp
  · rintro rfl
    simp

@[simp]
theorem readLiteral?_append (literal rest : List UInt8) :
    readLiteral? literal (literal ++ rest) = some rest :=
  readLiteral?_eq_some_iff.2 rfl

theorem readLiteral?_of_ne {first expected : UInt8} (different : first ≠ expected)
    (literal rest : List UInt8) : readLiteral? (expected :: literal) (first :: rest) = none := by
  rw [Option.eq_none_iff_forall_ne_some]
  intro found read
  rw [readLiteral?_eq_some_iff, List.cons_append, List.cons.injEq] at read
  exact different read.1

theorem readKey?_append (isKey : IsKey key front) (rest : List UInt8) :
    readKey? (front ++ rest) = some (key, rest) := by
  have quote : isSpace (byteOf '"') = false := by decide
  have colon : isSpace (byteOf ':') = false := by decide
  rcases isKey with ⟨frontBlank, isBody, middleBlank⟩
  simp [readKey?, quoted, skipSpace_append_cons frontBlank quote, readLiteral?,
    readString?_append isBody, skipSpace_append_cons middleBlank colon]

theorem isKey_of_readKey? (read : readKey? bytes = some (key, rest)) :
    ∃ front, IsKey key front ∧ bytes = front ++ rest := by
  simp only [readKey?, Option.bind_eq_bind, Option.bind_eq_some_iff, Prod.exists,
    Option.pure_def, Option.some.injEq, Prod.mk.injEq, readLiteral?_eq_some_iff] at read
  rcases read with ⟨_, opens, _, following, readBody, _, colon, rfl, rfl⟩
  rcases exists_eq_append_skipSpace bytes with ⟨front, frontBlank, split⟩
  rcases exists_eq_append_skipSpace following with ⟨middle, middleBlank, middleSplit⟩
  rcases isBody_of_readString? readBody with ⟨isBody, rfl⟩
  refine ⟨_, .intro frontBlank isBody middleBlank, ?_⟩
  rw [opens] at split
  rw [colon] at middleSplit
  rw [split, middleSplit]
  simp [quoted]

theorem first_of_isNumber (isNumber : IsNumber literal) :
    ∃ first others, literal = first :: others ∧ (isDigit first = true ∨ first = byteOf '-') := by
  rcases isNumber with ⟨rfl | rfl, isWhole, _, _⟩
  · rcases List.exists_cons_of_ne_nil isWhole.1.1 with ⟨first, others, rfl⟩
    exact ⟨first, _, rfl, .inl (isWhole.1.2 first (.head _))⟩
  · exact ⟨_, _, rfl, .inr rfl⟩

theorem unmarked_of_isNumber (isNumber : IsNumber literal) :
    ∃ first others, literal = first :: others ∧ isSpace first = false ∧ first ≠ byteOf '"' ∧
      first ≠ byteOf '[' ∧ first ≠ byteOf ']' ∧ first ≠ byteOf '\x7b' := by
  rcases first_of_isNumber isNumber with ⟨first, others, split, digit | rfl⟩
  · refine ⟨first, others, split, ?_, ?_, ?_, ?_, ?_⟩
    · simp only [isSpace, Bool.or_eq_false_iff, beq_eq_false_iff_ne]
      refine ⟨⟨⟨?_, ?_⟩, ?_⟩, ?_⟩ <;> exact ne_of_isDigit digit (by decide)
    all_goals exact ne_of_isDigit digit (by decide)
  · exact ⟨_, others, split, by decide⟩

theorem isBare_of_readScalar? (read : readScalar? bytes = some (document, rest)) :
    ∃ bare, IsBare document bare ∧ bytes = bare ++ rest := by
  unfold readScalar? at read
  split at read
  · next isNull =>
      cases read
      exact ⟨_, .null, readLiteral?_eq_some_iff.1 isNull⟩
  · split at read
    · next isTrue =>
        cases read
        exact ⟨_, .bool true, readLiteral?_eq_some_iff.1 isTrue⟩
    · split at read
      · next isFalse =>
          cases read
          exact ⟨_, .bool false, readLiteral?_eq_some_iff.1 isFalse⟩
      · simp only [Option.map_eq_some_iff, Prod.mk.injEq, Prod.exists] at read
        rcases read with ⟨literal, _, readNumber, rfl, rfl⟩
        rcases isNumber_of_readNumber? readNumber with ⟨isNumber, split⟩
        exact ⟨literal, .number isNumber, split⟩

theorem readScalar?_null (rest : List UInt8) :
    readScalar? (bytesOf "null" ++ rest) = some (null, rest) := by
  simp [readScalar?]

theorem bytesOf_names :
    bytesOf "null" = byteOf 'n' :: bytesOf "ull" ∧ bytesOf "true" = byteOf 't' :: bytesOf "rue" ∧
      bytesOf "false" = byteOf 'f' :: bytesOf "alse" := by
  decide +kernel

theorem readScalar?_bool (value : Bool) (rest : List UInt8) :
    readScalar? (bytesOf (if value then "true" else "false") ++ rest) =
      some (bool value, rest) := by
  rcases bytesOf_names with ⟨null, yes, no⟩
  cases value with
  | true =>
      have notNull : readLiteral? (bytesOf "null") (bytesOf "true" ++ rest) = none := by
        rw [null, yes]
        exact readLiteral?_of_ne (by decide) _ _
      simp [readScalar?, notNull]
  | false =>
      have notNull : readLiteral? (bytesOf "null") (bytesOf "false" ++ rest) = none := by
        rw [null, no]
        exact readLiteral?_of_ne (by decide) _ _
      have notTrue : readLiteral? (bytesOf "true") (bytesOf "false" ++ rest) = none := by
        rw [yes, no]
        exact readLiteral?_of_ne (by decide) _ _
      simp [readScalar?, notNull, notTrue]

theorem readScalar?_number (isNumber : IsNumber literal) (stops : StopsAt isNumberPart rest) :
    readScalar? (literal ++ rest) = some (number literal, rest) := by
  rcases bytesOf_names with ⟨null, yes, no⟩
  rcases first_of_isNumber isNumber with ⟨first, others, split, starts⟩
  have noName {letter : UInt8} (isLetter : isDigit letter = false ∧ letter ≠ byteOf '-')
      (name : List UInt8) : readLiteral? (letter :: name) (literal ++ rest) = none := by
    rw [split]
    apply readLiteral?_of_ne
    rintro rfl
    simp [isLetter] at starts
  simp [readScalar?, null, yes, no, noName (by decide : isDigit (byteOf 'n') = false ∧ _),
    noName (by decide : isDigit (byteOf 't') = false ∧ _),
    noName (by decide : isDigit (byteOf 'f') = false ∧ _), readNumber?_append isNumber stops]

theorem isNumberPart_of_isSpace {byte : UInt8} (space : isSpace byte = true) :
    isNumberPart byte = false := by
  simp only [isSpace, Bool.or_eq_true, beq_iff_eq] at space
  rcases space with ((rfl | rfl) | rfl) | rfl <;> decide

theorem stopsAt_blanks (areBlanks : AreBlanks front) (stops : StopsAt isNumberPart rest) :
    StopsAt isNumberPart (front ++ rest) := by
  cases front with
  | nil => exact stops
  | cons blank front =>
      intro byte same
      cases same
      exact isNumberPart_of_isSpace (areBlanks blank (.head _))

theorem first_of_isBare (isBare : IsBare document bare) :
    ∃ first others, bare = first :: others ∧ isSpace first = false ∧ first ≠ byteOf ']' := by
  rcases bytesOf_names with ⟨null, yes, no⟩
  cases isBare with
  | null => exact ⟨_, _, null, by decide⟩
  | bool value =>
      cases value with
      | true => exact ⟨_, _, yes, by decide⟩
      | false => exact ⟨_, _, no, by decide⟩
  | number isNumber =>
      rcases unmarked_of_isNumber isNumber with ⟨first, others, split, black, _, _, unended, _⟩
      exact ⟨first, others, split, black, unended⟩
  | string | emptyArray | array | emptyObject | object => exact ⟨_, _, rfl, by decide⟩

theorem readValue?_of_readScalar? {measure : Nat} {first : UInt8} {others : List UInt8}
    (frontBlank : AreBlanks front) (split : bare = first :: others)
    (black : isSpace first = false)
    (unmarked : first ≠ byteOf '"' ∧ first ≠ byteOf '[' ∧ first ≠ byteOf '\x7b')
    (read : readScalar? (bare ++ rest) = some (document, rest)) :
    readValue? (measure + 1) (front ++ bare ++ rest) = some (document, rest) := by
  subst split
  rw [List.append_assoc, List.cons_append, readValue?, skipSpace_append_cons frontBlank black]
  simpa [unmarked] using read

/-- What the readers make of the texts that are no longer than their measure. -/
structure ReadsTexts (measure : Nat) : Prop where
  value : ∀ {document bare}, IsBare document bare → bare.length ≤ measure →
    ∀ {front rest}, AreBlanks front → StopsAt isNumberPart rest →
      readValue? measure (front ++ bare ++ rest) = some (document, rest)
  items : ∀ {items bytes}, AreItems items bytes → bytes.length < measure → ∀ rest,
    readItems? measure (bytes ++ byteOf ']' :: rest) = some (items, rest)
  members : ∀ {members bytes}, AreMembers members bytes → bytes.length < measure → ∀ rest,
    readMembers? measure (bytes ++ byteOf '\x7d' :: rest) = some (members, rest)

variable {items : List Json} {members : List (List UInt8 × Json)} {measure : Nat} {mark : UInt8}

theorem ReadsTexts.text (reads : ReadsTexts measure) (isText : IsText document bytes)
    (short : bytes.length ≤ measure) (isMark : isSpace mark = false ∧ isNumberPart mark = false)
    (rest : List UInt8) :
    ∃ back, readValue? measure (bytes ++ mark :: rest) = some (document, back) ∧
      skipSpace back = mark :: rest := by
  rcases isText with @⟨_, front, bare, back, frontBlank, isBare, backBlank⟩
  refine ⟨back ++ mark :: rest, ?_, skipSpace_append_cons backBlank isMark.1⟩
  rw [List.append_assoc]
  apply reads.value isBare
  · simp only [List.length_append] at short
    omega
  · exact frontBlank
  · apply stopsAt_blanks backBlank
    intro byte same
    cases same
    exact isMark.2

/-- Items are not taken for the end of an array, nor members for the end of an object. -/
theorem notEnd_of_areItems (areItems : AreItems items bytes) (rest : List UInt8) :
    readLiteral? [byteOf ']'] (skipSpace (bytes ++ rest)) = none := by
  have unended {item : Json} {text : List UInt8} (isText : IsText item text)
      (rest : List UInt8) : readLiteral? [byteOf ']'] (skipSpace (text ++ rest)) = none := by
    rcases isText with ⟨frontBlank, isBare, _⟩
    rcases first_of_isBare isBare with ⟨first, others, rfl, black, different⟩
    simp only [List.append_assoc, List.cons_append, skipSpace_append_cons frontBlank black]
    exact readLiteral?_of_ne different _ _
  cases areItems with
  | last isText => exact unended isText rest
  | more isText =>
      rw [List.append_assoc]
      exact unended isText _

theorem notEnd_of_areMembers (areMembers : AreMembers members bytes) (rest : List UInt8) :
    readLiteral? [byteOf '\x7d'] (skipSpace (bytes ++ rest)) = none := by
  have quote : isSpace (byteOf '"') = false := by decide
  have unended {key text : List UInt8} (isKey : IsKey key text) (rest : List UInt8) :
      readLiteral? [byteOf '\x7d'] (skipSpace (text ++ rest)) = none := by
    rcases isKey with ⟨frontBlank⟩
    simp only [quoted, List.append_assoc, List.cons_append, skipSpace_append_cons frontBlank quote]
    exact readLiteral?_of_ne (by decide) _ _
  cases areMembers with
  | last isKey =>
      rw [List.append_assoc]
      exact unended isKey _
  | more isKey =>
      rw [List.append_assoc, List.append_assoc]
      exact unended isKey _

theorem ReadsTexts.items_succ (reads : ReadsTexts measure) (areItems : AreItems items bytes)
    (short : bytes.length < measure + 1) (rest : List UInt8) :
    readItems? (measure + 1) (bytes ++ byteOf ']' :: rest) = some (items, rest) := by
  cases areItems with
  | last isText =>
      rcases reads.text isText (by omega) (by decide : isSpace (byteOf ']') = false ∧ _) rest with
        ⟨back, readItem, skipBack⟩
      simp [readItems?, readItem, skipBack]
  | @more _ _ text others isText areItems =>
      simp only [List.length_append, List.length_cons] at short
      rcases reads.text isText (by omega) (by decide : isSpace (byteOf ',') = false ∧ _)
        (others ++ byteOf ']' :: rest) with ⟨back, readItem, skipBack⟩
      have readOthers := reads.items areItems (by omega) rest
      have comma : (byteOf ',' == byteOf ']') = false := by decide
      rw [List.append_assoc, List.cons_append, readItems?]
      simp [readItem, skipBack, comma, readOthers]

theorem ReadsTexts.members_succ (reads : ReadsTexts measure)
    (areMembers : AreMembers members bytes) (short : bytes.length < measure + 1)
    (rest : List UInt8) :
    readMembers? (measure + 1) (bytes ++ byteOf '\x7d' :: rest) = some (members, rest) := by
  cases areMembers with
  | last isKey isText =>
      simp only [List.length_append] at short
      rcases reads.text isText (by omega) (by decide : isSpace (byteOf '\x7d') = false ∧ _)
        rest with ⟨back, readItem, skipBack⟩
      rw [List.append_assoc, readMembers?]
      simp [readKey?_append isKey, readItem, skipBack]
  | @more _ _ text others _ _ isKey isText areMembers =>
      simp only [List.length_append, List.length_cons] at short
      rcases reads.text isText (by omega) (by decide : isSpace (byteOf ',') = false ∧ _)
        (others ++ byteOf '\x7d' :: rest) with ⟨back, readItem, skipBack⟩
      have readOthers := reads.members areMembers (by omega) rest
      have comma : (byteOf ',' == byteOf '\x7d') = false := by decide
      rw [List.append_assoc, List.append_assoc, List.cons_append, readMembers?]
      simp [readKey?_append isKey, readItem, skipBack, comma, readOthers]

theorem ReadsTexts.value_succ (reads : ReadsTexts measure) (isBare : IsBare document bare)
    (short : bare.length ≤ measure + 1) (frontBlank : AreBlanks front)
    (stops : StopsAt isNumberPart rest) :
    readValue? (measure + 1) (front ++ bare ++ rest) = some (document, rest) := by
  rcases bytesOf_names with ⟨null, yes, no⟩
  have quote : isSpace (byteOf '"') = false := by decide
  have openArray : isSpace (byteOf '[') = false ∧ byteOf '[' ≠ byteOf '"' := by decide
  have openObject : isSpace (byteOf '\x7b') = false ∧ byteOf '\x7b' ≠ byteOf '"' ∧
    byteOf '\x7b' ≠ byteOf '[' := by decide
  cases isBare with
  | null =>
      exact readValue?_of_readScalar? frontBlank null (by decide) (by decide)
        (readScalar?_null rest)
  | bool value =>
      cases value with
      | true =>
          exact readValue?_of_readScalar? frontBlank yes (by decide) (by decide)
            (readScalar?_bool true rest)
      | false =>
          exact readValue?_of_readScalar? frontBlank no (by decide) (by decide)
            (readScalar?_bool false rest)
  | number isNumber =>
      rcases unmarked_of_isNumber isNumber with
        ⟨_, _, split, black, unquoted, noArray, _, noObject⟩
      exact readValue?_of_readScalar? frontBlank split black ⟨unquoted, noArray, noObject⟩
        (readScalar?_number isNumber stops)
  | string isBody =>
      simp [quoted, readValue?, skipSpace_append_cons frontBlank quote, readString?_append isBody]
  | @emptyArray blanks areBlanks =>
      simp [readValue?, skipSpace_append_cons frontBlank openArray.1, openArray.2,
        skipSpace_append_cons areBlanks (by decide : isSpace (byteOf ']') = false), readLiteral?]
  | array areItems =>
      simp only [List.length_append, List.length_cons, List.length_nil] at short
      simp [readValue?, skipSpace_append_cons frontBlank openArray.1, openArray.2,
        notEnd_of_areItems areItems, reads.items areItems (by omega)]
  | @emptyObject blanks areBlanks =>
      simp [readValue?, skipSpace_append_cons frontBlank openObject.1, openObject.2,
        skipSpace_append_cons areBlanks (by decide : isSpace (byteOf '\x7d') = false),
        readLiteral?]
  | object areMembers =>
      simp only [List.length_append, List.length_cons, List.length_nil] at short
      simp [readValue?, skipSpace_append_cons frontBlank openObject.1, openObject.2,
        notEnd_of_areMembers areMembers, reads.members areMembers (by omega)]

/-- By induction on the measure: a part of a text is shorter than the text, by its marks. -/
theorem readsTexts (measure : Nat) : ReadsTexts measure := by
  induction measure with
  | zero =>
      refine ⟨?_, nofun, nofun⟩
      intro document bare isBare short
      rcases first_of_isBare isBare with ⟨first, others, rfl, _⟩
      simp at short
  | succ measure ih =>
      refine ⟨?_, ih.items_succ, ih.members_succ⟩
      intro document bare isBare short front rest frontBlank stops
      exact ih.value_succ isBare short frontBlank stops

/-- That the readers take nothing but texts of what they find. -/
structure FindsTexts (measure : Nat) : Prop where
  value : ∀ {document bytes rest}, readValue? measure bytes = some (document, rest) →
    ∃ front bare, AreBlanks front ∧ IsBare document bare ∧ bytes = front ++ bare ++ rest
  items : ∀ {items bytes rest}, readItems? measure bytes = some (items, rest) →
    ∃ text, AreItems items text ∧ bytes = text ++ byteOf ']' :: rest
  members : ∀ {members bytes rest}, readMembers? measure bytes = some (members, rest) →
    ∃ text, AreMembers members text ∧ bytes = text ++ byteOf '\x7d' :: rest

theorem FindsTexts.text (finds : FindsTexts measure) {after : List UInt8}
    (read : readValue? measure bytes = some (document, after))
    (next : skipSpace after = mark :: rest) :
    ∃ text, IsText document text ∧ bytes = text ++ mark :: rest := by
  rcases finds.value read with ⟨front, bare, frontBlank, isBare, rfl⟩
  rcases exists_eq_append_skipSpace after with ⟨back, backBlank, split⟩
  refine ⟨_, .padded frontBlank isBare backBlank, ?_⟩
  rw [List.append_assoc (front ++ bare), ← next, ← split]

theorem FindsTexts.items_succ (finds : FindsTexts measure)
    (read : readItems? (measure + 1) bytes = some (items, rest)) :
    ∃ text, AreItems items text ∧ bytes = text ++ byteOf ']' :: rest := by
  rw [readItems?] at read
  split at read
  · contradiction
  · next readItem =>
      split at read
      · contradiction
      · next mark others next =>
          rcases finds.text readItem next with ⟨text, isText, rfl⟩
          split at read
          · next isEnd =>
              cases read
              rw [beq_iff_eq.1 isEnd]
              exact ⟨text, .last isText, rfl⟩
          · split at read
            · next isComma =>
                simp only [Option.map_eq_some_iff, Prod.mk.injEq, Prod.exists] at read
                rcases read with ⟨_, _, readOthers, rfl, rfl⟩
                rcases finds.items readOthers with ⟨otherText, areItems, rfl⟩
                rw [beq_iff_eq.1 isComma]
                exact ⟨_, .more isText areItems, by simp⟩
            · contradiction

theorem FindsTexts.members_succ (finds : FindsTexts measure)
    (read : readMembers? (measure + 1) bytes = some (members, rest)) :
    ∃ text, AreMembers members text ∧ bytes = text ++ byteOf '\x7d' :: rest := by
  rw [readMembers?] at read
  split at read
  · contradiction
  · next readKey =>
      rcases isKey_of_readKey? readKey with ⟨front, isKey, rfl⟩
      split at read
      · contradiction
      · next readItem =>
          split at read
          · contradiction
          · next mark others next =>
              rcases finds.text readItem next with ⟨text, isText, rfl⟩
              split at read
              · next isEnd =>
                  cases read
                  rw [beq_iff_eq.1 isEnd]
                  exact ⟨front ++ text, .last isKey isText, by simp⟩
              · split at read
                · next isComma =>
                    simp only [Option.map_eq_some_iff, Prod.mk.injEq, Prod.exists] at read
                    rcases read with ⟨_, _, readOthers, rfl, rfl⟩
                    rcases finds.members readOthers with ⟨otherText, areMembers, rfl⟩
                    rw [beq_iff_eq.1 isComma]
                    exact ⟨_, .more isKey isText areMembers, by simp⟩
                · contradiction

theorem FindsTexts.value_succ (finds : FindsTexts measure)
    (read : readValue? (measure + 1) bytes = some (document, rest)) :
    ∃ front bare, AreBlanks front ∧ IsBare document bare ∧ bytes = front ++ bare ++ rest := by
  rcases exists_eq_append_skipSpace bytes with ⟨front, frontBlank, split⟩
  rw [readValue?] at read
  rw [split]
  suffices ∃ bare, IsBare document bare ∧ skipSpace bytes = bare ++ rest by
    rcases this with ⟨bare, isBare, same⟩
    exact ⟨front, bare, frontBlank, isBare, by rw [same, List.append_assoc]⟩
  split at read
  · contradiction
  · next mark others next =>
      rw [next]
      split at read
      · next isQuote =>
          simp only [Option.map_eq_some_iff, Prod.mk.injEq, Prod.exists] at read
          rcases read with ⟨body, _, readBody, rfl, rfl⟩
          rcases isBody_of_readString? readBody with ⟨isBody, rfl⟩
          rw [beq_iff_eq.1 isQuote]
          exact ⟨_, .string isBody, by simp [quoted]⟩
      · split at read
        · next isOpen =>
            rw [beq_iff_eq.1 isOpen]
            rcases exists_eq_append_skipSpace others with ⟨blanks, areBlanks, inside⟩
            split at read
            · next isEnd =>
                cases read
                rw [readLiteral?_eq_some_iff.1 isEnd] at inside
                exact ⟨_, .emptyArray areBlanks, by simp [inside]⟩
            · simp only [Option.map_eq_some_iff, Prod.mk.injEq, Prod.exists] at read
              rcases read with ⟨items, _, readItems, rfl, rfl⟩
              rcases finds.items readItems with ⟨text, areItems, rfl⟩
              exact ⟨_, .array areItems, by simp⟩
        · split at read
          · next isOpen =>
              rw [beq_iff_eq.1 isOpen]
              rcases exists_eq_append_skipSpace others with ⟨blanks, areBlanks, inside⟩
              split at read
              · next isEnd =>
                  cases read
                  rw [readLiteral?_eq_some_iff.1 isEnd] at inside
                  exact ⟨_, .emptyObject areBlanks, by simp [inside]⟩
              · simp only [Option.map_eq_some_iff, Prod.mk.injEq, Prod.exists] at read
                rcases read with ⟨members, _, readMembers, rfl, rfl⟩
                rcases finds.members readMembers with ⟨text, areMembers, rfl⟩
                exact ⟨_, .object areMembers, by simp⟩
          · exact isBare_of_readScalar? read

theorem findsTexts (measure : Nat) : FindsTexts measure := by
  induction measure with
  | zero => exact ⟨nofun, nofun, nofun⟩
  | succ measure ih => exact ⟨ih.value_succ, ih.items_succ, ih.members_succ⟩

/-- The reader of documents takes exactly the texts of documents. -/
theorem parse?_eq_some_iff : parse? bytes = some document ↔ IsText document bytes := by
  constructor
  · intro read
    rw [parse?] at read
    split at read
    · next found after readValue =>
        simp only [Option.ite_none_right_eq_some, List.isEmpty_iff, Option.some.injEq] at read
        rcases read with ⟨allBlank, rfl⟩
        rcases (findsTexts _).value readValue with ⟨front, bare, frontBlank, isBare, rfl⟩
        rcases exists_eq_append_skipSpace after with ⟨back, backBlank, split⟩
        rw [allBlank, List.append_nil] at split
        subst split
        exact .padded frontBlank isBare backBlank
    · contradiction
  · rintro @⟨_, front, bare, back, frontBlank, isBare, backBlank⟩
    have stops : StopsAt isNumberPart (back ++ []) := stopsAt_blanks backBlank nofun
    have short : bare.length ≤ (front ++ bare ++ back).length + 1 := by
      simp only [List.length_append]
      omega
    rw [List.append_nil] at stops
    have read := (readsTexts _).value isBare short frontBlank stops
    have blank : skipSpace back = [] := by
      have skipped : skipSpace (back ++ []) = [] := skipSpace_append backBlank nofun
      rwa [List.append_nil] at skipped
    rw [parse?, read]
    simp [blank]

end

end DnsFilter.Json
