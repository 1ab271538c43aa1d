import DnsFilter.Pipeline.Resolve
import DnsFilter.Proofs.Question.WrittenName
import Mathlib.Data.List.Basic
import Mathlib.Data.List.Nodup

/-!
# Keys of questions

Two queries share a key if and only if they ask for the same name and show the same class and type:
the name's text loses nothing but its final dot, letter case is kept, and no text of a class or a
type has a space in it. Only unknown types look alike, so address queries that share a key are the
same query.
-/

namespace DnsFilter

/-- Dropping the final dot of written names keeps them apart. -/
theorem normalizeName_toText_injective :
    Function.Injective fun name : DomainName => normalizeName name.toText := by
  intro name other same
  have shortened (name : DomainName) :
      normalizeName name.toText = String.ofList name.characters.dropLast := by
    simp [normalizeName, DomainName.toText, dropFinalDot, name.getLast?_characters]
  simp only [shortened, String.ofList_inj] at same
  apply DomainName.characters_injective
  rw [← List.dropLast_append_getLast? _ name.getLast?_characters,
    ← List.dropLast_append_getLast? _ other.getLast?_characters, same]

/-- Texts that are joined by a space come apart again at the last one. -/
theorem append_space_inj {left right otherLeft otherRight : List Char}
    (spaceless : ' ' ∉ right) (otherSpaceless : ' ' ∉ otherRight)
    (same : left ++ ' ' :: right = otherLeft ++ ' ' :: otherRight) :
    left = otherLeft ∧ right = otherRight := by
  rcases List.append_eq_append_iff.1 same with ⟨between, rfl, tail⟩ | ⟨between, rfl, tail⟩
  · cases between with
    | nil => simpa using tail
    | cons first between =>
        rw [List.cons_append, List.cons.injEq] at tail
        exact absurd (tail.2 ▸ by simp) spaceless
  · cases between with
    | nil => simpa [eq_comm] using tail
    | cons first between =>
        rw [List.cons_append, List.cons.injEq] at tail
        exact absurd (tail.2 ▸ by simp) otherSpaceless

theorem RecordClass.space_notMem_toText (recordClass : RecordClass) :
    ' ' ∉ recordClass.toText.toList := by
  cases recordClass <;> decide

theorem RecordType.space_notMem_toText (recordType : RecordType) :
    ' ' ∉ recordType.toText.toList := by
  unfold toText
  cases known : recordType.mnemonic? with
  | none => decide
  | some mnemonic =>
      have spaceless : ∀ entry ∈ mnemonics, ' ' ∉ entry.2.toList := by decide
      rcases List.lookup_eq_some_iff.1 known with ⟨front, back, split, _⟩
      exact spaceless (recordType.code, mnemonic) (by simp [split])

theorem RecordClass.toText_injective : Function.Injective RecordClass.toText := by
  intro recordClass other same
  cases recordClass <;> cases other <;> first | rfl | exact absurd same (by decide)

namespace RecordType

variable {type other : RecordType} {mnemonic : String}

theorem mem_mnemonics_of_mnemonic? (known : type.mnemonic? = some mnemonic) :
    (type.code, mnemonic) ∈ mnemonics := by
  rcases List.lookup_eq_some_iff.1 known with ⟨front, back, split, _⟩
  simp [split]

theorem eq_of_mnemonic? (known : type.mnemonic? = some mnemonic)
    (otherKnown : other.mnemonic? = some mnemonic) : type = other := by
  have apart : (mnemonics.map Prod.snd).Nodup := by decide
  have sameEntry := List.inj_on_of_nodup_map apart (mem_mnemonics_of_mnemonic? known)
    (mem_mnemonics_of_mnemonic? otherKnown) rfl
  cases type
  cases other
  simpa using sameEntry

theorem ne_unknown_of_mnemonic? (known : type.mnemonic? = some mnemonic) :
    mnemonic ≠ "Unknown" := by
  have others : ∀ entry ∈ mnemonics, entry.2 ≠ "Unknown" := by decide
  exact others _ (mem_mnemonics_of_mnemonic? known)

/-- Each known type has a text of its own, and all unknown types share one. -/
theorem toText_eq_toText_iff :
    type.toText = other.toText ↔ type = other ∨ type.mnemonic? = none ∧ other.mnemonic? = none := by
  simp only [toText]
  constructor
  · intro same
    cases known : type.mnemonic? with
    | none =>
        cases otherKnown : other.mnemonic? with
        | none => exact .inr ⟨rfl, rfl⟩
        | some otherMnemonic =>
            simp only [known, otherKnown, Option.getD_none, Option.getD_some] at same
            exact absurd same.symm (ne_unknown_of_mnemonic? otherKnown)
    | some mnemonic =>
        cases otherKnown : other.mnemonic? with
        | none =>
            simp only [known, otherKnown, Option.getD_none, Option.getD_some] at same
            exact absurd same (ne_unknown_of_mnemonic? known)
        | some otherMnemonic =>
            simp only [known, otherKnown, Option.getD_some] at same
            subst same
            exact .inl (eq_of_mnemonic? known otherKnown)
  · rintro (rfl | ⟨unknown, otherUnknown⟩)
    · rfl
    · simp [unknown, otherUnknown]

end RecordType

namespace Question

theorem toList_key (question : Question) :
    question.key.toList =
      (question.name.toList ++ ' ' :: question.recordClass.toList) ++
        ' ' :: question.recordType.toList := by
  simp [key, toText]

/-- A key determines the three texts that it is made of. -/
theorem ofQuery_eq_of_key_eq {query other : Query} (same : query.key = other.key) :
    ofQuery query = ofQuery other := by
  have characters : (ofQuery query).key.toList = (ofQuery other).key.toList :=
    congrArg String.toList same
  rw [toList_key, toList_key] at characters
  rcases append_space_inj query.recordType.space_notMem_toText
    other.recordType.space_notMem_toText characters with ⟨front, sameType⟩
  rcases append_space_inj query.recordClass.space_notMem_toText
    other.recordClass.space_notMem_toText front with ⟨sameName, sameClass⟩
  rw [mk.injEq]
  exact ⟨String.toList_inj.1 sameName, String.toList_inj.1 sameType,
    String.toList_inj.1 sameClass⟩

end Question

namespace Query

theorem family?_eq_some_iff {query : Query} {family : AddressFamily} :
    query.family? = some family ↔
      query.recordClass = .internet ∧ query.recordType = Pipeline.addressType family := by
  unfold family? AddressFamily.ofQuery?
  by_cases internet : query.recordClass = .internet
  · by_cases isA : query.recordType = .a
    · cases family <;> simp [internet, isA, Pipeline.addressType, RecordType.a, RecordType.aaaa]
    · by_cases isAaaa : query.recordType = .aaaa <;>
        cases family <;>
        simp_all [Pipeline.addressType, RecordType.a, RecordType.aaaa]
  · simp [internet]

/-- Address queries that share a key are the same. -/
theorem eq_of_key_eq {query other : Query} {family otherFamily : AddressFamily}
    (address : query.family? = some family) (otherAddress : other.family? = some otherFamily)
    (same : query.key = other.key) : query = other := by
  have texts := Question.ofQuery_eq_of_key_eq same
  simp only [Question.ofQuery, Question.ofName, Question.mk.injEq] at texts
  rcases texts with ⟨sameName, sameType, _⟩
  rcases family?_eq_some_iff.1 address with ⟨recordClass, recordType⟩
  rcases family?_eq_some_iff.1 otherAddress with ⟨otherClass, otherType⟩
  have sameFamily : family = otherFamily := by
    rw [recordType, otherType] at sameType
    cases family <;> cases otherFamily
    · rfl
    · exact absurd sameType (by decide)
    · exact absurd sameType (by decide)
    · rfl
  rcases query with ⟨name, type, queryClass⟩
  rcases other with ⟨otherName, otherRecordType, otherRecordClass⟩
  simp only at recordClass recordType otherClass otherType sameName
  rw [recordClass, recordType, otherClass, otherType, sameFamily,
    normalizeName_toText_injective sameName]

theorem mnemonic?_ne_none_of_family? {query : Query} (address : query.family?.isSome) :
    query.recordType.mnemonic? ≠ none := by
  rcases Option.isSome_iff_exists.1 address with ⟨family, isFamily⟩
  rw [(family?_eq_some_iff.1 isFamily).2]
  cases family <;> decide

theorem recordClass_eq_of_family? {query : Query} (address : query.family?.isSome) :
    query.recordClass = .internet := by
  rcases Option.isSome_iff_exists.1 address with ⟨family, isFamily⟩
  exact (family?_eq_some_iff.1 isFamily).1

end Query

namespace Question

theorem key_eq_key_iff_texts {query other : Query} :
    (ofQuery query).key = (ofQuery other).key ↔
      query.name.labels = other.name.labels ∧
        query.recordClass.toText = other.recordClass.toText ∧
        query.recordType.toText = other.recordType.toText := by
  constructor
  · intro same
    have texts := ofQuery_eq_of_key_eq same
    simp only [ofQuery, ofName, mk.injEq] at texts
    rcases texts with ⟨sameName, sameType, sameClass⟩
    exact ⟨congrArg DomainName.labels (normalizeName_toText_injective sameName), sameClass,
      sameType⟩
  · rintro ⟨sameLabels, sameClass, sameType⟩
    have sameName : query.name = other.name := by
      cases name : query.name
      cases otherName : other.name
      simpa [name, otherName] using sameLabels
    simp only [key, toText, ofQuery, ofName, sameName, sameClass, sameType]

/-- Two queries share a key if and only if their names have the same labels, letter case included,
and the texts of their classes and types are the same. Each class and each known type has a text of
its own, and all unknown types share one. So address queries share a key if and only if they ask for
the same type at the same labels. -/
theorem key_eq_key_iff (query other : Query) :
    ((ofQuery query).key = (ofQuery other).key ↔
      query.name.labels = other.name.labels ∧
        query.recordClass.toText = other.recordClass.toText ∧
        query.recordType.toText = other.recordType.toText) ∧
    (query.recordClass.toText = other.recordClass.toText ↔
      query.recordClass = other.recordClass) ∧
    (query.recordType.toText = other.recordType.toText ↔
      query.recordType = other.recordType ∨
        query.recordType.mnemonic? = none ∧ other.recordType.mnemonic? = none) ∧
    (query.family?.isSome → other.family?.isSome →
      ((ofQuery query).key = (ofQuery other).key ↔
        query.name.labels = other.name.labels ∧ query.recordType = other.recordType)) := by
  refine ⟨key_eq_key_iff_texts, RecordClass.toText_injective.eq_iff,
    RecordType.toText_eq_toText_iff, ?_⟩
  intro address otherAddress
  have known := Query.mnemonic?_ne_none_of_family? address
  have sameClass : query.recordClass = other.recordClass := by
    rw [Query.recordClass_eq_of_family? address, Query.recordClass_eq_of_family? otherAddress]
  rw [key_eq_key_iff_texts, RecordType.toText_eq_toText_iff, sameClass]
  simp [known]

/-- A dot inside a label and a dot between labels give different keys. -/
theorem dotted_label_has_key_of_its_own :
    let joined : Query := { name := ⟨[[0x61, 0x2e, 0x62]], by decide⟩ }
    let parted : Query := { name := ⟨[[0x61], [0x62]], by decide⟩ }
    joined.family?.isSome ∧ parted.family?.isSome ∧
      (ofQuery joined).key ≠ (ofQuery parted).key := by
  intro joined parted
  have address : joined.family?.isSome := by decide
  have otherAddress : parted.family?.isSome := by decide
  refine ⟨address, otherAddress, ?_⟩
  rw [ne_eq, (key_eq_key_iff joined parted).2.2.2 address otherAddress]
  decide

end Question

end DnsFilter
