/-!
# Words of a text

Blanks are the characters with the Unicode property `White_Space`. Words are the longest pieces of a
text without blanks.
-/

namespace DnsFilter.Text

/-- The characters with the property `White_Space`. -/
def isBlank (character : Char) : Bool :=
  let code := character.toNat
  (9 ≤ code && code ≤ 13) || code == 0x20 || code == 0x85 || code == 0xa0 || code == 0x1680 ||
    (0x2000 ≤ code && code ≤ 0x200a) || code == 0x2028 || code == 0x2029 || code == 0x202f ||
    code == 0x205f || code == 0x3000

/-- The pieces of a text between blanks, empty ones left out. -/
def words (text : List Char) : List (List Char) :=
  (text.splitOnP isBlank).filter fun piece => !piece.isEmpty

/-- A text without the blanks around it. -/
def trim (text : List Char) : List Char :=
  ((text.dropWhile isBlank).reverse.dropWhile isBlank).reverse

/-- The lines of a text. A carriage return at the end of a line stays there; it is a blank. -/
def lines (text : List Char) : List (List Char) := text.splitOn '\n'

/-- Every character that core counts as white space is a blank. -/
theorem isBlank_of_isWhitespace {character : Char} (white : character.isWhitespace = true) :
    isBlank character = true := by
  simp only [Char.isWhitespace, Bool.or_eq_true, decide_eq_true_eq] at white
  rcases white with ((rfl | rfl) | rfl) | rfl <;> rfl

/-- Trimming takes away the blanks around a text that has none inside. -/
theorem trim_append {front text back : List Char} (nonempty : text ≠ [])
    (frontWhite : ∀ character ∈ front, isBlank character = true)
    (notBlank : ∀ character ∈ text, isBlank character = false)
    (backWhite : ∀ character ∈ back, isBlank character = true) :
    trim (front ++ text ++ back) = text := by
  have stops {part : List Char} (nonempty : part ≠ []) (among : part ⊆ text)
      (rest : List Char) : (part ++ rest).dropWhile isBlank = part ++ rest := by
    rcases List.exists_cons_of_ne_nil nonempty with ⟨first, others, rfl⟩
    simp [notBlank first (among (.head _))]
  have reversed : text.reverse ⊆ text := fun character present => List.mem_reverse.1 present
  have backReversed : ∀ character ∈ back.reverse, isBlank character = true := by
    simpa using backWhite
  have ended := stops (List.reverse_ne_nil_iff.2 nonempty) reversed []
  rw [List.append_nil] at ended
  rw [trim, List.append_assoc, List.dropWhile_append_of_pos frontWhite,
    stops nonempty (List.Subset.refl text) back, List.reverse_append,
    List.dropWhile_append_of_pos backReversed, ended, List.reverse_reverse]

theorem words_nil : words [] = [] := rfl

/-- Words are cut at each blank, so a blank may be taken for the seam of two texts. -/
theorem words_append_blank {blank : Char} (white : isBlank blank = true)
    (front back : List Char) : words (front ++ blank :: back) = words front ++ words back := by
  simp only [words, List.splitOnP_append_cons front back white, List.filter_append]

theorem words_append_blanks {blanks : List Char}
    (white : ∀ character ∈ blanks, isBlank character = true) (text : List Char) :
    words (text ++ blanks) = words text := by
  induction blanks generalizing text with
  | nil => simp
  | cons blank blanks ih =>
      rw [List.forall_mem_cons] at white
      have blanksAlone : words blanks = [] := ih white.2 []
      rw [words_append_blank white.1, blanksAlone, List.append_nil]

theorem words_blanks_append {blanks : List Char}
    (white : ∀ character ∈ blanks, isBlank character = true) (text : List Char) :
    words (blanks ++ text) = words text := by
  induction blanks with
  | nil => rfl
  | cons blank blanks ih =>
      rw [List.forall_mem_cons] at white
      have cut := words_append_blank white.1 [] (blanks ++ text)
      rwa [words_nil, ih white.2] at cut

/-- What trimming takes away are blanks in front and blanks behind. -/
theorem exists_eq_append_trim (text : List Char) :
    ∃ front back, text = front ++ trim text ++ back ∧
      (∀ character ∈ front, isBlank character = true) ∧
      ∀ character ∈ back, isBlank character = true := by
  let started := text.dropWhile isBlank
  refine ⟨text.takeWhile isBlank, (started.reverse.takeWhile isBlank).reverse, ?_, ?_, ?_⟩
  · have ended : trim text ++ (started.reverse.takeWhile isBlank).reverse = started := by
      rw [trim, ← List.reverse_append, List.takeWhile_append_dropWhile, List.reverse_reverse]
    rw [List.append_assoc, ended, List.takeWhile_append_dropWhile]
  · exact List.all_eq_true.1 List.all_takeWhile
  · intro character member
    exact List.all_eq_true.1 List.all_takeWhile character (List.mem_reverse.1 member)

/-- That a text consists of words with blanks between them, and perhaps around them. -/
inductive Consists : List Char → List (List Char) → Prop where
  | blanks {gap : List Char} (white : ∀ character ∈ gap, isBlank character = true) :
      Consists gap []
  | word {gap part rest : List Char} {parts : List (List Char)}
      (white : ∀ character ∈ gap, isBlank character = true) (nonempty : part ≠ [])
      (notBlank : ∀ character ∈ part, isBlank character = false)
      (ended : ∀ first, rest.head? = some first → isBlank first = true)
      (later : Consists rest parts) :
      Consists (gap ++ part ++ rest) (part :: parts)

theorem words_of_notBlank {word : List Char} (nonempty : word ≠ [])
    (notBlank : ∀ character ∈ word, isBlank character = false) : words word = [word] := by
  have whole : word.splitOnP isBlank = [word] := by
    apply List.splitOnP_eq_singleton
    simpa using notBlank
  simp [words, whole, nonempty]

theorem words_of_consists {text : List Char} {parts : List (List Char)}
    (consists : Consists text parts) : words text = parts := by
  induction consists with
  | blanks white =>
      have alone := words_append_blanks white []
      rwa [List.nil_append] at alone
  | @word gap part rest parts white nonempty notBlank ended _ ih =>
      rw [List.append_assoc, words_blanks_append white]
      cases rest with
      | nil =>
          rw [← ih, List.append_nil]
          exact words_of_notBlank nonempty notBlank
      | cons blank rest =>
          have seam := ended blank rfl
          have skipped : words (blank :: rest) = words rest := words_append_blank seam [] rest
          rw [words_append_blank seam, words_of_notBlank nonempty notBlank, ← ih, skipped]
          rfl

theorem Consists.of_mem {text word : List Char} {parts : List (List Char)}
    (consists : Consists text parts) (member : word ∈ parts) :
    word ≠ [] ∧ ∀ character ∈ word, isBlank character = false := by
  induction consists with
  | blanks => contradiction
  | word _ nonempty notBlank _ _ ih =>
      rcases List.mem_cons.1 member with rfl | later
      · exact ⟨nonempty, notBlank⟩
      · exact ih later

theorem Consists.blank_cons {blank : Char} {text : List Char} {parts : List (List Char)}
    (white : isBlank blank = true) (consists : Consists text parts) :
    Consists (blank :: text) parts := by
  cases consists with
  | blanks others => exact .blanks (List.forall_mem_cons.2 ⟨white, others⟩)
  | word others nonempty notBlank ended later =>
      exact .word (List.forall_mem_cons.2 ⟨white, others⟩) nonempty notBlank ended later

/-- A character in front that is no blank belongs to the first word, or is a word by itself. -/
theorem Consists.exists_cons {first : Char} {text : List Char} {parts : List (List Char)}
    (notWhite : isBlank first = false) (consists : Consists text parts) :
    ∃ parts, Consists (first :: text) parts := by
  have noBlanks : ∀ character ∈ ([] : List Char), isBlank character = true := by simp
  by_cases ended : ∀ next, text.head? = some next → isBlank next = true
  · have alone : ∀ character ∈ [first], isBlank character = false := by simpa using notWhite
    exact ⟨_, .word noBlanks (List.cons_ne_nil first []) alone ended consists⟩
  · cases consists with
    | blanks white =>
        refine absurd (fun next isNext => ?_) ended
        exact white next (List.mem_of_mem_head? isNext)
    | @word gap part _ _ white nonempty notBlank restEnded later =>
        cases gap with
        | cons blank gap =>
            refine absurd (fun next isNext => ?_) ended
            cases isNext
            exact white _ (.head _)
        | nil =>
            have solid : ∀ character ∈ first :: part, isBlank character = false := by
              simpa [notWhite] using notBlank
            exact ⟨_, .word noBlanks (List.cons_ne_nil first part) solid restEnded later⟩

theorem exists_consists (text : List Char) : ∃ parts, Consists text parts := by
  induction text with
  | nil => exact ⟨[], .blanks (by simp)⟩
  | cons first text ih =>
      rcases ih with ⟨parts, consists⟩
      cases white : isBlank first with
      | true => exact ⟨parts, consists.blank_cons white⟩
      | false => exact consists.exists_cons white

/-- The words of a text are what it consists of. -/
theorem words_eq_iff {text : List Char} {parts : List (List Char)} :
    words text = parts ↔ Consists text parts := by
  constructor
  · rintro rfl
    rcases exists_consists text with ⟨parts, consists⟩
    rwa [words_of_consists consists]
  · exact words_of_consists

/-- Trimming leaves a word if the text consists of that word. -/
theorem trim_eq_iff {text word : List Char} (nonempty : word ≠ [])
    (notBlank : ∀ character ∈ word, isBlank character = false) :
    trim text = word ↔ Consists text [word] := by
  constructor
  · rintro rfl
    rcases exists_eq_append_trim text with ⟨front, back, split, frontWhite, backWhite⟩
    have ended : ∀ first, back.head? = some first → isBlank first = true := by
      intro first isFirst
      exact backWhite first (List.mem_of_mem_head? isFirst)
    have consists := Consists.word frontWhite nonempty notBlank ended (.blanks backWhite)
    rwa [← split] at consists
  · intro consists
    cases consists with
    | word frontWhite _ _ _ later =>
        cases later with
        | blanks backWhite => exact trim_append nonempty frontWhite notBlank backWhite

end DnsFilter.Text
