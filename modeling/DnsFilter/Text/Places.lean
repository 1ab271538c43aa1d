/-!
# Places in a text

A place in a text is the number of bytes in front of it when the text is encoded as UTF-8. Not every
number is a place: one inside the bytes of a character is none.
-/

namespace DnsFilter.Text

def byteLength (text : List Char) : Nat :=
  text.foldr (fun character length => character.utf8Size + length) 0

/-- The characters of a text, each with its place; the first one is at the given place. -/
def placed (start : Nat) : List Char → List (Nat × Char)
  | [] => []
  | character :: rest => (start, character) :: placed (start + character.utf8Size) rest

/-- The text before and the text after a place. -/
def splitPlace? : Nat → List Char → Option (List Char × List Char)
  | 0, text => some ([], text)
  | _ + 1, [] => none
  | place + 1, character :: rest =>
      if character.utf8Size ≤ place + 1 then
        (splitPlace? (place + 1 - character.utf8Size) rest).map fun (before, after) =>
          (character :: before, after)
      else none

/-- The part of a text from one place to another. -/
def cut? (text : List Char) (start stop : Nat) : Option (List Char) := do
  let (_, after) ← splitPlace? start text
  let (part, _) ← splitPlace? (stop - start) after
  return part

/-- The part of a text from a place on. -/
def from? (text : List Char) (start : Nat) : Option (List Char) :=
  (splitPlace? start text).map Prod.snd

@[simp]
theorem byteLength_nil : byteLength [] = 0 := rfl

@[simp]
theorem byteLength_cons (character : Char) (text : List Char) :
    byteLength (character :: text) = character.utf8Size + byteLength text := by
  simp [byteLength]

/-- A text is split where its first part ends. -/
@[simp]
theorem splitPlace?_append (before after : List Char) :
    splitPlace? (byteLength before) (before ++ after) = some (before, after) := by
  induction before with
  | nil => simp [splitPlace?]
  | cons character rest ih =>
      obtain ⟨size, positive⟩ : ∃ size, character.utf8Size + byteLength rest = size + 1 :=
        ⟨character.utf8Size + byteLength rest - 1, by have := character.utf8Size_pos; omega⟩
      rw [byteLength_cons, positive, List.cons_append, splitPlace?, if_pos (by omega),
        show size + 1 - character.utf8Size = byteLength rest by omega, ih]
      rfl

/-- Cutting from the end of one part to the end of the next one gives the part between. -/
theorem cut?_append (before part after : List Char) :
    cut? (before ++ (part ++ after)) (byteLength before) (byteLength before + byteLength part) =
      some part := by
  simp [cut?]

end DnsFilter.Text
