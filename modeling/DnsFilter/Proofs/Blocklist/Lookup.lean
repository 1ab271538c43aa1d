import DnsFilter.Proofs.Blocklist.Spelling
import DnsFilter.Proofs.Blocklist.Union
import Mathlib.Data.List.DropRight

/-!
# Looking loaded names up

The block set folds a name before it looks for it, so it finds a member only if folding leaves the
member as it is. A list entry is folded once when it is loaded. That is enough unless the entry ends
in two dots: one of them stays, and the name with it is never found as such.
-/

namespace DnsFilter

/-- A name without any of the dots at its end. -/
def withoutFinalDots (name : String) : String :=
  String.ofList (name.toList.rdropWhile fun character => character == '.')

theorem dropFinalDot_eq_self {text : List Char} (finalDotless : text.getLast? ≠ some '.') :
    dropFinalDot text = text := if_neg finalDotless

theorem normalizeName_eq_self_iff {name : String} :
    normalizeName name = name ↔ name.toList.getLast? ≠ some '.' := by
  rw [normalizeName, ← String.toList_inj, String.toList_ofList]
  constructor
  · intro same final
    have shorter := congrArg List.length same
    rw [dropFinalDot, if_pos final, List.length_dropLast] at shorter
    have nonempty : name.toList ≠ [] := by
      rintro empty
      simp [empty] at final
    have positive := List.length_pos_iff.2 nonempty
    omega
  · exact dropFinalDot_eq_self

theorem withoutFinalDots_eq_self {name : String} (finalDotless : name.toList.getLast? ≠ some '.') :
    withoutFinalDots name = name := by
  rw [withoutFinalDots, List.rdropWhile_eq_self_iff.2, String.ofList_toList]
  intro nonempty final
  apply finalDotless
  rw [List.getLast?_eq_some_getLast nonempty, beq_iff_eq.1 final]

/-- A name in lower case is looked up without its final dot. -/
theorem foldName_eq_normalizeName {name : String}
    (lowercase : ∀ character ∈ name.toList, character.isUpper = false) :
    foldName name = normalizeName name := by
  have kept : ∀ character ∈ dropFinalDot name.toList, character.toLower = character := by
    intro character member
    have among : dropFinalDot name.toList ⊆ name.toList := by
      unfold dropFinalDot
      split
      · exact List.dropLast_subset _
      · exact List.Subset.refl _
    exact toLower_of_not_isUpper (by simp [lowercase character (among member)])
  rw [foldName, normalizeName, List.map_congr_left kept, List.map_id']

theorem isUpper_toLower (character : Char) : character.toLower.isUpper = false := by
  unfold Char.isUpper Char.toLower
  split
  · next upper =>
      have range : 65 ≤ character.val.toNat ∧ character.val.toNat ≤ 90 := by
        simpa [UInt32.le_iff_toNat_le] using upper
      have shifted : (character.val + ('a'.val - 'A'.val)).toNat = character.val.toNat + 32 := by
        rw [UInt32.toNat_add]
        change (character.val.toNat + 32) % 4294967296 = _
        omega
      simp only [ge_iff_le, UInt32.le_iff_toNat_le, shifted, decide_eq_false_iff_not]
      change ¬(65 ≤ character.val.toNat + 32 ∧ character.val.toNat + 32 ≤ 90)
      omega
  · next notUpper => simpa [Decidable.imp_iff_not_or] using notUpper

theorem isUpper_of_mem_foldName (name : String) :
    ∀ character ∈ (foldName name).toList, character.isUpper = false := by
  intro character member
  rcases List.mem_map.1 (by simpa [foldName] using member) with ⟨original, _, rfl⟩
  exact isUpper_toLower original

namespace Blocklist

/-- That an entry ends in two dots, blanks around it apart. -/
def EndsInTwoDots (entry : String) : Prop := ['.', '.'] <:+ Text.trim entry.toList

/-- The entries that loading takes names from. -/
inductive IsEntry (config : Config) (files : FileView) : String → Prop where
  | listed {path contents : String} {word : List Char} (isPath : path ∈ config.blocklists)
      (read : files.text? path = some contents) (lists : Lists contents word) :
      IsEntry config files (String.ofList word)
  | configured {entry : String} (isEntry : entry ∈ config.blocklist) : IsEntry config files entry

/-- What the block set asks of a name that it holds: nobody would have it filtered out, and looking
it up finds it. -/
structure IsSound (loaded : NameSet) (name : String) : Prop where
  nonempty : name ≠ ""
  lowercase : ∀ character ∈ name.toList, character.isUpper = false
  normalized : normalizeName name = name
  notSystem : name ∉ systemNames ∧ withoutFinalDots name ∉ systemNames
  notAddress : isAddressLike name.toList = false ∧
    isAddressLike (withoutFinalDots name).toList = false
  isFound : (BlockSet.mk loaded).blocks name = true

section

variable {config : Config} {files : FileView} {loaded : NameSet} {entry name : String}

theorem getLast?_dropFinalDot_iff {text : List Char} :
    (dropFinalDot text).getLast? = some '.' ↔ ['.', '.'] <:+ text := by
  rcases List.eq_nil_or_concat text with rfl | ⟨front, last, rfl⟩
  · simp [dropFinalDot]
  · rw [List.concat_eq_append]
    by_cases final : last = '.'
    · subst final
      simp only [dropFinalDot, List.getLast?_append, List.getLast?_singleton, Option.some_or,
        if_true, List.dropLast_concat]
      constructor
      · intro another
        rcases List.getLast?_eq_some_iff.1 another with ⟨rest, rfl⟩
        exact ⟨rest, by simp⟩
      · rintro ⟨rest, same⟩
        have longer : front ++ ['.'] = rest ++ ['.'] ++ ['.'] := by simp [← same]
        simp [List.append_cancel_right longer]
    · have single : (front ++ [last]).getLast? ≠ some '.' := by simp [final]
      rw [dropFinalDot_eq_self single]
      refine iff_of_false single ?_
      rintro ⟨rest, same⟩
      simp [← same] at single

theorem getLast?_of_canonical (canonical : canonical? entry = some name) :
    name.toList.getLast? = some '.' ↔ EndsInTwoDots entry := by
  rcases canonical?_eq_some_iff.1 canonical with ⟨rfl, _⟩
  simp only [foldName, String.toList_ofList, List.getLast?_map, Option.map_eq_some_iff,
    toLower_eq_dot_iff, exists_eq_right, getLast?_dropFinalDot_iff]
  rfl

theorem readable_of_load (loads : load config files = .ok loaded) :
    ∀ path ∈ config.blocklists, ¬Unreadable files path := by
  intro path isPath unreadable
  rcases exists_first_unreadable ⟨path, isPath, unreadable⟩ with ⟨_, _, _, _, _, _, fails⟩
  simp [fails] at loads

theorem exists_entry_of_mem (loads : load config files = .ok loaded) (member : name ∈ loaded) :
    ∃ entry, IsEntry config files entry ∧ canonical? entry = some name := by
  have readable := readable_of_load loads
  simp only [not_unreadable_iff] at readable
  rcases exists_load readable with ⟨same, succeeds, members⟩
  rw [loads, Except.ok.injEq] at succeeds
  subst succeeds
  rcases ((members name).1 member).1 with
    ⟨path, isPath, contents, read, listed⟩ | ⟨entry, isEntry, canonical⟩
  · rcases mem_listedNames_iff.1 listed with ⟨word, lists, canonical⟩
    exact ⟨_, .listed isPath read lists, canonical⟩
  · exact ⟨entry, .configured isEntry, canonical⟩

theorem lowercase_of_canonical (canonical : canonical? entry = some name) :
    ∀ character ∈ name.toList, character.isUpper = false := by
  rcases canonical?_eq_some_iff.1 canonical with ⟨rfl, _⟩
  exact isUpper_of_mem_foldName _

theorem blocks_iff_of_canonical (canonical : canonical? entry = some name) (loaded : NameSet) :
    (BlockSet.mk loaded).blocks name = true ↔ normalizeName name ∈ loaded := by
  rw [← foldName_eq_normalizeName (lowercase_of_canonical canonical)]
  exact Std.TreeSet.contains_iff_mem

/-- A name that was loaded can be looked up if the entry for it does not end in two dots. -/
theorem isSound_iff (member : name ∈ loaded) (canonical : canonical? entry = some name) :
    IsSound loaded name ↔ ¬EndsInTwoDots entry := by
  rw [← getLast?_of_canonical canonical]
  constructor
  · intro sound
    exact normalizeName_eq_self_iff.1 sound.normalized
  · intro finalDotless
    rcases canonical?_eq_some_iff.1 canonical with ⟨_, nonempty, notSystem, notAddress⟩
    have undotted := withoutFinalDots_eq_self finalDotless
    have normalized := normalizeName_eq_self_iff.2 finalDotless
    refine ⟨nonempty, lowercase_of_canonical canonical, normalized, ?_, ?_, ?_⟩
    · rw [undotted]
      exact ⟨notSystem, notSystem⟩
    · rw [undotted]
      exact ⟨notAddress, notAddress⟩
    · rw [blocks_iff_of_canonical canonical, normalized]
      exact member

end

/-- No loaded name is empty, has a capital letter, names the system or looks like an address. It can
be looked up as it is, and would be filtered out neither with dots at its end nor without, if and
only if no entry for it ends in two dots. It is found if and only if the name without its final dot
is loaded as well. -/
theorem loaded_name_is_sound_unless_two_dots (config : Config) (files : FileView)
    (loaded : NameSet) (loads : load config files = .ok loaded) (name : String)
    (member : name ∈ loaded) :
    (name ≠ "" ∧ (∀ character ∈ name.toList, character.isUpper = false) ∧
      name ∉ systemNames ∧ isAddressLike name.toList = false) ∧
    (IsSound loaded name ↔
      ∀ entry, IsEntry config files entry → canonical? entry = some name →
        ¬EndsInTwoDots entry) ∧
    ((BlockSet.mk loaded).blocks name = true ↔ normalizeName name ∈ loaded) := by
  rcases exists_entry_of_mem loads member with ⟨entry, isEntry, canonical⟩
  rcases canonical?_eq_some_iff.1 canonical with ⟨_, nonempty, notSystem, notAddress⟩
  refine ⟨⟨nonempty, lowercase_of_canonical canonical, notSystem, notAddress⟩, ?_,
    blocks_iff_of_canonical canonical loaded⟩
  constructor
  · intro sound other _ otherCanonical
    exact (isSound_iff member otherCanonical).1 sound
  · intro entries
    exact (isSound_iff member canonical).2 (entries entry isEntry canonical)

theorem dotted_entry_is_sound :
    let config : Config := { blocklist := [" A.b. "] }
    ∃ loaded, load config (fun _ => none) = .ok loaded ∧ "a.b" ∈ loaded ∧
      IsSound loaded "a.b" := by
  intro config
  let loaded : NameSet := Std.TreeSet.insertMany ∅ ["a.b"]
  have loads : load config (fun _ => none) = .ok loaded := by rfl
  have member : "a.b" ∈ loaded := by decide +kernel
  refine ⟨loaded, loads, member, ?_⟩
  apply (loaded_name_is_sound_unless_two_dots config _ loaded loads "a.b" member).2.1.2
  intro entry isEntry _
  cases isEntry with
  | listed isPath => simp [config] at isPath
  | configured isEntry =>
      rw [List.mem_singleton.1 isEntry, EndsInTwoDots]
      decide +kernel

/-- One dot of two is dropped when an entry is loaded, and the other when it is looked up. -/
theorem two_dots_entry_is_never_found :
    let files : FileView := fun path =>
      if path = "list" then some (.file "a..\n".toByteArray) else none
    ∃ loaded, load { blocklists := ["list"] } files = .ok loaded ∧ "a." ∈ loaded ∧
      normalizeName "a." ≠ "a." ∧ (BlockSet.mk loaded).blocks "a." = false := by
  intro files
  let loaded : NameSet := Std.TreeSet.insertMany ∅ ["a."]
  have loads : load { blocklists := ["list"] } files = .ok loaded := by rfl
  exact ⟨loaded, loads, by decide +kernel, by decide +kernel, by decide +kernel⟩

end Blocklist

end DnsFilter
