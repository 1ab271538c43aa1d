import DnsFilter.Proofs.Blocklist.Loading
import Mathlib.Data.Set.Lattice

/-!
# Lists add up as sets

A text lists the names of its lines, whatever their order, and loading takes the union over all
texts. So only what is listed and allowed matters: which lines the files have and which entries the
configuration has, but neither their places nor how often they are there.
-/

namespace DnsFilter

def NameSet.members (names : NameSet) : Set String := {name | name ∈ names}

/-- The ways in which a path can fail to lead to a text. -/
inductive Unreadable (files : FileView) (path : String) : Prop where
  | missing (absent : files path = none)
  | directory (isDirectory : files path = some .directory)
  | malformed {content : ByteArray} (isFile : files path = some (.file content))
      (notText : ¬content.IsValidUTF8)

theorem unreadable_iff {files : FileView} {path : String} :
    Unreadable files path ↔ files.text? path = none := by
  constructor
  · rintro (absent | isDirectory | ⟨isFile, notText⟩)
    · simp [FileView.text?, absent]
    · simp [FileView.text?, isDirectory]
    · simp [FileView.text?, isFile, String.fromUTF8?, notText]
  · intro noText
    cases found : files path with
    | none => exact .missing found
    | some node =>
        cases node with
        | directory => exact .directory found
        | file content =>
            refine .malformed found ?_
            simpa [FileView.text?, found, String.fromUTF8?] using noText

theorem not_unreadable_iff {files : FileView} {path : String} :
    ¬Unreadable files path ↔ (files.text? path).isSome := by
  rw [unreadable_iff, Option.isSome_iff_ne_none]

namespace Blocklist

/-- The names that entries of a configuration stand for. -/
def canonicalForms (entries : List String) : Set String :=
  {name | ∃ entry ∈ entries, canonical? entry = some name}

/-- The names that the file at a path adds to the empty set. -/
def namesAt (files : FileView) (path : String) : Set String :=
  {name | ∃ contents, files.text? path = some contents ∧ name ∈ (parse contents ∅).members}

/-- The lines of the files at the given paths, without the blanks around them. -/
def linesAt (files : FileView) (paths : List String) : Set (List Char) :=
  {line | line ≠ [] ∧ ∃ path ∈ paths, ∃ contents, files.text? path = some contents ∧
    ∃ written ∈ Text.lines contents.toList, Text.trim written = line}

/-- That two configurations list the same over their files: the same lines, blanks around them and
empty ones apart, and the same entries, in any order and any number of times. -/
structure SameLists (config other : Config) (files otherFiles : FileView) : Prop where
  lines : linesAt files config.blocklists = linesAt otherFiles other.blocklists
  blocked : ∀ entry, entry ∈ config.blocklist ↔ entry ∈ other.blocklist
  allowed : ∀ entry, entry ∈ config.whitelist ↔ entry ∈ other.whitelist

section

variable {config other : Config} {files otherFiles : FileView} {paths : List String}

theorem listedNames_append_newline (first second : String) :
    listedNames (first ++ "\n" ++ second) = listedNames first ++ listedNames second := by
  simp [listedNames, Text.lines, List.splitOn_append_cons_self]

theorem members_parse (contents : String) (names : NameSet) :
    (parse contents names).members = names.members ∪ {name | name ∈ listedNames contents} := by
  ext name
  exact mem_parse_iff

theorem members_parse_empty (contents : String) :
    (parse contents ∅).members = {name | name ∈ listedNames contents} := by
  rw [members_parse]
  simp [NameSet.members]

/-- The blanks around a line neither hide its comment nor belong to its words. -/
theorem listedWords_trim (line : List Char) : listedWords (Text.trim line) = listedWords line := by
  suffices same : Text.words (beforeComment (Text.trim line)) =
      Text.words (beforeComment line) by
    simp only [listedWords, same]
  rcases Text.exists_eq_append_trim line with ⟨front, back, cut, frontBlank, backBlank⟩
  generalize Text.trim line = trimmed at cut ⊢
  subst cut
  have frontFree : '#' ∉ front := by
    intro mark
    exact absurd (frontBlank _ mark) (by decide)
  rw [List.append_assoc, beforeComment_append frontFree, Text.words_blanks_append frontBlank]
  simp only [beforeComment, List.takeWhile_append]
  split
  · next uncommented =>
      rw [(List.takeWhile_prefix _).eq_of_length uncommented, Text.words_append_blanks]
      intro blank member
      exact backBlank blank (List.takeWhile_subset _ member)
  · rfl

theorem listedIn_iff_exists_line {name : String} :
    ListedIn files paths name ↔
      ∃ line ∈ linesAt files paths, ∃ word ∈ listedWords line, canonical? word = some name := by
  simp only [ListedIn, listedNames, List.mem_flatMap, List.mem_filterMap]
  constructor
  · rintro ⟨path, isPath, contents, read, written, isLine, word, listed, canonical⟩
    rw [← listedWords_trim] at listed
    refine ⟨_, ⟨?_, path, isPath, contents, read, written, isLine, rfl⟩, word, listed, canonical⟩
    intro empty
    simp [empty, listedWords, beforeComment, Text.words_nil] at listed
  · rintro ⟨_, ⟨_, path, isPath, contents, read, written, isLine, rfl⟩, word, listed, canonical⟩
    rw [listedWords_trim] at listed
    exact ⟨path, isPath, contents, read, written, isLine, word, listed, canonical⟩

theorem listedIn_iff_mem_iUnion {name : String} :
    ListedIn files paths name ↔ name ∈ ⋃ path ∈ paths, namesAt files path := by
  simp [ListedIn, namesAt, members_parse_empty]

/-- If all list files can be read, what is loaded is the union of what they list and what the
configuration blocks, less what it allows. -/
theorem exists_load_members (readable : ∀ path ∈ config.blocklists, ¬Unreadable files path) :
    ∃ loaded, load config files = .ok loaded ∧
      loaded.members =
        ((⋃ path ∈ config.blocklists, namesAt files path) ∪ canonicalForms config.blocklist) \
          canonicalForms config.whitelist := by
  simp only [not_unreadable_iff] at readable
  rcases exists_load readable with ⟨loaded, succeeds, members⟩
  refine ⟨loaded, succeeds, ?_⟩
  ext name
  have listed := @listedIn_iff_mem_iUnion files config.blocklists name
  simp only [NameSet.members, Set.mem_ofPred_eq, members, listed, Set.mem_sdiff, Set.mem_union,
    canonicalForms, not_exists, not_and, ne_eq]

namespace SameLists

theorem iUnion_namesAt (same : SameLists config other files otherFiles) :
    ⋃ path ∈ config.blocklists, namesAt files path =
      ⋃ path ∈ other.blocklists, namesAt otherFiles path := by
  ext name
  rw [← listedIn_iff_mem_iUnion, ← listedIn_iff_mem_iUnion, listedIn_iff_exists_line,
    listedIn_iff_exists_line, same.lines]

theorem canonicalForms_blocklist (same : SameLists config other files otherFiles) :
    canonicalForms config.blocklist = canonicalForms other.blocklist := by
  simp [canonicalForms, same.blocked]

theorem canonicalForms_whitelist (same : SameLists config other files otherFiles) :
    canonicalForms config.whitelist = canonicalForms other.whitelist := by
  simp [canonicalForms, same.allowed]

end SameLists

theorem exists_first_unreadable
    (unreadable : ∃ path ∈ config.blocklists, Unreadable files path) :
    ∃ front path back, config.blocklists = front ++ path :: back ∧
      (∀ earlier ∈ front, ¬Unreadable files earlier) ∧ Unreadable files path ∧
      load config files = .error (.unreadableBlocklist path) := by
  have found : (config.blocklists.find? fun path => (files.text? path).isNone).isSome := by
    simpa [unreadable_iff] using unreadable
  rcases Option.isSome_iff_exists.1 found with ⟨path, first⟩
  rcases List.find?_eq_some_iff_append.1 first with ⟨noText, front, back, split, earlier⟩
  refine ⟨front, path, back, split, ?_, ?_, load_of_find? first⟩
  · simpa [not_unreadable_iff] using earlier
  · simpa [unreadable_iff] using noText

end

/-- Reading two texts with a newline between them adds the names of both to the set before. If all
list files can be read, what is loaded is the union of what they list and what the configuration
blocks, less what it allows, so no allowed name is loaded. It is the same for all files and
configurations that have the same lines and the same entries, in whatever order and however often.
If some list file cannot be read, loading fails with the first of them. -/
theorem lists_add_up_as_sets (config : Config) (files : FileView) :
    (∀ (first second : String) (names : NameSet),
      (parse (first ++ "\n" ++ second) names).members =
        names.members ∪ ((parse first ∅).members ∪ (parse second ∅).members)) ∧
    ((∀ path ∈ config.blocklists, ¬Unreadable files path) →
      ∃ loaded, load config files = .ok loaded ∧
        loaded.members =
          ((⋃ path ∈ config.blocklists, namesAt files path) ∪ canonicalForms config.blocklist) \
            canonicalForms config.whitelist ∧
        (∀ entry ∈ config.whitelist, ∀ name, canonical? entry = some name → name ∉ loaded) ∧
        ∀ (other : Config) (otherFiles : FileView), SameLists config other files otherFiles →
          (∀ path ∈ other.blocklists, ¬Unreadable otherFiles path) →
          ∃ otherLoaded, load other otherFiles = .ok otherLoaded ∧
            otherLoaded.members = loaded.members) ∧
    ((∃ path ∈ config.blocklists, Unreadable files path) →
      ∃ front path back, config.blocklists = front ++ path :: back ∧
        (∀ earlier ∈ front, ¬Unreadable files earlier) ∧ Unreadable files path ∧
        load config files = .error (.unreadableBlocklist path)) := by
  refine ⟨?_, ?_, exists_first_unreadable⟩
  · intro first second names
    rw [members_parse, listedNames_append_newline, members_parse_empty, members_parse_empty]
    simp only [List.mem_append, Set.ofPred_or]
  · intro readable
    rcases exists_load_members readable with ⟨loaded, succeeds, members⟩
    refine ⟨loaded, succeeds, members, ?_, ?_⟩
    · intro entry isEntry name canonical isLoaded
      have isMember : name ∈ loaded.members := isLoaded
      rw [members] at isMember
      exact isMember.2 ⟨entry, isEntry, canonical⟩
    · intro other otherFiles same otherReadable
      rcases exists_load_members otherReadable with ⟨otherLoaded, otherSucceeds, otherMembers⟩
      refine ⟨otherLoaded, otherSucceeds, ?_⟩
      rw [members, otherMembers, same.iUnion_namesAt, same.canonicalForms_blocklist,
        same.canonicalForms_whitelist]

/-- Two list files that have a name in common, and no others. -/
def twoLists : FileView := fun path =>
  if path = "list" then some (.file "a.b\n0.0.0.0 C.d e.f # x".toByteArray)
  else if path = "more" then some (.file "e.f\r\n".toByteArray)
  else none

theorem two_lists_add_up_as_sets :
    let config : Config := { blocklists := ["list", "more"], whitelist := ["E.f."] }
    let other : Config :=
      { blocklists := ["more", "list", "more"], whitelist := ["E.f.", "E.f."] }
    let failing : Config := { blocklists := ["absent"] }
    (∃ loaded otherLoaded, load config twoLists = .ok loaded ∧
      load other twoLists = .ok otherLoaded ∧ otherLoaded.members = loaded.members ∧
      "e.f" ∉ loaded) ∧
    load failing twoLists = .error (.unreadableBlocklist "absent") := by
  intro config other failing
  have readable (path : String) (isPath : path ∈ config.blocklists) :
      ¬Unreadable twoLists path := by
    rw [not_unreadable_iff]
    simp only [config, List.mem_cons, List.not_mem_nil, or_false] at isPath
    rcases isPath with rfl | rfl <;> rfl
  have samePaths (path : String) : path ∈ other.blocklists ↔ path ∈ config.blocklists := by
    simp only [other, config, List.mem_cons, List.not_mem_nil, or_false]
    tauto
  have same : SameLists config other twoLists twoLists := by
    refine ⟨?_, by simp [config, other], by simp [config, other]⟩
    simp only [linesAt, samePaths]
  have absent : Unreadable twoLists "absent" := .missing rfl
  constructor
  · rcases (lists_add_up_as_sets config twoLists).2.1 readable with
      ⟨loaded, succeeds, _, allowed, sameElsewhere⟩
    have otherReadable (path : String) (isPath : path ∈ other.blocklists) :
        ¬Unreadable twoLists path := readable path ((samePaths path).1 isPath)
    rcases sameElsewhere other twoLists same otherReadable with
      ⟨otherLoaded, otherSucceeds, sameMembers⟩
    have canonical : canonical? "E.f." = some "e.f" := by decide +kernel
    exact ⟨loaded, otherLoaded, succeeds, otherSucceeds, sameMembers,
      allowed "E.f." (List.mem_singleton.2 rfl) "e.f" canonical⟩
  · rcases (lists_add_up_as_sets failing twoLists).2.2 ⟨"absent", List.mem_singleton.2 rfl, absent⟩
      with ⟨front, path, back, split, _, _, fails⟩
    have isPath : path ∈ failing.blocklists := by simp [split]
    rwa [List.mem_singleton.1 isPath] at fails

end Blocklist

end DnsFilter
