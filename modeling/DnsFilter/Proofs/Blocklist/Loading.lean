import DnsFilter.Blocklist
import Std.Data.TreeSet.Lemmas

/-!
# What is loaded

A name is loaded if one of the list files or the configuration itself lists it, unless the
configuration allows it. A line lists a word that stands alone in it, or the words behind a sink
address; what follows the first `#` does not count.
-/

namespace DnsFilter

namespace Blocklist

/-- What a line has in front of the first `#` in it, which is the whole line if there is none. -/
inductive Uncommented : List Char → List Char → Prop where
  | whole {line : List Char} (free : '#' ∉ line) : Uncommented line line
  | cut {front comment : List Char} (free : '#' ∉ front) :
      Uncommented (front ++ '#' :: comment) front

theorem beforeComment_append {front : List Char} (free : '#' ∉ front) (rest : List Char) :
    beforeComment (front ++ rest) = front ++ beforeComment rest := by
  apply List.takeWhile_append_of_pos
  intro character member
  rw [bne_iff_ne]
  rintro rfl
  exact free member

theorem beforeComment_eq_iff {line front : List Char} :
    beforeComment line = front ↔ Uncommented line front := by
  constructor
  · rintro rfl
    have free : '#' ∉ beforeComment line := by
      intro mark
      simpa using List.all_eq_true.1 List.all_takeWhile _ mark
    have rejoined : beforeComment line ++ line.dropWhile (· != '#') = line :=
      List.takeWhile_append_dropWhile
    generalize beforeComment line = front at free rejoined ⊢
    cases comment : line.dropWhile (· != '#') with
    | nil =>
        rw [comment, List.append_nil] at rejoined
        subst rejoined
        exact .whole free
    | cons mark rest =>
        have isMark : mark = '#' := by
          have stops := List.head?_dropWhile_not (· != '#') line
          simpa [comment] using stops
        rw [comment, isMark] at rejoined
        subst rejoined
        exact .cut free
  · intro uncommented
    cases uncommented with
    | whole free => simpa [beforeComment] using beforeComment_append free []
    | cut free =>
        rw [beforeComment_append free]
        simp [beforeComment]

/-- That a text lists a word. -/
inductive Lists (contents : String) (word : List Char) : Prop where
  | alone {line front : List Char} (isLine : line ∈ contents.toList.splitOn '\n')
      (uncommented : Uncommented line front) (single : Text.Consists front [word])
  | behindSink {line front address : List Char} {words : List (List Char)}
      (isLine : line ∈ contents.toList.splitOn '\n') (uncommented : Uncommented line front)
      (entry : Text.Consists front (address :: words))
      (sink : String.ofList address ∈ ["0.0.0.0", "127.0.0.1", "::", "::1"])
      (member : word ∈ words)

namespace Lists

variable {contents : String} {word : List Char}

theorem trim_eq (lists : Lists contents word) : Text.trim word = word := by
  have isWord : word ≠ [] ∧ ∀ character ∈ word, Text.isBlank character = false := by
    cases lists with
    | alone _ _ single => exact single.of_mem (.head _)
    | behindSink _ _ entry _ member => exact entry.of_mem (.tail _ member)
  have alone : Text.words word = [word] := Text.words_of_notBlank isWord.1 isWord.2
  exact (Text.trim_eq_iff isWord.1 isWord.2).2 (Text.words_eq_iff.1 alone)

end Lists

theorem mem_listedWords_iff {line : List Char} {listed : String} :
    listed ∈ listedWords line ↔
      ∃ word, String.ofList word = listed ∧
        (Text.words (beforeComment line) = [word] ∨
          ∃ address words, Text.words (beforeComment line) = address :: words ∧
            String.ofList address ∈ sinkAddresses ∧ word ∈ words) := by
  unfold listedWords
  rcases Text.words (beforeComment line) with _ | ⟨first, _ | ⟨second, rest⟩⟩
  · simp
  · simp only [List.map_cons, List.map_nil, List.mem_singleton, List.cons.injEq, and_true]
    constructor
    · rintro rfl
      exact ⟨first, rfl, .inl rfl⟩
    · rintro ⟨word, rfl, rfl | ⟨address, words, ⟨rfl, rfl⟩, _, member⟩⟩
      · rfl
      · contradiction
  · by_cases sink : String.ofList first ∈ sinkAddresses
    · simp only [List.map_cons, List.contains_iff_mem, sink, if_true, List.cons.injEq, reduceCtorEq,
        and_false, false_or]
      rw [← List.map_cons, List.mem_map]
      constructor
      · rintro ⟨word, member, rfl⟩
        exact ⟨word, rfl, first, _, ⟨rfl, rfl⟩, sink, member⟩
      · rintro ⟨word, rfl, address, words, ⟨rfl, rfl⟩, _, member⟩
        exact ⟨word, member, rfl⟩
    · simp [sink]

theorem mem_listedNames_iff {contents name : String} :
    name ∈ listedNames contents ↔
      ∃ word, Lists contents word ∧ canonical? (String.ofList word) = some name := by
  simp only [listedNames, List.mem_flatMap, List.mem_filterMap, mem_listedWords_iff,
    Text.words_eq_iff]
  constructor
  · rintro ⟨line, isLine, _, ⟨word, rfl, single | ⟨address, words, entry, sink, member⟩⟩, canonical⟩
    · exact ⟨word, .alone isLine (beforeComment_eq_iff.1 rfl) single, canonical⟩
    · exact ⟨word, .behindSink isLine (beforeComment_eq_iff.1 rfl) entry sink member, canonical⟩
  · rintro ⟨word, lists, canonical⟩
    cases lists with
    | alone isLine uncommented single =>
        rw [← beforeComment_eq_iff.2 uncommented] at single
        exact ⟨_, isLine, _, ⟨word, rfl, .inl single⟩, canonical⟩
    | behindSink isLine uncommented entry sink member =>
        rw [← beforeComment_eq_iff.2 uncommented] at entry
        exact ⟨_, isLine, _, ⟨word, rfl, .inr ⟨_, _, entry, sink, member⟩⟩, canonical⟩

theorem mem_parse_iff {contents name : String} {names : NameSet} :
    name ∈ parse contents names ↔ name ∈ names ∨ name ∈ listedNames contents := by
  simp [parse, Std.TreeSet.mem_insertMany_list]

/-- That one of the files at the given paths lists a name. -/
def ListedIn (files : FileView) (paths : List String) (name : String) : Prop :=
  ∃ path ∈ paths, ∃ contents, files.text? path = some contents ∧ name ∈ listedNames contents

theorem listedIn_cons {files : FileView} {path contents : String} {paths : List String}
    (read : files.text? path = some contents) (name : String) :
    ListedIn files (path :: paths) name ↔
      name ∈ listedNames contents ∨ ListedIn files paths name := by
  simp [ListedIn, read]

/-- Reading list files adds what they list to a set, if all of them can be read. -/
theorem exists_readLists {files : FileView} {paths : List String}
    (readable : ∀ path ∈ paths, (files.text? path).isSome) (names : NameSet) :
    ∃ loaded, (readLists files paths names).outcome = .ok loaded ∧
      ∀ name, name ∈ loaded ↔ name ∈ names ∨ ListedIn files paths name := by
  induction paths generalizing names with
  | nil => exact ⟨names, rfl, by simp [ListedIn]⟩
  | cons path paths ih =>
      rw [List.forall_mem_cons] at readable
      rcases Option.isSome_iff_exists.1 readable.1 with ⟨contents, read⟩
      rcases ih readable.2 (parse contents names) with ⟨loaded, outcome, members⟩
      refine ⟨loaded, ?_, ?_⟩
      · rw [readLists, read]
        exact outcome
      · intro name
        rw [members, mem_parse_iff, listedIn_cons read, or_assoc]

theorem mem_foldl_erase_iff {removed : List String} {names : NameSet} {name : String} :
    name ∈ removed.foldl (fun names name => names.erase name) names ↔
      name ∈ names ∧ name ∉ removed := by
  induction removed generalizing names with
  | nil => simp
  | cons first removed ih =>
      simp only [List.foldl_cons, ih, Std.TreeSet.mem_erase, ne_eq,
        Std.LawfulEqCmp.compare_eq_iff_eq, List.mem_cons, not_or]
      rw [and_comm (a := ¬first = name), and_assoc, @eq_comm _ first]

theorem mem_adjust_iff {config : Config} {names : NameSet} {name : String} :
    name ∈ adjust config names ↔
      (name ∈ names ∨ ∃ entry ∈ config.blocklist, canonical? entry = some name) ∧
        ∀ entry ∈ config.whitelist, canonical? entry ≠ some name := by
  simp [adjust, mem_foldl_erase_iff, Std.TreeSet.mem_insertMany_list]

/-- If all list files can be read, loading gives the names that are listed and not allowed. -/
theorem exists_load {config : Config} {files : FileView}
    (readable : ∀ path ∈ config.blocklists, (files.text? path).isSome) :
    ∃ loaded, load config files = .ok loaded ∧
      ∀ name, name ∈ loaded ↔
        (ListedIn files config.blocklists name ∨
            ∃ entry ∈ config.blocklist, canonical? entry = some name) ∧
          ∀ entry ∈ config.whitelist, canonical? entry ≠ some name := by
  rcases exists_readLists readable ∅ with ⟨read, outcome, members⟩
  refine ⟨adjust config read, ?_, ?_⟩
  · rw [load, Blocklist.read]
    simp only [outcome]
    rfl
  · intro name
    simp [mem_adjust_iff, members]

/-- Reading list files fails with the first of them that cannot be read. -/
theorem readLists_of_find? {files : FileView} {paths : List String} {path : String}
    (first : paths.find? (fun path => (files.text? path).isNone) = some path)
    (names : NameSet) :
    (readLists files paths names).outcome = .error (.unreadableBlocklist path) := by
  induction paths generalizing names with
  | nil => contradiction
  | cons head paths ih =>
      cases read : files.text? head with
      | none =>
          simp only [List.find?_cons, read, Option.isNone_none, Option.some.injEq] at first
          subst first
          simp [readLists, read]
      | some contents =>
          simp only [List.find?_cons, read, Option.isNone_some] at first
          simpa [readLists, read] using ih first (parse contents names)

theorem load_of_find? {config : Config} {files : FileView} {path : String}
    (first : config.blocklists.find? (fun path => (files.text? path).isNone) = some path) :
    load config files = .error (.unreadableBlocklist path) := by
  simp [load, Blocklist.read, readLists_of_find? first, Except.map]

end Blocklist

end DnsFilter
