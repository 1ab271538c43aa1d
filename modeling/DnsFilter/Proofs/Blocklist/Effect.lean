import DnsFilter.Proofs.Blocklist.Spelling
import DnsFilter.Proofs.Pipeline.Blocking

/-!
# What the lists do to queries

From the text of list files to the answer of an address query: a plain name gets the null route if
and only if the lists want it blocked. Nothing is blocked for being below or above a listed name.
-/

namespace DnsFilter

namespace Blocklist

/-- That the lists want a plain name blocked. -/
structure Wants (config : Config) (files : FileView) (name : DomainName) : Prop where
  notSystem : String.ofList name.listText ∉ systemNames
  notAddress : ¬name.IsDottedOctets
  listed :
    (∃ path ∈ config.blocklists, ∃ contents, files.text? path = some contents ∧
        ∃ word, Lists contents word ∧ Spells word name.listText) ∨
      ∃ entry ∈ config.blocklist, EntrySpells entry name.listText
  notAllowed : ∀ entry ∈ config.whitelist, ¬EntrySpells entry name.listText

section

variable {config : Config} {files : FileView} {name : DomainName}

theorem listedIn_iff_of_isPlain {paths : List String} (plain : name.IsPlain) :
    ListedIn files paths (String.ofList name.listText) ↔
      (∃ path ∈ paths, ∃ contents, files.text? path = some contents ∧
          ∃ word, Lists contents word ∧ Spells word name.listText) ∧
        String.ofList name.listText ∉ systemNames ∧ ¬name.IsDottedOctets := by
  simp only [ListedIn, mem_listedNames_iff, canonical?_eq_some_iff_of_isPlain plain,
    String.toList_ofList]
  constructor
  · rintro ⟨path, isPath, contents, read, word, lists, spells, namable⟩
    rw [lists.trim_eq] at spells
    exact ⟨⟨path, isPath, contents, read, word, lists, spells⟩, namable⟩
  · rintro ⟨⟨path, isPath, contents, read, word, lists, spells⟩, namable⟩
    refine ⟨path, isPath, contents, read, word, lists, ?_, namable⟩
    rw [lists.trim_eq]
    exact spells

/-- What is loaded contains a plain name if and only if the lists want it blocked. -/
theorem exists_load_of_isPlain (plain : name.IsPlain)
    (readable : ∀ path ∈ config.blocklists, (files.text? path).isSome) :
    ∃ loaded, load config files = .ok loaded ∧
      (String.ofList name.listText ∈ loaded ↔ Wants config files name) := by
  rcases exists_load readable with ⟨loaded, succeeds, members⟩
  refine ⟨loaded, succeeds, ?_⟩
  rw [members, listedIn_iff_of_isPlain plain]
  simp only [ne_eq, canonical?_eq_some_iff_of_isPlain plain, spells_trim_iff plain]
  constructor
  · rintro ⟨⟨listed, notSystem, notAddress⟩ | ⟨entry, isEntry, spells, notSystem, notAddress⟩,
      notAllowed⟩
    · refine ⟨notSystem, notAddress, .inl listed, ?_⟩
      intro entry isEntry spells
      exact notAllowed entry isEntry ⟨spells, notSystem, notAddress⟩
    · refine ⟨notSystem, notAddress, .inr ⟨entry, isEntry, spells⟩, ?_⟩
      intro other isOther otherSpells
      exact notAllowed other isOther ⟨otherSpells, notSystem, notAddress⟩
  · rintro ⟨notSystem, notAddress, listed, notAllowed⟩
    constructor
    · rcases listed with listed | ⟨entry, isEntry, spells⟩
      · exact .inl ⟨listed, notSystem, notAddress⟩
      · exact .inr ⟨entry, isEntry, spells, notSystem, notAddress⟩
    · intro entry isEntry allows
      exact notAllowed entry isEntry allows.1

end

end Blocklist

namespace Pipeline

theorem valid?_of_isEmpty {pipeline : Pipeline}
    (empty : ∀ side, (pipeline.cache side).isEmpty = true) (side : CacheSide) (time : Nat)
    (key : String) : (pipeline.cache side).valid? time key = none := by
  have size : (pipeline.cache side).entries.size = 0 := by
    simpa [ResponseCache.isEmpty, ResponseCache.size] using empty side
  have isEmpty : (pipeline.cache side).entries.isEmpty = true := by
    rw [Std.TreeMap.isEmpty_eq_size_eq_zero, size]
    rfl
  rw [ResponseCache.valid?, Std.TreeMap.getElem?_of_isEmpty isEmpty]
  rfl

/-- An address query that is not cached gets the null route if its name is blocked, and what the
servers say to it otherwise. -/
theorem resolve_of_uncached {pipeline : Pipeline} {request : Message} {query : Query}
    {family : AddressFamily} (first : request.queries.head? = some query)
    (address : query.family? = some family)
    (uncached : ∀ side, (pipeline.cache side).valid? pipeline.now query.key = none)
    (transport : Transport) (client : IPAddress)
    (ask : Transport → Message → Except Error Message) :
    (pipeline.resolve request transport client ask).2 =
      if pipeline.blocked.blocks (Question.ofQuery query).name then
        blockResolution pipeline.config request query family
      else pipeline.outcomeResolution ⟨request, query, transport⟩ (ask transport request) := by
  rw [resolve_eq_inquire]
  have resolves := resolves_inquire pipeline ⟨request, transport, client, ask transport request⟩
  generalize (pipeline.inquire _).2 = resolution at resolves ⊢
  cases resolves with
  | malformed absent => exact absurd (first.symm.trans absent) nofun
  | passedOn sameFirst other =>
      cases first.symm.trans sameFirst
      exact absurd (address.symm.trans other) nofun
  | remembered sameFirst _ found =>
      cases first.symm.trans sameFirst
      exact absurd (found.symm.trans (uncached .positive)) nofun
  | refused sameFirst _ _ found =>
      cases first.symm.trans sameFirst
      exact absurd (found.symm.trans (uncached .negative)) nofun
  | blocked sameFirst sameAddress _ _ blocked =>
      cases first.symm.trans sameFirst
      cases address.symm.trans sameAddress
      rw [if_pos blocked]
  | forwarded sameFirst _ _ _ unblocked =>
      cases first.symm.trans sameFirst
      simp only [unblocked, Bool.false_eq_true, if_false]

/-- If all list files can be read, the lists are loaded. Once they have taken effect over empty
caches, an address query for a plain name, in any letter case, gets the null route if and only if
the lists want the name blocked; otherwise it is answered with what the servers say to it. -/
theorem plain_name_is_blocked_as_listed (pipeline : Pipeline) (files : FileView)
    (readable : ∀ path ∈ pipeline.config.blocklists, (files.text? path).isSome)
    (empty : ∀ side, (pipeline.cache side).isEmpty = true) (name : DomainName)
    (plain : name.IsPlain) (request : Message) (query : Query) (family : AddressFamily)
    (first : request.queries.head? = some query) (address : query.family? = some family)
    (sameName : query.name.lowercase = name.lowercase) (transport : Transport)
    (client : IPAddress) (ask : Transport → Message → Except Error Message) :
    ∃ loaded, Blocklist.load pipeline.config files = .ok loaded ∧
      let resolution := ((pipeline.reload loaded).resolve request transport client ask).2
      (resolution.source = .nullRoute ↔ Blocklist.Wants pipeline.config files name) ∧
      (Blocklist.Wants pipeline.config files name →
        IsNullRoute pipeline.config query family resolution.response) ∧
      (¬Blocklist.Wants pipeline.config files name →
        resolution.source =
          .servers ((ask transport request).map fun message => message.withId request.id)) := by
  rcases Blocklist.exists_load_of_isPlain plain readable with ⟨loaded, succeeds, wanted⟩
  refine ⟨loaded, succeeds, ?_⟩
  have queryPlain : query.name.IsPlain := by
    rw [← DomainName.isPlain_lowercase_iff, sameName]
    exact plain.lowercase
  have blocks : (pipeline.reload loaded).blocked.blocks (Question.ofQuery query).name = true ↔
      Blocklist.Wants pipeline.config files name := by
    rw [← wanted, ← DomainName.listText_congr sameName]
    change loaded.contains (foldName (normalizeName query.name.toText)) = true ↔ _
    rw [queryPlain.foldName_eq, Std.TreeSet.contains_iff_mem]
  have uncached (side : CacheSide) :
      ((pipeline.reload loaded).cache side).valid? pipeline.now query.key = none := by
    cases side with
    | positive => exact valid?_of_isEmpty empty .positive _ _
    | negative => exact valid?_of_isEmpty empty .negative _ _
  intro resolution
  rw [show resolution = _ from resolve_of_uncached first address uncached transport client ask]
  by_cases wants : Blocklist.Wants pipeline.config files name
  · simp only [blocks.2 wants, if_true, wants, iff_true, true_implies, not_true, false_implies,
      and_true]
    exact ⟨rfl, .blockedResponse pipeline.config request query family⟩
  · simp only [blocks.not.2 wants, wants, iff_false, false_implies, not_false_iff,
      true_implies, true_and]
    exact ⟨nofun, rfl⟩

/-- A file that points a name at a sink address, in another letter case and with a final dot. What
looks like another name is in a comment. -/
def sampleFiles : FileView := fun path =>
  if path = "list" then some (.file "0.0.0.0 A.b. # e".toByteArray) else none

/-- A configuration that uses the file, blocks one more name and allows another. -/
def sampleConfig : Config :=
  { blocklists := ["list"], blocklist := [" D. "], whitelist := ["b"] }

/-- A query for the name `a.B`. -/
def mixedCaseQuery : Query := { name := ⟨[[0x61], [0x42]], by decide⟩ }

def commentedQuery : Query := { name := ⟨[[0x65]], by decide⟩ }

def configuredQuery : Query := { name := ⟨[[0x64]], by decide⟩ }

theorem plain_name_is_blocked_on_sample :
    ∃ loaded, Blocklist.load sampleConfig sampleFiles = .ok loaded ∧
      let resolution (query : Query) :=
        (((new sampleConfig 1).reload loaded).resolve { queries := [query] } .udp
          (.v4 ⟨192, 0, 2, 1⟩) fun _ _ => .error .io).2
      ((resolution mixedCaseQuery).source = .nullRoute ∧
        IsNullRoute sampleConfig mixedCaseQuery .v4 (resolution mixedCaseQuery).response) ∧
      (resolution configuredQuery).source = .nullRoute ∧
      (resolution commentedQuery).source = .servers (.error .io) := by
  have readable : ∀ path ∈ sampleConfig.blocklists, (sampleFiles.text? path).isSome := by
    intro path member
    rw [List.mem_singleton.1 member]
    rfl
  have empty (side : CacheSide) : ((new sampleConfig 1).cache side).isEmpty = true := by
    cases side <;> rfl
  have effect (query : Query) (plain : query.name.IsPlain) (address : query.family? = some .v4) :=
    plain_name_is_blocked_as_listed (new sampleConfig 1) sampleFiles readable empty query.name plain
      { queries := [query] } query .v4 rfl address rfl .udp (.v4 ⟨192, 0, 2, 1⟩)
      fun _ _ => .error .io
  have listed : Blocklist.Lists "0.0.0.0 A.b. # e" ['A', '.', 'b', '.'] := by
    have cut := @Blocklist.Uncommented.cut "0.0.0.0 A.b. ".toList " e".toList (by decide)
    exact .behindSink (List.mem_singleton.2 rfl) cut (Text.words_eq_iff.1 rfl) (by decide)
      (List.mem_singleton.2 rfl)
  have wantsMixedCase : Blocklist.Wants sampleConfig sampleFiles mixedCaseQuery.name := by
    refine ⟨by decide, by decide, .inl ⟨"list", by decide, _, rfl, _, listed, .inr rfl⟩, ?_⟩
    intro entry member
    rw [List.mem_singleton.1 member, ← Blocklist.spells_trim_iff (by decide)]
    decide
  have wantsConfigured : Blocklist.Wants sampleConfig sampleFiles configuredQuery.name := by
    refine ⟨by decide, by decide, .inr ⟨" D. ", List.mem_singleton.2 rfl, ?_⟩, ?_⟩
    · rw [← Blocklist.spells_trim_iff (by decide)]
      decide
    · intro entry member
      rw [List.mem_singleton.1 member, ← Blocklist.spells_trim_iff (by decide)]
      decide
  have notCommented : ¬Blocklist.Wants sampleConfig sampleFiles commentedQuery.name := by
    rintro ⟨notSystem, notAddress, listed | ⟨entry, member, spells⟩, _⟩
    · have among := (Blocklist.listedIn_iff_of_isPlain (by decide)).2
        ⟨listed, notSystem, notAddress⟩
      rcases (Blocklist.listedIn_cons rfl _).1 among with among | ⟨_, isPath, _⟩
      · exact absurd among (by decide +kernel)
      · contradiction
    · rw [List.mem_singleton.1 member, ← Blocklist.spells_trim_iff (by decide)] at spells
      exact absurd spells (by decide)
  rcases effect mixedCaseQuery (by decide) rfl with ⟨loaded, succeeds, source, response, _⟩
  rcases effect configuredQuery (by decide) rfl with ⟨same, loads, configured, _⟩
  cases succeeds.symm.trans loads
  rcases effect commentedQuery (by decide) rfl with ⟨same, loads, _, _, commented⟩
  cases succeeds.symm.trans loads
  exact ⟨loaded, succeeds, ⟨source.2 wantsMixedCase, response wantsMixedCase⟩,
    configured.2 wantsConfigured, commented notCommented⟩

end Pipeline

end DnsFilter
