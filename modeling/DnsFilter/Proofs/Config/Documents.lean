import DnsFilter.Config.Reader
import DnsFilter.Proofs.Json.Grammar
import Mathlib.Logic.Relation

/-!
# Documents that configure the same

The order of an object's members does not matter, nor do members with keys that name no setting, nor
a member that gives a setting its default. An array says the same as an object that names the
settings in their order.
-/

namespace DnsFilter.Config

namespace Setting

theorem ofKey?_key (setting : Setting) : ofKey? setting.key = some setting := by
  cases setting <;> decide

theorem key_eq_of_ofKey? {key : String} {setting : Setting} (named : ofKey? key = some setting) :
    setting.key = key := by
  simpa using List.find?_some named

theorem ofKey?_eq_none_iff {key : String} :
    ofKey? key = none ↔ ∀ setting : Setting, setting.key ≠ key := by
  have everySetting (setting : Setting) : setting ∈ all := by cases setting <;> decide
  simp [ofKey?, everySetting]

end Setting

namespace Draft

variable {draft next : Draft} {setting other : Setting}

@[simp]
theorem set_self (draft : Draft) (setting : Setting) (value : setting.Value) :
    draft.set setting value setting = some value := by
  simp [set]

theorem set_of_ne (draft : Draft) (value : setting.Value) (different : setting ≠ other) :
    draft.set setting value other = draft other := by
  simp [set, different]

theorem set_comm (draft : Draft) (value : setting.Value) (otherValue : other.Value)
    (different : setting ≠ other) :
    (draft.set setting value).set other otherValue =
      (draft.set other otherValue).set setting value := by
  funext third
  by_cases first : setting = third
  · subst first
    rw [set_self, set_of_ne _ _ different.symm, set_self]
  · by_cases second : other = third
    · subst second
      rw [set_self, set_of_ne _ _ first, set_self]
    · simp only [set_of_ne _ _ first, set_of_ne _ _ second]

/-- Setting to the default what is not set changes nothing. -/
theorem complete_set_fallback (unset : draft setting = none) :
    (draft.set setting setting.fallback).complete = draft.complete := by
  unfold complete
  congr 1
  funext other
  by_cases same : setting = other
  · subst same
    simp [unset]
  · rw [set_of_ne _ _ same]

theorem complete_empty : empty.complete = default := rfl

section

variable {member otherMember : List UInt8 × Json} {members others : List (List UInt8 × Json)}

/-- That a key names no setting. -/
def IsForeign (member : List UInt8 × Json) : Prop :=
  ∃ key, Json.textOf? member.1 = some key ∧ ∀ setting : Setting, setting.key ≠ key

/-- The ways in which a member can be taken. -/
inductive Takes (member : List UInt8 × Json) : Prop where
  | textless (noText : Json.textOf? member.1 = none)
  | foreign (isForeign : IsForeign member)
  | known {setting : Setting} (named : Json.textOf? member.1 = some setting.key)

theorem takes (member : List UInt8 × Json) : Takes member := by
  cases text : Json.textOf? member.1 with
  | none => exact .textless text
  | some key =>
      cases named : Setting.ofKey? key with
      | none => exact .foreign ⟨key, text, Setting.ofKey?_eq_none_iff.1 named⟩
      | some setting => exact .known (Setting.key_eq_of_ofKey? named ▸ text)

theorem takeMember?_of_textless (noText : Json.textOf? member.1 = none) :
    draft.takeMember? member = none := by
  simp [takeMember?, noText]

theorem takeMember?_of_isForeign (isForeign : IsForeign member) :
    draft.takeMember? member = some draft := by
  rcases isForeign with ⟨key, text, foreign⟩
  simp [takeMember?, text, Setting.ofKey?_eq_none_iff.2 foreign]

theorem takeMember?_eq_some_iff (named : Json.textOf? member.1 = some setting.key) :
    draft.takeMember? member = some next ↔
      draft setting = none ∧
        ∃ value, setting.read? member.2 = some value ∧ draft.set setting value = next := by
  simp only [takeMember?, named, Setting.ofKey?_key]
  cases draft setting <;> simp

theorem takeMember?_of_unset (named : Json.textOf? member.1 = some setting.key)
    (unset : draft setting = none) :
    draft.takeMember? member = (setting.read? member.2).map (draft.set setting) := by
  simp [takeMember?, named, Setting.ofKey?_key, unset]

/-- What two members that name settings make of a draft: they must name different ones. -/
theorem takeTwo_eq_some_iff (named : Json.textOf? member.1 = some setting.key)
    (otherNamed : Json.textOf? otherMember.1 = some other.key) :
    ((draft.takeMember? member).bind fun between => between.takeMember? otherMember) = some next ↔
      setting ≠ other ∧ draft setting = none ∧ draft other = none ∧
        ∃ value otherValue, setting.read? member.2 = some value ∧
          other.read? otherMember.2 = some otherValue ∧
          (draft.set setting value).set other otherValue = next := by
  simp only [Option.bind_eq_some_iff, takeMember?_eq_some_iff named,
    takeMember?_eq_some_iff otherNamed]
  constructor
  · rintro ⟨_, ⟨unset, value, read, rfl⟩, otherUnset, otherValue, otherRead, rfl⟩
    have different : setting ≠ other := by
      rintro rfl
      simp at otherUnset
    rw [set_of_ne _ _ different] at otherUnset
    exact ⟨different, unset, otherUnset, value, otherValue, read, otherRead, rfl⟩
  · rintro ⟨different, unset, otherUnset, value, otherValue, read, otherRead, rfl⟩
    refine ⟨_, ⟨unset, value, read, rfl⟩, ?_, otherValue, otherRead, rfl⟩
    rwa [set_of_ne _ _ different]

/-- Two members can be taken in either order. -/
theorem takeMember?_comm (draft : Draft) (member otherMember : List UInt8 × Json) :
    ((draft.takeMember? member).bind fun between => between.takeMember? otherMember) =
      (draft.takeMember? otherMember).bind fun between => between.takeMember? member := by
  cases takes member with
  | textless noText => simp [takeMember?_of_textless noText]
  | foreign isForeign => simp [takeMember?_of_isForeign isForeign]
  | known named =>
      cases takes otherMember with
      | textless noText => simp [takeMember?_of_textless noText]
      | foreign isForeign => simp [takeMember?_of_isForeign isForeign]
      | known otherNamed =>
          ext next
          rw [takeTwo_eq_some_iff named otherNamed, takeTwo_eq_some_iff otherNamed named]
          constructor
          · rintro ⟨different, unset, otherUnset, value, otherValue, read, otherRead, rfl⟩
            exact ⟨different.symm, otherUnset, unset, otherValue, value, otherRead, read,
              (set_comm draft value otherValue different).symm⟩
          · rintro ⟨different, otherUnset, unset, otherValue, value, otherRead, read, rfl⟩
            exact ⟨different.symm, unset, otherUnset, value, otherValue, read, otherRead,
              (set_comm draft otherValue value different).symm⟩

@[simp]
theorem takeMembers?_nil (draft : Draft) : draft.takeMembers? [] = some draft := rfl

@[simp]
theorem takeMembers?_cons (draft : Draft) (member : List UInt8 × Json)
    (members : List (List UInt8 × Json)) :
    draft.takeMembers? (member :: members) =
      (draft.takeMember? member).bind fun next => next.takeMembers? members := rfl

theorem takeMembers?_append (draft : Draft) (members others : List (List UInt8 × Json)) :
    draft.takeMembers? (members ++ others) =
      (draft.takeMembers? members).bind fun next => next.takeMembers? others :=
  List.foldlM_append

theorem takeMembers?_of_perm (perm : others.Perm members) (draft : Draft) :
    draft.takeMembers? others = draft.takeMembers? members := by
  induction perm generalizing draft with
  | nil => rfl
  | cons member _ ih => simp [ih]
  | swap first second rest =>
      simp only [takeMembers?_cons, ← Option.bind_assoc, takeMember?_comm draft first second]
  | trans _ _ first second => rw [first, second]

theorem takeMember?_of_other (taken : draft.takeMember? member = some next)
    (different : Json.textOf? member.1 ≠ some setting.key) : next setting = draft setting := by
  cases takes member with
  | textless noText => simp [takeMember?_of_textless noText] at taken
  | foreign isForeign =>
      rw [takeMember?_of_isForeign isForeign, Option.some.injEq] at taken
      rw [taken]
  | @known other named =>
      rcases (takeMember?_eq_some_iff named).1 taken with ⟨_, value, _, rfl⟩
      apply set_of_ne
      rintro rfl
      exact different named

theorem takeMembers?_of_absent (taken : draft.takeMembers? members = some next)
    (absent : ∀ member ∈ members, Json.textOf? member.1 ≠ some setting.key) :
    next setting = draft setting := by
  induction members generalizing draft with
  | nil =>
      rw [takeMembers?_nil, Option.some.injEq] at taken
      rw [taken]
  | cons member members ih =>
      rw [List.forall_mem_cons] at absent
      rw [takeMembers?_cons, Option.bind_eq_some_iff] at taken
      rcases taken with ⟨between, first, rest⟩
      rw [ih rest absent.2, takeMember?_of_other first absent.1]

/-- A member that gives its default to a setting that no other member names changes nothing. -/
theorem takeMembers?_append_fallback {body : List UInt8} {value : Json}
    (unset : draft setting = none)
    (absent : ∀ member ∈ members, Json.textOf? member.1 ≠ some setting.key)
    (named : Json.textOf? body = some setting.key)
    (reads : setting.read? value = some setting.fallback) :
    (draft.takeMembers? (members ++ [(body, value)])).map complete =
      (draft.takeMembers? members).map complete := by
  rw [takeMembers?_append]
  cases taken : draft.takeMembers? members with
  | none => rfl
  | some next =>
      have nextUnset : next setting = none := by
        rw [takeMembers?_of_absent taken absent, unset]
      have last : next.takeMember? (body, value) = some (next.set setting setting.fallback) :=
        (takeMember?_eq_some_iff named).2 ⟨nextUnset, _, reads, rfl⟩
      simp [last, complete_set_fallback nextUnset]

/-- Items set the same as members that name the settings in their order. -/
theorem takeItems?_eq_takeMembers? {settings : List Setting} {values : List Json}
    (apart : settings.Nodup) (unset : ∀ setting ∈ settings, draft setting = none)
    (fits : values.length ≤ settings.length)
    (named : members.map (fun member => (Json.textOf? member.1, member.2)) =
      (settings.zip values).map fun item => (some item.1.key, item.2)) :
    draft.takeItems? settings values = draft.takeMembers? members := by
  induction settings generalizing draft members values with
  | nil =>
      simp only [List.length_nil, Nat.le_zero, List.length_eq_zero_iff] at fits
      subst fits
      simp only [List.zip_nil_left, List.map_nil, List.map_eq_nil_iff] at named
      simp [named, takeItems?]
  | cons setting settings ih =>
      cases values with
      | nil =>
          simp only [List.zip_nil_right, List.map_nil, List.map_eq_nil_iff] at named
          simp [named, takeItems?]
      | cons value values =>
          rw [List.zip_cons_cons, List.map_cons, List.map_eq_cons_iff] at named
          rcases named with ⟨⟨body, written⟩, rest, rfl, first, restNamed⟩
          simp only [Prod.mk.injEq] at first
          rcases first with ⟨isKey, rfl⟩
          rw [List.nodup_cons] at apart
          rw [List.forall_mem_cons] at unset
          rw [takeItems?, takeMembers?_cons, takeMember?_of_unset isKey unset.1]
          cases setting.read? written with
          | none => rfl
          | some read =>
              have stillUnset : ∀ other ∈ settings, draft.set setting read other = none := by
                intro other later
                rw [set_of_ne]
                · exact unset.2 other later
                · rintro rfl
                  exact apart.1 later
              exact ih apart.2 stillUnset (Nat.le_of_succ_le_succ fits) restNamed

end

end Draft

/-- One change to the wording of a document: its members in another order, a member more that names
no setting, a member more that gives its default to a setting left out, or an array of values for an
object. -/
inductive Rewording : Json → Json → Prop where
  | permuted {members others : List (List UInt8 × Json)} (perm : others.Perm members) :
      Rewording (.object members) (.object others)
  | foreign {members : List (List UInt8 × Json)} {member : List UInt8 × Json}
      (isForeign : Draft.IsForeign member) :
      Rewording (.object members) (.object (member :: members))
  | fallback {members : List (List UInt8 × Json)} {body : List UInt8} {value : Json}
      {setting : Setting} (named : Json.textOf? body = some setting.key)
      (absent : ∀ member ∈ members, Json.textOf? member.1 ≠ some setting.key)
      (reads : setting.read? value = some setting.fallback) :
      Rewording (.object members) (.object ((body, value) :: members))
  | listed {members : List (List UInt8 × Json)} {values : List Json} (fits : values.length ≤ 17)
      (named : members.map (fun member => (Json.textOf? member.1, member.2)) =
        (Setting.all.zip values).map fun item => (some item.1.key, item.2)) :
      Rewording (.object members) (.array values)

section

variable {files : FileView} {path : String} {document other : Json}

theorem Rewording.ofJson?_eq (rewording : Rewording document other) :
    ofJson? other = ofJson? document := by
  cases rewording with
  | permuted perm => simp only [ofJson?, Draft.takeMembers?_of_perm perm]
  | foreign isForeign =>
      simp only [ofJson?, Draft.takeMembers?_cons, Draft.takeMember?_of_isForeign isForeign,
        Option.bind_some]
  | @fallback members body value setting named absent reads =>
      have last : ((body, value) :: members).Perm (members ++ [(body, value)]) :=
        (List.perm_append_singleton _ _).symm
      rw [ofJson?, ofJson?, Draft.takeMembers?_of_perm last]
      exact Draft.takeMembers?_append_fallback rfl absent named reads
  | listed fits named =>
      have apart : Setting.all.Nodup := by decide
      have unset : ∀ setting ∈ Setting.all, Draft.empty setting = none := fun _ _ => rfl
      rw [ofJson?, ofJson?, Draft.takeItems?_eq_takeMembers? apart unset fits named]

theorem ofJson?_eq_of_rewordings (rewordings : Relation.ReflTransGen Rewording document other) :
    ofJson? other = ofJson? document := by
  induction rewordings with
  | refl => rfl
  | tail _ last ih => rw [last.ofJson?_eq, ih]

theorem Setting.textOf?_bytesOf_key (setting : Setting) :
    Json.textOf? (Json.bytesOf setting.key) = some setting.key := by
  cases setting <;> decide +kernel

/-- A value that gives a setting its default. -/
def Setting.written : Setting → Json
  | dnsUdpBind | dnsTcpBind => .ofText "127.0.0.1:5353"
  | dnsTcpTimeout | serverTimeout => .ofNat 5
  | apiBind => .ofText "127.0.0.1:8080"
  | apiTimeout => .ofNat 10
  | servers => .array [.ofText "8.8.8.8:53", .ofText "8.8.4.4:53"]
  | expire | ttl => .ofNat 600
  | maxCount => .ofNat 0
  | questionCapacity => .ofNat 5000
  | nullRoute => .ofText "0.0.0.0"
  | nullRouteV6 => .ofText "::"
  | blocklists | blocklist | whitelist => .array []
  | logLevel => .ofText "info"

theorem Setting.read?_written (setting : Setting) :
    setting.read? setting.written = some setting.fallback := by
  cases setting <;> decide +kernel

/-- That the file at a path holds a text of a document. -/
def Holds (files : FileView) (path : String) (document : Json) : Prop :=
  ∃ content, files path = some (.file content) ∧ Json.IsText document content.toList

theorem ofFile_of_holds (holds : Holds files path document) :
    ofFile files path =
      match ofJson? document with
      | none => .error .invalidJson
      | some config => config.validate.map fun _ => config := by
  rcases holds with ⟨content, isFile, isText⟩
  simp only [ofFile, isFile, ofBytes, Json.parse?_eq_some_iff.2 isText, Option.bind_some]
  cases ofJson? document <;> rfl

end

/-- A document configures the same however it is worded; the empty object gives the default
configuration, and every setting has a member that gives it its default. -/
theorem reworded_document_configures_the_same (files : FileView) (path : String) :
    (∀ otherPath document other, Relation.ReflTransGen Rewording document other →
      Holds files path document → Holds files otherPath other →
      ofFile files otherPath = ofFile files path) ∧
    (Holds files path (.object []) → ofFile files path = .ok default) ∧
    ∀ setting : Setting, ∃ body value,
      Json.textOf? body = some setting.key ∧ setting.read? value = some setting.fallback := by
  refine ⟨?_, ?_, fun setting => ⟨_, _, setting.textOf?_bytesOf_key, setting.read?_written⟩⟩
  · intro otherPath document other rewordings holds otherHolds
    rw [ofFile_of_holds holds, ofFile_of_holds otherHolds, ofJson?_eq_of_rewordings rewordings]
  · intro holds
    rw [ofFile_of_holds holds, ofJson?, Draft.takeMembers?_nil, Option.map_some,
      Draft.complete_empty]
    rfl

def bindMember : List UInt8 × Json := (Json.bytesOf "dns_udp_bind_addr", .ofText "0.0.0.0:53")

def zoneMember : List UInt8 × Json := (Json.bytesOf "zone", .ofNat 1)

def ttlMember : List UInt8 × Json := (Json.bytesOf "ttl", .ofNat 600)

/-- Two objects and an array that say the same, and an empty object. -/
def wordings : FileView := fun path =>
  if path = "object" then some (.file "\x7b\"dns_udp_bind_addr\": \"0.0.0.0:53\"\x7d".toUTF8)
  else if path = "members" then
    some (.file
      "\x7b\"zone\":1, \"dns_udp_bind_addr\": \"0.0.0.0:53\", \"ttl\":600\x7d".toUTF8)
  else if path = "array" then some (.file "[\"0.0.0.0:53\"]".toUTF8)
  else if path = "empty" then some (.file "\x7b\x7d".toUTF8)
  else none

theorem wordings_hold :
    Holds wordings "object" (.object [bindMember]) ∧
      Holds wordings "members" (.object [zoneMember, bindMember, ttlMember]) ∧
      Holds wordings "array" (.array [bindMember.2]) ∧ Holds wordings "empty" (.object []) := by
  have joined {document : Json} {bytes text : List UInt8} (isText : Json.IsText document text)
      (same : bytes = text) : Json.IsText document bytes := same ▸ isText
  have none : Json.AreBlanks [] := nofun
  have space : Json.AreBlanks [Json.byteOf ' '] := List.forall_mem_singleton.2 rfl
  have key {front body : List UInt8} (blank : Json.AreBlanks front)
      (read : Json.readString? (body ++ [Json.byteOf '"']) = some (body, [])) :
      Json.IsKey body (front ++ Json.quoted body ++ [] ++ [Json.byteOf ':']) :=
    .intro blank (Json.isBody_of_readString? read).1 none
  have text {front body : List UInt8} (blank : Json.AreBlanks front)
      (read : Json.readString? (body ++ [Json.byteOf '"']) = some (body, [])) :
      Json.IsText (.string body) (front ++ Json.quoted body ++ []) :=
    .padded blank (.string (Json.isBody_of_readString? read).1) none
  have number {literal : List UInt8} (read : Json.readNumber? literal = some (literal, [])) :
      Json.IsText (.number literal) ([] ++ literal ++ []) :=
    .padded none (.number (Json.isNumber_of_readNumber? read).1) none
  refine ⟨⟨_, rfl, ?_⟩, ⟨_, rfl, ?_⟩, ⟨_, rfl, ?_⟩, ⟨_, rfl, ?_⟩⟩
  · exact joined (.padded none (.object
      (.last (key none (by decide +kernel)) (text space (by decide +kernel)))) none)
      (by decide +kernel)
  · exact joined (.padded none (.object
      (.more (key none (by decide +kernel)) (number (by decide +kernel))
        (.more (key space (by decide +kernel)) (text space (by decide +kernel))
          (.last (key space (by decide +kernel)) (number (by decide +kernel)))))) none)
      (by decide +kernel)
  · exact joined (.padded none (.array (.last (text none (by decide +kernel)))) none)
      (by decide +kernel)
  · exact joined (.padded none (.emptyObject none) none) (by decide +kernel)

theorem rewordings_members : Relation.ReflTransGen Rewording (.object [bindMember])
    (.object [zoneMember, bindMember, ttlMember]) := by
  have ttlAbsent : Json.textOf? bindMember.1 ≠ some (Setting.key .ttl) := by decide +kernel
  have ttlAdded : Rewording (.object [bindMember]) (.object [ttlMember, bindMember]) :=
    .fallback (Setting.textOf?_bytesOf_key .ttl) (by simpa using ttlAbsent)
      (Setting.read?_written .ttl)
  have swapped : Rewording (.object [ttlMember, bindMember]) (.object [bindMember, ttlMember]) :=
    .permuted (.swap ..)
  have zoneForeign : Draft.IsForeign zoneMember :=
    ⟨"zone", by decide +kernel, Setting.ofKey?_eq_none_iff.1 (by decide +kernel)⟩
  exact ((Relation.ReflTransGen.single ttlAdded).tail swapped).tail (.foreign zoneForeign)

theorem wordings_configure_the_same :
    ofFile wordings "members" = ofFile wordings "object" ∧
      ofFile wordings "array" = ofFile wordings "object" ∧
      ofFile wordings "empty" = .ok default := by
  rcases wordings_hold with ⟨object, members, array, empty⟩
  have bindNamed : Json.textOf? bindMember.1 = some (Setting.key .dnsUdpBind) :=
    Setting.textOf?_bytesOf_key .dnsUdpBind
  have listed : Rewording (.object [bindMember]) (.array [bindMember.2]) :=
    .listed (by decide) (by simp [Setting.all, bindNamed])
  have sameAsObject := (reworded_document_configures_the_same wordings "object").1
  refine ⟨?_, ?_, (reworded_document_configures_the_same wordings "empty").2.1 empty⟩
  · exact sameAsObject "members" _ _ rewordings_members object members
  · exact sameAsObject "array" _ _ (.single listed) object array

end DnsFilter.Config
