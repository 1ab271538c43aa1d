import DnsFilter.Config.Setting
import DnsFilter.Files
import DnsFilter.Json.Reader

/-!
# Reading a configuration

A configuration is a JSON document. An object sets what its keys name; other keys are passed over
with their values, and nothing may be set twice. An array sets all settings in their order, as far
as it goes. A setting that is not named has its default, and a value that does not fit its setting
makes the document invalid; `null` fits none.
-/

namespace DnsFilter.Config

/-- The values that a document has set so far. -/
abbrev Draft := (setting : Setting) → Option setting.Value

namespace Draft

def empty : Draft := fun _ => none

def set (draft : Draft) (setting : Setting) (value : setting.Value) : Draft := fun other =>
  if same : setting = other then some (same ▸ value) else draft other

/-- The configuration that has the values set and the defaults of all other settings. -/
def complete (draft : Draft) : Config :=
  ofValues fun setting => (draft setting).getD setting.fallback

/-- Sets what a member of an object names. -/
def takeMember? (draft : Draft) (member : List UInt8 × Json) : Option Draft :=
  match Json.textOf? member.1 with
  | none => none
  | some key =>
      match Setting.ofKey? key with
      | none => some draft
      | some setting =>
          if (draft setting).isSome then none
          else (setting.read? member.2).map (draft.set setting)

def takeMembers? (draft : Draft) (members : List (List UInt8 × Json)) : Option Draft :=
  members.foldlM takeMember? draft

/-- Sets settings from values in the same order; more values than settings do not fit. -/
def takeItems? (draft : Draft) : List Setting → List Json → Option Draft
  | _, [] => some draft
  | [], _ :: _ => none
  | setting :: settings, value :: values =>
      match setting.read? value with
      | none => none
      | some read => (draft.set setting read).takeItems? settings values

end Draft

def ofJson? : Json → Option Config
  | .object members => (Draft.empty.takeMembers? members).map Draft.complete
  | .array items => (Draft.empty.takeItems? Setting.all items).map Draft.complete
  | _ => none

/-- The configuration that the content of a file describes, if it can be used. -/
def ofBytes (content : ByteArray) : Except Error Config := do
  let some config := (Json.parse? content.toList).bind ofJson? | throw .invalidJson
  config.validate
  return config

/-- The configuration in a file. A directory can be opened but holds no document. -/
def ofFile (files : FileView) (path : String) : Except Error Config :=
  match files path with
  | none => .error .io
  | some .directory => .error .invalidJson
  | some (.file content) => ofBytes content

end DnsFilter.Config
