import DnsFilter.Json.Printer
import DnsFilter.Pipeline.Basic

/-!
# Responses of the admin interface

A response is a status with a body; a body that is no document is plain text or missing. Responses
to methods that a path does not know name those that it knows.
-/

namespace DnsFilter.Admin

inductive Body where
  | empty
  | plain (text : String)
  | document (value : Json)
  deriving Repr, Inhabited

/-- The kind of content that a body is announced as. -/
def Body.contentType? : Body → Option String
  | empty => none
  | plain _ => some "text/plain; charset=utf-8"
  | document _ => some "application/json"

structure Response where
  status : Nat
  contentType : Option String
  /-- The methods that the path knows, when the request used another one. -/
  allow : Option String := none
  body : Body
  deriving Repr, Inhabited

namespace Response

/-- A response with the given status and body. -/
def ofBody (status : Nat) (body : Body) : Response :=
  { status, contentType := body.contentType?, body }

/-- The response to a request that was met. -/
def ok (value : Json) : Response := ofBody 200 (.document value)

/-- The response that reports an error as a document. -/
def failure (status : Nat) (text : String) : Response :=
  ofBody status (.document (.ofMembers [("error", .ofText text)]))

def withoutBody (response : Response) : Response := { response with body := .empty }

end Response

def cacheJson (cache : ResponseCache) : Json :=
  .ofMembers [("size", .ofNat cache.size), ("capacity", .ofNat cache.capacity)]

def entryJson (entry : QuestionEntry) : Json :=
  .ofMembers [("date", .ofInt entry.date), ("client", .ofText entry.client.toText),
    ("blocked", .bool entry.blocked),
    ("query", .ofMembers [("name", .ofText entry.question.name),
      ("type", .ofText entry.question.recordType),
      ("class", .ofText entry.question.recordClass)])]

def sizeJson (size : Nat) : Json := .ofMembers [("size", .ofNat size)]

def blockedJson (name : String) (blocked : Bool) : Json :=
  .ofMembers [("name", .ofText name), ("blocked", .bool blocked)]

end DnsFilter.Admin
