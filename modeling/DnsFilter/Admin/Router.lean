import DnsFilter.Admin.Response
import DnsFilter.Admin.Target
import DnsFilter.Blocklist

/-!
# The admin interface

Requests that show the state of the pipeline, and one that loads the block lists anew. A request
changes nothing but the block set, and that only when every list file could be read in time. A
request that takes longer than the configuration allows is given up, whatever it has done so far.

| path | methods | result |
| --- | --- | --- |
| `/healthcheck` | GET | that the program runs |
| `/cache` | GET | sizes and capacities of both caches |
| `/questions` | GET | the question log, or its `limit` most recent entries |
| `/blocklist` | GET | the number of blocked names |
| `/blocklist/reload` | POST | the same after loading the lists anew |
| `/blocklist/NAME` | GET | whether a name is blocked |
-/

namespace DnsFilter.Admin

inductive Route where
  | healthcheck
  | cache
  | questions
  | blocklist
  | reload
  /-- A name, still percent-encoded. -/
  | blockedName (piece : List UInt8)
  deriving DecidableEq, Repr

namespace Route

/-- The pieces of a path between its slashes. The path starts with a slash. -/
def pieces (path : List UInt8) : List (List UInt8) := (path.splitOn (byteOf '/')).drop 1

def literal (text : String) : List UInt8 := text.toUTF8.toList

/-- The route of a path. Paths are compared as they are written, before percent-decoding, and a name
is never empty. -/
def ofPath? (path : List UInt8) : Option Route :=
  match pieces path with
  | [piece] =>
      if piece = literal "healthcheck" then some healthcheck
      else if piece = literal "cache" then some cache
      else if piece = literal "questions" then some questions
      else if piece = literal "blocklist" then some blocklist
      else none
  | [piece, name] =>
      if piece = literal "blocklist" && !name.isEmpty then
        some (if name = literal "reload" then reload else blockedName name)
      else none
  | _ => none

def methods : Route → List String
  | reload => ["POST"]
  | _ => ["GET", "HEAD"]

end Route

/-- A number without a sign or with a plus sign in front, of at most 64 bits. -/
def readLimit? (value : List UInt8) : Option Nat :=
  (Text.unsigned? (value.map Char.ofUInt8)).filter (· < UInt64.size)

/-- The limit that a query asks for; it may be given once. Nothing means that the query is wrong. -/
def limit? (query : Option (List UInt8)) : Option (Option Nat) :=
  let pairs := queryPairs (query.getD [])
  match pairs.filter fun pair => pair.1 == Route.literal "limit" with
  | [] => some none
  | [pair] => (readLimit? pair.2).map some
  | _ => none

/-- What can be told about a wrong query. -/
def wrongQuery : String := "Failed to deserialize query string"

/-- The question log, or its most recent entries. -/
def questionsResponse (pipeline : Pipeline) (query : Option (List UInt8)) : Response :=
  match limit? query with
  | none => .failure 400 wrongQuery
  | some limit => .ok (.array ((pipeline.log.recent limit).map entryJson))

def blockedNameResponse (pipeline : Pipeline) (piece : List UInt8) : Response :=
  match pathText? piece with
  | none => .ofBody 400 (.plain "Invalid URL: Invalid UTF-8 in `name`")
  | some name => .ok (blockedJson name (pipeline.blocked.blocks name))

/-- Loads the block lists anew. If one cannot be read, the block set stays as it was. -/
def reloadBlocklist (pipeline : Pipeline) (files : FileView) : Pipeline × Response :=
  match Blocklist.load pipeline.config files with
  | .error error => (pipeline, .failure 503 error.message)
  | .ok names => (pipeline.reload names, .ok (sizeJson names.size))

/-- What a route gives when it is asked with a method that it knows. -/
def follow (pipeline : Pipeline) (files : FileView) (query : Option (List UInt8)) :
    Route → Pipeline × Response
  | .healthcheck => (pipeline, .ok (.ofMembers [("ok", .ofText "healthy")]))
  | .cache =>
      (pipeline, .ok (.ofMembers [("positive", cacheJson pipeline.positive),
        ("negative", cacheJson pipeline.negative)]))
  | .questions => (pipeline, questionsResponse pipeline query)
  | .blocklist => (pipeline, .ok (sizeJson pipeline.blocked.size))
  | .reload => reloadBlocklist pipeline files
  | .blockedName piece => (pipeline, blockedNameResponse pipeline piece)

/-- How long a route waits, in milliseconds, when it takes the given time to read the list files.
Only files are waited for. -/
def Route.delay (config : Config) (reading : Nat) : Route → Nat
  | reload => if config.blocklists.isEmpty then 0 else reading
  | _ => 0

/-- Responds to a request with a method and a target, when it takes the given time to read the list
files. Once the time for a request is up, its route is left where it waits. A body is only sent to
those who did not ask with HEAD. -/
def respond (pipeline : Pipeline) (files : FileView) (reading : Nat) (method target : String) :
    Pipeline × Response :=
  match Target.ofText? target with
  | none => (pipeline, .ofBody 400 .empty)
  | some target =>
      match Route.ofPath? target.path with
      | none => (pipeline, .ofBody 404 .empty)
      | some route =>
          if !route.methods.contains method then
            (pipeline,
              { status := 405
                contentType := none
                allow := some (",".intercalate route.methods)
                body := .empty })
          else if pipeline.config.apiTimeout * 1000 < route.delay pipeline.config reading then
            (pipeline, .ofBody 408 .empty)
          else
            let (pipeline, response) := follow pipeline files target.query route
            (pipeline, if method = "HEAD" then response.withoutBody else response)

/-- A request, with the files as it finds them. -/
structure Request where
  method : String
  target : String
  files : FileView
  /-- How long it would take to read all list files, in milliseconds. -/
  reading : Nat

def Request.respond (request : Request) (pipeline : Pipeline) : Pipeline × Response :=
  Admin.respond pipeline request.files request.reading request.method request.target

/-- The pipeline that requests leave, one after another. -/
def after (pipeline : Pipeline) (requests : List Request) : Pipeline :=
  requests.foldl (fun pipeline request => (request.respond pipeline).1) pipeline

@[simp]
theorem after_nil (pipeline : Pipeline) : after pipeline [] = pipeline := rfl

@[simp]
theorem after_cons (pipeline : Pipeline) (request : Request) (requests : List Request) :
    after pipeline (request :: requests) = after (request.respond pipeline).1 requests := rfl

end DnsFilter.Admin
