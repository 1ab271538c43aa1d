import DnsFilter.Admin.Router
import DnsFilter.Proofs.Blocklist.Loading
import Mathlib.Data.Set.Card

/-!
# What requests to the admin interface change

A request changes nothing but the block set, and the block set only as a whole: a request that asks
to load the lists anew puts exactly what was loaded in its place, or leaves it as it was, if a list
file cannot be read or reading takes longer than a request may.
-/

namespace DnsFilter

theorem size_eq_ncard (names : NameSet) : names.size = {name | name ∈ names}.ncard := by
  have toSet : {name | name ∈ names} = (names.toList.toFinset : Set String) := by
    ext name
    simp
  have nodup : names.toList.Nodup := by
    apply Std.TreeSet.distinct_toList.imp
    intro first second different same
    exact different (by simp [same])
  rw [toSet, Set.ncard_coe_finset, List.toFinset_card_of_nodup nodup, Std.TreeSet.length_toList]

namespace Admin

theorem Target.head?_path_of_ofText? {text : String} {target : Target}
    (read : Target.ofText? text = some target) : target.path.head? = some (byteOf '/') := by
  simp only [Target.ofText?, Option.ite_none_right_eq_some, Bool.and_eq_true,
    decide_eq_true_eq, Option.some.injEq] at read
  rcases read with ⟨⟨⟨slash, _⟩, _⟩, rfl⟩
  exact slash

namespace Route

theorem pieces_eq_pair_iff {path first second : List UInt8}
    (slash : path.head? = some (byteOf '/')) (inFirst : byteOf '/' ∉ first)
    (inSecond : byteOf '/' ∉ second) :
    pieces path = [first, second] ↔ path = byteOf '/' :: (first ++ byteOf '/' :: second) := by
  rcases List.head?_eq_some_iff.1 slash with ⟨rest, rfl⟩
  have split : pieces (byteOf '/' :: rest) = rest.splitOn (byteOf '/') := by
    have cut := List.splitOn_append_cons_self (a := byteOf '/') [] rest
    rw [List.nil_append] at cut
    simp [pieces, cut]
  rw [split, List.cons.injEq]
  constructor
  · intro same
    have joined : [byteOf '/'].intercalate (rest.splitOn (byteOf '/')) = rest :=
      List.intercalate_splitOn (byteOf '/')
    rw [same] at joined
    simpa using joined.symm
  · rintro ⟨-, rfl⟩
    have cut : ([byteOf '/'].intercalate [first, second]).splitOn (byteOf '/') =
        [first, second] :=
      List.splitOn_intercalate (byteOf '/') (by simp [inFirst, inSecond]) (by simp)
    simpa using cut

/-- Only one path leads to loading the lists anew, although it could also be the path of a name. -/
theorem ofPath?_eq_reload_iff {path : List UInt8} (slash : path.head? = some (byteOf '/')) :
    ofPath? path = some reload ↔ path = literal "/blocklist/reload" := by
  have written : literal "/blocklist/reload" =
      byteOf '/' :: (literal "blocklist" ++ byteOf '/' :: literal "reload") := by
    decide +kernel
  rw [written, ← pieces_eq_pair_iff slash (by decide +kernel) (by decide +kernel)]
  constructor
  · intro found
    unfold ofPath? at found
    split at found
    · grind
    · grind
    · contradiction
  · intro split
    have notEmpty : (literal "reload").isEmpty = false := by decide +kernel
    simp [ofPath?, split, notEmpty]

example : ofPath? (literal "/blocklist/%72eload") = some (blockedName (literal "%72eload")) := by
  decide +kernel

end Route

theorem follow_fst_of_ne_reload {route : Route} (other : route ≠ .reload) (pipeline : Pipeline)
    (files : FileView) (query : Option (List UInt8)) :
    (follow pipeline files query route).1 = pipeline := by
  cases route <;> first | rfl | contradiction

namespace Request

/-- That a request asks to load the block lists anew. -/
def IsReload (request : Request) : Prop :=
  request.method = "POST" ∧
    ∃ target, Target.ofText? request.target = some target ∧
      target.path = Route.literal "/blocklist/reload"

/-- That the list files, if there are any, can be read in the time that a request may take. -/
def InTime (request : Request) (config : Config) : Prop :=
  config.blocklists = [] ∨ request.reading ≤ config.apiTimeout * 1000

/-- The ways in which a request can be responded to. -/
inductive Responds (request : Request) (pipeline : Pipeline) : Pipeline → Response → Prop where
  | shown (other : ¬request.IsReload) (response : Response) :
      Responds request pipeline pipeline response
  | reloaded {names : NameSet} (reload : request.IsReload)
      (inTime : request.InTime pipeline.config)
      (readable : ∀ path ∈ pipeline.config.blocklists, (request.files.text? path).isSome)
      (loads : Blocklist.load pipeline.config request.files = .ok names) :
      Responds request pipeline (pipeline.reload names)
        (.ok (sizeJson {name | name ∈ names}.ncard))
  | refused {path : String} (reload : request.IsReload)
      (inTime : request.InTime pipeline.config)
      (listed : path ∈ pipeline.config.blocklists)
      (unreadable : request.files.text? path = none) :
      Responds request pipeline pipeline
        (.failure 503 (Error.unreadableBlocklist path).message)
  | late (reload : request.IsReload) (slow : ¬request.InTime pipeline.config) :
      Responds request pipeline pipeline (.ofBody 408 .empty)

section

variable {request : Request} {pipeline next : Pipeline} {response : Response}

theorem inTime_iff {config : Config} :
    request.InTime config ↔
      ¬config.apiTimeout * 1000 < Route.reload.delay config request.reading := by
  rw [InTime, Route.delay, Nat.not_lt]
  cases config.blocklists with
  | nil => simp
  | cons path paths => simp

theorem respond_of_isReload (reload : request.IsReload) (pipeline : Pipeline) :
    request.respond pipeline =
      if pipeline.config.apiTimeout * 1000 < Route.reload.delay pipeline.config request.reading then
        (pipeline, .ofBody 408 .empty)
      else reloadBlocklist pipeline request.files := by
  rcases reload with ⟨method, target, read, path⟩
  have route : Route.ofPath? target.path = some .reload :=
    (Route.ofPath?_eq_reload_iff (Target.head?_path_of_ofText? read)).2 path
  simp [respond, Admin.respond, read, route, method, Route.methods, follow]

theorem respond_fst_of_not_isReload (other : ¬request.IsReload) (pipeline : Pipeline) :
    (request.respond pipeline).1 = pipeline := by
  simp only [respond, Admin.respond]
  cases read : Target.ofText? request.target with
  | none => rfl
  | some target =>
      cases found : Route.ofPath? target.path with
      | none => simp only [found]
      | some route =>
          cases known : route.methods.contains request.method with
          | false => simp only [found, known, Bool.not_false, if_true]
          | true =>
              simp only [found, known, Bool.not_true, Bool.false_eq_true, if_false]
              split
              · rfl
              · apply follow_fst_of_ne_reload
                rintro rfl
                have path :=
                  (Route.ofPath?_eq_reload_iff (Target.head?_path_of_ofText? read)).1 found
                exact other ⟨by simpa [Route.methods] using known, target, read, path⟩

theorem responds_reloadBlocklist (reload : request.IsReload)
    (inTime : request.InTime pipeline.config) :
    request.Responds pipeline (reloadBlocklist pipeline request.files).1
      (reloadBlocklist pipeline request.files).2 := by
  cases unreadable : pipeline.config.blocklists.find? fun path =>
      (request.files.text? path).isNone with
  | some path =>
      rw [reloadBlocklist, Blocklist.load_of_find? unreadable]
      exact .refused reload inTime (List.mem_of_find?_eq_some unreadable)
        (by simpa using List.find?_some unreadable)
  | none =>
      have readable : ∀ path ∈ pipeline.config.blocklists,
          (request.files.text? path).isSome := by
        simpa [Option.isSome_iff_ne_none] using unreadable
      rcases Blocklist.exists_load readable with ⟨names, loads, _⟩
      simp only [reloadBlocklist, loads, size_eq_ncard]
      exact .reloaded reload inTime readable loads

theorem responds_respond (request : Request) (pipeline : Pipeline) :
    request.Responds pipeline (request.respond pipeline).1 (request.respond pipeline).2 := by
  by_cases reload : request.IsReload
  · rw [respond_of_isReload reload]
    split
    · next slow => exact .late reload (inTime_iff.not_left.2 slow)
    · next inTime => exact responds_reloadBlocklist reload (inTime_iff.2 inTime)
  · rw [respond_fst_of_not_isReload reload]
    exact .shown reload _

namespace Responds

/-- Whatever a request asks for, it changes at most the block set. -/
theorem exists_eq (responds : request.Responds pipeline next response) :
    ∃ blocked, next = { pipeline with blocked } := by
  cases responds with
  | shown | refused | late => exact ⟨pipeline.blocked, rfl⟩
  | reloaded => exact ⟨⟨_⟩, rfl⟩

theorem of_blocked_ne (responds : request.Responds pipeline next response)
    (changes : next.blocked ≠ pipeline.blocked) :
    request.IsReload ∧ response.status = 200 := by
  cases responds with
  | shown | refused | late => contradiction
  | reloaded reload => exact ⟨reload, rfl⟩

theorem exists_load (responds : request.Responds pipeline next response)
    (reload : request.IsReload) (met : response.status = 200) :
    ∃ names, Blocklist.load pipeline.config request.files = .ok names ∧
      next.blocked.names = names ∧ response = .ok (sizeJson {name | name ∈ names}.ncard) := by
  cases responds with
  | shown => contradiction
  | refused | late => exact absurd met (by simp [Response.failure, Response.ofBody])
  | reloaded _ _ _ loads => exact ⟨_, loads, rfl, rfl⟩

theorem of_readable (responds : request.Responds pipeline next response)
    (reload : request.IsReload) (inTime : request.InTime pipeline.config)
    (readable : ∀ path ∈ pipeline.config.blocklists, (request.files.text? path).isSome) :
    response.status = 200 := by
  cases responds with
  | shown | late => contradiction
  | reloaded => rfl
  | refused _ _ listed unreadable => simpa [unreadable] using readable _ listed

theorem of_unreadable (responds : request.Responds pipeline next response)
    (reload : request.IsReload)
    (unreadable : ∃ path ∈ pipeline.config.blocklists, request.files.text? path = none) :
    next = pipeline ∧ (request.InTime pipeline.config → response.status = 503) := by
  cases responds with
  | shown => contradiction
  | reloaded _ _ readable =>
      rcases unreadable with ⟨path, listed, missing⟩
      simpa [missing] using readable path listed
  | refused => exact ⟨rfl, fun _ => rfl⟩
  | late _ slow => exact ⟨rfl, fun inTime => absurd inTime slow⟩

theorem of_late (responds : request.Responds pipeline next response)
    (reload : request.IsReload) (slow : ¬request.InTime pipeline.config) :
    next = pipeline ∧ response.status = 408 := by
  cases responds with
  | shown | reloaded | refused => contradiction
  | late => exact ⟨rfl, rfl⟩

end Responds

end

end Request

theorem exists_after_eq (pipeline : Pipeline) (requests : List Request) :
    ∃ blocked, after pipeline requests = { pipeline with blocked } := by
  induction requests generalizing pipeline with
  | nil => exact ⟨pipeline.blocked, rfl⟩
  | cons request requests ih =>
      rcases (request.responds_respond pipeline).exists_eq with ⟨blocked, first⟩
      rcases ih (request.respond pipeline).1 with ⟨last, rest⟩
      refine ⟨last, ?_⟩
      rw [after_cons, rest, first]

/-- Requests one after another, each with files of its own, leave everything but the block set as it
was. The next one changes the block set only if it asks to load the lists anew and is met; then the
block set is what the configuration gives over the files of that request, and the response tells its
cardinality. It is met if all list files can be read in time. If one cannot be read, nothing
changes, and in time the response says so. If reading takes too long, the request is given up and
nothing changes either. -/
theorem requests_change_only_the_blockset (pipeline : Pipeline) (requests : List Request)
    (request : Request) :
    let before := after pipeline requests
    let next := (request.respond before).1
    let response := (request.respond before).2
    (∃ blocked, next = { pipeline with blocked }) ∧
    (next.blocked ≠ before.blocked → request.IsReload ∧ response.status = 200) ∧
    (request.IsReload → response.status = 200 →
      ∃ names, Blocklist.load pipeline.config request.files = .ok names ∧
        next.blocked.names = names ∧ response = .ok (sizeJson {name | name ∈ names}.ncard)) ∧
    (request.IsReload → request.InTime pipeline.config →
      (∀ path ∈ pipeline.config.blocklists, (request.files.text? path).isSome) →
      response.status = 200) ∧
    (request.IsReload →
      (∃ path ∈ pipeline.config.blocklists, request.files.text? path = none) →
      next = before ∧ (request.InTime pipeline.config → response.status = 503)) ∧
    (request.IsReload → ¬request.InTime pipeline.config →
      next = before ∧ response.status = 408) := by
  intro before next response
  have responds : request.Responds before next response := request.responds_respond before
  rcases exists_after_eq pipeline requests with ⟨current, sameBefore⟩
  have sameConfig : before.config = pipeline.config := by
    simp [before, sameBefore]
  rw [← sameConfig]
  refine ⟨?_, responds.of_blocked_ne, responds.exists_load, responds.of_readable,
    responds.of_unreadable, responds.of_late⟩
  rcases responds.exists_eq with ⟨blocked, changed⟩
  refine ⟨blocked, ?_⟩
  simp [changed, before, sameBefore]

theorem sample_requests_change_only_the_blockset :
    let pipeline := Pipeline.new { blocklists := ["list"], apiTimeout := 10 } 1
    let files : FileView := fun path =>
      if path = "list" then some (.file "a.b".toByteArray) else none
    let reload (files : FileView) (reading : Nat) : Request :=
      ⟨"POST", "/blocklist/reload", files, reading⟩
    let listed := reload files 10000
    let late := reload files 10001
    let missing := reload (fun _ => none) 0
    let loaded := after pipeline [listed]
    (listed.respond pipeline).2.status = 200 ∧
      ((missing.respond loaded).1 = loaded ∧ (missing.respond loaded).2.status = 503) ∧
      (late.respond pipeline).1 = pipeline ∧ (late.respond pipeline).2.status = 408 := by
  intro pipeline files reload listed late missing loaded
  have read : Target.ofText? "/blocklist/reload" =
      some ⟨Route.literal "/blocklist/reload", none⟩ := by
    decide +kernel
  have isReload (files : FileView) (reading : Nat) : (reload files reading).IsReload :=
    ⟨rfl, _, read, rfl⟩
  have timeout : pipeline.config.apiTimeout = 10 := rfl
  have inTime : listed.InTime pipeline.config := by
    right
    rw [timeout]
  have quick : missing.InTime pipeline.config := .inr (Nat.zero_le _)
  have slow : ¬late.InTime pipeline.config := by
    rintro (none | fast)
    · contradiction
    · rw [timeout] at fast
      exact absurd fast (Nat.not_succ_le_self 10000)
  have readable : ∀ path ∈ pipeline.config.blocklists, (listed.files.text? path).isSome := by
    intro path member
    rw [List.mem_singleton.1 member]
    rfl
  rcases requests_change_only_the_blockset pipeline [] listed with ⟨_, _, _, met, _, _⟩
  rcases requests_change_only_the_blockset pipeline [listed] missing with ⟨_, _, _, _, refused, _⟩
  rcases requests_change_only_the_blockset pipeline [] late with ⟨_, _, _, _, _, givenUp⟩
  rcases refused (isReload _ _) ⟨"list", List.mem_singleton.2 rfl, rfl⟩ with ⟨kept, status⟩
  exact ⟨met (isReload _ _) inTime readable, ⟨kept, status quick⟩,
    givenUp (isReload _ _) slow⟩

end Admin

end DnsFilter
