import DnsFilter.Cache.Limits

/-!
# Limits of a cache

On a machine, storing does what it does without one if the machine holds the two numbers that it
takes, and breaks off if it does not.
-/

namespace DnsFilter

theorem bind_eq_ok_iff {ε α β : Type} {first : Except ε α} {rest : α → Except ε β}
    {result : β} :
    first >>= rest = .ok result ↔ ∃ value, first = .ok value ∧ rest value = .ok result := by
  cases first <;> simp [bind, Except.bind]

namespace Machine

theorem instant_eq_ok_iff {machine : Machine} {time result : Nat} :
    machine.instant time = .ok result ↔ machine.clock + time < clockEnd ∧ time = result := by
  unfold instant
  split <;> simp [*]

theorem size_eq_ok_iff {count result : Nat} :
    size count = .ok result ↔ count < sizeEnd ∧ count = result := by
  unfold size
  split <;> simp [*]

theorem expiry_eq_ok_iff {machine : Machine} {now lifetime capacity result : Nat}
    {present : Bool} :
    machine.expiry now lifetime capacity present = .ok result ↔
      (machine.clock + (now + lifetime) < clockEnd ∧
        (present = false → capacity * 2 < sizeEnd)) ∧ now + lifetime = result := by
  cases present <;>
    simp [expiry, bind_eq_ok_iff, instant_eq_ok_iff, size_eq_ok_iff, pure, Except.pure, and_assoc]

end Machine

namespace ResponseCache

/-- That a machine holds the numbers that storing under a key takes. -/
structure Fits (machine : Machine) (cache : ResponseCache) (now : Nat) (key : String)
    (lifetime : Nat) : Prop where
  instant : machine.clock + (now + lifetime) < Machine.clockEnd
  size : cache.entries[key]? = none → cache.capacity * 2 < Machine.sizeEnd

/-- Storing goes through if the machine holds the numbers, and then stores as without a machine. -/
theorem setOn_eq_ok_iff {machine : Machine} {cache : ResponseCache} {now : Nat} {key : String}
    {response : CachedResponse} {lifetime : Nat} {result : ResponseCache × Except Error Unit} :
    cache.setOn machine now key response lifetime = .ok result ↔
      (lifetime ≠ 0 → cache.Fits machine now key lifetime) ∧
        cache.set now key response lifetime = result := by
  by_cases zero : lifetime = 0
  · simp [setOn, set, zero]
  · have fits : cache.Fits machine now key lifetime ↔
        machine.clock + (now + lifetime) < Machine.clockEnd ∧
          (cache.entries[key]?.isSome = false → cache.capacity * 2 < Machine.sizeEnd) := by
      rw [Option.isSome_eq_false_iff, Option.isNone_iff_eq_none]
      exact ⟨fun fits => ⟨fits.instant, fits.size⟩, fun fits => ⟨fits.1, fits.2⟩⟩
    simp [setOn, set, zero, fits, bind_eq_ok_iff, Machine.expiry_eq_ok_iff, pure, Except.pure,
      and_assoc]

end ResponseCache

/-- That two operations come to the same: either both break off, for the same reason, or both go
through, show the same, and leave what is related. -/
inductive ComeToSame {State Other Result : Type} (related : State → Other → Prop) :
    Except Overflow (State × Result) → Except Overflow (Other × Result) → Prop where
  | brokenOff (overflow : Overflow) : ComeToSame related (.error overflow) (.error overflow)
  | done {state : State} {other : Other} (both : related state other) (result : Result) :
      ComeToSame related (.ok (state, result)) (.ok (other, result))

theorem ComeToSame.ok {State Other Result : Type} {related : State → Other → Prop}
    {left : State × Result} {right : Other × Result} (both : related left.1 right.1)
    (shown : left.2 = right.2) : ComeToSame related (.ok left) (.ok right) := by
  rcases left with ⟨state, result⟩
  rcases right with ⟨other, _⟩
  cases shown
  exact .done both result

namespace CacheOperation

variable {State Other : Type} {related : State → Other → Prop}
  {perform : State → CacheOperation → Except Overflow (State × CacheResult)}
  {performOther : Other → CacheOperation → Except Overflow (Other × CacheResult)}

/-- If each operation comes to the same on both sides, so do several, one after the other. -/
theorem resultsOn_eq_of_comeToSame
    (same : ∀ {state other}, related state other → ∀ operation,
      ComeToSame related (perform state operation) (performOther other operation))
    {state : State} {other : Other} (both : related state other)
    (operations : List CacheOperation) :
    resultsOn perform state operations = resultsOn performOther other operations ∧
      related (reachedOn perform state operations)
        (reachedOn performOther other operations) := by
  induction operations generalizing state other with
  | nil => exact ⟨rfl, both⟩
  | cons operation operations ih =>
      have comes := same both operation
      simp only [resultsOn, reachedOn]
      generalize perform state operation = performed at comes
      generalize performOther other operation = performedOther at comes
      cases comes with
      | brokenOff => exact ⟨rfl, both⟩
      | done both result =>
          rcases ih both with ⟨results, reached⟩
          exact ⟨by simp only [results], reached⟩

/-- Operations that do what they do without a machine show the same as there, as far as they go. -/
theorem exists_results_eq_append {plain : State → CacheOperation → State × CacheResult}
    (agrees : ∀ {state operation done},
      perform state operation = .ok done → plain state operation = done)
    (state : State) (operations : List CacheOperation) :
    ∃ unreached,
      results plain state operations = (resultsOn perform state operations).1 ++ unreached ∧
        ((resultsOn perform state operations).2 = none → unreached = []) := by
  induction operations generalizing state with
  | nil => exact ⟨[], rfl, fun _ => rfl⟩
  | cons operation operations ih =>
      cases performed : perform state operation with
      | error overflow =>
          refine ⟨results plain state (operation :: operations), ?_, ?_⟩ <;>
            simp [resultsOn, performed]
      | ok done =>
          rcases ih done.1 with ⟨unreached, shown, through⟩
          refine ⟨unreached, ?_, ?_⟩
          · simp [results, resultsOn, performed, agrees performed, shown]
          · simpa [resultsOn, performed] using through

end CacheOperation

namespace FifoCache

theorem set_of_setOn {machine : Machine} {cache : FifoCache} {now : Nat} {key : String}
    {response : CachedResponse} {lifetime : Nat} {result : FifoCache × Except Error Unit}
    (stored : cache.setOn machine now key response lifetime = .ok result) :
    cache.set now key response lifetime = result := by
  by_cases refused : lifetime = 0
  · simpa [setOn, set, refused] using stored
  · rw [setOn, if_neg refused] at stored
    rcases bind_eq_ok_iff.1 stored with ⟨expiresAt, shown, stored⟩
    rcases Machine.expiry_eq_ok_iff.1 shown with ⟨_, rfl⟩
    rw [set, if_neg refused]
    exact Except.ok.inj stored

theorem perform_of_performOn {machine : Machine} {state : Timed FifoCache}
    {operation : CacheOperation} {result : Timed FifoCache × CacheResult}
    (performed : performOn machine state operation = .ok result) :
    perform state operation = result := by
  cases operation with
  | set key response lifetime =>
      rcases bind_eq_ok_iff.1 performed with ⟨stored, setting, same⟩
      cases same
      simp only [perform, set_of_setOn setting]
  | get | purge | size | advance => exact Except.ok.inj performed

end FifoCache

end DnsFilter
