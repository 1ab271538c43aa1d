import DnsFilter.Proofs.Cache.Limits
import DnsFilter.Proofs.Cache.Queue
import Mathlib.Data.List.Basic

/-!
# A response cache is a bounded list

The current items of the queue, in their order, are the items of a plain list that keeps the same
rule. Every operation shows the same on both, and on a machine it breaks off on both or on neither,
so nothing can be seen of stale items or of their being dropped.
-/

namespace DnsFilter

/-- An entry as an item of a list. -/
def CacheEntry.fifoItem (key : String) (entry : CacheEntry) : FifoItem :=
  { key, response := entry.response, expiresAt := entry.expiresAt }

namespace FifoCache

theorem capacity_perform (state : Timed FifoCache) (operation : CacheOperation) :
    (perform state operation).1.cache.capacity = state.cache.capacity := by
  cases operation with
  | set key response lifetime =>
      simp only [perform, set]
      split <;> rfl
  | get key =>
      simp only [perform, get]
      split
      · rfl
      · split <;> rfl
  | purge => rfl
  | size => rfl
  | advance duration => rfl

end FifoCache

namespace ResponseCache

/-- What an item of the queue stands for, if it is current. -/
def fifoItem? (entries : Std.TreeMap String CacheEntry) (item : String × Nat) : Option FifoItem :=
  (entries[item.1]?.filter fun entry => entry.sequence == item.2).map (CacheEntry.fifoItem item.1)

/-- What a queue stands for. -/
def fifoItems (entries : Std.TreeMap String CacheEntry) (order : List (String × Nat)) :
    List FifoItem :=
  order.filterMap (fifoItem? entries)

theorem fifoItem?_eq_some_iff {entries : Std.TreeMap String CacheEntry} {item : String × Nat}
    {fifoItem : FifoItem} :
    fifoItem? entries item = some fifoItem ↔
      ∃ entry, entries[item.1]? = some entry ∧ entry.sequence = item.2 ∧
        entry.fifoItem item.1 = fifoItem := by
  simp [fifoItem?, Option.filter_eq_some_iff, and_assoc]

theorem isSome_fifoItem? (entries : Std.TreeMap String CacheEntry) (item : String × Nat) :
    (fifoItem? entries item).isSome = isCurrent entries item := by
  unfold fifoItem? isCurrent
  cases entries[item.1]? with
  | none => rfl
  | some entry => by_cases same : entry.sequence = item.2 <;> simp [Option.filter_some, same]

theorem fifoItem?_of_stale {entries : Std.TreeMap String CacheEntry} {item : String × Nat}
    (stale : isCurrent entries item = false) : fifoItem? entries item = none := by
  rw [← Option.not_isSome_iff_eq_none, isSome_fifoItem?, stale]
  simp

section InStep

variable {entries : Std.TreeMap String CacheEntry} {order : List (String × Nat)}

/-- In a queue that is in step, each entry is stood for by one item. -/
theorem mem_fifoItems_iff (inStep : InStep entries order) {fifoItem : FifoItem} :
    fifoItem ∈ fifoItems entries order ↔
      ∃ entry, entries[fifoItem.key]? = some entry ∧ entry.fifoItem fifoItem.key = fifoItem := by
  simp only [fifoItems, List.mem_filterMap, fifoItem?_eq_some_iff]
  constructor
  · rintro ⟨item, _, entry, found, _, rfl⟩
    exact ⟨entry, found, rfl⟩
  · rintro ⟨entry, found, same⟩
    exact ⟨(fifoItem.key, entry.sequence), inStep.queued found, entry, found, rfl, same⟩

theorem pairwise_key_fifoItems (inStep : InStep entries order) :
    (fifoItems entries order).Pairwise fun earlier later => earlier.key ≠ later.key := by
  refine List.Pairwise.filterMap _ ?_ inStep.ascending
  intro earlier later ascends first firstStands second secondStands sameKey
  rcases fifoItem?_eq_some_iff.1 firstStands with ⟨entry, found, number, rfl⟩
  rcases fifoItem?_eq_some_iff.1 secondStands with ⟨other, otherFound, otherNumber, rfl⟩
  -- One key has one entry, which has one number.
  have same : earlier.1 = later.1 := sameKey
  rw [same, otherFound] at found
  cases found
  omega

theorem nodup_key_fifoItems (inStep : InStep entries order) :
    ((fifoItems entries order).map FifoItem.key).Nodup :=
  List.pairwise_map.2 (pairwise_key_fifoItems inStep)

/-- There are as many current items as entries. -/
theorem length_fifoItems (inStep : InStep entries order) :
    (fifoItems entries order).length = entries.size := by
  have perm : ((fifoItems entries order).map FifoItem.key).Perm entries.keys := by
    rw [List.perm_ext_iff_of_nodup (nodup_key_fifoItems inStep) Std.TreeMap.nodup_keys]
    intro key
    rw [Std.TreeMap.mem_keys, Std.TreeMap.mem_iff_isSome_getElem?, Option.isSome_iff_exists]
    simp only [List.mem_map, mem_fifoItems_iff inStep]
    constructor
    · rintro ⟨item, ⟨entry, found, _⟩, rfl⟩
      exact ⟨entry, found⟩
    · rintro ⟨entry, found⟩
      exact ⟨entry.fifoItem key, ⟨entry, found, rfl⟩, rfl⟩
  rw [← Std.TreeMap.length_keys, ← perm.length_eq, List.length_map]

/-- Looking a key up among the items gives what its entry stands for. -/
theorem find?_fifoItems (inStep : InStep entries order) (key : String) :
    ((fifoItems entries order).find? fun item => item.key == key) =
      entries[key]?.map (CacheEntry.fifoItem key) := by
  cases located : (fifoItems entries order).find? fun item => item.key == key with
  | none =>
      rw [List.find?_eq_none] at located
      cases found : entries[key]? with
      | none => rfl
      | some entry =>
          have present : entry.fifoItem key ∈ fifoItems entries order :=
            (mem_fifoItems_iff inStep).2 ⟨entry, found, rfl⟩
          exact absurd (BEq.rfl : key == key) (located _ present)
  | some item =>
      have sameKey : item.key = key := by simpa using List.find?_some located
      rcases (mem_fifoItems_iff inStep).1 (List.mem_of_find?_eq_some located) with
        ⟨entry, found, same⟩
      rw [sameKey] at found same
      rw [found, Option.map_some, same]

end InStep

/-- Removing entries removes what their items stand for. -/
theorem fifoItems_of_fewer {entries fewer : Std.TreeMap String CacheEntry}
    (kept : FifoItem → Bool)
    (agree : ∀ key : String,
      fewer[key]? = entries[key]?.filter fun entry => kept (entry.fifoItem key))
    (order : List (String × Nat)) :
    fifoItems fewer order = (fifoItems entries order).filter kept := by
  rw [fifoItems, fifoItems, List.filter_filterMap]
  congr 1
  funext item
  rw [fifoItem?, fifoItem?, agree]
  cases entries[item.1]? with
  | none => rfl
  | some entry =>
      by_cases keeps : kept (entry.fifoItem item.1) <;> by_cases same : entry.sequence = item.2 <;>
        simp [Option.filter_some, keeps, same]

theorem fifoItems_erase (entries : Std.TreeMap String CacheEntry) (key : String)
    (order : List (String × Nat)) :
    fifoItems (entries.erase key) order =
      (fifoItems entries order).filter fun item => item.key != key := by
  apply fifoItems_of_fewer
  intro other
  rw [Std.TreeMap.getElem?_erase]
  by_cases same : key = other
  · cases entries[other]? <;> simp [Option.filter_some, CacheEntry.fifoItem, same]
  · cases entries[other]? <;>
      simp [Option.filter_some, CacheEntry.fifoItem, same, Ne.symm same]

/-- Renewing an entry under its number renews its item at its place. -/
theorem fifoItems_renew {entries : Std.TreeMap String CacheEntry} {key : String}
    {entry : CacheEntry} (found : entries[key]? = some entry) (renewed : CacheEntry)
    (sameNumber : renewed.sequence = entry.sequence) (order : List (String × Nat)) :
    fifoItems (entries.insert key renewed) order =
      FifoCache.renew (fifoItems entries order) (renewed.fifoItem key) := by
  rw [fifoItems, fifoItems, FifoCache.renew, List.map_filterMap]
  congr 1
  funext item
  rw [fifoItem?, fifoItem?, Std.TreeMap.getElem?_insert]
  by_cases same : key = item.1
  · subst key
    by_cases number : entry.sequence = item.2 <;>
      simp [Option.filter_some, CacheEntry.fifoItem, found, sameNumber, number]
  · cases entries[item.1]? with
    | none => simp [same]
    | some other =>
        by_cases number : other.sequence = item.2 <;>
          simp [Option.filter_some, CacheEntry.fifoItem, same, Ne.symm same, number]

/-- An entry under a new key and a new number comes last. -/
theorem fifoItems_push {entries : Std.TreeMap String CacheEntry} {order : List (String × Nat)}
    {key : String} {added : CacheEntry} (absent : entries[key]? = none)
    (beyond : ∀ item ∈ order, item.2 < added.sequence) :
    fifoItems (entries.insert key added) (order ++ [(key, added.sequence)]) =
      fifoItems entries order ++ [added.fifoItem key] := by
  have before : fifoItems (entries.insert key added) order = fifoItems entries order := by
    apply List.filterMap_congr
    intro item present
    rw [fifoItem?, fifoItem?, Std.TreeMap.getElem?_insert]
    by_cases same : key = item.1
    · have stale : added.sequence ≠ item.2 := Nat.ne_of_gt (beyond item present)
      simp [Option.filter_some, ← same, absent, stale]
    · simp [same]
  rw [fifoItems, List.filterMap_append, ← fifoItems, before]
  simp [fifoItem?, Option.filter_some]

/-- Stale items stand for nothing. -/
theorem fifoItems_filter_isCurrent (entries : Std.TreeMap String CacheEntry)
    (order : List (String × Nat)) :
    fifoItems entries (order.filter (isCurrent entries)) = fifoItems entries order := by
  rw [fifoItems, fifoItems, List.filterMap_filter]
  apply List.filterMap_congr
  intro item _
  cases current : isCurrent entries item with
  | true => rfl
  | false => simp [fifoItem?_of_stale current]

theorem fifoItems_compact (capacity : Nat) (entries : Std.TreeMap String CacheEntry)
    (order : List (String × Nat)) :
    fifoItems entries (compact capacity entries order) = fifoItems entries order := by
  unfold compact
  split
  · exact fifoItems_filter_isCurrent entries order
  · rfl

/-- Evicting the first current item evicts what stands in front. -/
theorem fifoItems_evict {entries : Std.TreeMap String CacheEntry} {stale rest : List (String × Nat)}
    {item : String × Nat} (inStep : InStep entries (stale ++ item :: rest))
    (passed : ∀ passed ∈ stale, isCurrent entries passed = false)
    (current : isCurrent entries item = true) :
    fifoItems (entries.erase item.1) rest =
      (fifoItems entries (stale ++ item :: rest)).drop 1 := by
  rcases isCurrent_iff.1 current with ⟨entry, found, number⟩
  have front : fifoItems entries (stale ++ item :: rest) =
      entry.fifoItem item.1 :: fifoItems entries rest := by
    have nothing : stale.filterMap (fifoItem? entries) = [] := by
      rw [List.filterMap_eq_nil_iff]
      intro other present
      exact fifoItem?_of_stale (passed other present)
    have first : fifoItem? entries item = some (entry.fifoItem item.1) :=
      fifoItem?_eq_some_iff.2 ⟨entry, found, number, rfl⟩
    rw [fifoItems, List.filterMap_append, nothing, List.nil_append, List.filterMap_cons, first]
    rfl
  have distinct := pairwise_key_fifoItems inStep
  rw [front, List.pairwise_cons] at distinct
  rw [front, fifoItems_erase, List.drop_succ_cons, List.drop_zero, List.filter_eq_self]
  intro other present
  have different : other.key ≠ item.1 := (distinct.1 other present).symm
  simpa using different

/-- Making room removes what stands in front, if there is none yet. -/
theorem fifoItems_makeRoom {cache : ResponseCache} (consistent : cache.Consistent)
    {entries : Std.TreeMap String CacheEntry} {order : List (String × Nat)}
    (made : makeRoom cache.capacity cache.entries.size cache.entries cache.order =
      (entries, order)) :
    fifoItems entries order =
      if (fifoItems cache.entries cache.order).length < cache.capacity then
        fifoItems cache.entries cache.order
      else (fifoItems cache.entries cache.order).drop 1 := by
  rw [length_fifoItems consistent.inStep]
  rcases Nat.lt_or_eq_of_le consistent.bounded with room | full
  · rw [makeRoom_of_room room] at made
    cases made
    rw [if_pos room]
  · rcases makeRoom_of_full consistent.inStep cache.capacity_pos full with
      ⟨stale, item, rest, split, passed, current, _, evicted⟩
    rw [evicted] at made
    cases made
    rw [if_neg (by omega), split]
    exact fifoItems_evict (split ▸ consistent.inStep) passed current

/-- Adding an entry under a new key appends its item. -/
theorem fifoItems_insertNew {cache : ResponseCache} (consistent : cache.Consistent) {key : String}
    (absent : cache.entries[key]? = none) (response : CachedResponse) (expiresAt : Nat) :
    fifoItems (cache.insertNew key response expiresAt).entries
        (cache.insertNew key response expiresAt).order =
      FifoCache.append cache.capacity (fifoItems cache.entries cache.order)
        { key, response, expiresAt } := by
  unfold insertNew FifoCache.append
  split
  next entries order made =>
    rcases consistent.makeRoom made with ⟨_, numbered, _⟩
    have stillAbsent : entries[key]? = none := by
      rw [Option.eq_none_iff_forall_ne_some]
      intro entry found
      rw [show entries = _ from (congrArg Prod.fst made).symm] at found
      rw [entry_of_entry_makeRoom found] at absent
      contradiction
    rw [fifoItems_compact, fifoItems_push stillAbsent numbered, fifoItems_makeRoom consistent made]
    rfl

/-- A consistent cache and the list that it stands for. -/
structure Refines (cache : ResponseCache) (fifo : FifoCache) : Prop where
  consistent : cache.Consistent
  capacity : fifo.capacity = cache.capacity
  items : fifo.items = fifoItems cache.entries cache.order

theorem refines_new (capacity lifetime : Nat) :
    Refines (new capacity lifetime) (.new capacity) where
  consistent := consistent_new capacity lifetime
  capacity := rfl
  items := rfl

namespace Refines

variable {cache : ResponseCache} {fifo : FifoCache}

theorem item? (refines : Refines cache fifo) (key : String) :
    fifo.item? key = cache.entries[key]?.map (CacheEntry.fifoItem key) := by
  rw [FifoCache.item?, refines.items, find?_fifoItems refines.consistent.inStep]

theorem length (refines : Refines cache fifo) : fifo.items.length = cache.size := by
  rw [refines.items, length_fifoItems refines.consistent.inStep, size]

theorem nodup_keys (refines : Refines cache fifo) : (fifo.items.map FifoItem.key).Nodup := by
  rw [refines.items]
  exact nodup_key_fifoItems refines.consistent.inStep

theorem length_le (refines : Refines cache fifo) : fifo.items.length ≤ fifo.capacity := by
  rw [refines.length, refines.capacity]
  exact refines.consistent.bounded

theorem get (refines : Refines cache fifo) (now : Nat) (key : String) :
    Refines (cache.get now key).1 (fifo.get now key).1 ∧
      (cache.get now key).2 = (fifo.get now key).2 := by
  have consistent := refines.consistent.get now key
  unfold ResponseCache.get at consistent ⊢
  unfold FifoCache.get
  rw [refines.item? key]
  cases found : cache.entries[key]? with
  | none => exact ⟨refines, rfl⟩
  | some entry =>
      by_cases unexpired : now < entry.expiresAt
      · simp only [Option.map_some, CacheEntry.fifoItem, unexpired, if_true]
        exact ⟨refines, trivial⟩
      · simp only [found, Option.map_some, CacheEntry.fifoItem, unexpired, if_false] at consistent ⊢
        refine ⟨⟨consistent, refines.capacity, ?_⟩, trivial⟩
        rw [refines.items, fifoItems_erase]

theorem purge (refines : Refines cache fifo) (now : Nat) :
    Refines (cache.purge now).1 (fifo.purge now).1 ∧
      (cache.purge now).2 = (fifo.purge now).2 := by
  have purged : Refines (cache.purge now).1 (fifo.purge now).1 := by
    refine ⟨refines.consistent.purge now, refines.capacity, ?_⟩
    change fifo.items.filter _ = _
    rw [refines.items]
    symm
    apply fifoItems_of_fewer
    intro key
    rw [getElem?_entries_purge]
    rfl
  refine ⟨purged, ?_⟩
  have before := refines.length
  have after := purged.length
  have counted := fifo.items.length_eq_countP_add_countP (fun item => now < item.expiresAt)
  simp only [FifoCache.purge, ← List.countP_eq_length_filter] at after ⊢
  simp only [decide_eq_true_eq, Nat.not_lt] at counted
  change cache.size - (cache.purge now).1.size = _
  omega

theorem store (refines : Refines cache fifo) (key : String) (response : CachedResponse)
    (expiresAt : Nat) :
    Refines (cache.store key response expiresAt) (fifo.store key response expiresAt) := by
  have consistent := refines.consistent.store key response expiresAt
  unfold ResponseCache.store at consistent ⊢
  unfold FifoCache.store
  rw [refines.item? key]
  cases found : cache.entries[key]? with
  | some entry =>
      simp only [found, Option.map_some, Option.isSome_some, if_true] at consistent ⊢
      refine ⟨consistent, refines.capacity, ?_⟩
      rw [refines.items]
      exact (fifoItems_renew found ⟨response, expiresAt, entry.sequence⟩ rfl _).symm
  | none =>
      simp only [found, Option.map_none, Option.isSome_none] at consistent ⊢
      refine ⟨consistent, refines.capacity, ?_⟩
      rw [refines.items, refines.capacity]
      exact (fifoItems_insertNew refines.consistent found response expiresAt).symm

theorem set (refines : Refines cache fifo) (now : Nat) (key : String) (response : CachedResponse)
    (lifetime : Nat) :
    Refines (cache.set now key response lifetime).1 (fifo.set now key response lifetime).1 ∧
      (cache.set now key response lifetime).2 = (fifo.set now key response lifetime).2 := by
  unfold ResponseCache.set FifoCache.set
  by_cases refused : lifetime = 0
  · simp only [refused, if_true]
    exact ⟨refines, trivial⟩
  · simp only [refused, if_false]
    exact ⟨refines.store key response (now + lifetime), trivial⟩

/-- On a machine, storing breaks off on both sides or on neither. -/
theorem setOn (refines : Refines cache fifo) (machine : Machine) (now : Nat) (key : String)
    (response : CachedResponse) (lifetime : Nat) :
    (∃ overflow, cache.setOn machine now key response lifetime = .error overflow ∧
        fifo.setOn machine now key response lifetime = .error overflow) ∨
      (cache.setOn machine now key response lifetime =
          .ok (cache.set now key response lifetime) ∧
        fifo.setOn machine now key response lifetime =
          .ok (fifo.set now key response lifetime)) := by
  unfold ResponseCache.setOn FifoCache.setOn ResponseCache.set FifoCache.set
  rw [refines.item? key, refines.capacity, Option.isSome_map]
  by_cases refused : lifetime = 0
  · simp only [if_pos refused]
    exact Or.inr ⟨trivial, trivial⟩
  · simp only [if_neg refused]
    cases shown : machine.expiry now lifetime cache.capacity cache.entries[key]?.isSome with
    | error overflow => exact Or.inl ⟨overflow, rfl, rfl⟩
    | ok expiresAt =>
        rcases Machine.expiry_eq_ok_iff.1 shown with ⟨_, rfl⟩
        exact Or.inr ⟨rfl, rfl⟩

end Refines

/-- A cache and a list at the same time, the one standing for the other, with a capacity that stays.
-/
structure RefinesAt (capacity : Nat) (state : Timed ResponseCache) (list : Timed FifoCache) :
    Prop where
  refines : Refines state.cache list.cache
  now : state.now = list.now
  capacity : list.cache.capacity = capacity

namespace RefinesAt

variable {capacity : Nat} {state : Timed ResponseCache} {list : Timed FifoCache}

/-- An operation shows the same on both sides and leaves the one standing for the other. -/
theorem perform (both : RefinesAt capacity state list) (operation : CacheOperation) :
    RefinesAt capacity (ResponseCache.perform state operation).1
        (FifoCache.perform list operation).1 ∧
      (ResponseCache.perform state operation).2 = (FifoCache.perform list operation).2 := by
  have kept := (FifoCache.capacity_perform list operation).trans both.capacity
  rcases both with ⟨refines, now, _⟩
  cases operation with
  | set key response lifetime =>
      rcases refines.set state.now key response lifetime with ⟨next, outcome⟩
      simp only [ResponseCache.perform, FifoCache.perform, ← now] at kept ⊢
      exact ⟨⟨next, rfl, kept⟩, congrArg CacheResult.stored outcome⟩
  | get key =>
      rcases refines.get state.now key with ⟨next, found⟩
      simp only [ResponseCache.perform, FifoCache.perform, ← now] at kept ⊢
      exact ⟨⟨next, rfl, kept⟩, congrArg CacheResult.found found⟩
  | purge =>
      rcases refines.purge state.now with ⟨next, count⟩
      simp only [ResponseCache.perform, FifoCache.perform, ← now] at kept ⊢
      exact ⟨⟨next, rfl, kept⟩, congrArg CacheResult.removed count⟩
  | size => exact ⟨⟨refines, now, kept⟩, congrArg CacheResult.size refines.length.symm⟩
  | advance duration => exact ⟨⟨refines, congrArg (· + duration) now, kept⟩, rfl⟩

/-- On a machine, an operation comes to the same on both sides. -/
theorem performOn (both : RefinesAt capacity state list) (machine : Machine)
    (operation : CacheOperation) :
    ComeToSame (RefinesAt capacity) (ResponseCache.performOn machine state operation)
      (FifoCache.performOn machine list operation) := by
  rcases both.perform operation with ⟨next, shown⟩
  cases operation with
  | set key response lifetime =>
      simp only [ResponseCache.performOn, FifoCache.performOn, ← both.now]
      simp only [ResponseCache.perform, FifoCache.perform, ← both.now] at next shown
      rcases both.refines.setOn machine state.now key response lifetime with
        ⟨overflow, broken, brokenList⟩ | ⟨stored, storedList⟩
      · rw [broken, brokenList]
        exact .brokenOff overflow
      · rw [stored, storedList]
        exact .ok next shown
  | get | purge | size | advance => exact .ok next shown

end RefinesAt

/-- The same cache with every stale item dropped from its queue. -/
def compacted (cache : ResponseCache) : ResponseCache :=
  { cache with order := cache.order.filter (isCurrent cache.entries) }

/-- Dropping stale items leaves what a cache stands for. -/
theorem Refines.compacted {cache : ResponseCache} {fifo : FifoCache}
    (refines : Refines cache fifo) : Refines cache.compacted fifo := by
  refine ⟨⟨?_, ?_, refines.consistent.bounded⟩, refines.capacity, ?_⟩
  · apply refines.consistent.inStep.of_fewer_items List.filter_sublist
    intro item present current
    exact List.mem_filter.2 ⟨present, current⟩
  · intro item present
    exact refines.consistent.numbered item (List.mem_of_mem_filter present)
  · rw [refines.items]
    exact (fifoItems_filter_isCurrent _ _).symm

/-- On every machine, a response cache shows what the bounded list shows, whatever is done with it,
and breaks off where the list does, for the same reason; up to there both show what the list shows
without a machine. The list never holds a key twice and never more items than the capacity, which
counts as one when it is zero; and dropping stale items at any time is not noticed. -/
theorem responseCache_refines_fifoCache (machine : Machine) (capacity lifetime : Nat)
    (operations : List CacheOperation) :
    let perform := ResponseCache.performOn machine
    let performList := FifoCache.performOn machine
    let start : Timed ResponseCache := { cache := .new capacity lifetime }
    let startList : Timed FifoCache := { cache := .new capacity }
    let reached := CacheOperation.reachedOn perform start operations
    let reachedList := CacheOperation.reachedOn performList startList operations
    CacheOperation.resultsOn perform start operations =
        CacheOperation.resultsOn performList startList operations ∧
      (∃ unreached,
        CacheOperation.results FifoCache.perform startList operations =
            (CacheOperation.resultsOn perform start operations).1 ++ unreached ∧
          ((CacheOperation.resultsOn perform start operations).2 = none → unreached = [])) ∧
      reached.cache.size = reachedList.cache.items.length ∧
      (reachedList.cache.items.map FifoItem.key).Nodup ∧
      reachedList.cache.items.length ≤ max capacity 1 ∧
      ∀ later,
        CacheOperation.resultsOn perform
            { reached with cache := reached.cache.compacted } later =
          CacheOperation.resultsOn perform reached later := by
  intro perform performList start startList reached reachedList
  have comes {state : Timed ResponseCache} {list : Timed FifoCache}
      (both : RefinesAt (max capacity 1) state list) (operation : CacheOperation) :
      ComeToSame (RefinesAt (max capacity 1)) (perform state operation)
        (performList list operation) := both.performOn machine operation
  have both : RefinesAt (max capacity 1) start startList :=
    ⟨refines_new capacity lifetime, rfl, rfl⟩
  rcases CacheOperation.resultsOn_eq_of_comeToSame comes both operations with
    ⟨results, bothReached⟩
  refine ⟨results, ?_, bothReached.refines.length.symm, bothReached.refines.nodup_keys, ?_, ?_⟩
  · rw [results]
    exact CacheOperation.exists_results_eq_append FifoCache.perform_of_performOn _ operations
  · rw [← bothReached.capacity]
    exact bothReached.refines.length_le
  · intro later
    have bothCompacted : RefinesAt (max capacity 1)
        { reached with cache := reached.cache.compacted } reachedList :=
      { bothReached with refines := bothReached.refines.compacted }
    rw [(CacheOperation.resultsOn_eq_of_comeToSame comes bothCompacted later).1,
      (CacheOperation.resultsOn_eq_of_comeToSame comes bothReached later).1]

end ResponseCache

end DnsFilter
