import DnsFilter.Cache.Delivery
import Mathlib.Data.List.DropRight

/-!
# What is delivered

Entries are lost at both ends on the way to a reader: the channel drops the newest when it is full,
and the log the oldest. In between nothing is lost or changes places, unless the consumer goes away
while entries wait.
-/

namespace DnsFilter

/-- Of what comes in front, no more than the last elements can still be among the last ones. -/
theorem rtake_rtake_append {α : Type} (count : Nat) (front back : List α) :
    (front.rtake count ++ back).rtake count = (front ++ back).rtake count := by
  simp only [List.rtake_eq_reverse_take_reverse, List.reverse_append, List.reverse_reverse,
    List.take_append, List.take_take]
  simp

theorem rtake_min_length {α : Type} (count : Nat) (list : List α) :
    list.rtake (min count list.length) = list.rtake count := by
  unfold List.rtake
  congr 1
  omega

theorem rtake_of_length_le {α : Type} {count : Nat} {list : List α} (few : list.length ≤ count) :
    list.rtake count = list := by
  have all : list.length - count = 0 := by omega
  simp [List.rtake, all]

namespace QuestionLog

/-- An entry that is added comes in last, and pushes out the oldest one if it has to. -/
theorem entries_add {log : QuestionLog} (positive : 0 < log.capacity)
    (bounded : log.entries.length ≤ log.capacity) (entry : QuestionEntry) :
    (log.add entry).entries = (log.entries ++ [entry]).rtake log.capacity := by
  obtain ⟨room, capacity⟩ : ∃ room, log.capacity = room + 1 := ⟨log.capacity - 1, by omega⟩
  rw [capacity, List.rtake_concat_succ]
  unfold add size List.rtake
  simp only [List.append_cancel_right_eq]
  split
  · congr 1
    omega
  · have all : log.entries.length - room = 0 := by omega
    simp [all]

end QuestionLog

namespace Delivery

variable {delivery : Delivery}

/-- A consumer for whom nothing waits does nothing. -/
theorem step_consume_of_nil (idle : delivery.channel.waiting = []) :
    delivery.step .consume = delivery ∧ delivery.consumed .consume = [] := by
  simp [Delivery.step, consumed, QuestionChannel.receive, idle]

theorem step_consume_of_cons {entry : QuestionEntry} {later : List QuestionEntry}
    (waits : delivery.channel.waiting = entry :: later) :
    delivery.step .consume =
        { channel := { delivery.channel with waiting := later }
          log := delivery.log.add entry } ∧
      delivery.consumed .consume = [entry] := by
  simp [Delivery.step, consumed, QuestionChannel.receive, waits]

/-- An entry that is not admitted is dropped without a trace. -/
theorem step_record_of_not_admits (full : delivery.channel.admits = false)
    (entry : QuestionEntry) : delivery.step (.record entry) = delivery := by
  simp [Delivery.step, QuestionChannel.record, full]

theorem step_record_of_admits (free : delivery.channel.admits = true) (entry : QuestionEntry) :
    delivery.step (.record entry) =
      { delivery with
        channel := { delivery.channel with waiting := delivery.channel.waiting ++ [entry] } } := by
  simp [Delivery.step, QuestionChannel.record, free]

section Log

@[simp]
theorem capacity_step (delivery : Delivery) (step : Step) :
    (delivery.step step).log.capacity = delivery.log.capacity := by
  cases step with
  | record | add | recent | close => rfl
  | consume =>
      cases waits : delivery.channel.waiting with
      | nil => rw [(step_consume_of_nil waits).1]
      | cons => rw [(step_consume_of_cons waits).1]; rfl

/-- What a step appends comes in last, and what the log then has no room for goes. -/
theorem entries_step (positive : 0 < delivery.log.capacity)
    (bounded : delivery.log.entries.length ≤ delivery.log.capacity) (step : Step) :
    (delivery.step step).log.entries =
      (delivery.log.entries ++ delivery.appended step).rtake delivery.log.capacity := by
  cases step with
  | add entry => exact QuestionLog.entries_add positive bounded entry
  | consume =>
      rw [show delivery.appended .consume = delivery.consumed .consume from rfl]
      cases waits : delivery.channel.waiting with
      | nil =>
          rcases step_consume_of_nil waits with ⟨same, nothing⟩
          simp [same, nothing, rtake_of_length_le bounded]
      | cons entry later =>
          rcases step_consume_of_cons waits with ⟨next, taken⟩
          rw [next, taken]
          exact QuestionLog.entries_add positive bounded entry
  | record | recent | close =>
      simp [Delivery.step, appended, consumed, rtake_of_length_le bounded]

/-- The log holds the last entries of all that were ever in it. -/
theorem entries_after (delivery : Delivery) (positive : 0 < delivery.log.capacity)
    (bounded : delivery.log.entries.length ≤ delivery.log.capacity) (steps : List Step) :
    (delivery.after steps).log.entries =
      (delivery.log.entries ++ delivery.collect appended steps).rtake delivery.log.capacity := by
  induction steps generalizing delivery with
  | nil => simp [rtake_of_length_le bounded]
  | cons step steps ih =>
      have next := entries_step positive bounded step
      have nextBounded : (delivery.step step).log.entries.length ≤
          (delivery.step step).log.capacity := by
        rw [next, capacity_step]
        simp only [List.rtake, List.length_drop]
        omega
      rw [after_cons, ih _ (by simpa using positive) nextBounded, next, capacity_step,
        rtake_rtake_append, List.append_assoc, collect_cons]

end Log

section Channel

@[simp]
theorem depth_step (delivery : Delivery) (step : Step) :
    (delivery.step step).channel.depth = delivery.channel.depth := by
  cases step with
  | add | recent | close => rfl
  | record entry =>
      simp only [Delivery.step, QuestionChannel.record]
      split <;> rfl
  | consume =>
      cases waits : delivery.channel.waiting with
      | nil => rw [(step_consume_of_nil waits).1]
      | cons => rw [(step_consume_of_cons waits).1]

@[simp]
theorem depth_after (delivery : Delivery) (steps : List Step) :
    (delivery.after steps).channel.depth = delivery.channel.depth := by
  induction steps generalizing delivery with
  | nil => rfl
  | cons step steps ih => simp [ih]

/-- Only closing takes the consumer away, and nothing brings it back. -/
theorem isOpen_step (delivery : Delivery) (step : Step) :
    (delivery.step step).channel.isOpen = true ↔
      delivery.channel.isOpen = true ∧ step ≠ .close := by
  cases step with
  | add | recent => simp [Delivery.step]
  | close => simp [Delivery.step, QuestionChannel.close]
  | record entry =>
      simp only [Delivery.step, QuestionChannel.record]
      split <;> simp
  | consume =>
      cases waits : delivery.channel.waiting with
      | nil => simp [(step_consume_of_nil waits).1]
      | cons => simp [(step_consume_of_cons waits).1]

theorem isOpen_after (delivery : Delivery) (steps : List Step) :
    (delivery.after steps).channel.isOpen = true ↔
      delivery.channel.isOpen = true ∧ .close ∉ steps := by
  induction steps generalizing delivery with
  | nil => simp
  | cons step steps ih =>
      simp only [after_cons, ih, isOpen_step, List.mem_cons, not_or, and_assoc, ne_eq,
        eq_comm (a := Step.close)]

/-- That the consumer went away, so that nothing can wait for it. -/
structure Abandoned (delivery : Delivery) : Prop where
  closed : delivery.channel.isOpen = false
  idle : delivery.channel.waiting = []

namespace Abandoned

theorem close (delivery : Delivery) : (delivery.step .close).Abandoned := ⟨rfl, rfl⟩

theorem not_admits (abandoned : delivery.Abandoned) : delivery.channel.admits = false := by
  simp [QuestionChannel.admits, abandoned.closed]

theorem step (abandoned : delivery.Abandoned) (step : Step) : (delivery.step step).Abandoned := by
  cases step with
  | record entry =>
      rw [step_record_of_not_admits abandoned.not_admits]
      exact abandoned
  | consume =>
      rw [(step_consume_of_nil abandoned.idle).1]
      exact abandoned
  | add | recent => exact ⟨abandoned.closed, abandoned.idle⟩
  | close => exact .close delivery

/-- Nothing goes through an abandoned channel any more. -/
theorem parts_eq_nil (abandoned : delivery.Abandoned) (step : Step) :
    delivery.admitted step = [] ∧ delivery.consumed step = [] ∧ delivery.lost step = [] := by
  cases step with
  | record entry => simp [admitted, consumed, lost, abandoned.not_admits]
  | consume => simp [admitted, lost, step_consume_of_nil abandoned.idle]
  | add | recent => simp [admitted, consumed, lost]
  | close => simp [admitted, consumed, lost, abandoned.idle]

theorem after (abandoned : delivery.Abandoned) (steps : List Step) :
    (delivery.after steps).Abandoned := by
  induction steps generalizing delivery with
  | nil => exact abandoned
  | cons step steps ih => exact ih (abandoned.step step)

theorem collect_eq_nil (abandoned : delivery.Abandoned) (steps : List Step) :
    delivery.collect admitted steps = [] ∧ delivery.collect consumed steps = [] ∧
      delivery.collect lost steps = [] := by
  induction steps generalizing delivery with
  | nil => simp
  | cons step steps ih => simp [abandoned.parts_eq_nil step, ih (abandoned.step step)]

end Abandoned

theorem abandoned_after {steps : List Step} (leaves : .close ∈ steps) (delivery : Delivery) :
    (delivery.after steps).Abandoned := by
  induction steps generalizing delivery with
  | nil => contradiction
  | cons step steps ih =>
      rcases List.mem_cons.1 leaves with rfl | later
      · exact (Abandoned.close delivery).after steps
      · exact ih later _

/-- What waits and what comes in is what goes out and what then waits, unless the consumer leaves.
-/
theorem waiting_append_admitted_step (delivery : Delivery) {step : Step} (stays : step ≠ .close) :
    delivery.channel.waiting ++ delivery.admitted step =
      delivery.consumed step ++ (delivery.step step).channel.waiting := by
  cases step with
  | record entry =>
      cases free : delivery.channel.admits with
      | true => simp [step_record_of_admits free, admitted, consumed, free]
      | false => simp [step_record_of_not_admits free, admitted, consumed, free]
  | consume =>
      cases waits : delivery.channel.waiting with
      | nil => simp [step_consume_of_nil waits, admitted, waits]
      | cons => simp [step_consume_of_cons waits, admitted]
  | add | recent => simp [Delivery.step, admitted, consumed]
  | close => contradiction

theorem lost_of_ne_close {step : Step} (stays : step ≠ .close) : delivery.lost step = [] := by
  cases step with
  | record | consume | add | recent => rfl
  | close => contradiction

theorem collect_lost_of_not_mem {steps : List Step} (stays : .close ∉ steps)
    (delivery : Delivery) : delivery.collect lost steps = [] := by
  induction steps generalizing delivery with
  | nil => rfl
  | cons step steps ih =>
      rw [List.mem_cons, not_or] at stays
      simp [lost_of_ne_close (Ne.symm stays.1), ih stays.2]

/-- All that comes in goes out in the same order, but for what is lost with the consumer and what
still waits. -/
theorem waiting_append_admitted (delivery : Delivery) (steps : List Step) :
    delivery.channel.waiting ++ delivery.collect admitted steps =
      delivery.collect consumed steps ++
        (delivery.collect lost steps ++ (delivery.after steps).channel.waiting) := by
  induction steps generalizing delivery with
  | nil => simp
  | cons step steps ih =>
      by_cases leaves : step = .close
      · subst step
        have abandoned := Abandoned.close delivery
        have idle := (abandoned.after steps).idle
        simp [admitted, consumed, lost, abandoned.collect_eq_nil steps, idle]
      · have first := waiting_append_admitted_step delivery leaves
        simp only [collect_cons, after_cons, lost_of_ne_close leaves, List.nil_append,
          List.append_assoc]
        rw [← ih, ← List.append_assoc, first, List.append_assoc]

end Channel

/-- Whether an entry would be admitted, told from the steps before. -/
theorem admits_after_new (capacity depth : Nat) (steps : List Step) :
    ((new capacity depth).after steps).channel.admits = true ↔
      .close ∉ steps ∧
        ((new capacity depth).after steps).channel.waiting.length < max depth 1 := by
  have opened : (new capacity depth).channel.isOpen = true := rfl
  have room : (new capacity depth).channel.depth = max depth 1 := rfl
  simp [QuestionChannel.admits, isOpen_after, opened, room]

/-- In whatever order entries are recorded, consumed, added and read: those that are recorded while
there are a consumer and room in the channel are appended by the consumer in that order, unless they
still wait or were waiting when it went away. The others are dropped and change nothing. The log
holds the last entries that were appended, as many as it has room for, and shows the last of these.
-/
theorem admitted_questions_are_delivered (capacity depth : Nat) (steps : List Step) :
    let begun := new capacity depth
    let delivery := begun.after steps
    let all := begun.collect appended steps
    begun.collect admitted steps =
        begun.collect consumed steps ++
          (begun.collect lost steps ++ delivery.channel.waiting) ∧
    (.close ∉ steps → begun.collect lost steps = []) ∧
    (.close ∈ steps → delivery.channel.waiting = []) ∧
    (∀ entry,
      if .close ∉ steps ∧ delivery.channel.waiting.length < max depth 1 then
        delivery.admitted (.record entry) = [entry]
      else delivery.admitted (.record entry) = [] ∧ delivery.step (.record entry) = delivery) ∧
    delivery.log.entries = all.rtake (min all.length (max capacity 1)) ∧
    delivery.log.recent none = delivery.log.entries ∧
    ∀ limit, delivery.log.recent (some limit) =
      delivery.log.entries.rtake (min limit delivery.log.entries.length) := by
  intro begun delivery all
  have conserved := waiting_append_admitted begun steps
  have kept := entries_after begun (Nat.le_max_right capacity 1) (Nat.zero_le _) steps
  refine ⟨conserved, fun stays => collect_lost_of_not_mem stays begun,
    fun leaves => (abandoned_after leaves begun).idle, ?_, ?_, rfl, ?_⟩
  · intro entry
    split
    · next free =>
        have admits := (admits_after_new capacity depth steps).2 free
        exact if_pos admits
    · next full =>
        have refuses : delivery.channel.admits = false := by
          rw [← Bool.not_eq_true]
          intro admits
          exact full ((admits_after_new capacity depth steps).1 admits)
        exact ⟨by simp [admitted, refuses], step_record_of_not_admits refuses entry⟩
  · rw [min_comm, rtake_min_length]
    exact kept
  · intro limit
    rw [rtake_min_length]
    rfl

/-- A question about the name `a`, from some client. -/
def sampleEntry : QuestionEntry where
  date := 0
  client := .v4 ⟨192, 0, 2, 1⟩
  blocked := false
  question := .ofName "a" .a .internet

/-- An entry that was admitted but waits when the consumer goes away is never appended. -/
theorem waiting_question_is_lost :
    let steps := [.record sampleEntry, .close, .consume]
    (new 1 1).collect admitted steps = [sampleEntry] ∧
      (new 1 1).collect consumed steps = [] ∧
      ((new 1 1).after steps).channel.waiting = [] :=
  ⟨rfl, rfl, rfl⟩

end Delivery

end DnsFilter
