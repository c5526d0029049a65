import RelayProbe.Session.Trace

set_option autoImplicit false

/-! # Views of a list of events

What a list of events tells is told event by event, so it goes through `::` and `++`. Writes and
printed texts are silent in most views.
-/

namespace RelayProbe

namespace Session

/-- The failures of the connection, in order. -/
def failures (es : List Event) : List Failure := es.filterMap Event.failure?

variable (e : Event) (es fs : List Event)

@[simp] theorem output_nil : output [] = [] := rfl

@[simp] theorem output_cons : output (e :: es) = e.printed ++ output es := rfl

@[simp] theorem output_append : output (es ++ fs) = output es ++ output fs := List.flatMap_append

@[simp] theorem owed_nil : owed [] = [] := rfl

@[simp] theorem owed_cons : owed (e :: es) = e.owed ++ owed es := rfl

@[simp] theorem owed_append : owed (es ++ fs) = owed es ++ owed fs := List.flatMap_append

@[simp] theorem sent_nil : sent [] = [] := rfl

@[simp] theorem sent_cons : sent (e :: es) = e.sent ++ sent es := rfl

@[simp] theorem sent_append : sent (es ++ fs) = sent es ++ sent fs := List.flatMap_append

@[simp] theorem chunks_nil : chunks [] = [] := rfl

@[simp] theorem chunks_cons : chunks (e :: es) = e.chunk?.toList ++ chunks es := by
  cases h : e.chunk? with
  | none => exact List.filterMap_cons_none h
  | some c => exact List.filterMap_cons_some h

@[simp] theorem chunks_append : chunks (es ++ fs) = chunks es ++ chunks fs := List.filterMap_append

@[simp] theorem failures_nil : failures [] = [] := rfl

@[simp] theorem failures_cons : failures (e :: es) = e.failure?.toList ++ failures es := by
  cases h : e.failure? with
  | none => exact List.filterMap_cons_none h
  | some f => exact List.filterMap_cons_some h

@[simp] theorem failures_append : failures (es ++ fs) = failures es ++ failures fs :=
  List.filterMap_append

/-- The verdict is the first failure, if there is one. -/
theorem verdict_eq (refusal : Fault) :
    verdict refusal es =
      match (failures es).head? with
      | some f => .error f
      | none => if output es = owed es then .ok (tally es) else .error (.output refusal) := by
  have hfirst : (failures es).head? = es.findSome? Event.failure? := List.head?_filterMap
  rw [hfirst]
  rfl

variable {es}

theorem Event.exists_eq_write {e : Event} (h : e.isWrite = true) :
    ∃ offered answer, e = .write offered answer := by
  cases e with
  | write offered answer => exact ⟨offered, answer, rfl⟩
  | _ => cases h

/-- Writes print nothing, owe nothing and bring no chunk. -/
theorem silent_of_writes (h : ∀ e ∈ es, e.isWrite = true) :
    output es = [] ∧ owed es = [] ∧ chunks es = [] := by
  induction es with
  | nil => exact ⟨rfl, rfl, rfl⟩
  | cons e es ih =>
      obtain ⟨ho, hw, hc⟩ := ih fun d hd => h d (List.mem_cons_of_mem e hd)
      obtain ⟨offered, answer, rfl⟩ := Event.exists_eq_write (h e List.mem_cons_self)
      exact ⟨ho, hw, hc⟩

/-- Only writes bring bytes over to the far end. -/
theorem sent_of_no_write (h : ∀ e ∈ es, e.isWrite = false) : sent es = [] := by
  refine List.flatMap_eq_nil_iff.mpr fun e he => ?_
  have hw := h e he
  cases e with
  | write offered answer => cases hw
  | _ => rfl

/-! ## Reads and printed texts -/

/-- A read that gives something is no failure. -/
@[simp] theorem failure?_read_ok (room : Nat) (c : Bytes) :
    (Event.read room (.ok c)).failure? = none := by
  cases c <;> rfl

theorem printed_of_ne_nil {text : Bytes} (h : text ≠ []) : printed text = [.print text] := if_neg h

@[simp] theorem output_printed (text : Bytes) : output (printed text) = text := by
  by_cases h : text = []
  · rw [h]
    rfl
  · rw [printed_of_ne_nil h]
    exact List.append_nil text

theorem mem_printed {d : Event} {text : Bytes} (h : d ∈ printed text) : d = .print text := by
  by_cases ht : text = []
  · rw [ht] at h
    cases h
  · rw [printed_of_ne_nil ht] at h
    exact List.mem_singleton.mp h

/-- Printed texts owe nothing, bring no chunk and are no failure. -/
theorem silent_printed (text : Bytes) :
    owed (printed text) = [] ∧ chunks (printed text) = [] ∧ failures (printed text) = [] := by
  by_cases h : text = []
  · rw [h]
    exact ⟨rfl, rfl, rfl⟩
  · rw [printed_of_ne_nil h]
    exact ⟨rfl, rfl, rfl⟩

/-! ## Where an event stands -/

/-- An event of two lists that is not in the second one stands in the first. -/
theorem stands_left {e : Event} {xs ys past rest : List Event} (h : xs ++ ys = past ++ e :: rest)
    (he : e ∉ ys) : ∃ mid, xs = past ++ e :: mid ∧ rest = mid ++ ys := by
  rcases List.append_eq_append_iff.mp h with ⟨mid, -, hys⟩ | ⟨mid, hxs, hrest⟩
  · exact (he (hys ▸ List.mem_append_right mid List.mem_cons_self)).elim
  · rcases mid with _ | ⟨d, mid⟩
    · have hys : ys = e :: rest := hrest.symm
      exact (he (hys ▸ List.mem_cons_self)).elim
    · obtain ⟨rfl, rfl⟩ := List.cons.inj hrest
      exact ⟨mid, hxs, rfl⟩

/-- An event of two lists that is not in the first one stands in the second. -/
theorem stands_right {e : Event} {xs ys past rest : List Event} (h : xs ++ ys = past ++ e :: rest)
    (he : e ∉ xs) : ∃ mid, past = xs ++ mid ∧ ys = mid ++ e :: rest := by
  rcases List.append_eq_append_iff.mp h with ⟨mid, hpast, hys⟩ | ⟨mid, hxs, hrest⟩
  · exact ⟨mid, hpast, hys⟩
  · rcases mid with _ | ⟨d, mid⟩
    · exact ⟨[], by simpa using hxs.symm, hrest.symm⟩
    · obtain ⟨rfl, -⟩ := List.cons.inj hrest
      exact (he (hxs ▸ List.mem_append_right past List.mem_cons_self)).elim

end Session

end RelayProbe
