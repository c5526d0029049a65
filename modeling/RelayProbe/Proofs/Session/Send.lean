import Mathlib
import RelayProbe.Proofs.Session.Trace

set_option autoImplicit false

/-! # Sending the request

What comes of sending can be told from the answers alone: it fails with the first answer that is a
failure, unless the answers before it took the whole request (`send_failure`). The events of sending
are writes, the bytes that they brought over are a prefix of the request, and the failure, if there
is one, is the failure of the last of them.
-/

namespace RelayProbe

namespace WriteAnswer

/-- The failure that an answer means for the sender. An interrupted write is none: it is made
again. -/
def fault? : WriteAnswer → Option Fault
  | accept 0 => some Session.nothingTaken
  | accept (_ + 1) => none
  | fail f => if f.kind = .interrupted then none else some f

/-- How many bytes an answer lets through. -/
def taken : WriteAnswer → Nat
  | accept n => n
  | fail _ => 0

/-- How many bytes the answers let through before the first failure. -/
def takenBeforeFault (ws : List WriteAnswer) : Nat :=
  ((ws.takeWhile (·.fault?.isNone)).map taken).sum

/-- The failure of sending `n` bytes: the first one among the answers, unless all bytes are let
through before it. -/
def faultOf? (ws : List WriteAnswer) (n : Nat) : Option Fault :=
  if n ≤ takenBeforeFault ws then none else ws.findSome? fault?

theorem faultOf?_zero (ws : List WriteAnswer) : faultOf? ws 0 = none := if_pos (Nat.zero_le _)

/-- A failure at once is the failure of sending anything. -/
theorem faultOf?_cons_of_some {w : WriteAnswer} {f : Fault} (h : w.fault? = some f)
    (ws : List WriteAnswer) {n : Nat} (hn : n ≠ 0) : faultOf? (w :: ws) n = some f := by
  have ht : takenBeforeFault (w :: ws) = 0 := by simp [takenBeforeFault, h]
  rw [faultOf?, ht, if_neg (by omega), List.findSome?_cons, h]

/-- Behind an answer that is no failure the bytes it did not let through are to be sent. -/
theorem faultOf?_cons_of_none {w : WriteAnswer} (h : w.fault? = none) (ws : List WriteAnswer)
    (n : Nat) : faultOf? (w :: ws) n = faultOf? ws (n - w.taken) := by
  have ht : takenBeforeFault (w :: ws) = w.taken + takenBeforeFault ws := by
    simp [takenBeforeFault, h]
  have hle : n ≤ w.taken + takenBeforeFault ws ↔ n - w.taken ≤ takenBeforeFault ws := by omega
  rw [faultOf?, faultOf?, ht, List.findSome?_cons, h]
  simp only [hle]

end WriteAnswer

namespace Session

open WriteAnswer

/-- **When sending fails**: with the first failure among the answers, unless the request was
complete before. -/
theorem send_failure (ws : List WriteAnswer) (bs : Bytes) :
    (send ws bs).2 = faultOf? ws bs.length := by
  fun_induction send ws bs with
  | case1 ws => exact (faultOf?_zero ws).symm
  | case2 bs => simp [faultOf?]
  | case3 f ws bs hbs hf rest ih =>
      rw [faultOf?_cons_of_none (by simp [fault?, hf])]
      exact ih
  | case4 f ws bs hbs hf =>
      have hn : bs.length ≠ 0 := fun h0 => hbs (List.eq_nil_of_length_eq_zero h0)
      have hw : (WriteAnswer.fail f).fault? = some f := if_neg hf
      rw [faultOf?_cons_of_some hw ws hn]
  | case5 n ws bs hbs k hk =>
      have hn : bs.length ≠ 0 := fun h0 => hbs (List.eq_nil_of_length_eq_zero h0)
      -- bytes were offered, so it is the answer that takes none
      have h0 : n = 0 := by omega
      subst h0
      rw [faultOf?_cons_of_some rfl ws hn]
  | case6 n ws bs hbs k hk rest ih =>
      have hn : bs.length - n = (bs.drop k).length := by rw [List.length_drop]; omega
      cases n with
      | zero => exact (hk (Nat.zero_min _)).elim
      | succ m =>
          rw [faultOf?_cons_of_none rfl, taken, hn]
          exact ih

/-! ## The events of sending -/

theorem isWrite_of_mem_send {ws : List WriteAnswer} {bs : Bytes} {e : Event}
    (h : e ∈ (send ws bs).1) : e.isWrite = true := by
  fun_induction send ws bs with
  | case1 ws => cases h
  | case2 bs =>
      obtain rfl := List.mem_singleton.mp h
      rfl
  | case3 f ws bs hbs hf rest ih =>
      rcases List.mem_cons.mp h with rfl | h
      · rfl
      · exact ih h
  | case4 f ws bs hbs hf =>
      obtain rfl := List.mem_singleton.mp h
      rfl
  | case5 n ws bs hbs k hk =>
      obtain rfl := List.mem_singleton.mp h
      rfl
  | case6 n ws bs hbs k hk rest ih =>
      rcases List.mem_cons.mp h with rfl | h
      · rfl
      · exact ih h

theorem write_of_mem_send {ws : List WriteAnswer} {bs : Bytes} {e : Event}
    (h : e ∈ (send ws bs).1) : ∃ offered answer, e = .write offered answer :=
  Event.exists_eq_write (isWrite_of_mem_send h)

theorem output_send (ws : List WriteAnswer) (bs : Bytes) : output (send ws bs).1 = [] :=
  (silent_of_writes fun _ => isWrite_of_mem_send).1

theorem owed_send (ws : List WriteAnswer) (bs : Bytes) : owed (send ws bs).1 = [] :=
  (silent_of_writes fun _ => isWrite_of_mem_send).2.1

theorem chunks_send (ws : List WriteAnswer) (bs : Bytes) : chunks (send ws bs).1 = [] :=
  (silent_of_writes fun _ => isWrite_of_mem_send).2.2

/-- The first call offers all there is to send. -/
theorem send_eq_cons (ws : List WriteAnswer) {bs : Bytes} (h : bs ≠ []) :
    ∃ answer rest, (send ws bs).1 = .write bs answer :: rest := by
  fun_cases send ws bs with
  | case1 ws => exact (h rfl).elim
  | case2 bs => exact ⟨_, _, rfl⟩
  | case3 f ws bs hbs hf rest => exact ⟨_, _, rfl⟩
  | case4 f ws bs hbs hf => exact ⟨_, _, rfl⟩
  | case5 n ws bs hbs k hk => exact ⟨_, _, rfl⟩
  | case6 n ws bs hbs k hk rest => exact ⟨_, _, rfl⟩

theorem failure?_write_ok {bs : Bytes} {n : Nat} (h : n ≠ 0) :
    (Event.write bs (.ok n)).failure? = none := by
  cases n with
  | zero => exact (h rfl).elim
  | succ n => rfl

/-- The only failure among the events of sending is the one that sending ends with. -/
theorem failures_send (ws : List WriteAnswer) (bs : Bytes) :
    failures (send ws bs).1 = ((send ws bs).2.map Failure.write).toList := by
  fun_induction send ws bs with
  | case1 ws => rfl
  | case2 bs hbs =>
      have hn : bs.length ≠ 0 := fun h0 => hbs (List.eq_nil_of_length_eq_zero h0)
      rw [failures_cons, failure?_write_ok hn]
      rfl
  | case3 f ws bs hbs hf rest ih =>
      have hw : (Event.write bs (.error f)).failure? = none := if_pos hf
      rw [failures_cons, hw]
      exact ih
  | case4 f ws bs hbs hf =>
      have hw : (Event.write bs (.error f)).failure? = some (.write f) := if_neg hf
      rw [failures_cons, hw]
      rfl
  | case5 n ws bs hbs k hk => rfl
  | case6 n ws bs hbs k hk rest ih =>
      rw [failures_cons, failure?_write_ok hk]
      exact ih

/-- When sending does not fail, all bytes came over to the far end. -/
theorem sent_send (ws : List WriteAnswer) (bs : Bytes) :
    (send ws bs).2 = none → sent (send ws bs).1 = bs := by
  fun_induction send ws bs with
  | case1 ws => exact fun _ => rfl
  | case2 bs hbs =>
      intro _
      simp [sent, Event.sent]
  | case3 f ws bs hbs hf rest ih => exact ih
  | case4 f ws bs hbs hf =>
      intro h
      cases h
  | case5 n ws bs hbs k hk =>
      intro h
      cases h
  | case6 n ws bs hbs k hk rest ih =>
      intro h
      have hrest : sent rest.1 = bs.drop k := ih h
      calc sent (.write bs (.ok k) :: rest.1) = bs.take k ++ sent rest.1 := rfl
        _ = bs := by rw [hrest, List.take_append_drop]

/-- The bytes that came over to the far end are a prefix of those that were to be sent. -/
theorem sent_send_isPrefix (ws : List WriteAnswer) (bs : Bytes) : sent (send ws bs).1 <+: bs := by
  fun_induction send ws bs with
  | case1 ws => exact List.nil_prefix
  | case2 bs hbs => simp [Event.sent]
  | case3 f ws bs hbs hf rest ih => exact ih
  | case4 f ws bs hbs hf => exact List.nil_prefix
  | case5 n ws bs hbs k hk => exact List.nil_prefix
  | case6 n ws bs hbs k hk rest ih =>
      have htaken : bs.take k ++ sent rest.1 <+: bs.take k ++ bs.drop k :=
        (List.prefix_append_right_inj _).mpr ih
      rwa [List.take_append_drop] at htaken

/-- The first call offers all there is to send. It is the last one, or the next ones send what it did
not bring over. -/
theorem of_send_eq_cons {ws : List WriteAnswer} {bs : Bytes} {e : Event} {es : List Event}
    (h : (send ws bs).1 = e :: es) :
    bs ≠ [] ∧ (∃ answer, e = .write bs answer) ∧
      (es = [] ∨ ∃ ws' bs', es = (send ws' bs').1 ∧ e.sent ++ bs' = bs) := by
  revert h
  fun_cases send ws bs with
  | case1 ws =>
      intro h
      cases h
  | case2 bs hbs =>
      intro h
      cases h
      exact ⟨hbs, ⟨_, rfl⟩, Or.inl rfl⟩
  | case3 f ws bs hbs hf rest =>
      intro h
      cases h
      exact ⟨hbs, ⟨_, rfl⟩, Or.inr ⟨ws, bs, rfl, rfl⟩⟩
  | case4 f ws bs hbs hf =>
      intro h
      cases h
      exact ⟨hbs, ⟨_, rfl⟩, Or.inl rfl⟩
  | case5 n ws bs hbs k hk =>
      intro h
      cases h
      exact ⟨hbs, ⟨_, rfl⟩, Or.inl rfl⟩
  | case6 n ws bs hbs k hk rest =>
      intro h
      cases h
      exact ⟨hbs, ⟨_, rfl⟩, Or.inr ⟨ws, bs.drop k, rfl, List.take_append_drop k bs⟩⟩

/-- Each call offers exactly what did not come over with the calls before it, and that is never
nothing. -/
theorem sent_append_offered {ws : List WriteAnswer} {bs offered : Bytes}
    {answer : Except Fault Nat} {past rest : List Event}
    (h : (send ws bs).1 = past ++ .write offered answer :: rest) :
    sent past ++ offered = bs ∧ offered ≠ [] := by
  induction past generalizing ws bs with
  | nil =>
      obtain ⟨hbs, ⟨_, hfirst⟩, -⟩ := of_send_eq_cons h
      cases hfirst
      exact ⟨rfl, hbs⟩
  | cons e past ih =>
      obtain ⟨-, -, hnil | ⟨ws', bs', hnext, hsent⟩⟩ := of_send_eq_cons h
      · simp at hnil
      · obtain ⟨hrest, hne⟩ := ih hnext.symm
        refine ⟨?_, hne⟩
        calc sent (e :: past) ++ offered = e.sent ++ (sent past ++ offered) :=
              List.append_assoc _ _ _
          _ = bs := by rw [hrest, hsent]

/-- Behind an interrupted write stands another one that offers the same bytes. -/
theorem write_behind_interrupted (ws : List WriteAnswer) (bs : Bytes) {offered : Bytes} {f : Fault}
    {rest : List Event} (hf : f.kind = .interrupted) :
    ∀ past, (send ws bs).1 = past ++ .write offered (.error f) :: rest →
      ∃ answer rest', rest = .write offered answer :: rest' := by
  -- each call is either the interrupted one or stands in `past`, which gets shorter by it
  fun_induction send ws bs with
  | case1 ws =>
      intro past h
      simp at h
  | case2 bs hbs =>
      intro past h
      cases past <;> simp at h
  | case3 g ws bs hbs hg tail ih =>
      intro past h
      cases past with
      | nil =>
          simp only [List.nil_append, List.cons.injEq] at h
          obtain ⟨hw, rfl⟩ := h
          cases hw
          exact send_eq_cons ws hbs
      | cons e past => exact ih past (List.cons.inj h).2
  | case4 g ws bs hbs hg =>
      intro past h
      cases past with
      | nil =>
          simp only [List.nil_append, List.cons.injEq] at h
          obtain ⟨hw, -⟩ := h
          cases hw
          exact (hg hf).elim
      | cons e past => simp at h
  | case5 n ws bs hbs k hk =>
      intro past h
      cases past <;> simp at h
  | case6 n ws bs hbs k hk tail ih =>
      intro past h
      cases past with
      | nil => simp at h
      | cons e past => exact ih past (List.cons.inj h).2

end Session

end RelayProbe
