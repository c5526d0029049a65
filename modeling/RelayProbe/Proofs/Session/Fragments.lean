import RelayProbe.Proofs.Session.Run

set_option autoImplicit false

/-! # How a request is taken in fragments

The far end may take a request in as many fragments as it likes. Each call offers all that is left,
and a call that is not interrupted takes at least one byte or is the last one, so there are no more
of these calls than bytes (`countP_uninterrupted_send`); an interrupted call is made again, and costs
one of the answers that interrupt. The flush is reached exactly when everything was taken
(`flush_mem_run_iff`), and from there on nothing tells how many calls it took
(`exists_events_of_takesSome`).
-/

namespace RelayProbe

/-- Whether an answer interrupts the write, which is then made again. -/
def WriteAnswer.interrupts : WriteAnswer → Bool
  | accept _ => false
  | fail f => f.kind = .interrupted

/-- Whether an answer takes bytes, as many as it likes but at least one. -/
def WriteAnswer.takesSome : WriteAnswer → Bool
  | accept n => n ≠ 0
  | fail _ => false

namespace Session

open WriteAnswer

/-- Whether an event is a write that was interrupted. -/
def Event.isInterrupted : Event → Bool
  | write _ (.error f) => f.kind = .interrupted
  | _ => false

/-! ## How many calls there are -/

/-- **Every call but the interrupted ones costs a byte**: it takes one, or it fails with one left. -/
theorem countP_uninterrupted_send (ws : List WriteAnswer) (bs : Bytes) :
    (send ws bs).1.countP (!·.isInterrupted) ≤ bs.length := by
  -- there is a byte left whenever a call is made
  have hpos : ∀ {bs : Bytes}, bs ≠ [] → 1 ≤ bs.length := List.length_pos_iff.mpr
  fun_induction send ws bs with
  | case1 ws => exact Nat.le_refl 0
  | case2 bs hbs => exact hpos hbs
  | case3 f ws bs hbs hf rest ih =>
      have hagain : (!(Event.write bs (.error f)).isInterrupted) = false := by
        simp [Event.isInterrupted, hf]
      rw [List.countP_cons_of_neg (by simp [hagain])]
      exact ih
  | case4 f ws bs hbs hf =>
      calc _ ≤ [Event.write bs (.error f)].length := List.countP_le_length
        _ ≤ bs.length := hpos hbs
  | case5 n ws bs hbs k hk =>
      calc _ ≤ [Event.write bs (.ok 0)].length := List.countP_le_length
        _ ≤ bs.length := hpos hbs
  | case6 n ws bs hbs k hk rest ih =>
      have hk' : k ≤ bs.length := Nat.min_le_right n bs.length
      have hrest : rest.1.countP (!·.isInterrupted) ≤ bs.length - k := by
        rw [← List.length_drop]
        exact ih
      calc _ = rest.1.countP (!·.isInterrupted) + 1 := List.countP_cons_of_pos rfl
        _ ≤ bs.length - k + 1 := Nat.add_le_add_right hrest 1
        _ ≤ bs.length := by omega

/-- There are no more interrupted calls than answers that interrupt. -/
theorem countP_interrupted_send (ws : List WriteAnswer) (bs : Bytes) :
    (send ws bs).1.countP Event.isInterrupted ≤ ws.countP interrupts := by
  fun_induction send ws bs with
  | case1 ws => exact Nat.zero_le _
  | case2 bs hbs => exact Nat.le_refl 0
  | case3 f ws bs hbs hf rest ih =>
      have hevent : (Event.write bs (.error f)).isInterrupted = true := by
        simp [Event.isInterrupted, hf]
      have hanswer : (WriteAnswer.fail f).interrupts = true := by simp [interrupts, hf]
      rw [List.countP_cons_of_pos hevent, List.countP_cons_of_pos hanswer]
      exact Nat.add_le_add_right ih 1
  | case4 f ws bs hbs hf => simp [Event.isInterrupted, hf]
  | case5 n ws bs hbs k hk => exact Nat.zero_le _
  | case6 n ws bs hbs k hk rest ih =>
      have hanswer : ws.countP interrupts ≤ (WriteAnswer.accept n :: ws).countP interrupts :=
        (List.sublist_cons_self _ _).countP_le
      have hevent : ¬ (Event.write bs (.ok k)).isInterrupted = true := Bool.false_ne_true
      calc _ = rest.1.countP Event.isInterrupted := List.countP_cons_of_neg hevent
        _ ≤ ws.countP interrupts := ih
        _ ≤ _ := hanswer

/-! ## When everything is taken -/

/-- When sending fails, a byte is left that was not taken. -/
theorem length_sent_lt_of_fault (ws : List WriteAnswer) (bs : Bytes) :
    (send ws bs).2 ≠ none → (sent (send ws bs).1).length < bs.length := by
  have hpos : ∀ {bs : Bytes}, bs ≠ [] → 0 < bs.length := List.length_pos_iff.mpr
  fun_induction send ws bs with
  | case1 ws => exact fun h => (h rfl).elim
  | case2 bs hbs => exact fun h => (h rfl).elim
  | case3 f ws bs hbs hf rest ih => exact ih
  | case4 f ws bs hbs hf => exact fun _ => hpos hbs
  | case5 n ws bs hbs k hk => exact fun _ => hpos hbs
  | case6 n ws bs hbs k hk rest ih =>
      intro h
      have hrest : (sent rest.1).length < (bs.drop k).length := ih h
      show (bs.take k ++ sent rest.1).length < bs.length
      rw [List.length_append, List.length_take]
      rw [List.length_drop] at hrest
      omega

/-- Sending succeeds exactly when all bytes were taken. -/
theorem sent_send_eq_iff (ws : List WriteAnswer) (bs : Bytes) :
    sent (send ws bs).1 = bs ↔ faultOf? ws bs.length = none := by
  rw [← send_failure]
  constructor
  · intro hall
    by_contra hfault
    have hless := length_sent_lt_of_fault ws bs hfault
    rw [hall] at hless
    exact Nat.lt_irrefl _ hless
  · exact sent_send ws bs

/-- **The flush is reached exactly when the whole request was taken.** -/
theorem flush_mem_run_iff (request : Bytes) (script : Script) (sink : Sink) :
    (∃ f, Event.flush f ∈ (run request script sink).events) ↔
      sent (run request script sink).events = request := by
  rw [sent_run, sent_send_eq_iff]
  cases hw : faultOf? script.writes request.length with
  | some f =>
      refine iff_of_false ?_ (Option.some_ne_none f)
      rintro ⟨g, hg⟩
      rw [run_of_send_fault hw] at hg
      -- it would stand among the writes, or at the very end
      rcases List.mem_append.mp hg with hg | hg
      · cases isWrite_of_mem_send hg
      · simp [farewell] at hg
  | none =>
      refine iff_of_true ?_ rfl
      cases hf : script.flush with
      | some f => exact ⟨some f, by rw [run_of_flush_fault hw hf]; simp⟩
      | none => exact ⟨none, by rw [run_of_flushed hw hf]; simp⟩

/-! ## What the fragments leave no trace in -/

/-- Answers that all take something let everything through. -/
theorem faultOf_of_takesSome {ws : List WriteAnswer} (h : ∀ w ∈ ws, w.takesSome) (n : Nat) :
    faultOf? ws n = none := by
  have hnone : ws.findSome? fault? = none := by
    rw [List.findSome?_eq_none_iff]
    intro w hw
    have htakes := h w hw
    match w, htakes with
    | .accept (n + 1), _ => rfl
  rw [faultOf?, hnone, ite_self]

/-- When all answers take something, the events behind the writes are the same whatever the answers
are, and so are the records and the result. -/
theorem exists_events_of_takesSome (request : Bytes) (script : Script) (sink : Sink) :
    ∃ tail records result, (∀ e ∈ tail, e.isWrite = false) ∧
      ∀ ws, (∀ w ∈ ws, w.takesSome) → run request { script with writes := ws } sink =
        ⟨(send ws request).1 ++ tail, records, result⟩ := by
  have hfarewell : ∀ unread, ∀ e ∈ farewell script unread, e.isWrite = false := by
    intro unread e he
    simp only [farewell, List.mem_cons, List.not_mem_nil, or_false] at he
    rcases he with rfl | rfl <;> rfl
  rcases script.flush.eq_none_or_eq_some with hf | ⟨f, hf⟩
  · let r := receive script.arrivals sink
    refine ⟨.flush none :: r.events ++ farewell script r.unread,
      requestSent request.length :: r.records ++ farewellRecords script, r.result, ?_,
      fun ws hws => ?_⟩
    · intro e he
      rcases List.mem_append.mp he with he | he
      · rcases List.mem_cons.mp he with rfl | he
        · rfl
        · rcases mem_receive he with ⟨answer, rfl⟩ | ⟨text, rfl⟩ <;> rfl
      · exact hfarewell _ e he
    · have hthrough : faultOf? ws request.length = none := faultOf_of_takesSome hws _
      have hrun := @run_of_flushed request { script with writes := ws } hthrough hf sink
      simp only [List.append_assoc, List.cons_append] at hrun ⊢
      exact hrun
  · refine ⟨.flush (some f) :: farewell script script.arrivals, farewellRecords script,
      .error (.write f), ?_, fun ws hws => ?_⟩
    · intro e he
      rcases List.mem_cons.mp he with rfl | he
      · rfl
      · exact hfarewell _ e he
    · have hthrough : faultOf? ws request.length = none := faultOf_of_takesSome hws _
      exact @run_of_flush_fault request { script with writes := ws } f hthrough hf sink

/-- **Sending is exact, and its fragments cannot be seen.** Whatever the answers to the writes are:

* the bytes that the far end took are a beginning of the request, and each call offers exactly the
  rest of the request, which is never empty; so there is no call for an empty request, and none once
  everything was taken;
* there are no more uninterrupted calls than bytes in the request, and no more interrupted ones than
  answers that interrupt;
* the flush is reached exactly when the far end took the whole request;
* answers that all take something can be exchanged for any others that do: the result, the bytes
  sent, the output, the records and all events but the writes stay the same. -/
theorem run_sends_in_fragments (request : Bytes) (script : Script) (sink : Sink) :
    let o := run request script sink
    sent o.events <+: request ∧
      (∀ past offered answer rest, o.events = past ++ Event.write offered answer :: rest →
        sent past ++ offered = request ∧ offered ≠ []) ∧
      (request = [] → ∀ e ∈ o.events, e.isWrite = false) ∧
      o.events.countP (fun e => e.isWrite && !e.isInterrupted) ≤ request.length ∧
      o.events.countP Event.isInterrupted ≤ script.writes.countP interrupts ∧
      ((∃ f, Event.flush f ∈ o.events) ↔ sent o.events = request) ∧
      ∀ ws, (∀ w ∈ script.writes, w.takesSome) → (∀ w ∈ ws, w.takesSome) →
        let o' := run request { script with writes := ws } sink
        o'.result = o.result ∧ sent o'.events = sent o.events ∧
          output o'.events = output o.events ∧ o'.records = o.records ∧
          o'.events.filter (!·.isWrite) = o.events.filter (!·.isWrite) := by
  intro o
  obtain ⟨tail, hes, htail⟩ := exists_tail_run request script sink
  have hsent : sent o.events = sent (send script.writes request).1 := sent_run request script sink
  have hoffered : ∀ past offered answer rest,
      o.events = past ++ Event.write offered answer :: rest →
        sent past ++ offered = request ∧ offered ≠ [] := by
    intro past offered answer rest h
    obtain ⟨mid, -, hsend, -⟩ := write_of_run h
    exact sent_append_offered hsend
  refine ⟨?isPrefix, hoffered, ?nothing, ?calls, ?interrupted,
    flush_mem_run_iff request script sink, ?exchange⟩
  case isPrefix =>
    rw [hsent]
    exact sent_send_isPrefix script.writes request
  case nothing =>
    intro hempty e he
    rw [Bool.eq_false_iff]
    intro hwrite
    obtain ⟨offered, answer, rfl⟩ := Event.exists_eq_write hwrite
    obtain ⟨past, rest, hsplit⟩ := List.append_of_mem he
    obtain ⟨hall, hne⟩ := hoffered past offered answer rest hsplit
    rw [hempty, List.append_eq_nil_iff] at hall
    exact hne hall.2
  case calls =>
    -- behind sending there are no writes
    have hnone : tail.countP (fun e => e.isWrite && !e.isInterrupted) = 0 := by
      rw [List.countP_eq_zero]
      intro e he
      simp [htail e he]
    show List.countP _ (run request script sink).events ≤ _
    rw [hes, List.countP_append, hnone, Nat.add_zero]
    calc _ ≤ (send script.writes request).1.countP (!·.isInterrupted) :=
          List.countP_mono_left fun e _ he => (Bool.and_eq_true_iff.mp he).2
      _ ≤ request.length := countP_uninterrupted_send script.writes request
  case interrupted =>
    have hnone : tail.countP Event.isInterrupted = 0 := by
      rw [List.countP_eq_zero]
      intro e he hinterrupted
      have hwrite := htail e he
      cases e with
      | write offered answer => cases hwrite
      | _ => cases hinterrupted
    show List.countP _ (run request script sink).events ≤ _
    rw [hes, List.countP_append, hnone, Nat.add_zero]
    exact countP_interrupted_send script.writes request
  case exchange =>
    intro ws hall hall'
    obtain ⟨back, records, result, hback, hrun⟩ := exists_events_of_takesSome request script sink
    have ho : o = ⟨(send script.writes request).1 ++ back, records, result⟩ :=
      hrun script.writes hall
    have hwhole : ∀ ws, (∀ w ∈ ws, w.takesSome) → sent (send ws request).1 = request :=
      fun ws hws => (sent_send_eq_iff ws request).mpr (faultOf_of_takesSome hws _)
    have hwrites : ∀ ws, (send ws request).1.filter (!·.isWrite) = [] := by
      intro ws
      rw [List.filter_eq_nil_iff]
      intro e he
      simp [isWrite_of_mem_send he]
    intro o'
    rw [ho, show o' = _ from hrun ws hall']
    refine ⟨rfl, ?_, ?_, rfl, ?_⟩
    · rw [sent_append, sent_append, hwhole ws hall', hwhole script.writes hall]
    · rw [output_append, output_append, output_send, output_send]
    · rw [List.filter_append, List.filter_append, hwrites, hwrites]

/-- There can be more calls than bytes: here the first of two calls for one byte is interrupted. -/
theorem more_writes_than_bytes :
    let es := (run [0x61] { writes := [.fail (.bare .interrupted)] } {}).events
    ¬ es.countP Event.isWrite ≤ [0x61].length := by
  intro es
  obtain ⟨tail, hes, -⟩ := exists_tail_run [0x61] { writes := [.fail (.bare .interrupted)] } {}
  have hsend : (send [.fail (.bare .interrupted)] [0x61]).1 =
      [.write [0x61] (.error (.bare .interrupted)), .write [0x61] (.ok 1)] := rfl
  have htwo : 2 ≤ es.countP Event.isWrite := by
    rw [show es = _ from hes, hsend, List.countP_append]
    exact Nat.le_add_right 2 _
  exact Nat.not_le_of_lt htwo

end Session

end RelayProbe
