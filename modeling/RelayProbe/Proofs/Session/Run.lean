import RelayProbe.Proofs.Session.Receive
import RelayProbe.Proofs.Session.Send

set_option autoImplicit false

/-! # A run is sending, flushing and receiving

A run goes one of three ways: sending fails, the flush fails, or what comes of the run is what comes
of receiving. In each of them the connection is shut down and closed at the end.
-/

namespace RelayProbe

namespace Session

open WriteAnswer

/-- The last events of a run: the connection is shut down and closed. -/
def farewell (script : Script) (unread : List Arrival) : List Event :=
  [.shutdown script.shutdown, .close unread]

@[simp] theorem output_farewell (script : Script) (unread : List Arrival) :
    output (farewell script unread) = [] := rfl

@[simp] theorem owed_farewell (script : Script) (unread : List Arrival) :
    owed (farewell script unread) = [] := rfl

@[simp] theorem chunks_farewell (script : Script) (unread : List Arrival) :
    chunks (farewell script unread) = [] := rfl

@[simp] theorem failures_farewell (script : Script) (unread : List Arrival) :
    failures (farewell script unread) = [] := rfl

/-- The records of the last events of a run. -/
def farewellRecords (script : Script) : List Log.Record :=
  (script.shutdown.map shutdownFailed).toList ++ [connectionClosed]

variable {request : Bytes} {script : Script} {events : List Event} {f : Fault}

/-- When sending fails nothing else comes of the exchange. -/
theorem exchange_of_send_fault (h : send script.writes request = (events, some f)) (sink : Sink) :
    exchange request script sink = ⟨events, [], .error (.write f), script.arrivals⟩ := by
  rw [exchange, h]

/-- When the flush fails nothing is read. -/
theorem exchange_of_flush_fault (h : send script.writes request = (events, none))
    (hf : script.flush = some f) (sink : Sink) :
    exchange request script sink =
      ⟨events ++ [.flush (some f)], [], .error (.write f), script.arrivals⟩ := by
  rw [exchange, h, hf]

/-- Behind the flush the answer is received. -/
theorem exchange_of_flushed (h : send script.writes request = (events, none))
    (hf : script.flush = none) (sink : Sink) :
    exchange request script sink =
      let r := receive script.arrivals sink
      ⟨events ++ .flush none :: r.events, requestSent request.length :: r.records, r.result,
        r.unread⟩ := by
  rw [exchange, h, hf]

/-- A run in which sending fails is over with that. -/
theorem run_of_send_fault (h : faultOf? script.writes request.length = some f)
    (sink : Sink) :
    run request script sink =
      ⟨(send script.writes request).1 ++ farewell script script.arrivals, farewellRecords script,
        .error (.write f)⟩ := by
  have hs : send script.writes request = ((send script.writes request).1, some f) := by
    rw [← h, ← send_failure]
  rw [run, exchange_of_send_fault hs]
  rfl

/-- A run in which the flush fails is over with that. -/
theorem run_of_flush_fault (h : faultOf? script.writes request.length = none)
    (hf : script.flush = some f) (sink : Sink) :
    run request script sink =
      ⟨(send script.writes request).1 ++ .flush (some f) :: farewell script script.arrivals,
        farewellRecords script, .error (.write f)⟩ := by
  have hs : send script.writes request = ((send script.writes request).1, none) := by
    rw [← h, ← send_failure]
  rw [run, exchange_of_flush_fault hs hf]
  simp [farewell, farewellRecords]

/-- In every other run the answer is received, and the run ends as that does. -/
theorem run_of_flushed (h : faultOf? script.writes request.length = none)
    (hf : script.flush = none) (sink : Sink) :
    run request script sink =
      let r := receive script.arrivals sink
      ⟨(send script.writes request).1 ++ .flush none :: r.events ++ farewell script r.unread,
        requestSent request.length :: r.records ++ farewellRecords script, r.result⟩ := by
  have hs : send script.writes request = ((send script.writes request).1, none) := by
    rw [← h, ← send_failure]
  rw [run, exchange_of_flushed hs hf]
  simp [farewell, farewellRecords]

/-- A run starts with the writes of sending and ends with the last events; in between it flushes,
reads and prints. -/
theorem exists_events_run (request : Bytes) (script : Script) (sink : Sink) :
    ∃ (tail : List Event) (unread : List Arrival),
      (run request script sink).events =
          (send script.writes request).1 ++ tail ++ farewell script unread ∧
        ∀ e ∈ tail, (∃ f, e = .flush f) ∨ (∃ room answer, e = .read room answer) ∨
          ∃ text, e = .print text := by
  cases hw : faultOf? script.writes request.length with
  | some f =>
      rw [run_of_send_fault hw]
      refine ⟨[], script.arrivals, by simp, fun e he => nomatch he⟩
  | none =>
      cases hf : script.flush with
      | some f =>
          rw [run_of_flush_fault hw hf]
          refine ⟨[.flush (some f)], script.arrivals, by simp, ?_⟩
          intro e he
          exact Or.inl ⟨some f, List.mem_singleton.mp he⟩
      | none =>
          rw [run_of_flushed hw hf]
          refine ⟨.flush none :: (receive script.arrivals sink).events, _, rfl, ?_⟩
          intro e he
          rcases List.mem_cons.mp he with rfl | he
          · exact Or.inl ⟨none, rfl⟩
          · rcases mem_receive he with ⟨answer, rfl⟩ | ⟨text, rfl⟩
            · exact Or.inr (Or.inl ⟨_, answer, rfl⟩)
            · exact Or.inr (Or.inr ⟨text, rfl⟩)

/-- A run makes no writes but those of sending. -/
theorem exists_tail_run (request : Bytes) (script : Script) (sink : Sink) :
    ∃ tail, (run request script sink).events = (send script.writes request).1 ++ tail ∧
      ∀ e ∈ tail, e.isWrite = false := by
  obtain ⟨tail, unread, hes, htail⟩ := exists_events_run request script sink
  refine ⟨tail ++ farewell script unread, hes.trans (List.append_assoc _ _ _), ?_⟩
  intro e he
  rcases List.mem_append.mp he with he | he
  · rcases htail e he with ⟨f, rfl⟩ | ⟨room, answer, rfl⟩ | ⟨text, rfl⟩ <;> rfl
  · simp only [farewell, List.mem_cons, List.not_mem_nil, or_false] at he
    rcases he with rfl | rfl <;> rfl

/-- The connection is shut down once and closed once, at the very end. -/
theorem exists_close_run (request : Bytes) (script : Script) (sink : Sink) :
    ∃ (body : List Event) (unread : List Arrival), (run request script sink).events =
        body ++ [Event.shutdown script.shutdown, Event.close unread] ∧
      ∀ e ∈ body, e.isShutdown = false ∧ e.isClose = false := by
  obtain ⟨tail, unread, hes, htail⟩ := exists_events_run request script sink
  refine ⟨_, unread, hes, ?_⟩
  intro e he
  rcases List.mem_append.mp he with he | he
  · obtain ⟨offered, answer, rfl⟩ := write_of_mem_send he
    exact ⟨rfl, rfl⟩
  · rcases htail e he with ⟨f, rfl⟩ | ⟨room, answer, rfl⟩ | ⟨text, rfl⟩ <;> exact ⟨rfl, rfl⟩

/-- A run brings over what sending does. -/
theorem sent_run (request : Bytes) (script : Script) (sink : Sink) :
    sent (run request script sink).events = sent (send script.writes request).1 := by
  obtain ⟨tail, he, htail⟩ := exists_tail_run request script sink
  rw [he, sent_append, sent_of_no_write htail, List.append_nil]

/-- A write of a run is one of sending, and the writes behind it are too. -/
theorem write_of_run {past rest : List Event} {offered : Bytes} {answer : Except Fault Nat}
    {sink : Sink}
    (h : (run request script sink).events = past ++ .write offered answer :: rest) :
    ∃ mid tail, (send script.writes request).1 = past ++ .write offered answer :: mid ∧
      rest = mid ++ tail ∧ ∀ e ∈ tail, e.isWrite = false := by
  obtain ⟨tail, hes, htail⟩ := exists_tail_run request script sink
  rw [hes] at h
  have hnot : Event.write offered answer ∉ tail := fun hmem => nomatch htail _ hmem
  obtain ⟨mid, hsend, hrest⟩ := stands_left h hnot
  exact ⟨mid, tail, hsend, hrest, htail⟩

/-- Behind an interrupted write of a run stands another one that offers the same bytes. -/
theorem write_behind_interrupted_run {past rest : List Event} {offered : Bytes} {f : Fault}
    {sink : Sink} (h : (run request script sink).events = past ++ .write offered (.error f) :: rest)
    (hf : f.kind = .interrupted) : ∃ answer rest', rest = .write offered answer :: rest' := by
  obtain ⟨mid, tail, hsend, rfl, -⟩ := write_of_run h
  obtain ⟨answer, rest', rfl⟩ := write_behind_interrupted _ _ hf past hsend
  exact ⟨answer, rest' ++ tail, rfl⟩

end Session

end RelayProbe
