import RelayProbe.Proofs.Log
import RelayProbe.Proofs.Session.Verdict

set_option autoImplicit false

/-! # What is logged

Each event of a run has records of its own, and those of a run are the records of its events, in
their order (`records_run`). A run flushes once at most, before its first read, and shuts down
after the last one, so its log has four parts (`lines_run`). The log at another level is what that
level lets through of it.
-/

namespace RelayProbe

namespace Session

open WriteAnswer

section Views

variable (n : Nat) (e : Event) (es fs : List Event)

@[simp] theorem recordsOf_cons : recordsOf n (e :: es) = e.records n ++ recordsOf n es := rfl

@[simp] theorem recordsOf_append :
    recordsOf n (es ++ fs) = recordsOf n es ++ recordsOf n fs := List.flatMap_append

end Views

/-- Whether an event is a flush that succeeded. -/
def Event.flushed : Event → Bool
  | flush none => true
  | _ => false

/-- What a read gave, if an event is one. -/
def Event.answer? : Event → Option (Except Fault Bytes)
  | read _ answer => some answer
  | _ => none

/-- What the reads gave, in order. -/
def answers (es : List Event) : List (Except Fault Bytes) := es.filterMap Event.answer?

@[simp] theorem answers_cons (e : Event) (es : List Event) :
    answers (e :: es) = e.answer?.toList ++ answers es := by
  cases h : e.answer? with
  | none => exact List.filterMap_cons_none h
  | some answer => exact List.filterMap_cons_some h

@[simp] theorem answers_append (es fs : List Event) :
    answers (es ++ fs) = answers es ++ answers fs := List.filterMap_append

/-! ## Records follow events -/

/-- Nothing is logged about a write. -/
theorem recordsOf_send (n : Nat) (ws : List WriteAnswer) (bs : Bytes) :
    recordsOf n (send ws bs).1 = [] := by
  refine List.flatMap_eq_nil_iff.mpr fun e he => ?_
  obtain ⟨offered, answer, rfl⟩ := write_of_mem_send he
  rfl

@[simp] theorem recordsOf_printed (n : Nat) (text : Bytes) : recordsOf n (printed text) = [] := by
  refine List.flatMap_eq_nil_iff.mpr fun e he => ?_
  rw [mem_printed he]
  rfl

@[simp] theorem recordsOf_farewell (n : Nat) (script : Script) (unread : List Arrival) :
    recordsOf n (farewell script unread) = farewellRecords script := by
  rw [farewell, farewellRecords]
  cases script.shutdown <;> rfl

/-- A chunk is logged when it is read, whether or not its line is taken then. -/
theorem records_read_chunk (n room : Nat) {c : Bytes} (hc : c ≠ []) :
    (Event.read room (.ok c)).records n = [chunkReceived c.length] := by
  obtain ⟨b, bs, rfl⟩ := List.exists_cons_of_ne_nil hc
  rfl

theorem records_receive (n : Nat) (as : List Arrival) (sink : Sink) :
    (receive as sink).records = recordsOf n (receive as sink).events := by
  induction as using Arrival.readInduction generalizing sink with
  | fails as f rest h =>
      rw [receive_failure h]
      rfl
  | ends as rest h =>
      rw [receive_end h, recordsOf_cons, recordsOf_printed]
      rfl
  | chunk as c rest hc h ih =>
      by_cases hfit : sink.clip (Transcript.chunkLine c) = Transcript.chunkLine c
      · rw [receive_chunk hc h hfit]
        show chunkReceived c.length :: _ = recordsOf n (_ :: _ :: _)
        rw [recordsOf_cons, recordsOf_cons, records_read_chunk n _ hc, ih]
        rfl
      · rw [receive_chunk_short hc h hfit, recordsOf_cons, recordsOf_printed,
          records_read_chunk n _ hc]
        rfl

/-- **The log follows the events**: each event of a run has its records, and there are no others. -/
theorem records_run (request : Bytes) (script : Script) (sink : Sink) :
    (run request script sink).records =
      recordsOf request.length (run request script sink).events := by
  cases hw : faultOf? script.writes request.length with
  | some f =>
      rw [run_of_send_fault hw, recordsOf_append, recordsOf_send, recordsOf_farewell]
      rfl
  | none =>
      cases hf : script.flush with
      | some f =>
          rw [run_of_flush_fault hw hf, recordsOf_append, recordsOf_send, recordsOf_cons,
            recordsOf_farewell]
          rfl
      | none =>
          rw [run_of_flushed hw hf]
          simp only [recordsOf_append, recordsOf_send, recordsOf_cons, recordsOf_farewell,
            ← records_receive]
          rfl

/-! ## The lines of the log -/

/-- The line that is logged about what a read gave, if there is one. -/
def answerLine? : Except Fault Bytes → Option String
  | .error _ => none
  | .ok [] => some "TRACE Connection closed by peer"
  | .ok (b :: bs) => some s!"DEBUG Received chunk len={(b :: bs).length}"

theorem line_requestSent (n : Nat) : (requestSent n).line = s!"TRACE Request sent bytes={n}" := rfl

theorem lines_records_read (n room : Nat) (answer : Except Fault Bytes) :
    ((Event.read room answer).records n).map Log.Record.line = (answerLine? answer).toList := by
  match answer with
  | .error f => rfl
  | .ok [] => rfl
  | .ok (b :: bs) => rfl

theorem lines_farewellRecords (script : Script) :
    (farewellRecords script).map Log.Record.line =
      (script.shutdown.map fun f => s!"DEBUG Shutdown failed error={f.text}").toList ++
        ["INFO Connection closed"] := by
  rw [farewellRecords]
  cases script.shutdown <;> rfl

/-- Among reads and prints, what the reads gave makes up the lines. -/
theorem lines_recordsOf_reads (n : Nat) {es : List Event}
    (h : ∀ e ∈ es, (∃ room answer, e = .read room answer) ∨ ∃ text, e = .print text) :
    (recordsOf n es).map Log.Record.line = (answers es).filterMap answerLine? := by
  induction es with
  | nil => rfl
  | cons e es ih =>
      have hrest := ih fun d hd => h d (List.mem_cons_of_mem e hd)
      rw [recordsOf_cons, List.map_append, hrest]
      -- one line at most for a read, and none for what is printed
      rcases h e List.mem_cons_self with ⟨room, answer, rfl⟩ | ⟨text, rfl⟩
      · rw [lines_records_read]
        show _ = (answer :: answers es).filterMap answerLine?
        cases hline : answerLine? answer with
        | none => rw [List.filterMap_cons_none hline]; rfl
        | some line => rw [List.filterMap_cons_some hline]; rfl
      · rfl

/-- Sending reads nothing, and flushes nothing. -/
theorem flushed_answers_send (ws : List WriteAnswer) (bs : Bytes) :
    (send ws bs).1.any Event.flushed = false ∧ answers (send ws bs).1 = [] := by
  have hwrite : ∀ e ∈ (send ws bs).1, e.flushed = false ∧ e.answer? = none := by
    intro e he
    obtain ⟨offered, answer, rfl⟩ := write_of_mem_send he
    exact ⟨rfl, rfl⟩
  exact ⟨List.any_eq_false.mpr fun e he => by simp [(hwrite e he).1],
    List.filterMap_eq_nil_iff.mpr fun e he => (hwrite e he).2⟩

/-- **The four parts of the log**: the request, when the flush succeeds; what each read gave, up to
the first failure; the shutdown, when it fails; and the end of the connection. -/
theorem lines_run (request : Bytes) (script : Script) (sink : Sink) :
    (run request script sink).records.map Log.Record.line =
      (if (run request script sink).events.any Event.flushed
        then [s!"TRACE Request sent bytes={request.length}"] else []) ++
      (answers (run request script sink).events).filterMap answerLine? ++
      (script.shutdown.map fun f => s!"DEBUG Shutdown failed error={f.text}").toList ++
      ["INFO Connection closed"] := by
  obtain ⟨hflushed, hanswers⟩ := flushed_answers_send script.writes request
  have hend : ∀ unread, (farewell script unread).any Event.flushed = false ∧
      answers (farewell script unread) = [] := fun unread => ⟨rfl, rfl⟩
  cases hw : faultOf? script.writes request.length with
  | some f =>
      rw [run_of_send_fault hw]
      simp [hflushed, hanswers, hend, lines_farewellRecords]
  | none =>
      cases hf : script.flush with
      | some f =>
          rw [run_of_flush_fault hw hf]
          simp [hflushed, hanswers, hend, lines_farewellRecords, Event.flushed, Event.answer?]
      | none =>
          -- from the flush to the shutdown there are only reads and what they print
          have hreads : ∀ e ∈ (receive script.arrivals sink).events,
              (∃ room answer, e = .read room answer) ∨ ∃ text, e = .print text :=
            fun e he => (mem_receive he).imp_left fun ⟨answer, h⟩ => ⟨_, answer, h⟩
          rw [run_of_flushed hw hf]
          simp [hanswers, hend, lines_farewellRecords, Event.flushed, Event.answer?,
            records_receive request.length, lines_recordsOf_reads _ hreads, line_requestSent]

/-! ## Levels -/

/-- Only the end of the connection is logged as information. -/
theorem level_records {n : Nat} {e : Event} {r : Log.Record} (hr : r ∈ e.records n)
    (he : e.isClose = false) : r.level ≠ .info := by
  have hlevel : r.level = .trace ∨ r.level = .debug := by
    unfold Event.records at hr
    split at hr
    · exact Or.inl (List.mem_singleton.mp hr ▸ rfl)
    · exact Or.inl (List.mem_singleton.mp hr ▸ rfl)
    · exact Or.inr (List.mem_singleton.mp hr ▸ rfl)
    · exact Or.inr (List.mem_singleton.mp hr ▸ rfl)
    · cases he
    · cases hr
  rcases hlevel with h | h <;> simp [h]

/-- The end of the connection is logged last, and it is the only information. -/
theorem exists_records_run (request : Bytes) (script : Script) (sink : Sink) :
    ∃ rs, (run request script sink).records = rs ++ [connectionClosed] ∧
      ∀ r ∈ rs, r.level ≠ .info := by
  obtain ⟨body, unread, hes, hbody⟩ := exists_close_run request script sink
  refine ⟨recordsOf request.length (body ++ [.shutdown script.shutdown]), ?_, ?_⟩
  · -- the last record is that of the last event
    rw [records_run, hes, List.append_cons body, recordsOf_append _ (body ++ _)]
    rfl
  · intro r hr
    obtain ⟨e, he, hr⟩ := List.mem_flatMap.mp hr
    refine level_records hr ?_
    rcases List.mem_append.mp he with he | he
    · exact (hbody e he).2
    · rw [List.mem_singleton.mp he]
      rfl

/-! ## Counts -/

theorem tally_eq (es : List Event) :
    tally es = ⟨(chunks es).length, ((chunks es).map List.length).sum⟩ := by
  unfold tally
  induction chunks es with
  | nil => rfl
  | cons c cs ih =>
      rw [List.foldr_cons, ih, Summary.add, List.length_cons, List.map_cons, List.sum_cons,
        Nat.add_comm c.length]

/-- A run that ends well has counted the chunks of its events. -/
theorem tally_of_ok {request : Bytes} {script : Script} {sink : Sink} {summary : Summary}
    (h : (run request script sink).result = .ok summary) :
    summary = tally (run request script sink).events := by
  rw [result_run_eq_verdict, verdict] at h
  split at h
  · cases h
  · split at h
    · exact (Except.ok.inj h).symm
    · cases h

/-- An event has a record about a chunk when it brought one. -/
theorem filter_records (n : Nat) (e : Event) :
    (e.records n).filter (·.message = "Received chunk") =
      e.chunk?.toList.map fun c => chunkReceived c.length := by
  match e with
  | .write _ _ => rfl
  | .flush none => rfl
  | .flush (some f) => rfl
  | .read _ (.error f) => rfl
  | .read _ (.ok []) => rfl
  | .read _ (.ok (b :: bs)) => rfl
  | .print _ => rfl
  | .shutdown none => rfl
  | .shutdown (some f) => rfl
  | .close _ => rfl

theorem filter_recordsOf (n : Nat) (es : List Event) :
    (recordsOf n es).filter (·.message = "Received chunk") =
      (chunks es).map fun c => chunkReceived c.length := by
  induction es with
  | nil => rfl
  | cons e es ih =>
      rw [recordsOf_cons, chunks_cons, List.filter_append, List.map_append, filter_records, ih]

/-- At a level that lets them through, the records about chunks tell what a run that ends well has
counted. -/
theorem chunks_logged {request : Bytes} {script : Script} {sink : Sink} {summary : Summary}
    (h : (run request script sink).result = .ok summary) {t : Log.Threshold} (ht : 4 ≤ t.rank) :
    ∃ ns : List Nat,
      (Log.atLeast t (run request script sink).records).filter (·.message = "Received chunk") =
          ns.map chunkReceived ∧
        ns.length = summary.chunks ∧ ns.sum = summary.bytes := by
  obtain rfl := tally_of_ok h
  refine ⟨(chunks (run request script sink).events).map List.length, ?_, ?_, ?_⟩
  · -- the level and the message are asked for in either order
    rw [Log.Threshold.atLeast_eq_filter, List.filter_comm, records_run, filter_recordsOf,
      List.map_map]
    refine List.filter_eq_self.mpr fun r hr => ?_
    obtain ⟨c, -, rfl⟩ := List.mem_map.mp hr
    exact decide_eq_true ht
  · rw [tally_eq, List.length_map]
  · rw [tally_eq]

/-- **The log agrees with the events.** For every run:

* its records are those of its events, in order;
* as lines, they are the request when the flush succeeded, what each read gave that did not fail,
  the shutdown when it failed, and the end of the connection, which is always the last line and the
  only one of its level;
* for a text that stands for a level, by its name in any letter case or by its rank, what that level
  lets through are the records that are at least as severe, in order: all of them for `trace`, none
  for `off`; and the text as a whole filter lets the same through;
* when the run ends well, the lines about chunks at level `debug` or `trace` are as many as it has
  counted, and their lengths add up to the bytes that it has counted. -/
theorem run_logged (request : Bytes) (script : Script) (sink : Sink) :
    let o := run request script sink
    o.records = recordsOf request.length o.events ∧
      o.records.map Log.Record.line =
        (if o.events.any Event.flushed then [s!"TRACE Request sent bytes={request.length}"]
          else []) ++
        (answers o.events).filterMap answerLine? ++
        (script.shutdown.map fun f => s!"DEBUG Shutdown failed error={f.text}").toList ++
        ["INFO Connection closed"] ∧
      (∃ (body : List Event) (unread : List Arrival),
        o.events = body ++ [Event.shutdown script.shutdown, Event.close unread] ∧
        ∀ e ∈ body, e.isShutdown = false ∧ e.isClose = false) ∧
      (∃ rs, o.records = rs ++ [connectionClosed] ∧ ∀ r ∈ rs, r.level ≠ .info) ∧
      (∀ s n, Log.Threshold.Denotes s n → ∃ f t, Log.Filter.parse s = .ok f ∧
        Log.Threshold.parse? s = some t ∧ t.rank = n ∧
        f.apply o.records = Log.atLeast t o.records ∧
        Log.atLeast t o.records = o.records.filter (·.level.rank ≤ n) ∧
        (n = 5 → Log.atLeast t o.records = o.records) ∧
        (n = 0 → Log.atLeast t o.records = [])) ∧
      ∀ t summary, 4 ≤ Log.Threshold.rank t → o.result = .ok summary → ∃ ns : List Nat,
        ((Log.atLeast t o.records).filter (·.message = "Received chunk")).map Log.Record.line =
          ns.map (fun n => s!"DEBUG Received chunk len={n}") ∧
        ns.length = summary.chunks ∧ ns.sum = summary.bytes := by
  intro o
  refine ⟨records_run request script sink, lines_run request script sink,
    exists_close_run request script sink, exists_records_run request script sink,
    fun s n hs => ?levels, fun t summary ht h => ?counts⟩
  case levels =>
    obtain ⟨f, t, hf, ht, rfl, happly⟩ := Log.Filter.apply_of_denotes hs
    have hfilter := Log.Threshold.atLeast_eq_filter t o.records
    refine ⟨f, t, hf, ht, rfl, happly _, hfilter, fun hall => ?_, fun hnone => ?_⟩
    · rw [hfilter, List.filter_eq_self]
      exact fun r _ => decide_eq_true (hall ▸ r.level.rank_le)
    · rw [hfilter, List.filter_eq_nil_iff]
      exact fun r _ => by simp [hnone, Nat.ne_of_gt r.level.rank_pos]
  case counts =>
    obtain ⟨ns, hns, hchunks, hbytes⟩ := chunks_logged h ht
    refine ⟨ns, ?_, hchunks, hbytes⟩
    rw [hns, List.map_map]
    rfl

end Session

end RelayProbe
