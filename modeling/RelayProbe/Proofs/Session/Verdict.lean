import RelayProbe.Proofs.Session.Transcript
import RelayProbe.Probe

set_option autoImplicit false

/-! # How a run ends

A run succeeds in one way only and fails in several. Its events tell which: the first failure among
them, the sink if not all was printed that had to be, or none (`result_run_eq_verdict`). No run
meets two failures of the connection, and none goes on after one (`failures_run_cases`). What the
shutdown does is left out of this.
-/

namespace RelayProbe

namespace Session

open WriteAnswer

/-! ## The verdict on what was received -/

/-- A chunk whose line was printed adds to the counts and changes nothing else. -/
theorem verdict_chunk (refusal : Fault) (room : Nat) {c : Bytes} (hc : c ≠ []) (es : List Event) :
    verdict refusal (.read room (.ok c) :: .print (Transcript.chunkLine c) :: es) =
      (verdict refusal es).map (·.add c.length) := by
  obtain ⟨b, bs, rfl⟩ := List.exists_cons_of_ne_nil hc
  have hf : failures (.read room (.ok (b :: bs)) ::
      .print (Transcript.chunkLine (b :: bs)) :: es) = failures es := rfl
  have ht : tally (.read room (.ok (b :: bs)) :: .print (Transcript.chunkLine (b :: bs)) :: es) =
      (tally es).add (b :: bs).length := rfl
  have hall : output (.read room (.ok (b :: bs)) ::
      .print (Transcript.chunkLine (b :: bs)) :: es) =
        owed (.read room (.ok (b :: bs)) :: .print (Transcript.chunkLine (b :: bs)) :: es) ↔
      output es = owed es := List.append_right_inj (Transcript.chunkLine (b :: bs))
  rw [verdict_eq, verdict_eq, hf, ht]
  cases (failures es).head? with
  | some f => rfl
  | none =>
      simp only [hall]
      by_cases hp : output es = owed es
      · rw [if_pos hp, if_pos hp]
        rfl
      · rw [if_neg hp, if_neg hp]
        rfl

/-- A last read is judged by whether the text that is due for it was printed. -/
theorem verdict_read_printed (refusal : Fault) (room : Nat) (c text : Bytes) :
    verdict refusal (.read room (.ok c) :: printed text) =
      if text = (Event.read room (.ok c)).owed then .ok (tally [.read room (.ok c)])
      else .error (.output refusal) := by
  obtain ⟨ho, hc, hf⟩ := silent_printed text
  simp [verdict_eq, tally, hf, ho, hc, Event.printed]

/-- What comes of receiving is the verdict on its events. -/
theorem result_receive_eq_verdict (as : List Arrival) (sink : Sink) :
    (receive as sink).result = verdict sink.lastWord (receive as sink).events := by
  induction as using Arrival.readInduction generalizing sink with
  | fails as f rest h =>
      rw [receive_failure h]
      rfl
  | ends as rest h =>
      rw [receive_end h, verdict_read_printed]
      rfl
  | chunk as c rest hc h ih =>
      by_cases hfit : sink.clip (Transcript.chunkLine c) = Transcript.chunkLine c
      · rw [receive_chunk hc h hfit]
        -- a sink that took a line will fail in the same way, so the verdict on the rest is the same
        show _ = verdict sink.lastWord (.read _ (.ok c) :: .print _ :: _)
        rw [verdict_chunk _ _ hc, ← (Sink.view_after hfit (chunkLine_ne_nil c)).2, ← ih]
      · rw [receive_chunk_short hc h hfit, verdict_read_printed, owed_read_chunk hc, if_neg hfit]

/-- Receiving meets one failure of the connection at most, and only when all was printed that had to
be. -/
theorem failures_receive (as : List Arrival) (sink : Sink) :
    failures (receive as sink).events = [] ∨
      ∃ f, failures (receive as sink).events = [f] ∧
        output (receive as sink).events = owed (receive as sink).events := by
  induction as using Arrival.readInduction generalizing sink with
  | fails as f rest h =>
      rw [receive_failure h]
      exact Or.inr ⟨.read f, rfl, rfl⟩
  | ends as rest h =>
      rw [receive_end h]
      exact Or.inl (by simp [Event.failure?, silent_printed])
  | chunk as c rest hc h ih =>
      by_cases hfit : sink.clip (Transcript.chunkLine c) = Transcript.chunkLine c
      · rw [receive_chunk hc h hfit]
        rcases ih (sink.after (Transcript.chunkLine c).length) with hnone | ⟨f, hone, hprinted⟩
        · refine Or.inl ?_
          simpa [Event.failure?] using hnone
        · refine Or.inr ⟨f, ?_, ?_⟩
          · simpa [Event.failure?] using hone
          · rw [output_cons, output_cons, owed_cons, owed_cons, owed_read_chunk hc, hprinted]
            rfl
      · rw [receive_chunk_short hc h hfit]
        exact Or.inl (by simp [silent_printed])

/-! ## The verdict on the whole run -/

/-- The failures of a run are those of sending and of flushing, or else those of receiving. -/
theorem failures_run (request : Bytes) (script : Script) (sink : Sink) :
    failures (run request script sink).events =
      match faultOf? script.writes request.length, script.flush with
      | some f, _ => [.write f]
      | none, some f => [.write f]
      | none, none => failures (receive script.arrivals sink).events := by
  have hsend : failures (send script.writes request).1 =
      ((faultOf? script.writes request.length).map Failure.write).toList := by
    rw [failures_send, send_failure]
  cases hw : faultOf? script.writes request.length with
  | some f =>
      rw [run_of_send_fault hw]
      simp [hsend, hw]
  | none =>
      cases hf : script.flush with
      | some f =>
          rw [run_of_flush_fault hw hf]
          simp [hsend, hw, Event.failure?]
      | none =>
          rw [run_of_flushed hw hf]
          simp [hsend, hw, Event.failure?]

/-- A run meets one failure of the connection at most, and only when all was printed that had to
be. -/
theorem failures_run_cases (request : Bytes) (script : Script) (sink : Sink) :
    failures (run request script sink).events = [] ∨
      ∃ f, failures (run request script sink).events = [f] ∧
        output (run request script sink).events = owed (run request script sink).events := by
  rw [failures_run]
  cases hw : faultOf? script.writes request.length with
  | some f =>
      refine Or.inr ⟨.write f, rfl, ?_⟩
      rw [run_of_send_fault hw]
      simp [output_send, owed_send]
  | none =>
      cases hf : script.flush with
      | some f =>
          refine Or.inr ⟨.write f, rfl, ?_⟩
          rw [run_of_flush_fault hw hf]
          simp [output_send, owed_send, Event.printed, Event.owed]
      | none =>
          rw [run_of_flushed hw hf]
          simpa [output_send, owed_send, Event.printed, Event.owed] using
            failures_receive script.arrivals sink

/-- **How a run ends can be told from its events**: by the first failure of the connection, else by
the sink if not all was printed that had to be, else well. -/
theorem result_run_eq_verdict (request : Bytes) (script : Script) (sink : Sink) :
    (run request script sink).result = verdict sink.lastWord (run request script sink).events := by
  rw [verdict_eq, failures_run]
  cases hw : faultOf? script.writes request.length with
  | some f =>
      rw [run_of_send_fault hw]
      rfl
  | none =>
      cases hf : script.flush with
      | some f =>
          rw [run_of_flush_fault hw hf]
          rfl
      | none =>
          rw [run_of_flushed hw hf]
          -- the events around receiving print nothing, owe nothing and bring no chunk
          show (receive script.arrivals sink).result = _
          rw [result_receive_eq_verdict, verdict_eq]
          simp [output_send, owed_send, chunks_send, tally, Event.printed, Event.owed, Event.chunk?]

/-! ## Which runs end well -/

/-- A run ends well when the writes let the request through, the flush succeeds, the stream comes to
its end and the sink takes the whole transcript. -/
theorem ok_run_iff (request : Bytes) (script : Script) (sink : Sink) :
    (∃ s, (run request script sink).result = .ok s) ↔
      faultOf? script.writes request.length = none ∧ script.flush = none ∧
        Arrival.stop? script.arrivals = none ∧
        sink.clip (Arrival.transcript script.arrivals).print =
          (Arrival.transcript script.arrivals).print := by
  rw [result_run]
  cases faultOf? script.writes request.length with
  | some f => simp
  | none =>
      cases script.flush with
      | some f => simp
      | none =>
          by_cases hall : sink.clip (Arrival.transcript script.arrivals).print =
              (Arrival.transcript script.arrivals).print
          · simp only [if_pos hall, Arrival.ending]
            cases Arrival.stop? script.arrivals <;> simp [hall]
          · simp [hall]

/-- A stream that comes to its end is read to its end, if the sink takes what is printed. -/
theorem read_end_mem_receive {as : List Arrival} {sink : Sink} (hs : Arrival.stop? as = none)
    (hall : sink.clip (Arrival.transcript as).print = (Arrival.transcript as).print) :
    .read Arrival.readRoom (.ok []) ∈ (receive as sink).events := by
  induction as using Arrival.readInduction generalizing sink with
  | fails as f rest h =>
      rw [(Arrival.hear_failure h).2] at hs
      cases hs
  | ends as rest h =>
      rw [receive_end h]
      exact List.mem_cons_self
  | chunk as c rest hc h ih =>
      rw [(Arrival.transcript_of_chunk hc h).1, Sink.clip_append_eq_iff] at hall
      rw [receive_chunk hc h hall.1]
      rw [(Arrival.hear_chunk hc h).2] at hs
      exact List.mem_cons_of_mem _ (List.mem_cons_of_mem _ (ih hs hall.2))

/-- What a run that ends well did. -/
theorem ok_run_iff_events (request : Bytes) (script : Script) (sink : Sink) :
    (∃ s, (run request script sink).result = .ok s) ↔
      sent (run request script sink).events = request ∧
        .flush none ∈ (run request script sink).events ∧
        (∃ room, .read room (.ok []) ∈ (run request script sink).events) ∧
        failures (run request script sink).events = [] ∧
        output (run request script sink).events = owed (run request script sink).events := by
  constructor
  · intro hok
    obtain ⟨hw, hf, hs, hall⟩ := (ok_run_iff request script sink).mp hok
    obtain ⟨s, hresult⟩ := hok
    rw [result_run_eq_verdict, verdict_eq] at hresult
    have hfail : failures (run request script sink).events = [] := by
      cases hfs : failures (run request script sink).events with
      | nil => rfl
      | cons f fs =>
          rw [hfs] at hresult
          cases hresult
    refine ⟨?_, ?_, ⟨Arrival.readRoom, ?_⟩, hfail, ?_⟩
    · rw [sent_run]
      exact sent_send _ _ ((send_failure _ _).trans hw)
    · rw [run_of_flushed hw hf]
      simp
    · have hend := read_end_mem_receive hs hall
      rw [run_of_flushed hw hf]
      simp [hend]
    · -- else the verdict would be the failure of the sink
      by_contra hne
      rw [hfail] at hresult
      simp [hne] at hresult
  · rintro ⟨-, -, -, hfail, hout⟩
    rw [result_run_eq_verdict, verdict_eq, hfail]
    exact ⟨_, if_pos hout⟩

/-! ## Failures one by one -/

/-- A run that fails because of its sink fails as the sink does when it is handed the transcript. -/
theorem failure_of_output {request : Bytes} {script : Script} {sink : Sink} {f : Fault}
    (h : (run request script sink).result = .error (.output f)) :
    (sink.writePieces [(Arrival.transcript script.arrivals).print]).failure = some f := by
  rw [result_run] at h
  split at h
  · cases h
  · cases h
  · by_cases hall : sink.clip (Arrival.transcript script.arrivals).print =
        (Arrival.transcript script.arrivals).print
    · rw [if_pos hall, Arrival.ending] at h
      cases hs : Arrival.stop? script.arrivals <;> simp [hs] at h
    · rw [if_neg hall] at h
      cases h
      have hne : (Arrival.transcript script.arrivals).print ≠ [] := by
        intro h0
        exact hall (h0 ▸ sink.clip_nil)
      rw [Sink.writePieces_eq_write, List.flatten_singleton, Sink.write, if_neg hne]
      exact if_neg hall

/-- A run over an open connection does not fail to connect. -/
theorem result_run_ne_connect (request : Bytes) (script : Script) (sink : Sink) (target : String)
    (f : Fault) : (run request script sink).result ≠ .error (.connect target f) := by
  rw [result_run]
  split
  · simp
  · simp
  · rw [Arrival.ending]
    split
    · split <;> simp
    · simp

/-- A probe that cannot connect does nothing; any other is a run over the connection. -/
theorem run_probe (net : Network) (target : String) (request : Bytes) (sink : Sink) :
    (∀ f, net.connect target = .error f →
        Probe.run net target request sink = ⟨[], [], .error (.connect target f)⟩) ∧
      (∀ c, net.connect target = .ok c →
        (Probe.run net target request sink).events = (run request c.script sink).events ∧
          (Probe.run net target request sink).result = (run request c.script sink).result) := by
  constructor
  · intro f h
    rw [Probe.run, h]
  · intro c h
    rw [Probe.run, h]
    exact ⟨rfl, rfl⟩

/-- **Which runs succeed, and how the others fail.** A run succeeds exactly when the writes let the
whole request through, the flush succeeds, every read succeeds up to the end of the stream and the
sink takes every line; its events then say so. Else it ends with the first failure among its events,
of which there is one at most, or with that of the sink if there is none. An interrupted write is no
failure: the same bytes are offered again. How the shutdown goes does not matter. A probe fails to
connect exactly when the connection cannot be made, with the target as it was given, and then does
nothing else. -/
theorem run_classified (request : Bytes) (script : Script) (sink : Sink) :
    let o := run request script sink
    let text := (Arrival.transcript script.arrivals).print
    ((∃ s, o.result = .ok s) ↔
        faultOf? script.writes request.length = none ∧ script.flush = none ∧
          Arrival.stop? script.arrivals = none ∧ sink.clip text = text) ∧
      ((∃ s, o.result = .ok s) ↔
        sent o.events = request ∧ .flush none ∈ o.events ∧
          (∃ room, .read room (.ok []) ∈ o.events) ∧ failures o.events = [] ∧
          output o.events = owed o.events) ∧
      o.result = verdict sink.lastWord o.events ∧
      (failures o.events = [] ∨
        ∃ f, failures o.events = [f] ∧ output o.events = owed o.events) ∧
      (∀ f, o.result = .error (.output f) → (sink.writePieces [text]).failure = some f) ∧
      (∀ past offered f rest, o.events = past ++ .write offered (.error f) :: rest →
        f.kind = .interrupted → ∃ answer rest', rest = .write offered answer :: rest') ∧
      (∀ f, (run request { script with shutdown := f } sink).result = o.result) ∧
      ∀ net target,
        (∀ f, net.connect target = .error f →
          Probe.run net target request sink = ⟨[], [], .error (.connect target f)⟩) ∧
        (∀ c, net.connect target = .ok c →
          (Probe.run net target request sink).events = (run request c.script sink).events ∧
            (Probe.run net target request sink).result = (run request c.script sink).result) ∧
        ∀ t f, (Probe.run net target request sink).result = .error (.connect t f) ↔
          t = target ∧ net.connect target = .error f := by
  intro o text
  refine ⟨ok_run_iff request script sink, ok_run_iff_events request script sink,
    result_run_eq_verdict request script sink, ?_, fun f h => failure_of_output h,
    fun past offered f rest h hf => write_behind_interrupted_run h hf, fun f => rfl, ?_⟩
  · exact failures_run_cases request script sink
  · intro net target
    obtain ⟨hfail, hopen⟩ := run_probe net target request sink
    refine ⟨hfail, hopen, fun t f => ?_⟩
    cases hc : net.connect target with
    | error g =>
        rw [hfail g hc]
        simp only [Except.error.injEq, Failure.connect.injEq]
        exact and_congr_left' eq_comm
    | ok c =>
        rw [(hopen c hc).2]
        simp [result_run_ne_connect]

/-- A failed write need not be the end of a run: here the first write is interrupted, and the run
succeeds. -/
theorem ok_run_of_failed_write :
    let o := run [0x61, 0x62, 0x63]
      { writes := [.fail (.bare .interrupted)], arrivals := [.data [0x78]] } {}
    (∃ rest, o.events = .write [0x61, 0x62, 0x63] (.error (.bare .interrupted)) :: rest) ∧
      o.result = .ok ⟨1, 1⟩ := by
  intro o
  constructor
  · obtain ⟨tail, hes, -⟩ := exists_tail_run [0x61, 0x62, 0x63]
      { writes := [.fail (.bare .interrupted)], arrivals := [.data [0x78]] } {}
    exact ⟨_, hes⟩
  · have hchunks : Arrival.chunks [.data [0x78]] = [[0x78]] := by
      rw [Arrival.chunks_data (List.cons_ne_nil _ _),
        Arrival.pieces_of_length_le (List.cons_ne_nil _ _) (by decide)]
      rfl
    have hend : Arrival.ending [.data [0x78]] = .ok ⟨1, 1⟩ := by
      rw [Arrival.ending, hchunks]
      rfl
    have hresult := result_run [0x61, 0x62, 0x63]
      { writes := [.fail (.bare .interrupted)], arrivals := [.data [0x78]] } {}
    rw [← hend]
    exact hresult.trans (if_pos (Sink.clip_of_capacity_none rfl _))

end Session

end RelayProbe
