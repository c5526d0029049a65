import RelayProbe.Proofs.Session.Transcript

set_option autoImplicit false

/-! # A bounded sink cuts the run off

A sink that has room for the whole output changes nothing about a run (`receive_of_clip_eq`). One
that has not leaves the events of the run as they are up to the line that does not fit, and ends the
run in this line (`receive_cut`). Neither the pieces in which a line is handed out nor the size of
the calls nor the interruptions can be told from what a run leaves behind (`receive_congr`).
-/

namespace RelayProbe

namespace Session

open Arrival WriteAnswer

/-- Sinks that look the same let receiving do the same. -/
theorem receive_congr (as : List Arrival) {s t : Sink} (hc : s.capacity = t.capacity)
    (hl : s.lastWord = t.lastWord) : receive as s = receive as t := by
  induction as using readInduction generalizing s t with
  | fails as f rest h => rw [receive_failure h, receive_failure h]
  | ends as rest h => rw [receive_end h, receive_end h, Sink.clip_congr hc, hl]
  | chunk as c rest hne h ih =>
      have hclip := Sink.clip_congr hc (Transcript.chunkLine c)
      by_cases hfit : s.clip (Transcript.chunkLine c) = Transcript.chunkLine c
      · obtain ⟨hc', hl'⟩ := Sink.after_congr hc hl hfit (chunkLine_ne_nil c)
        rw [receive_chunk hne h hfit, receive_chunk hne h (hclip ▸ hfit), ih hc' hl']
      · rw [receive_chunk_short hne h hfit, receive_chunk_short hne h (hclip ▸ hfit), hclip, hl]

/-- All sinks that take the whole transcript let receiving do the same. -/
theorem receive_of_clip_eq (as : List Arrival) {s t : Sink}
    (hs : s.clip (Arrival.transcript as).print = (Arrival.transcript as).print)
    (ht : t.clip (Arrival.transcript as).print = (Arrival.transcript as).print) :
    receive as s = receive as t := by
  induction as using readInduction generalizing s t with
  | fails as f rest h => rw [receive_failure h, receive_failure h]
  | ends as rest h =>
      rw [(transcript_of_end h).1] at hs ht
      rw [receive_end h, receive_end h, hs, ht, if_pos rfl, if_pos rfl]
  | chunk as c rest hne h ih =>
      rw [(transcript_of_chunk hne h).1, Sink.clip_append_eq_iff] at hs ht
      rw [receive_chunk hne h hs.1, receive_chunk hne h ht.1, ih hs.2 ht.2]

/-- **A sink without room for the transcript** cuts the events in the line that holds the first
byte it has no room for. -/
theorem receive_cut (as : List Arrival) {s t : Sink} {n : Nat} (ht : t.capacity = none)
    (hs : s.capacity = some n) (hn : n < (Arrival.transcript as).print.length) :
    ∃ before read after,
      (receive as t).events = before ++ read :: .print read.owed :: after ∧ read.isRead = true ∧
        (output before).length ≤ n ∧ n < (output before).length + read.owed.length ∧
        (receive as s).events =
          before ++ read :: printed (read.owed.take (n - (output before).length)) := by
  -- both sinks change along the reads: `s` keeps less room for each line, `t` never has a bound
  induction as using readInduction generalizing s t n with
  | fails as f rest h =>
      -- nothing is printed, so there is room for it
      rw [(transcript_of_failure h).1] at hn
      exact absurd hn (Nat.not_lt_zero n)
  | ends as rest h =>
      rw [(transcript_of_end h).1] at hn
      refine ⟨[], .read readRoom (.ok []), [], ?_, rfl, Nat.zero_le n, ?_, ?_⟩
      · rw [receive_end h, Sink.clip_of_capacity_none ht, printed_of_ne_nil endLine_ne_nil]
        rfl
      · exact (Nat.zero_add _).symm ▸ hn
      · rw [receive_end h, Sink.clip_of_capacity hs]
        rfl
  | chunk as c rest hne h ih =>
      rw [(transcript_of_chunk hne h).1, List.length_append] at hn
      have hall := Sink.clip_of_capacity_none ht (Transcript.chunkLine c)
      have hrest : (t.after (Transcript.chunkLine c).length).capacity = none := by
        rw [(Sink.view_after hall (chunkLine_ne_nil c)).1, ht]
        rfl
      rw [receive_chunk hne h hall]
      by_cases hfit : s.clip (Transcript.chunkLine c) = Transcript.chunkLine c
      · -- the line fits, so the cut is behind it
        have hle : (Transcript.chunkLine c).length ≤ n := Sink.clip_eq_self_iff.mp hfit n hs
        have hs' : (s.after (Transcript.chunkLine c).length).capacity =
            some (n - (Transcript.chunkLine c).length) := by
          rw [(Sink.view_after hfit (chunkLine_ne_nil c)).1, hs]
          rfl
        obtain ⟨before, read, after, htail, hread, hbefore, hline, hcut⟩ :=
          ih hrest hs' (by omega)
        rw [receive_chunk hne h hfit]
        refine ⟨.read readRoom (.ok c) :: .print (Transcript.chunkLine c) :: before, read, after,
          ?_, hread, ?_, ?_, ?_⟩
        · simp [htail]
        · simp [Event.printed]
          omega
        · simp [Event.printed]
          omega
        · simp [hcut, Event.printed, Nat.sub_sub]
      · -- the line of this very chunk is the one that is cut
        have hlt : n < (Transcript.chunkLine c).length := by
          refine Nat.lt_of_not_le fun hle => hfit ?_
          rw [Sink.clip_of_capacity hs, List.take_of_length_le hle]
        rw [receive_chunk_short hne h hfit, Sink.clip_of_capacity hs]
        refine ⟨[], .read readRoom (.ok c),
          (receive rest (t.after (Transcript.chunkLine c).length)).events, ?_, rfl, Nat.zero_le n,
          ?_, ?_⟩
        · rw [owed_read_chunk hne]
          rfl
        · rw [owed_read_chunk hne]
          exact (Nat.zero_add _).symm ▸ hlt
        · rw [owed_read_chunk hne]
          rfl

/-! ## The whole run -/

variable {request : Bytes} {script : Script}

/-- Sinks that look the same let a run do the same. -/
theorem run_congr {s t : Sink} (hc : s.capacity = t.capacity) (hl : s.lastWord = t.lastWord) :
    run request script s = run request script t := by
  cases hw : faultOf? script.writes request.length with
  | some f => rw [run_of_send_fault hw, run_of_send_fault hw]
  | none =>
      cases hf : script.flush with
      | some f => rw [run_of_flush_fault hw hf, run_of_flush_fault hw hf]
      | none => rw [run_of_flushed hw hf, run_of_flushed hw hf, receive_congr _ hc hl]

/-- A sink takes of a run as much as it can of what a sink without bound takes. -/
theorem output_run_eq_clip (s : Sink) {t : Sink} (ht : t.capacity = none) :
    output (run request script s).events = s.clip (output (run request script t).events) := by
  cases hw : faultOf? script.writes request.length with
  | some f =>
      rw [run_of_send_fault hw, run_of_send_fault hw]
      simp [output_send]
  | none =>
      cases hf : script.flush with
      | some f =>
          rw [run_of_flush_fault hw hf, run_of_flush_fault hw hf]
          simp [output_send, Event.printed]
      | none =>
          rw [output_run hw hf, output_run hw hf, Sink.clip_of_capacity_none ht]

/-- A run goes on unchanged when its sink has room for all that a sink without bound takes of it. -/
theorem run_of_length_le {s t : Sink} (ht : t.capacity = none)
    (hs : ∀ n, s.capacity = some n → (output (run request script t).events).length ≤ n) :
    run request script s = run request script t := by
  cases hw : faultOf? script.writes request.length with
  | some f => rw [run_of_send_fault hw, run_of_send_fault hw]
  | none =>
      cases hf : script.flush with
      | some f => rw [run_of_flush_fault hw hf, run_of_flush_fault hw hf]
      | none =>
          have hall := Sink.clip_of_capacity_none ht (Arrival.transcript script.arrivals).print
          rw [output_run hw hf, hall] at hs
          rw [run_of_flushed hw hf, run_of_flushed hw hf,
            receive_of_clip_eq _ (Sink.clip_eq_self_iff.mpr hs) hall]

/-- A run is cut off when its sink has no room for all that a sink without bound takes of it. -/
theorem run_of_lt_length {s t : Sink} {n : Nat} (ht : t.capacity = none) (hs : s.capacity = some n)
    (hn : n < (output (run request script t).events).length) :
    (run request script s).result = .error (.output s.lastWord) ∧
      ∃ before read after unread,
        (run request script t).events = before ++ read :: .print read.owed :: after ∧
          read.isRead = true ∧
          (output before).length ≤ n ∧ n < (output before).length + read.owed.length ∧
          (run request script s).events =
            before ++ read :: printed (read.owed.take (n - (output before).length)) ++
              [.shutdown script.shutdown, .close unread] := by
  cases hw : faultOf? script.writes request.length with
  | some f =>
      rw [run_of_send_fault hw] at hn
      simp [output_send] at hn
  | none =>
      cases hf : script.flush with
      | some f =>
          rw [run_of_flush_fault hw hf] at hn
          simp [output_send, Event.printed] at hn
      | none =>
          have hall := Sink.clip_of_capacity_none ht (Arrival.transcript script.arrivals).print
          rw [output_run hw hf, hall] at hn
          constructor
          · have hne : ¬ s.clip (Arrival.transcript script.arrivals).print =
                (Arrival.transcript script.arrivals).print :=
              fun h => Nat.not_le_of_lt hn (Sink.clip_eq_self_iff.mp h n hs)
            rw [run_of_flushed hw hf]
            show (receive script.arrivals s).result = _
            rw [result_receive, if_neg hne]
          · obtain ⟨before, read, after, htail, hread, hbefore, hline, hcut⟩ :=
              receive_cut script.arrivals ht hs hn
            rw [run_of_flushed hw hf, run_of_flushed hw hf]
            refine ⟨(send script.writes request).1 ++ .flush none :: before, read,
              after ++ farewell script (receive script.arrivals t).unread,
              (receive script.arrivals s).unread, ?_, hread, ?_, ?_, ?_⟩
            · simp [htail]
            · simpa [output_send, Event.printed] using hbefore
            · simpa [output_send, Event.printed] using hline
            · simp [hcut, output_send, Event.printed, farewell]

/-- **A sink is only seen by its limit.** A sink with room for `n` bytes (or without a bound),
whatever it takes in one call and however often it is interrupted, takes the first `n` bytes of
what a sink without bound takes. If that is all, the whole run is the same; else the run fails with
the refusal of the sink, and its events stop in the line that holds byte number `n`. -/
theorem run_sink_refinement (request : Bytes) (script : Script) {sink : Sink}
    (hm : sink.callBound ≠ some 0) :
    let full := run request script {}
    let cut := run request script sink
    let text := output full.events
    output cut.events = text.take (Sink.capped sink.room text.length) ∧
      ((∀ n, sink.room = some n → text.length ≤ n) → cut = full) ∧
      (∀ n, sink.room = some n → n < text.length →
        cut.result = .error (.output
          (sink.refusal.getD (.described .writeZero "failed to write whole buffer"))) ∧
        ∃ before read after unread,
          full.events = before ++ read :: .print read.owed :: after ∧ read.isRead = true ∧
            (output before).length ≤ n ∧ n < (output before).length + read.owed.length ∧
            cut.events =
              before ++ read :: printed (read.owed.take (n - (output before).length)) ++
                [.shutdown script.shutdown, .close unread]) ∧
      (∀ other : Sink, other.callBound ≠ some 0 → other.room = sink.room →
        other.refusal = sink.refusal → run request script other = cut) ∧
      ∀ ps qs : List Bytes, ps.flatten = qs.flatten →
        sink.writePieces ps = sink.writePieces qs := by
  intro full cut text
  have hc := Sink.capacity_of_callBound hm
  have hfull : ({} : Sink).capacity = none := rfl
  have hfits : (∀ n, sink.room = some n → text.length ≤ n) → cut = full := by
    intro hle
    exact run_of_length_le hfull (hc ▸ hle)
  refine ⟨?_, hfits, ?_, ?_, ?_⟩
  · rw [output_run_eq_clip sink hfull, Sink.clip, hc]
  · intro n hr hn
    have hl := Sink.lastWord_of_callBound hm
    obtain ⟨hresult, hcut⟩ := run_of_lt_length hfull (hc.trans hr) hn
    exact ⟨hl ▸ hresult, hcut⟩
  · intro other hm' hroom href
    refine run_congr ?_ ?_
    · rw [Sink.capacity_of_callBound hm', hc, hroom]
    · rw [Sink.lastWord_of_callBound hm', Sink.lastWord_of_callBound hm, href]
  · intro ps qs h
    rw [Sink.writePieces_eq_write, Sink.writePieces_eq_write, h]

/-- A sink with room for three bytes, which it takes one by one and with interruptions, takes the
first three bytes of the first line. -/
theorem run_sink_refinement_three_bytes :
    let sink : Sink := { room := some 3, callBound := some 1, interrupts := 2 }
    let o := run [0x61] { arrivals := [.data [0x78]] } sink
    sink.callBound ≠ some 0 ∧ output o.events = [0x52, 0x65, 0x63] ∧
      o.result = .error (.output (.described .writeZero "failed to write whole buffer")) := by
  intro sink o
  have hm : sink.callBound ≠ some 0 := by decide
  obtain ⟨hout, -, hcut, -⟩ := run_sink_refinement [0x61] { arrivals := [.data [0x78]] } hm
  have hchunks : Arrival.chunks [.data [0x78]] = [[0x78]] := by
    rw [chunks_data (List.cons_ne_nil _ _),
      pieces_of_length_le (List.cons_ne_nil _ _) (by decide)]
    rfl
  have htext : output (run [0x61] { arrivals := [.data [0x78]] } {}).events =
      Transcript.chunkLine [0x78] ++ Transcript.endLine := by
    rw [output_run rfl rfl, Sink.clip_of_capacity_none rfl, Arrival.transcript, hchunks]
    rfl
  rw [htext] at hout hcut
  exact ⟨hm, hout, (hcut 3 rfl (by decide)).1⟩

end Session

end RelayProbe
