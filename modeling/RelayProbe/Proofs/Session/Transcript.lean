import RelayProbe.Proofs.Session.Run
import RelayProbe.Proofs.Transcript

set_option autoImplicit false

/-! # What a run prints and how it ends

A stream has a transcript: a line for each of its pieces, and the line at the end if it comes to
its end. A run that gets to receive prints of this transcript as much as its sink takes
(`output_receive`). If that is all of it, the run ends as the stream does; else it ends with the
failure of the sink (`result_receive`).
-/

namespace RelayProbe

namespace Arrival

/-- The transcript of a stream. -/
def transcript (as : List Arrival) : Transcript := ⟨chunks as, (stop? as).isNone⟩

/-- How receiving a stream ends if all of it can be printed. -/
def ending (as : List Arrival) : Except Failure Summary :=
  match stop? as with
  | none => .ok ⟨(chunks as).length, ((chunks as).map List.length).sum⟩
  | some f => .error (.read f)

theorem transcript_of_failure {as rest : List Arrival} {f : Fault}
    (h : take as = (.error f, rest)) :
    (transcript as).print = [] ∧ ending as = .error (.read f) := by
  obtain ⟨hc, hs⟩ := hear_failure h
  simp [transcript, Transcript.print, ending, hc, hs]

theorem transcript_of_end {as rest : List Arrival} (h : take as = (.ok [], rest)) :
    (transcript as).print = Transcript.endLine ∧ ending as = .ok {} := by
  obtain ⟨hc, hs⟩ := hear_end h
  simp [transcript, Transcript.print, ending, hc, hs]

theorem transcript_of_chunk {as rest : List Arrival} {c : Bytes} (hc : c ≠ [])
    (h : take as = (.ok c, rest)) :
    (transcript as).print = Transcript.chunkLine c ++ (transcript rest).print ∧
      ending as = (ending rest).map (·.add c.length) := by
  obtain ⟨hcs, hs⟩ := hear_chunk hc h
  constructor
  · simp [transcript, Transcript.print, hcs, hs]
  · rw [ending, ending, hcs, hs]
    cases stop? rest with
    | none => simp [Except.map, Summary.add, Nat.add_comm]
    | some f => rfl

end Arrival

namespace Session

open Arrival WriteAnswer

/-! ## Receiving -/

/-- What is printed of a stream is its transcript, as far as the sink takes it. -/
theorem output_receive (as : List Arrival) (sink : Sink) :
    output (receive as sink).events = sink.clip (Arrival.transcript as).print := by
  -- for every sink, since a printed line leaves one with less room for the next reads
  induction as using readInduction generalizing sink with
  | fails as f rest h =>
      rw [receive_failure h, (transcript_of_failure h).1, Sink.clip_nil]
      rfl
  | ends as rest h =>
      rw [receive_end h, (transcript_of_end h).1]
      exact output_printed _
  | chunk as c rest hc h ih =>
      rw [(transcript_of_chunk hc h).1]
      by_cases hfit : sink.clip (Transcript.chunkLine c) = Transcript.chunkLine c
      · rw [receive_chunk hc h hfit, Sink.clip_append hfit]
        show Transcript.chunkLine c ++ output (receive rest _).events = _
        rw [ih]
      · -- nothing behind the line that does not fit is taken
        rw [receive_chunk_short hc h hfit, Sink.clip_append_of_ne hfit]
        exact output_printed _

/-- Receiving ends as the stream does, or with the failure of a sink that does not take the whole
transcript. -/
theorem result_receive (as : List Arrival) (sink : Sink) :
    (receive as sink).result =
      if sink.clip (Arrival.transcript as).print = (Arrival.transcript as).print then ending as
      else .error (.output sink.lastWord) := by
  induction as using readInduction generalizing sink with
  | fails as f rest h =>
      rw [receive_failure h, (transcript_of_failure h).1, (transcript_of_failure h).2,
        if_pos (Sink.clip_nil sink)]
  | ends as rest h =>
      rw [receive_end h, (transcript_of_end h).1, (transcript_of_end h).2]
  | chunk as c rest hc h ih =>
      obtain ⟨ht, he⟩ := transcript_of_chunk hc h
      rw [ht, he]
      by_cases hfit : sink.clip (Transcript.chunkLine c) = Transcript.chunkLine c
      · rw [receive_chunk hc h hfit, Sink.clip_append hfit]
        show (receive rest _).result.map _ = _
        rw [ih, (Sink.view_after hfit (chunkLine_ne_nil c)).2]
        -- the rest of the transcript decides, since the line of the chunk is taken whole
        simp only [List.append_right_inj]
        split <;> rfl
      · rw [receive_chunk_short hc h hfit,
          if_neg fun hall => hfit (Sink.clip_append_eq_iff.mp hall).1]

/-! ## The whole run -/

/-- A run that sends the request and flushes prints of the transcript as much as its sink takes. -/
theorem output_run {request : Bytes} {script : Script}
    (hw : faultOf? script.writes request.length = none) (hf : script.flush = none) (sink : Sink) :
    output (run request script sink).events =
      sink.clip (Arrival.transcript script.arrivals).print := by
  rw [run_of_flushed hw hf, ← output_receive]
  simp [output_send, Event.printed]

/-- **How a run ends**, by its script and its sink: sending comes first, then the flush, and then
receiving. -/
theorem result_run (request : Bytes) (script : Script) (sink : Sink) :
    (run request script sink).result =
      match faultOf? script.writes request.length, script.flush with
      | some f, _ => .error (.write f)
      | none, some f => .error (.write f)
      | none, none =>
          if sink.clip (Arrival.transcript script.arrivals).print =
              (Arrival.transcript script.arrivals).print then ending script.arrivals
          else .error (.output sink.lastWord) := by
  cases hw : faultOf? script.writes request.length with
  | some f => rw [run_of_send_fault hw]
  | none =>
      cases hf : script.flush with
      | some f => rw [run_of_flush_fault hw hf]
      | none =>
          rw [run_of_flushed hw hf]
          exact result_receive script.arrivals sink

/-- **The exact transcript of a session.** When the writes and the flush succeed and the sink takes
everything, the output is one line for each piece of each entry that stands before the stream stops,
in order, and then the line at the end, if the stream came to its end. The counts are those of the
pieces; a stream that fails gives its failure. The escaped form of the lines hides nothing: read back,
the output gives the pieces, byte by byte, and whether the stream came to its end. -/
theorem run_transcript {request : Bytes} {script : Script} {sink : Sink}
    (hw : faultOf? script.writes request.length = none) (hf : script.flush = none)
    (hs : sink.capacity = none) :
    let ps := (heard script.arrivals).flatMap pieces
    output (run request script sink).events =
        ps.flatMap Transcript.chunkLine ++
          (if stop? script.arrivals = none then Transcript.endLine else []) ∧
      ((run request script sink).result =
        match stop? script.arrivals with
        | none => .ok ⟨ps.length, (ps.map List.length).sum⟩
        | some f => .error (.read f)) ∧
      Transcript.read? (output (run request script sink).events) =
        some ⟨ps, (stop? script.arrivals).isNone⟩ := by
  intro ps
  have hout : output (run request script sink).events = (Arrival.transcript script.arrivals).print := by
    rw [output_run hw hf, Sink.clip_of_capacity_none hs]
  refine ⟨?output, ?result, ?readBack⟩
  case output =>
    rw [hout]
    simp [Arrival.transcript, Transcript.print, Arrival.chunks, ps]
  case readBack =>
    rw [hout, Transcript.read_print]
    rfl
  case result =>
    have hall := Sink.clip_of_capacity_none hs (Arrival.transcript script.arrivals).print
    rw [result_run, hw, hf]
    show (if _ then _ else _) = _
    rw [if_pos hall]
    rfl

/-- An entry of 4097 bytes is printed in two lines, before the line at the end. -/
theorem run_transcript_two_pieces :
    let script : Script :=
      { writes := [.accept 1], arrivals := [.data (List.replicate 4097 0x61), .data []] }
    let o := run [0x61, 0x62, 0x63] script {}
    output o.events =
        Transcript.chunkLine (List.replicate 4096 0x61) ++ Transcript.chunkLine [0x61] ++
          Transcript.endLine ∧
      o.result = .ok ⟨2, 4097⟩ ∧
      Transcript.read? (output o.events) = some ⟨[List.replicate 4096 0x61, [0x61]], true⟩ := by
  intro script o
  have hpieces : pieces (List.replicate 4097 0x61) = [List.replicate 4096 0x61, [0x61]] := by
    have hne : List.replicate 4097 (0x61 : UInt8) ≠ [] := List.cons_ne_nil _ _
    rw [pieces_of_ne_nil hne, List.take_replicate, List.drop_replicate]
    exact congrArg _ (pieces_of_length_le (List.cons_ne_nil _ _) (by decide))
  have hstop : stop? script.arrivals = none := rfl
  have hheard : heard script.arrivals = [List.replicate 4097 0x61] := rfl
  obtain ⟨hout, hresult, hread⟩ := @run_transcript [0x61, 0x62, 0x63] script {} (by decide) rfl rfl
  rw [hheard, List.flatMap_singleton, hpieces, hstop] at hout hresult hread
  refine ⟨?_, ?_, hread⟩
  · rw [hout, List.flatMap_cons, List.flatMap_singleton, if_pos rfl]
  · rw [hresult]
    simp only [List.map_cons, List.length_replicate]
    rfl

end Session

end RelayProbe
