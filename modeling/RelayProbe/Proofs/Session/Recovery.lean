import RelayProbe.Proofs.Session.Transcript
import RelayProbe.Proofs.Transcript

set_option autoImplicit false

/-! # What was received can be told from the output

A sink that takes everything ends up with the printed form of what the run received
(`output_run_eq_print`), and a printed transcript can be read back. So the output of a run tells
which chunks came in, where one ended and the next began, and whether the end of the stream was
found.
-/

namespace RelayProbe

namespace Session

open WriteAnswer

/-! ## What the events of a run say was received -/

/-- Writes find no end of the stream. -/
theorem foundEnd_of_writes {es : List Event} (h : ∀ e ∈ es, e.isWrite = true) :
    es.any Event.foundEnd = false := by
  rw [List.any_eq_false]
  intro e he
  obtain ⟨offered, answer, rfl⟩ := Event.exists_eq_write (h e he)
  exact Bool.false_ne_true

theorem foundEnd_send (ws : List WriteAnswer) (bs : Bytes) :
    (send ws bs).1.any Event.foundEnd = false :=
  foundEnd_of_writes fun _ he => isWrite_of_mem_send he

@[simp] theorem foundEnd_farewell (script : Script) (unread : List Arrival) :
    (farewell script unread).any Event.foundEnd = false := rfl

/-- A read that gave a chunk, and the line about it, stand at the front of what was received. -/
theorem transcript_read_chunk {c : Bytes} (hc : c ≠ []) (room : Nat) (text : Bytes)
    (es : List Event) :
    transcript (.read room (.ok c) :: .print text :: es) =
      ⟨c :: (transcript es).chunks, (transcript es).ended⟩ := by
  obtain ⟨b, bs, rfl⟩ := List.exists_cons_of_ne_nil hc
  rfl

/-- If the sink takes the whole transcript of a stream, receiving receives all of it. -/
theorem transcript_receive {as : List Arrival} {sink : Sink}
    (hall : sink.clip (Arrival.transcript as).print = (Arrival.transcript as).print) :
    transcript (receive as sink).events = Arrival.transcript as := by
  induction as using Arrival.readInduction generalizing sink with
  | fails as f rest h =>
      obtain ⟨hc, hs⟩ := Arrival.hear_failure h
      rw [receive_failure h, Arrival.transcript, hc, hs]
      rfl
  | ends as rest h =>
      obtain ⟨hc, hs⟩ := Arrival.hear_end h
      rw [receive_end h, Arrival.transcript, hc, hs, transcript, chunks_cons,
        (silent_printed _).2.1]
      rfl
  | chunk as c rest hc h ih =>
      obtain ⟨hcs, hs⟩ := Arrival.hear_chunk hc h
      rw [(Arrival.transcript_of_chunk hc h).1, Sink.clip_append_eq_iff] at hall
      rw [receive_chunk hc h hall.1]
      show transcript (.read _ (.ok c) :: .print _ :: (receive rest _).events) = _
      rw [transcript_read_chunk hc, ih hall.2, Arrival.transcript, Arrival.transcript, hcs, hs]

/-! ## The output of a run -/

/-- All that a run receives is received after the flush. -/
theorem transcript_run {request : Bytes} {script : Script}
    (hw : faultOf? script.writes request.length = none) (hf : script.flush = none) (sink : Sink) :
    transcript (run request script sink).events =
      transcript (receive script.arrivals sink).events := by
  rw [run_of_flushed hw hf]
  simp [transcript, chunks_send, foundEnd_send, Event.foundEnd, Event.chunk?]

/-- A sink that takes everything ends up with the printed form of what was received, also when the
run fails. -/
theorem output_run_eq_print (request : Bytes) (script : Script) {sink : Sink}
    (hs : sink.capacity = none) :
    output (run request script sink).events =
      (transcript (run request script sink).events).print := by
  cases hw : faultOf? script.writes request.length with
  | some f =>
      rw [run_of_send_fault hw]
      simp [transcript, output_send, chunks_send, foundEnd_send, Transcript.print]
  | none =>
      cases hf : script.flush with
      | some f =>
          rw [run_of_flush_fault hw hf]
          simp [transcript, output_send, chunks_send, foundEnd_send, Event.foundEnd, Event.printed,
            Event.chunk?, Transcript.print]
      | none =>
          have hall := Sink.clip_of_capacity_none hs (Arrival.transcript script.arrivals).print
          rw [transcript_run hw hf, output_run hw hf, transcript_receive hall, hall]

/-- **The printed transcript loses nothing.** Whatever chunks were received and whether the end was
found, the lines that are printed for them can be read back. So for two runs whose sinks take
everything, equal output means that the same chunks were received, with the same bytes and cut at
the same places, and that both found the end of the stream or neither. -/
theorem transcript_of_output :
    (∀ (cs : List Bytes) (ended : Bool),
        Transcript.read? (cs.flatMap Transcript.chunkLine ++
          if ended then Transcript.endLine else []) = some ⟨cs, ended⟩) ∧
      (∀ request script (sink : Sink), sink.capacity = none →
        Transcript.read? (output (run request script sink).events) =
          some (transcript (run request script sink).events)) ∧
      ∀ request₁ script₁ (sink₁ : Sink) request₂ script₂ (sink₂ : Sink),
        sink₁.capacity = none → sink₂.capacity = none →
        output (run request₁ script₁ sink₁).events = output (run request₂ script₂ sink₂).events →
        chunks (run request₁ script₁ sink₁).events = chunks (run request₂ script₂ sink₂).events ∧
          ((∃ e ∈ (run request₁ script₁ sink₁).events, e.foundEnd) ↔
            ∃ e ∈ (run request₂ script₂ sink₂).events, e.foundEnd) := by
  have hread : ∀ request script (sink : Sink), sink.capacity = none →
      Transcript.read? (output (run request script sink).events) =
        some (transcript (run request script sink).events) := by
    intro request script sink hs
    rw [output_run_eq_print request script hs]
    exact Transcript.read_print _
  refine ⟨fun cs ended => Transcript.read_print ⟨cs, ended⟩, hread, ?_⟩
  intro request₁ script₁ sink₁ request₂ script₂ sink₂ hs₁ hs₂ hout
  have h₁ := hread request₁ script₁ sink₁ hs₁
  have h₂ := hread request₂ script₂ sink₂ hs₂
  rw [hout, h₂] at h₁
  obtain ⟨hchunks, hended⟩ := Transcript.mk.inj (Option.some.inj h₁)
  refine ⟨hchunks.symm, ?_⟩
  rw [← List.any_eq_true, ← List.any_eq_true, hended]

/-- One entry of 4097 bytes and two of 4096 and one leave the same output, and so the same
chunks. -/
theorem transcript_of_output_two_entries :
    let o₁ := run [] { arrivals := [.data (List.replicate 4097 0x61)] } {}
    let o₂ := run [0x62] { arrivals := [.data (List.replicate 4096 0x61), .data [0x61]] }
      { callBound := some 1 }
    output o₁.events = output o₂.events ∧ chunks o₁.events = chunks o₂.events := by
  intro o₁ o₂
  have hlong : List.replicate 4097 (0x61 : UInt8) ≠ [] := List.cons_ne_nil _ _
  have hfull : List.replicate 4096 (0x61 : UInt8) ≠ [] := List.cons_ne_nil _ _
  have hlast : Arrival.pieces [0x61] = [[0x61]] :=
    Arrival.pieces_of_length_le (List.cons_ne_nil _ _) (by decide)
  have hcut : Arrival.pieces (List.replicate 4097 0x61) = [List.replicate 4096 0x61, [0x61]] := by
    rw [Arrival.pieces_of_ne_nil hlong, List.take_replicate, List.drop_replicate]
    exact congrArg _ hlast
  have hchunks : Arrival.chunks [.data (List.replicate 4097 0x61)] =
      Arrival.chunks [.data (List.replicate 4096 0x61), .data [0x61]] := by
    rw [Arrival.chunks_data hlong, hcut, Arrival.chunks_data hfull,
      Arrival.chunks_data (List.cons_ne_nil _ _), hlast,
      Arrival.pieces_of_length_le hfull (List.length_replicate ▸ Nat.le_refl _)]
    exact List.append_assoc [_] [_] _
  have hheard : Arrival.transcript [.data (List.replicate 4097 0x61)] =
      Arrival.transcript [.data (List.replicate 4096 0x61), .data [0x61]] := by
    rw [Arrival.transcript, Arrival.transcript, hchunks, Arrival.stop?_data hlong,
      Arrival.stop?_data hfull, Arrival.stop?_data (List.cons_ne_nil _ _)]
  have hout : output o₁.events = output o₂.events := by
    rw [output_run (by decide) rfl, output_run (by decide) rfl, hheard,
      Sink.clip_of_capacity_none rfl, Sink.clip_of_capacity_none rfl]
  exact ⟨hout, (transcript_of_output.2.2 _ _ _ _ _ _ rfl rfl hout).1⟩

end Session

end RelayProbe
