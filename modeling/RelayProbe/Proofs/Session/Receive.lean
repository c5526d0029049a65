import RelayProbe.Proofs.Session.Trace
import RelayProbe.Proofs.Sink
import RelayProbe.Session.Heard

set_option autoImplicit false

/-! # Receiving, one read at a time

A read fails, finds the end of the stream, or gives a chunk. For each of the three this file says
once what `Session.receive` leaves behind, with the sink as a text that is cut off, and what is left
to be heard. Everything else about receiving follows by induction along the reads
(`Arrival.readInduction`).
-/

namespace RelayProbe

namespace Arrival

/-- **Induction along the reads**: a stream fails, or it ends, or it gives a chunk and goes on. -/
@[elab_as_elim]
theorem readInduction {P : List Arrival → Prop}
    (fails : ∀ as f rest, take as = (.error f, rest) → P as)
    (ends : ∀ as rest, take as = (.ok [], rest) → P as)
    (chunk : ∀ as c rest, c ≠ [] → take as = (.ok c, rest) → P rest → P as)
    (as : List Arrival) : P as := by
  induction hw : weight as using Nat.strongRecOn generalizing as with
  | ind w ih =>
      cases h : take as with
      | mk answer rest =>
          match answer, h with
          | .error f, h => exact fails as f rest h
          | .ok [], h => exact ends as rest h
          | .ok (b :: bs), h =>
              have hlt : weight rest < w := hw ▸ weight_take h
              exact chunk as (b :: bs) rest (List.cons_ne_nil b bs) h (ih _ hlt rest rfl)

/-- The chunks that the reads of a stream give: its pieces, entry by entry. -/
def chunks (as : List Arrival) : List Bytes := (heard as).flatMap pieces

theorem pieces_nil : pieces [] = [] := by rw [pieces, if_pos rfl]

/-- The first piece of some bytes is what one read takes of them. -/
theorem pieces_of_ne_nil {bs : Bytes} (h : bs ≠ []) :
    pieces bs = bs.take readRoom :: pieces (bs.drop readRoom) := by
  rw [pieces, if_neg h]

/-- Bytes that fit into one read are a piece of their own. -/
theorem pieces_of_length_le {bs : Bytes} (h : bs ≠ []) (hle : bs.length ≤ readRoom) :
    pieces bs = [bs] := by
  rw [pieces_of_ne_nil h, List.take_of_length_le hle, List.drop_eq_nil_of_le hle, pieces_nil]

theorem chunks_data {bs : Bytes} (h : bs ≠ []) (as : List Arrival) :
    chunks (.data bs :: as) = pieces bs ++ chunks as := by
  rw [chunks, heard, if_neg h, List.flatMap_cons, chunks]

theorem stop?_data {bs : Bytes} (h : bs ≠ []) (as : List Arrival) :
    stop? (.data bs :: as) = stop? as := by
  rw [stop?, if_neg h]

/-- A read that fails is all that is heard. -/
theorem hear_failure {as rest : List Arrival} {f : Fault} (h : take as = (.error f, rest)) :
    chunks as = [] ∧ stop? as = some f := by
  rcases as with _ | ⟨_ | g, as⟩
  · simp [take] at h
  · simp [take] at h
  · simp only [take, Prod.mk.injEq, Except.error.injEq] at h
    obtain ⟨rfl, -⟩ := h
    exact ⟨rfl, rfl⟩

/-- A read that finds the end of the stream is all that is heard. -/
theorem hear_end {as rest : List Arrival} (h : take as = (.ok [], rest)) :
    chunks as = [] ∧ stop? as = none := by
  rcases as with _ | ⟨bs | f, as⟩
  · exact ⟨rfl, rfl⟩
  · simp only [take, Prod.mk.injEq, Except.ok.injEq, List.take_eq_nil_iff] at h
    have hbs : bs = [] := h.1.resolve_left (by decide)
    subst hbs
    exact ⟨rfl, rfl⟩
  · simp [take] at h

/-- A read that gives a chunk gives the first one that is heard, and leaves the others. -/
theorem hear_chunk {as rest : List Arrival} {c : Bytes} (hc : c ≠ [])
    (h : take as = (.ok c, rest)) :
    chunks as = c :: chunks rest ∧ stop? as = stop? rest := by
  rcases as with _ | ⟨bs | f, as⟩
  · simp only [take, Prod.mk.injEq, Except.ok.injEq] at h
    exact (hc h.1.symm).elim
  · simp only [take, Prod.mk.injEq, Except.ok.injEq] at h
    obtain ⟨rfl, rfl⟩ := h
    have hbs : bs ≠ [] := by
      rintro rfl
      exact hc List.take_nil
    rw [chunks_data hbs, pieces_of_ne_nil hbs, stop?_data hbs]
    by_cases hle : bs.length ≤ readRoom
    · -- the entry is read to its end
      rw [if_pos hle, List.drop_eq_nil_of_le hle, pieces_nil]
      exact ⟨rfl, rfl⟩
    · have hd : bs.drop readRoom ≠ [] := fun h0 => hle (List.drop_eq_nil_iff.mp h0)
      rw [if_neg hle, chunks_data hd, stop?_data hd]
      exact ⟨rfl, rfl⟩
  · simp [take] at h

end Arrival

namespace Session

/-! ## What a read leads to -/

theorem endLine_ne_nil : Transcript.endLine ≠ [] := by simp [Transcript.endLine]

theorem chunkLine_ne_nil (chunk : Bytes) : Transcript.chunkLine chunk ≠ [] := by
  simp [Transcript.chunkLine]

/-- The last line is handed out in pieces, but written as one text. -/
theorem writePieces_endPieces (sink : Sink) :
    sink.writePieces Transcript.endPieces =
      ⟨sink.clip Transcript.endLine,
        if sink.clip Transcript.endLine = Transcript.endLine then none else some sink.lastWord,
        sink.after (sink.clip Transcript.endLine).length⟩ := by
  rw [sink.writePieces_eq_write, Transcript.endPieces_flatten, Sink.write, if_neg endLine_ne_nil]

/-- The line of a chunk is handed out in pieces, but written as one text. -/
theorem writePieces_chunkPieces (sink : Sink) (c : Bytes) :
    sink.writePieces (Transcript.chunkPieces c) =
      ⟨sink.clip (Transcript.chunkLine c),
        if sink.clip (Transcript.chunkLine c) = Transcript.chunkLine c then none
        else some sink.lastWord,
        sink.after (sink.clip (Transcript.chunkLine c)).length⟩ := by
  rw [sink.writePieces_eq_write, Transcript.chunkPieces_flatten, Sink.write,
    if_neg (chunkLine_ne_nil c)]

/-- A line has to be printed for each chunk that is read. -/
theorem owed_read_chunk {room : Nat} {c : Bytes} (hc : c ≠ []) :
    (Event.read room (.ok c)).owed = Transcript.chunkLine c := by
  cases c with
  | nil => exact (hc rfl).elim
  | cons b bs => rfl

/-- A read that gives a chunk has not found the end of the stream. -/
theorem foundEnd_read_chunk {room : Nat} {c : Bytes} (hc : c ≠ []) :
    (Event.read room (.ok c)).foundEnd = false := by
  cases c with
  | nil => exact (hc rfl).elim
  | cons b bs => rfl

/-- A chunk that is read comes before those that are read later. -/
theorem chunks_read {room : Nat} {c : Bytes} (hc : c ≠ []) (es : List Event) :
    chunks (.read room (.ok c) :: es) = c :: chunks es := by
  obtain ⟨b, bs, rfl⟩ := List.exists_cons_of_ne_nil hc
  rfl

/-- A failing read ends receiving with its failure. -/
theorem receive_failure {as rest : List Arrival} {f : Fault}
    (h : Arrival.take as = (.error f, rest)) (sink : Sink) :
    receive as sink = ⟨[.read Arrival.readRoom (.error f)], [], .error (.read f), rest⟩ := by
  rw [receive]
  split <;> simp_all

/-- The end of the stream ends receiving well, if the last line is taken whole. -/
theorem receive_end {as rest : List Arrival} (h : Arrival.take as = (.ok [], rest)) (sink : Sink) :
    receive as sink =
      ⟨.read Arrival.readRoom (.ok []) :: printed (sink.clip Transcript.endLine), [closedByPeer],
        if sink.clip Transcript.endLine = Transcript.endLine then .ok {}
        else .error (.output sink.lastWord), rest⟩ := by
  rw [receive]
  split
  · simp_all
  · next rest' h' =>
      obtain rfl : rest' = rest := by simp_all
      rw [writePieces_endPieces]
      by_cases hfit : sink.clip Transcript.endLine = Transcript.endLine
      · simp [hfit]
      · simp [hfit]
  · simp_all

/-- A chunk whose line is taken whole is followed by what comes of the next reads. -/
theorem receive_chunk {as rest : List Arrival} {c : Bytes} (hc : c ≠ [])
    (h : Arrival.take as = (.ok c, rest)) {sink : Sink}
    (hfit : sink.clip (Transcript.chunkLine c) = Transcript.chunkLine c) :
    receive as sink =
      let tail := receive rest (sink.after (Transcript.chunkLine c).length)
      ⟨.read Arrival.readRoom (.ok c) :: .print (Transcript.chunkLine c) :: tail.events,
        chunkReceived c.length :: tail.records, tail.result.map (·.add c.length), tail.unread⟩ := by
  have hw := writePieces_chunkPieces sink c
  rw [hfit, if_pos rfl] at hw
  rw [receive]
  split
  · simp_all
  · simp_all
  · next b bs rest' h' =>
      obtain ⟨rfl, rfl⟩ : c = b :: bs ∧ rest = rest' := by simp_all
      -- the sink afterwards is the one that the next reads print to
      simp only [hw, printed_of_ne_nil (chunkLine_ne_nil _)]
      rfl

/-- A chunk whose line is not taken whole ends receiving with the failure of the sink. -/
theorem receive_chunk_short {as rest : List Arrival} {c : Bytes} (hc : c ≠ [])
    (h : Arrival.take as = (.ok c, rest)) {sink : Sink}
    (hshort : sink.clip (Transcript.chunkLine c) ≠ Transcript.chunkLine c) :
    receive as sink =
      ⟨.read Arrival.readRoom (.ok c) :: printed (sink.clip (Transcript.chunkLine c)),
        [chunkReceived c.length], .error (.output sink.lastWord), rest⟩ := by
  have hw := writePieces_chunkPieces sink c
  rw [if_neg hshort] at hw
  rw [receive]
  split
  · simp_all
  · simp_all
  · next b bs rest' h' =>
      obtain ⟨rfl, rfl⟩ : c = b :: bs ∧ rest = rest' := by simp_all
      simp only [hw]

/-- Receiving only reads and prints. -/
theorem mem_receive {as : List Arrival} {sink : Sink} {e : Event}
    (he : e ∈ (receive as sink).events) :
    (∃ answer, e = .read Arrival.readRoom answer) ∨ ∃ text, e = .print text := by
  induction as using Arrival.readInduction generalizing sink with
  | fails as f rest h =>
      rw [receive_failure h] at he
      exact Or.inl ⟨_, List.mem_singleton.mp he⟩
  | ends as rest h =>
      rw [receive_end h] at he
      rcases List.mem_cons.mp he with rfl | he
      · exact Or.inl ⟨_, rfl⟩
      · exact Or.inr ⟨_, mem_printed he⟩
  | chunk as c rest hc h ih =>
      by_cases hfit : sink.clip (Transcript.chunkLine c) = Transcript.chunkLine c
      · rw [receive_chunk hc h hfit] at he
        rcases List.mem_cons.mp he with rfl | he
        · exact Or.inl ⟨_, rfl⟩
        rcases List.mem_cons.mp he with rfl | he
        · exact Or.inr ⟨_, rfl⟩
        exact ih he
      · rw [receive_chunk_short hc h hfit] at he
        rcases List.mem_cons.mp he with rfl | he
        · exact Or.inl ⟨_, rfl⟩
        · exact Or.inr ⟨_, mem_printed he⟩

end Session

end RelayProbe
