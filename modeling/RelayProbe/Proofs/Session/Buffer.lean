import RelayProbe.Proofs.Session.Receive
import RelayProbe.Session.Buffer

set_option autoImplicit false

/-! # A buffer that is used again never leaks

The buffer is brought to the size of one read before each read, so a read always has the same room,
whatever the reads before it left. What it gave, and nothing else, is split off as the chunk
(`chunk_of_take`). The buffer goes on behind the chunk and never touches the storage in front of
it (`Buffer.Extends`), so the chunks keep their bytes through all later reads. Receiving through the
buffer is therefore the same as printing what the reads give (`receiveThrough_never_leaks`).
-/

namespace RelayProbe

namespace Buffer

/-! ## What later steps leave alone -/

/-- A buffer at a later time: it stands no further ahead in the storage, and what stood in front of
it is still there. -/
structure Extends (after before : Buffer) : Prop where
  start_le : before.start ≤ after.start
  front : after.storage.take before.start = before.storage.take before.start

variable {a b c : Buffer}

theorem Extends.trans (h : c.Extends b) (h' : b.Extends a) : c.Extends a where
  start_le := Nat.le_trans h'.start_le h.start_le
  front := by
    -- the shorter front is the front of the longer one
    have hcut : ∀ s : Bytes, s.take a.start = (s.take b.start).take a.start := by
      intro s
      rw [List.take_take, Nat.min_eq_left h'.start_le]
    calc c.storage.take a.start = (c.storage.take b.start).take a.start := hcut _
      _ = (b.storage.take b.start).take a.start := by rw [h.front]
      _ = b.storage.take a.start := (hcut _).symm
      _ = a.storage.take a.start := h'.front

/-- A stretch in front of a buffer holds the same bytes later on. -/
theorem Extends.bytesAt_eq (h : a.Extends b) {p : Stretch} (hp : p.start + p.length ≤ b.start) :
    a.bytesAt p = b.bytesAt p := by
  have hcut : ∀ s : Bytes, (s.drop p.start).take p.length =
      ((s.take b.start).drop p.start).take p.length := by
    intro s
    have hle : p.length ≤ b.start - p.start := by omega
    rw [List.drop_take, List.take_take, Nat.min_eq_left hle]
  calc a.bytesAt p = ((a.storage.take b.start).drop p.start).take p.length := hcut _
    _ = ((b.storage.take b.start).drop p.start).take p.length := by rw [h.front]
    _ = b.bytesAt p := (hcut _).symm

theorem extends_withContents (b : Buffer) (bs : Bytes) : (b.withContents bs).Extends b where
  start_le := Nat.le_refl _
  front := by
    show (b.storage.take b.start ++ bs).take b.start = b.storage.take b.start
    exact List.take_left' b.length_take_start

theorem extends_resize (b : Buffer) (n : Nat) : (b.resize n).Extends b := extends_withContents b _

theorem extends_overwrite (b : Buffer) (bs : Bytes) : (b.overwrite bs).Extends b :=
  extends_withContents b _

theorem extends_truncate (b : Buffer) (n : Nat) : (b.truncate n).Extends b :=
  extends_withContents b _

theorem extends_split (b : Buffer) : b.split.2.Extends b := ⟨b.start_le, rfl⟩

/-- What is split off ends where the buffer goes on. -/
theorem stop_split (b : Buffer) : b.split.1.start + b.split.1.length = b.split.2.start := by
  have hle := b.start_le
  show b.start + (b.storage.drop b.start).length = b.storage.length
  rw [List.length_drop]
  omega

theorem extends_chunk (b : Buffer) (given : Bytes) : (b.chunk given).2.Extends b := by
  have hover := extends_overwrite b given
  have hcut := extends_truncate (b.overwrite given) given.length
  exact (extends_split _).trans (hcut.trans hover)

end Buffer

namespace Session

open Arrival

/-! ## One read

A read through the buffer is a read with the usual room, since the buffer was brought to that size.
Each of the three things that it can lead to leaves behind what `receive` does. -/

variable {as rest : List Arrival}

/-- A read into a buffer of the usual size is a usual read. -/
theorem takeUpTo_resize (buffer : Buffer) (as : List Arrival) :
    takeUpTo (buffer.resize readRoom).contents.length as = take as := by
  rw [buffer.length_contents_resize, takeUpTo_readRoom]

/-- **One chunk through the buffer.** What the read gave is split off. An empty buffer goes on right
behind it, and what stood in front of the buffer before is still there. -/
theorem chunk_of_take {c : Bytes} (h : take as = (.ok c, rest)) (buffer : Buffer) :
    let s := (buffer.resize readRoom).chunk c
    s.2.bytesAt s.1 = c ∧ s.2.contents = [] ∧ s.1.start + s.1.length = s.2.start ∧
      s.2.Extends buffer := by
  intro s
  have hfits : c.length ≤ (buffer.resize readRoom).contents.length := by
    rw [← takeUpTo_resize buffer] at h
    exact length_le_of_takeUpTo h
  refine ⟨?_, Buffer.contents_split _, Buffer.stop_split _, ?_⟩
  · exact (Buffer.bytesAt_split _).trans (Buffer.contents_truncate_overwrite hfits)
  · exact (Buffer.extends_chunk _ c).trans (buffer.extends_resize readRoom)

/-- A failing read splits nothing off. -/
theorem receiveThrough_failure {f : Fault} (h : take as = (.error f, rest)) (buffer : Buffer)
    (sink : Sink) :
    receiveThrough buffer as sink = ⟨receive as sink, [], [], buffer.resize readRoom⟩ := by
  rw [receive_failure h, receiveThrough]
  split
  · simp_all
  · simp_all
  · simp_all

/-- The end of the stream splits nothing off. -/
theorem receiveThrough_end (h : take as = (.ok [], rest)) (buffer : Buffer) (sink : Sink) :
    receiveThrough buffer as sink = ⟨receive as sink, [], [], buffer.resize readRoom⟩ := by
  have hroom := buffer.length_contents_resize readRoom
  rw [receive_end h, receiveThrough]
  split
  · simp_all
  · next rest' h' =>
      obtain rfl : rest' = rest := by simp_all
      rw [writePieces_endPieces, hroom]
      by_cases hfit : sink.clip Transcript.endLine = Transcript.endLine
      · simp [hfit]
      · simp [hfit]
  · simp_all

/-- A chunk whose line is taken whole is split off, and the next reads go through what is left of
the buffer. -/
theorem receiveThrough_chunk {c : Bytes} (hc : c ≠ []) (h : take as = (.ok c, rest))
    (buffer : Buffer) {sink : Sink}
    (hfit : sink.clip (Transcript.chunkLine c) = Transcript.chunkLine c) :
    receiveThrough buffer as sink =
      let s := (buffer.resize readRoom).chunk c
      let tail := receiveThrough s.2 rest (sink.after (Transcript.chunkLine c).length)
      ⟨⟨.read readRoom (.ok c) :: .print (Transcript.chunkLine c) :: tail.received.events,
          chunkReceived c.length :: tail.received.records,
          tail.received.result.map (·.add c.length), tail.received.unread⟩,
        c :: tail.frozen, s.1 :: tail.places, tail.buffer⟩ := by
  have hroom := buffer.length_contents_resize readRoom
  have hchunk := (chunk_of_take h buffer).1
  have hw := writePieces_chunkPieces sink c
  rw [hfit, if_pos rfl] at hw
  rw [receiveThrough]
  split
  · simp_all
  · simp_all
  · next b bs rest' h' =>
      obtain ⟨rfl, rfl⟩ : c = b :: bs ∧ rest = rest' := by simp_all
      simp only [hchunk, hroom, hw, printed_of_ne_nil (chunkLine_ne_nil _)]
      rfl

/-- A chunk whose line is not taken whole is split off, and nothing after it. -/
theorem receiveThrough_chunk_short {c : Bytes} (hc : c ≠ []) (h : take as = (.ok c, rest))
    (buffer : Buffer) {sink : Sink}
    (hshort : sink.clip (Transcript.chunkLine c) ≠ Transcript.chunkLine c) :
    receiveThrough buffer as sink =
      let s := (buffer.resize readRoom).chunk c
      ⟨receive as sink, [c], [s.1], s.2⟩ := by
  have hroom := buffer.length_contents_resize readRoom
  have hchunk := (chunk_of_take h buffer).1
  have hw := writePieces_chunkPieces sink c
  rw [if_neg hshort] at hw
  rw [receive_chunk_short hc h hshort, receiveThrough]
  split
  · simp_all
  · simp_all
  · next b bs rest' h' =>
      obtain ⟨rfl, rfl⟩ : c = b :: bs ∧ rest = rest' := by simp_all
      simp only [hchunk, hroom, hw]

/-! ## All reads -/

/-- Receiving through a buffer leaves behind what receiving without one does. -/
theorem received_receiveThrough (buffer : Buffer) (as : List Arrival) (sink : Sink) :
    (receiveThrough buffer as sink).received = receive as sink := by
  -- for every buffer, since each read is left another one
  induction as using readInduction generalizing buffer sink with
  | fails as f rest h => rw [receiveThrough_failure h]
  | ends as rest h => rw [receiveThrough_end h]
  | chunk as c rest hc h ih =>
      by_cases hfit : sink.clip (Transcript.chunkLine c) = Transcript.chunkLine c
      · rw [receiveThrough_chunk hc h buffer hfit, receive_chunk hc h hfit]
        simp only [ih]
      · rw [receiveThrough_chunk_short hc h buffer hfit]

/-- What is split off are the chunks that the reads gave. -/
theorem frozen_receiveThrough (buffer : Buffer) (as : List Arrival) (sink : Sink) :
    (receiveThrough buffer as sink).frozen = chunks (receive as sink).events := by
  induction as using readInduction generalizing buffer sink with
  | fails as f rest h =>
      rw [receiveThrough_failure h, receive_failure h]
      rfl
  | ends as rest h =>
      rw [receiveThrough_end h, receive_end h]
      exact (silent_printed _).2.1.symm
  | chunk as c rest hc h ih =>
      by_cases hfit : sink.clip (Transcript.chunkLine c) = Transcript.chunkLine c
      · rw [receiveThrough_chunk hc h buffer hfit, receive_chunk hc h hfit, chunks_read hc]
        show c :: _ = c :: chunks (receive rest _).events
        rw [ih]
      · rw [receiveThrough_chunk_short hc h buffer hfit, receive_chunk_short hc h hfit,
          chunks_read hc, (silent_printed _).2.1]

/-- Receiving leaves alone what stood in front of the buffer. -/
theorem extends_receiveThrough (buffer : Buffer) (as : List Arrival) (sink : Sink) :
    (receiveThrough buffer as sink).buffer.Extends buffer := by
  induction as using readInduction generalizing buffer sink with
  | fails as f rest h =>
      rw [receiveThrough_failure h]
      exact buffer.extends_resize readRoom
  | ends as rest h =>
      rw [receiveThrough_end h]
      exact buffer.extends_resize readRoom
  | chunk as c rest hc h ih =>
      obtain ⟨-, -, -, hleft⟩ := chunk_of_take h buffer
      by_cases hfit : sink.clip (Transcript.chunkLine c) = Transcript.chunkLine c
      · rw [receiveThrough_chunk hc h buffer hfit]
        exact (ih _ _).trans hleft
      · rw [receiveThrough_chunk_short hc h buffer hfit]
        exact hleft

/-- The chunks hold at the end what they held when they were split off. -/
theorem bytesAt_places_receiveThrough (buffer : Buffer) (as : List Arrival) (sink : Sink) :
    let t := receiveThrough buffer as sink
    t.places.map t.buffer.bytesAt = t.frozen := by
  induction as using readInduction generalizing buffer sink with
  | fails as f rest h =>
      rw [receiveThrough_failure h]
      rfl
  | ends as rest h =>
      rw [receiveThrough_end h]
      rfl
  | chunk as c rest hc h ih =>
      let s := (buffer.resize readRoom).chunk c
      obtain ⟨hchunk, -, hstop, -⟩ := chunk_of_take h buffer
      by_cases hfit : sink.clip (Transcript.chunkLine c) = Transcript.chunkLine c
      · let tail := receiveThrough s.2 rest (sink.after (Transcript.chunkLine c).length)
        -- the next reads go into what is left of the buffer, and that stands behind the chunk
        have hfirst : tail.buffer.bytesAt s.1 = c := by
          rw [(extends_receiveThrough s.2 rest _).bytesAt_eq (Nat.le_of_eq hstop)]
          exact hchunk
        have hlater : tail.places.map tail.buffer.bytesAt = tail.frozen := ih _ _
        rw [receiveThrough_chunk hc h buffer hfit]
        show tail.buffer.bytesAt s.1 :: tail.places.map tail.buffer.bytesAt = c :: tail.frozen
        rw [hfirst, hlater]
      · rw [receiveThrough_chunk_short hc h buffer hfit]
        exact congrArg (· :: []) hchunk

/-- **A buffer that is used again never leaks.** Whatever stands in the buffer at the start, each
read has room for 4096 bytes, and what is split off after it is what it gave. At the end the chunks
still hold these bytes, and so does everything that was split off before. So the same comes of
receiving through the buffer as of receiving without one: events, records, counts and all. -/
theorem receiveThrough_never_leaks (buffer : Buffer) (arrivals : List Arrival) (sink : Sink) :
    let t := receiveThrough buffer arrivals sink
    (∀ room answer, Event.read room answer ∈ t.received.events → room = 4096) ∧
      t.frozen = chunks t.received.events ∧
      t.places.map t.buffer.bytesAt = t.frozen ∧
      (∀ p : Stretch, p.start + p.length ≤ buffer.start →
        t.buffer.bytesAt p = buffer.bytesAt p) ∧
      t.received = receive arrivals sink := by
  intro t
  have hreceived : t.received = receive arrivals sink := received_receiveThrough buffer arrivals sink
  refine ⟨?_, ?_, bytesAt_places_receiveThrough buffer arrivals sink, ?_, hreceived⟩
  · intro room answer he
    rw [hreceived] at he
    rcases mem_receive he with ⟨answer', heq⟩ | ⟨text, heq⟩
    · cases heq
      rfl
    · cases heq
  · rw [hreceived]
    exact frozen_receiveThrough buffer arrivals sink
  · intro p hp
    exact (extends_receiveThrough buffer arrivals sink).bytesAt_eq hp

end Session

end RelayProbe
