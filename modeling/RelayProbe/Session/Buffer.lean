import RelayProbe.Session

set_option autoImplicit false

/-! # Reading through one buffer

Received bytes can be taken through one buffer that is used again for every read: it is brought to
the size of one read, the read overwrites its front, what was not overwritten is cut off, and the
rest is split off as the chunk. This is how a loop over such a buffer goes, from any contents of the
buffer at the start.

A chunk that is split off is not copied. It stays a stretch of the storage in which the buffer
stands, and the buffer goes on behind it. So whatever is done to the buffer later is done to the
storage that the chunks are read from.
-/

namespace RelayProbe

/-- A stretch of a storage. -/
structure Stretch where
  start : Nat
  length : Nat
  deriving DecidableEq, Repr

/-- A buffer: the last part of a storage. In front of it stands what was split off before. -/
structure Buffer where
  storage : Bytes
  start : Nat
  start_le : start ≤ storage.length

namespace Buffer

theorem length_take_start (b : Buffer) : (b.storage.take b.start).length = b.start := by
  rw [List.length_take, Nat.min_eq_left b.start_le]

/-- The contents of the buffer. -/
def contents (b : Buffer) : Bytes := b.storage.drop b.start

/-- What stands in a stretch of the storage. -/
def bytesAt (b : Buffer) (p : Stretch) : Bytes := (b.storage.drop p.start).take p.length

/-- The buffer with other contents, at the same place of the storage. -/
def withContents (b : Buffer) (bs : Bytes) : Buffer where
  storage := b.storage.take b.start ++ bs
  start := b.start
  start_le := by
    rw [List.length_append, b.length_take_start]
    omega

/-- The buffer brought to a length: cut, or filled up with zeros. -/
def resize (b : Buffer) (n : Nat) : Buffer :=
  b.withContents (b.contents.take n ++ List.replicate (n - b.contents.length) 0)

/-- The buffer with its front overwritten by as many bytes as it has room for. -/
def overwrite (b : Buffer) (bs : Bytes) : Buffer :=
  b.withContents (bs.take b.contents.length ++ b.contents.drop bs.length)

/-- The first `n` bytes of the buffer. -/
def truncate (b : Buffer) (n : Nat) : Buffer := b.withContents (b.contents.take n)

/-- All contents split off, and the empty buffer that is left behind them. -/
def split (b : Buffer) : Stretch × Buffer :=
  (⟨b.start, b.contents.length⟩, ⟨b.storage, b.storage.length, Nat.le_refl _⟩)

/-- A read goes into the buffer, and what it gave is split off as a chunk. -/
def chunk (b : Buffer) (given : Bytes) : Stretch × Buffer :=
  ((b.overwrite given).truncate given.length).split

@[simp] theorem contents_withContents (b : Buffer) (bs : Bytes) :
    (b.withContents bs).contents = bs := by
  show (b.storage.take b.start ++ bs).drop b.start = bs
  exact List.drop_left' b.length_take_start

@[simp] theorem length_contents_resize (b : Buffer) (n : Nat) : (b.resize n).contents.length = n := by
  rw [resize, contents_withContents, List.length_append, List.length_take, List.length_replicate]
  omega

/-- What a read gave is what is left of the buffer when the rest of it is cut off. -/
theorem contents_truncate_overwrite {b : Buffer} {bs : Bytes} (h : bs.length ≤ b.contents.length) :
    ((b.overwrite bs).truncate bs.length).contents = bs := by
  rw [truncate, overwrite, contents_withContents, contents_withContents, List.take_of_length_le h]
  exact List.take_left

@[simp] theorem contents_split (b : Buffer) : b.split.2.contents = [] := List.drop_length

/-- What is split off are the contents. -/
theorem bytesAt_split (b : Buffer) : b.split.2.bytesAt b.split.1 = b.contents := List.take_length

end Buffer

namespace Arrival

/-- One read with room for so many bytes: what it gives, and what is left to arrive. -/
def takeUpTo (room : Nat) : List Arrival → Except Fault Bytes × List Arrival
  | [] => (.ok [], [])
  | .fail f :: rest => (.error f, rest)
  | .data bs :: rest =>
      (.ok (bs.take room), if bs.length ≤ room then rest else .data (bs.drop room) :: rest)

@[simp] theorem takeUpTo_readRoom (as : List Arrival) : takeUpTo readRoom as = take as := by
  rcases as with _ | ⟨_ | _, as⟩ <;> rfl

/-- A read gives no more than it has room for. -/
theorem length_le_of_takeUpTo {room : Nat} {as rest : List Arrival} {bs : Bytes}
    (h : takeUpTo room as = (.ok bs, rest)) : bs.length ≤ room := by
  rcases as with _ | ⟨cs | f, as⟩
  · cases h
    exact Nat.zero_le room
  · cases h
    exact List.length_take_le room cs
  · cases h

end Arrival

namespace Session

/-- What came of receiving through a buffer. -/
structure Buffered where
  received : Received
  /-- The bytes of each chunk at the time when it was split off. -/
  frozen : List Bytes
  /-- Where the chunks stand in the storage. -/
  places : List Stretch
  /-- The buffer afterwards. -/
  buffer : Buffer

/-- Read and print until the end of the stream, or the first failure, with the received bytes taken
through a buffer. -/
def receiveThrough (buffer : Buffer) (arrivals : List Arrival) (sink : Sink) : Buffered :=
  let cleared := buffer.resize Arrival.readRoom
  let room := cleared.contents.length
  match _h : Arrival.takeUpTo room arrivals with
  | (.error f, rest) =>
      ⟨⟨[.read room (.error f)], [], .error (.read f), rest⟩, [], [], cleared⟩
  | (.ok [], rest) =>
      let w := sink.writePieces Transcript.endPieces
      ⟨⟨.read room (.ok []) :: printed w.accepted, [closedByPeer],
        match w.failure with
        | some f => .error (.output f)
        | none => .ok {},
        rest⟩, [], [], cleared⟩
  | (.ok (b :: bs), rest) =>
      let given := b :: bs
      let (place, left) := cleared.chunk given
      let chunk := left.bytesAt place
      let w := sink.writePieces (Transcript.chunkPieces chunk)
      let events := .read room (.ok given) :: printed w.accepted
      match w.failure with
      | some f =>
          ⟨⟨events, [chunkReceived given.length], .error (.output f), rest⟩, [chunk], [place], left⟩
      | none =>
          let tail := receiveThrough left rest w.sink
          ⟨⟨events ++ tail.received.events, chunkReceived given.length :: tail.received.records,
              tail.received.result.map (·.add given.length), tail.received.unread⟩,
            chunk :: tail.frozen, place :: tail.places, tail.buffer⟩
termination_by Arrival.weight arrivals
decreasing_by
  have hroom : room = Arrival.readRoom := buffer.length_contents_resize _
  rw [hroom, Arrival.takeUpTo_readRoom] at _h
  exact Arrival.weight_take _h

end Session

end RelayProbe
