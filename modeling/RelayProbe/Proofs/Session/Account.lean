import RelayProbe.Proofs.Session.Consumed
import RelayProbe.Proofs.Session.Records

set_option autoImplicit false

/-! # Every byte is accounted for

A stream that is being read stands at a place, between two of its entries or inside one
(`Arrival.ReadTo`). Each read takes the bytes that stand there, as many as it has room for and no
further than the entry goes, and leaves the stream behind them (`ReadTo.step`). So at any time what
was read and what is left make up the whole stream, also when a run stops in the middle of an entry
(`chunks_append_unread_receive`), and every read but the last costs at least one byte
(`countP_isRead_receive`).
-/

namespace RelayProbe

namespace Arrival

/-- Reading a stream stands at a place: the bytes `got` were read, and `left` is still to arrive. All
entries that were read to their end had bytes, and so has the rest of one that is only read in
part. -/
inductive ReadTo (as : List Arrival) : Bytes → List Arrival → Prop
  | between (done left : List Arrival) (split : as = done ++ left)
      (nonempty : ∀ a ∈ done, a.bytes ≠ []) : ReadTo as (done.flatMap bytes) left
  | inside (done rest : List Arrival) (front back : Bytes)
      (split : as = done ++ .data (front ++ back) :: rest)
      (nonempty : ∀ a ∈ done, a.bytes ≠ []) (begun : front ≠ []) (unfinished : back ≠ []) :
      ReadTo as (done.flatMap bytes ++ front) (.data back :: rest)

/-- Nothing was read yet. -/
theorem ReadTo.start (as : List Arrival) : ReadTo as [] as :=
  .between [] as rfl fun _ h => nomatch h

/-! ## One read -/

/-- A chunk is never longer than the room that a read has. -/
theorem length_of_take {as rest : List Arrival} {c : Bytes} (h : take as = (.ok c, rest)) :
    c.length ≤ readRoom := by
  rcases as with _ | ⟨bs | f, as⟩
  · obtain rfl := Except.ok.inj (Prod.mk.inj h).1
    exact Nat.zero_le _
  · obtain rfl := Except.ok.inj (Prod.mk.inj h).1
    exact List.length_take_le _ _
  · cases (Prod.mk.inj h).1

/-- What a read gives and what it leaves make up what was there. -/
theorem bytes_of_take {as rest : List Arrival} {c : Bytes} (h : take as = (.ok c, rest)) :
    c ++ rest.flatMap bytes = as.flatMap bytes := by
  rcases as with _ | ⟨bs | f, as⟩
  · obtain ⟨hc, rfl⟩ := Prod.mk.inj h
    obtain rfl := Except.ok.inj hc
    rfl
  · obtain ⟨hc, rfl⟩ := Prod.mk.inj h
    obtain rfl := Except.ok.inj hc
    by_cases hle : bs.length ≤ readRoom
    · rw [if_pos hle, List.take_of_length_le hle]
      rfl
    · rw [if_neg hle]
      calc bs.take readRoom ++ (bs.drop readRoom ++ as.flatMap bytes)
          _ = bs ++ as.flatMap bytes := by rw [← List.append_assoc, List.take_append_drop]
  · cases (Prod.mk.inj h).1

/-- A read that fails takes no bytes away. -/
theorem bytes_of_take_failure {as rest : List Arrival} {f : Fault} (h : take as = (.error f, rest)) :
    rest.flatMap bytes = as.flatMap bytes := by
  rcases as with _ | ⟨bs | g, as⟩
  · cases (Prod.mk.inj h).1
  · cases (Prod.mk.inj h).1
  · obtain ⟨-, rfl⟩ := Prod.mk.inj h
    rfl

/-- The bytes of a stream up to the end of an entry. -/
theorem flatMap_bytes_concat (as : List Arrival) (bs : Bytes) :
    (as ++ [data bs]).flatMap bytes = as.flatMap bytes ++ bs := by
  rw [List.flatMap_append, List.flatMap_singleton]
  rfl

/-- One more entry was read to its end. -/
theorem nonempty_concat {as : List Arrival} {bs : Bytes} (h : ∀ a ∈ as, a.bytes ≠ [])
    (hbs : bs ≠ []) : ∀ a ∈ as ++ [data bs], a.bytes ≠ [] := by
  intro a ha
  rcases List.mem_append.mp ha with ha | ha
  · exact h a ha
  · rw [List.mem_singleton.mp ha]
    exact hbs

/-- **A read that gives a chunk leaves the stream behind that chunk.** -/
theorem ReadTo.step {as left rest : List Arrival} {got c : Bytes} (hat : ReadTo as got left)
    (hc : c ≠ []) (h : take left = (.ok c, rest)) : ReadTo as (got ++ c) rest := by
  rcases left with _ | ⟨bs | f, left⟩
  · exact (hc (Except.ok.inj (Prod.mk.inj h).1).symm).elim
  · obtain ⟨htaken, rfl⟩ := Prod.mk.inj h
    obtain rfl := Except.ok.inj htaken
    have hbs : bs ≠ [] := by
      rintro rfl
      exact hc List.take_nil
    by_cases hle : bs.length ≤ readRoom
    · -- the entry is read to its end
      rw [if_pos hle, List.take_of_length_le hle]
      cases hat with
      | between done _ split nonempty =>
          rw [← flatMap_bytes_concat]
          refine .between _ _ ?_ (nonempty_concat nonempty hbs)
          rw [split, List.append_assoc]
          rfl
      | inside done _ front _ split nonempty begun unfinished =>
          have hwhole : front ++ bs ≠ [] := List.append_ne_nil_of_left_ne_nil begun bs
          rw [List.append_assoc, ← flatMap_bytes_concat]
          refine .between _ _ ?_ (nonempty_concat nonempty hwhole)
          rw [split, List.append_assoc]
          rfl
    · -- the rest of the entry is for the next read
      have hback : bs.drop readRoom ≠ [] := fun h0 => hle (List.drop_eq_nil_iff.mp h0)
      rw [if_neg hle]
      cases hat with
      | between done _ split nonempty =>
          refine .inside done left _ _ ?_ nonempty hc hback
          rw [split, List.take_append_drop]
      | inside done _ front _ split nonempty begun unfinished =>
          rw [List.append_assoc]
          refine .inside done left _ _ ?_ nonempty (List.append_ne_nil_of_left_ne_nil begun _) hback
          rw [split, List.append_assoc, List.take_append_drop]
  · cases (Prod.mk.inj h).1

end Arrival

namespace Session

open Arrival WriteAnswer

/-! ## Receiving -/

/-- A last read is one read, whatever is printed for it. -/
theorem countP_isRead_last (room : Nat) (answer : Except Fault Bytes) (text : Bytes) :
    (Event.read room answer :: printed text).countP Event.isRead = 1 := by
  rw [List.countP_cons_of_pos rfl, countP_isRead_printed]

/-- **What was read and what is left unread are all there is**, however receiving ends. -/
theorem chunks_append_unread_receive (as : List Arrival) (sink : Sink) :
    (chunks (receive as sink).events).flatten ++ (receive as sink).unread.flatMap bytes =
      as.flatMap bytes := by
  induction as using readInduction generalizing sink with
  | fails as f rest h =>
      rw [receive_failure h]
      exact bytes_of_take_failure h
  | ends as rest h =>
      rw [receive_end h, chunks_cons, (silent_printed _).2.1]
      exact bytes_of_take h
  | chunk as c rest hc h ih =>
      by_cases hfit : sink.clip (Transcript.chunkLine c) = Transcript.chunkLine c
      · rw [receive_chunk hc h hfit]
        let tail := receive rest (sink.after (Transcript.chunkLine c).length)
        have htail : (chunks tail.events).flatten ++ tail.unread.flatMap bytes =
            rest.flatMap bytes := ih _
        show (chunks (.read readRoom (.ok c) :: .print (Transcript.chunkLine c) ::
          tail.events)).flatten ++ tail.unread.flatMap bytes = _
        calc _ = c ++ ((chunks tail.events).flatten ++ tail.unread.flatMap bytes) := by
              rw [chunks_read hc, List.flatten_cons, List.append_assoc]
              rfl
          _ = c ++ rest.flatMap bytes := by rw [htail]
          _ = as.flatMap bytes := bytes_of_take h
      · -- the chunk was read, although its line was not taken
        rw [receive_chunk_short hc h hfit, chunks_read hc, (silent_printed _).2.1,
          List.flatten_singleton]
        exact bytes_of_take h

/-- **Every read but the last costs a byte.** -/
theorem countP_isRead_receive (as : List Arrival) (sink : Sink) :
    (receive as sink).events.countP Event.isRead ≤ (as.flatMap bytes).length + 1 := by
  induction as using readInduction generalizing sink with
  | fails as f rest h =>
      rw [receive_failure h]
      exact Nat.le_add_left 1 _
  | ends as rest h =>
      rw [receive_end h, countP_isRead_last]
      exact Nat.le_add_left 1 _
  | chunk as c rest hc h ih =>
      by_cases hfit : sink.clip (Transcript.chunkLine c) = Transcript.chunkLine c
      · rw [receive_chunk hc h hfit]
        let tail := receive rest (sink.after (Transcript.chunkLine c).length)
        have htail : tail.events.countP Event.isRead ≤ (rest.flatMap bytes).length + 1 := ih _
        have hpos : 0 < c.length := List.length_pos_iff.mpr hc
        have hbytes : (as.flatMap bytes).length = c.length + (rest.flatMap bytes).length := by
          rw [← bytes_of_take h, List.length_append]
        show (Event.read readRoom (.ok c) :: .print (Transcript.chunkLine c) ::
          tail.events).countP Event.isRead ≤ _
        rw [List.countP_cons_of_pos rfl, List.countP_cons_of_neg Bool.false_ne_true]
        omega
      · rw [receive_chunk_short hc h hfit, countP_isRead_last]
        exact Nat.le_add_left 1 _

/-- A read among a last read and what is printed for it is that last read. -/
theorem eq_of_last_read {room room' : Nat} {answer answer' : Except Fault Bytes} {text : Bytes}
    {past rest : List Event}
    (h : Event.read room' answer' :: printed text = past ++ .read room answer :: rest) :
    past = [] ∧ room = room' ∧ answer = answer' := by
  rcases past with _ | ⟨e, past⟩
  · cases (List.cons.inj h).1
    exact ⟨rfl, rfl, rfl⟩
  · have hmem : Event.read room answer ∈ printed text := by
      rw [(List.cons.inj h).2]
      exact List.mem_append_right past List.mem_cons_self
    cases mem_printed hmem

/-- Each read is made where the reads before it left the stream. -/
theorem read_of_receive {as left : List Arrival} {got : Bytes} (hat : ReadTo as got left)
    {sink : Sink} {past rest : List Event} {room : Nat} {answer : Except Fault Bytes}
    (hes : (receive left sink).events = past ++ .read room answer :: rest) :
    room = readRoom ∧
      ∃ left', ReadTo as (got ++ (chunks past).flatten) left' ∧ answer = (take left').1 := by
  have hhere : ∀ {got : Bytes} {left : List Arrival}, ReadTo as got left →
      ReadTo as (got ++ (chunks []).flatten) left := by
    intro got left hat
    rwa [chunks_nil, List.flatten_nil, List.append_nil]
  induction left using readInduction generalizing got sink past with
  | fails left f rest' h =>
      rw [receive_failure h] at hes
      have hlast : .read readRoom (.error f) :: printed [] = past ++ .read room answer :: rest := hes
      obtain ⟨rfl, rfl, rfl⟩ := eq_of_last_read hlast
      exact ⟨rfl, left, hhere hat, by rw [h]⟩
  | ends left rest' h =>
      rw [receive_end h] at hes
      obtain ⟨rfl, rfl, rfl⟩ := eq_of_last_read hes
      exact ⟨rfl, left, hhere hat, by rw [h]⟩
  | chunk left c rest' hc h ih =>
      by_cases hfit : sink.clip (Transcript.chunkLine c) = Transcript.chunkLine c
      · rw [receive_chunk hc h hfit] at hes
        rcases past with _ | ⟨e, _ | ⟨e', past⟩⟩
        · cases (List.cons.inj hes).1
          exact ⟨rfl, left, hhere hat, by rw [h]⟩
        · cases (List.cons.inj (List.cons.inj hes).2).1
        · -- the read and its line are behind, and so is the chunk
          obtain ⟨rfl, hbehind⟩ := List.cons.inj hes
          obtain ⟨rfl, htail⟩ := List.cons.inj hbehind
          obtain ⟨hroom, left', hat', hanswer⟩ := ih (hat.step hc h) htail
          refine ⟨hroom, left', ?_, hanswer⟩
          rw [chunks_read hc, List.flatten_cons, ← List.append_assoc]
          exact hat'
      · rw [receive_chunk_short hc h hfit] at hes
        obtain ⟨rfl, rfl, rfl⟩ := eq_of_last_read hes
        exact ⟨rfl, left, hhere hat, by rw [h]⟩

/-- If receiving ends well behind a chunk, the sink has taken the line of that chunk, and what comes
of the next reads ends well too. -/
theorem receive_ok_chunk {as rest : List Arrival} {c : Bytes} (hc : c ≠ [])
    (htake : take as = (.ok c, rest)) {sink : Sink} {summary : Summary}
    (h : (receive as sink).result = .ok summary) :
    ∃ counted, sink.clip (Transcript.chunkLine c) = Transcript.chunkLine c ∧
      (receive rest (sink.after (Transcript.chunkLine c).length)).result = .ok counted ∧
      summary = counted.add c.length := by
  by_cases hfit : sink.clip (Transcript.chunkLine c) = Transcript.chunkLine c
  · rw [receive_chunk hc htake hfit] at h
    cases htail : (receive rest (sink.after (Transcript.chunkLine c).length)).result with
    | error failure =>
        simp only [htail] at h
        cases h
    | ok counted =>
        simp only [htail] at h
        exact ⟨counted, hfit, rfl, (Except.ok.inj h).symm⟩
  · rw [receive_chunk_short hc htake hfit] at h
    cases h

/-- Receiving that ends well comes down to a last read, which finds the end of the stream. Each of
the reads before it brought a chunk, of one byte at least and of no more than there was room for. -/
theorem receive_ok {as : List Arrival} {sink : Sink} {summary : Summary}
    (h : (receive as sink).result = .ok summary) :
    ∃ (before : List Event) (line : Bytes),
      (receive as sink).events = before ++ .read readRoom (.ok []) :: printed line ∧
        (∀ e ∈ before, e.foundEnd = false) ∧ before.countP Event.isRead = summary.chunks ∧
        summary.chunks ≤ summary.bytes ∧ summary.bytes ≤ readRoom * summary.chunks := by
  induction as using readInduction generalizing sink summary with
  | fails as f rest htake =>
      rw [receive_failure htake] at h
      cases h
  | ends as rest htake =>
      rw [receive_end htake] at h ⊢
      refine ⟨[], _, rfl, by simp, ?_⟩
      -- nothing is counted at the end of the stream
      split at h
      · obtain rfl := Except.ok.inj h
        exact ⟨rfl, Nat.le_refl _, Nat.zero_le _⟩
      · cases h
  | chunk as c rest hc htake ih =>
      obtain ⟨counted, hfit, htail, rfl⟩ := receive_ok_chunk hc htake h
      obtain ⟨before, line, hes, hend, hreads, hlow, hhigh⟩ := ih htail
      have hpos : 0 < c.length := List.length_pos_iff.mpr hc
      have hroom : c.length ≤ readRoom := length_of_take htake
      rw [receive_chunk hc htake hfit]
      refine ⟨.read readRoom (.ok c) :: .print (Transcript.chunkLine c) :: before, line,
        ?events, ?unended, ?reads, ?low, ?high⟩
      case events =>
        show Event.read readRoom (.ok c) :: .print (Transcript.chunkLine c) :: _ = _
        rw [hes]
        rfl
      case unended =>
        intro e he
        rcases List.mem_cons.mp he with rfl | he
        · exact foundEnd_read_chunk hc
        rcases List.mem_cons.mp he with rfl | he
        · rfl
        · exact hend e he
      case reads =>
        rw [List.countP_cons_of_pos rfl, List.countP_cons_of_neg Bool.false_ne_true, hreads]
        rfl
      case low =>
        show counted.chunks + 1 ≤ counted.bytes + c.length
        omega
      case high =>
        calc counted.bytes + c.length
            _ ≤ readRoom * counted.chunks + readRoom := Nat.add_le_add hhigh hroom
            _ = readRoom * (counted.chunks + 1) := (Nat.mul_succ _ _).symm

/-! ## The whole run -/

variable {request : Bytes} {script : Script} {sink : Sink}

theorem read_notMem_send (ws : List WriteAnswer) (bs : Bytes) (room : Nat)
    (answer : Except Fault Bytes) : Event.read room answer ∉ (send ws bs).1 :=
  fun h => nomatch isWrite_of_mem_send h

theorem read_notMem_farewell (script : Script) (unread : List Arrival) (room : Nat)
    (answer : Except Fault Bytes) : Event.read room answer ∉ farewell script unread := by
  simp [farewell]

/-- A read of a run is one of receiving, and the reads before it are too. -/
theorem read_of_run {past rest : List Event} {room : Nat} {answer : Except Fault Bytes}
    (h : (run request script sink).events = past ++ .read room answer :: rest) :
    ∃ past' rest', (receive script.arrivals sink).events = past' ++ .read room answer :: rest' ∧
      chunks past = chunks past' := by
  have hnone := read_notMem_send script.writes request room answer
  cases hw : faultOf? script.writes request.length with
  | some f =>
      rw [run_of_send_fault hw] at h
      obtain ⟨mid, -, hend⟩ := stands_right h hnone
      exact (read_notMem_farewell script _ room answer
        (hend ▸ List.mem_append_right mid List.mem_cons_self)).elim
  | none =>
      cases hf : script.flush with
      | some f =>
          rw [run_of_flush_fault hw hf] at h
          obtain ⟨mid, -, hend⟩ := stands_right h hnone
          have hmem : Event.read room answer ∈ .flush (some f) :: farewell script script.arrivals :=
            hend ▸ List.mem_append_right mid List.mem_cons_self
          rcases List.mem_cons.mp hmem with hmem | hmem
          · cases hmem
          · exact (read_notMem_farewell script _ room answer hmem).elim
      | none =>
          rw [run_of_flushed hw hf] at h
          obtain ⟨mid, hmid, -⟩ := stands_left h (read_notMem_farewell script _ room answer)
          obtain ⟨past', hpast, hreceive⟩ := stands_right hmid hnone
          rcases past' with _ | ⟨e, past'⟩
          · cases (List.cons.inj hreceive).1
          · obtain ⟨rfl, hfrom⟩ := List.cons.inj hreceive
            refine ⟨past', mid, hfrom, ?_⟩
            rw [hpast, chunks_append, chunks_send]
            rfl

/-- A run that ends well comes to receiving, and ends as that does. -/
theorem flushed_of_ok {summary : Summary} (h : (run request script sink).result = .ok summary) :
    faultOf? script.writes request.length = none ∧ script.flush = none ∧
      (receive script.arrivals sink).result = .ok summary := by
  obtain ⟨hw, hf, -, -⟩ := (ok_run_iff request script sink).mp ⟨summary, h⟩
  rw [run_of_flushed hw hf] at h
  exact ⟨hw, hf, h⟩

/-- A run that ends well has found the end of the stream once, in its last read. -/
theorem last_read_of_ok {summary : Summary} (h : (run request script sink).result = .ok summary) :
    ∃ before after, (run request script sink).events =
        before ++ Event.read readRoom (.ok []) :: after ∧
      (∀ e ∈ before ++ after, e.foundEnd = false) ∧ (∀ e ∈ after, e.isRead = false) ∧
      before.countP Event.isRead = summary.chunks := by
  obtain ⟨hw, hf, hreceive⟩ := flushed_of_ok h
  obtain ⟨before, line, hes, hend, hreads, -, -⟩ := receive_ok hreceive
  let writes := (send script.writes request).1
  let after := printed line ++ farewell script (receive script.arrivals sink).unread
  have hafter : ∀ e ∈ after, e.isRead = false ∧ e.foundEnd = false := by
    intro e he
    rcases List.mem_append.mp he with he | he
    · rw [mem_printed he]
      exact ⟨rfl, rfl⟩
    · simp only [farewell, List.mem_cons, List.not_mem_nil, or_false] at he
      rcases he with rfl | rfl <;> exact ⟨rfl, rfl⟩
  refine ⟨writes ++ .flush none :: before, after, ?_, ?_, fun e he => (hafter e he).1, ?_⟩
  · rw [run_of_flushed hw hf]
    show writes ++ .flush none :: (receive script.arrivals sink).events ++ farewell script _ = _
    rw [hes]
    simp [after]
  · intro e he
    rcases List.mem_append.mp he with he | he
    · rcases List.mem_append.mp he with he | he
      · obtain ⟨offered, answer, rfl⟩ := write_of_mem_send he
        rfl
      rcases List.mem_cons.mp he with rfl | he
      · rfl
      · exact hend e he
    · exact (hafter e he).2
  · rw [List.countP_append, countP_isRead_send, List.countP_cons_of_neg Bool.false_ne_true, hreads,
      Nat.zero_add]

/-- A run makes the reads of receiving, if it comes to that, and none otherwise. -/
theorem account_run (request : Bytes) (script : Script) (sink : Sink) :
    ∃ (body : List Event) (unread : List Arrival), (run request script sink).events =
        body ++ [.shutdown script.shutdown, .close unread] ∧
      (chunks (run request script sink).events).flatten ++ unread.flatMap bytes =
        script.arrivals.flatMap bytes ∧
      (run request script sink).events.countP Event.isRead ≤
        (script.arrivals.flatMap bytes).length + 1 := by
  have hend : ∀ unread, (farewell script unread).countP Event.isRead = 0 := fun _ => rfl
  cases hw : faultOf? script.writes request.length with
  | some f =>
      rw [run_of_send_fault hw]
      refine ⟨_, _, rfl, ?_, ?_⟩
      · rw [chunks_append, chunks_send]
        rfl
      · rw [List.countP_append, countP_isRead_send, hend]
        exact Nat.zero_le _
  | none =>
      cases hf : script.flush with
      | some f =>
          rw [run_of_flush_fault hw hf]
          refine ⟨(send script.writes request).1 ++ [.flush (some f)], script.arrivals, ?_, ?_, ?_⟩
          · rw [List.append_assoc]
            rfl
          · rw [chunks_append, chunks_send]
            rfl
          · rw [List.countP_append, countP_isRead_send, List.countP_cons_of_neg Bool.false_ne_true,
              hend]
            exact Nat.zero_le _
      | none =>
          rw [run_of_flushed hw hf]
          refine ⟨_, _, rfl, ?_, ?_⟩
          · rw [chunks_append, chunks_append, chunks_send, chunks_farewell, List.append_nil]
            exact chunks_append_unread_receive script.arrivals sink
          · rw [List.countP_append, List.countP_append, countP_isRead_send,
              List.countP_cons_of_neg Bool.false_ne_true, hend, Nat.zero_add, Nat.add_zero]
            exact countP_isRead_receive script.arrivals sink

/-- **Reading loses nothing and repeats nothing**, also in a run that fails. For every run:

* each read has room for 4096 bytes, and stands where the reads before it left the stream. There it
  fails if a failure comes next, finds the end if nothing does, and else gives the next bytes that
  are unread, as many as it has room for and no more than the entry at which it stands still holds:
  one at least, if that is not empty;
* what was read and what is left unread when the connection is closed are together all the bytes that
  were to arrive, in order;
* there is at most one read more than there are bytes;
* a run that ends well has read once for each chunk that it has counted, and then once more, which is
  the only read that found the end of the stream. Each of its chunks has from 1 to 4096 bytes. -/
theorem run_accounts_for_reads (request : Bytes) (script : Script) (sink : Sink) :
    let o := run request script sink
    let total := script.arrivals.flatMap bytes
    (∀ (past : List Event) room answer rest, o.events = past ++ Event.read room answer :: rest →
      room = 4096 ∧ ∃ left, ReadTo script.arrivals (chunks past).flatten left ∧
        match left with
        | [] => answer = .ok []
        | .fail f :: _ => answer = .error f
        | .data bs :: _ => ∃ c, answer = .ok c ∧ c <+: bs ∧ c.length = min 4096 bs.length ∧
            (bs ≠ [] → 1 ≤ c.length)) ∧
      (∃ (body : List Event) (unread : List Arrival),
        o.events = body ++ [Event.shutdown script.shutdown, Event.close unread] ∧
        (chunks o.events).flatten ++ unread.flatMap bytes = total) ∧
      o.events.countP Event.isRead ≤ total.length + 1 ∧
      ∀ summary, o.result = .ok summary →
        o.events.countP Event.isRead = summary.chunks + 1 ∧
        (∃ before after, o.events = before ++ Event.read 4096 (.ok []) :: after ∧
          (∀ e ∈ before ++ after, e.foundEnd = false) ∧ ∀ e ∈ after, e.isRead = false) ∧
        summary.chunks = (chunks o.events).length ∧
        summary.chunks ≤ summary.bytes ∧ summary.bytes ≤ 4096 * summary.chunks := by
  intro o total
  obtain ⟨body, unread, hclose, htotal, hcount⟩ := account_run request script sink
  refine ⟨?reads, ⟨body, unread, hclose, htotal⟩, hcount, ?ok⟩
  case reads =>
    intro past room answer rest hes
    obtain ⟨past', rest', hreceive, hchunks⟩ := read_of_run hes
    obtain ⟨hroom, left, hat, rfl⟩ := read_of_receive (.start script.arrivals) hreceive
    rw [List.nil_append, ← hchunks] at hat
    refine ⟨hroom, left, hat, ?_⟩
    rcases left with _ | ⟨bs | f, left⟩
    · rfl
    · have hlength : (bs.take readRoom).length = min 4096 bs.length := List.length_take
      refine ⟨_, rfl, List.take_prefix _ _, hlength, fun hbs => ?_⟩
      have hpos : 0 < bs.length := List.length_pos_iff.mpr hbs
      omega
    · rfl
  case ok =>
    intro summary hok
    obtain ⟨before, after, hes, hend, hafter, hreads⟩ := last_read_of_ok hok
    obtain ⟨-, -, hreceive⟩ := flushed_of_ok hok
    obtain ⟨-, -, -, -, -, hlow, hhigh⟩ := receive_ok hreceive
    refine ⟨?_, ⟨before, after, hes, hend, hafter⟩, ?_, hlow, hhigh⟩
    · have hnone : after.countP Event.isRead = 0 :=
        List.countP_eq_zero.mpr fun e he => by simp [hafter e he]
      rw [hes, List.countP_append, List.countP_cons_of_pos rfl, hnone, hreads]
    · rw [tally_of_ok hok, tally_eq]

end Session

end RelayProbe
