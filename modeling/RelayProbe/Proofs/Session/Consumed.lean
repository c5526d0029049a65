import RelayProbe.Proofs.Session.Run

set_option autoImplicit false

/-! # A run depends only on what it consumed

Of the answers to its writes a run uses those up to the one that completes the request or is a
failure, and of what is to arrive the entries up to the one at which it stops reading. Whatever the
script holds beyond that, and however the shutdown goes, the run does the same
(`run_of_same_consumed`). What it leaves unread are the entries that its reads did not take to their
end (`length_unread_exchange`).
-/

namespace RelayProbe

namespace WriteAnswer

/-- The answers that are used when `n` bytes are sent. Past the end of the list a call takes
everything. -/
def consumed : List WriteAnswer → Nat → List WriteAnswer
  | _, 0 => []
  | [], n + 1 => [.accept (n + 1)]
  | w :: ws, n + 1 => w :: if w.fault?.isSome then [] else consumed ws (n + 1 - w.taken)

theorem consumed_nil {n : Nat} (h : n ≠ 0) : consumed [] n = [.accept n] := by
  obtain ⟨m, rfl⟩ := Nat.exists_eq_succ_of_ne_zero h
  rfl

/-- Behind an answer that is a failure nothing is used. -/
theorem consumed_cons_of_some {w : WriteAnswer} {f : Fault} (hw : w.fault? = some f)
    (ws : List WriteAnswer) {n : Nat} (h : n ≠ 0) : consumed (w :: ws) n = [w] := by
  obtain ⟨m, rfl⟩ := Nat.exists_eq_succ_of_ne_zero h
  simp [consumed, hw]

theorem consumed_cons_of_none {w : WriteAnswer} (hw : w.fault? = none) (ws : List WriteAnswer)
    {n : Nat} (h : n ≠ 0) : consumed (w :: ws) n = w :: consumed ws (n - w.taken) := by
  obtain ⟨m, rfl⟩ := Nat.exists_eq_succ_of_ne_zero h
  simp [consumed, hw]

end WriteAnswer

namespace Arrival

/-- The text that is printed for the bytes of an entry. -/
def linesOf (bs : Bytes) : Bytes := (pieces bs).flatMap Transcript.chunkLine

/-- The entries that receiving looks at: up to the first failure or empty entry, or the first one
whose lines the sink does not take. The end of the list is as good as an empty entry. -/
def consumed (sink : Sink) : List Arrival → List Arrival
  | [] => [.data []]
  | .fail f :: _ => [.fail f]
  | .data bs :: rest =>
      .data bs ::
        if bs = [] ∨ sink.clip (linesOf bs) ≠ linesOf bs then []
        else consumed (sink.after (linesOf bs).length) rest

/-- How many reads it takes to consume an entry: one for each piece, and one if it has no bytes. -/
def reads : Arrival → Nat
  | .data bs => max 1 (pieces bs).length
  | .fail _ => 1

/-- How many of the entries are not consumed to their end by `n` reads. -/
def unfinished : List Arrival → Nat → Nat
  | [], _ => 0
  | a :: as, n => if a.reads ≤ n then unfinished as (n - a.reads) else as.length + 1

/-! ## Reading what is consumed -/

theorem linesOf_of_ne_nil {bs : Bytes} (h : bs ≠ []) :
    linesOf bs = Transcript.chunkLine (bs.take readRoom) ++ linesOf (bs.drop readRoom) := by
  rw [linesOf, pieces_of_ne_nil h, List.flatMap_cons]
  rfl

/-- A read that fails does so also when nothing is behind it. -/
theorem take_consumed_of_failure {as rest : List Arrival} {f : Fault}
    (h : take as = (.error f, rest)) (sink : Sink) :
    ∃ rest', take (consumed sink as) = (.error f, rest') := by
  rcases as with _ | ⟨bs | g, as⟩
  · simp [take] at h
  · simp [take] at h
  · simp only [take, Prod.mk.injEq, Except.error.injEq] at h
    obtain ⟨rfl, -⟩ := h
    exact ⟨[], rfl⟩

/-- A read that gives some bytes, or the end of the stream, gives them also when nothing is behind
the entries that are consumed. -/
theorem take_consumed_of_ok {as rest : List Arrival} {c : Bytes} (h : take as = (.ok c, rest))
    (sink : Sink) : ∃ rest', take (consumed sink as) = (.ok c, rest') := by
  rcases as with _ | ⟨bs | g, as⟩
  · simp only [take, Prod.mk.injEq, Except.ok.injEq] at h
    exact ⟨[], by rw [← h.1]; rfl⟩
  · simp only [take, Prod.mk.injEq, Except.ok.injEq] at h
    exact ⟨_, by rw [← h.1]; rfl⟩
  · simp [take] at h

/-- Behind a read whose line the sink takes, the rest of what is consumed is what is consumed of the
rest. -/
theorem take_consumed_of_chunk {as rest : List Arrival} {c : Bytes} (hc : c ≠ [])
    (h : take as = (.ok c, rest)) {sink : Sink}
    (hfit : sink.clip (Transcript.chunkLine c) = Transcript.chunkLine c) :
    take (consumed sink as) =
      (.ok c, consumed (sink.after (Transcript.chunkLine c).length) rest) := by
  rcases as with _ | ⟨bs | g, as⟩
  · simp only [take, Prod.mk.injEq, Except.ok.injEq] at h
    exact (hc h.1.symm).elim
  · simp only [take, Prod.mk.injEq, Except.ok.injEq] at h
    obtain ⟨rfl, rfl⟩ := h
    have hbs : bs ≠ [] := by
      rintro rfl
      exact hc List.take_nil
    have hlines := linesOf_of_ne_nil hbs
    by_cases hle : bs.length ≤ readRoom
    · -- the entry is read to its end, and its only line is taken
      have hone : linesOf bs = Transcript.chunkLine (bs.take readRoom) := by
        rw [hlines, List.drop_eq_nil_of_le hle, linesOf, pieces_nil, List.flatMap_nil,
          List.append_nil]
      simp only [consumed, take, hone, hbs, hfit, hle, false_or, ne_eq, not_true_eq_false, if_true,
        if_false]
    · -- the lines of the rest of the entry decide whether it is the last one
      have hd : bs.drop readRoom ≠ [] := fun h0 => hle (List.drop_eq_nil_iff.mp h0)
      have hrest : sink.clip (linesOf bs) = linesOf bs ↔
          (sink.after (Transcript.chunkLine (bs.take readRoom)).length).clip
            (linesOf (bs.drop readRoom)) = linesOf (bs.drop readRoom) := by
        rw [hlines, Sink.clip_append_eq_iff]
        exact and_iff_right hfit
      have hlen : (linesOf bs).length =
          (Transcript.chunkLine (bs.take readRoom)).length +
            (linesOf (bs.drop readRoom)).length := by
        rw [hlines, List.length_append]
      simp only [consumed, take, hbs, hd, hle, hrest, hlen, Sink.after_after, false_or, ne_eq,
        if_false]
  · simp [take] at h

/-- What is consumed of a stream is received like the whole stream. -/
theorem receive_consumed (as : List Arrival) (sink : Sink) :
    let all := Session.receive as sink
    let used := Session.receive (consumed sink as) sink
    used.events = all.events ∧ used.records = all.records ∧ used.result = all.result := by
  induction as using readInduction generalizing sink with
  | fails as f rest h =>
      obtain ⟨rest', h'⟩ := take_consumed_of_failure h sink
      rw [Session.receive_failure h, Session.receive_failure h']
      exact ⟨rfl, rfl, rfl⟩
  | ends as rest h =>
      obtain ⟨rest', h'⟩ := take_consumed_of_ok h sink
      rw [Session.receive_end h, Session.receive_end h']
      exact ⟨rfl, rfl, rfl⟩
  | chunk as c rest hc h ih =>
      by_cases hfit : sink.clip (Transcript.chunkLine c) = Transcript.chunkLine c
      · rw [Session.receive_chunk hc h hfit,
          Session.receive_chunk hc (take_consumed_of_chunk hc h hfit) hfit]
        obtain ⟨hevents, hrecords, hresult⟩ :=
          ih (sink.after (Transcript.chunkLine c).length)
        simp only [hevents, hrecords, hresult, and_self]
      · obtain ⟨rest', h'⟩ := take_consumed_of_ok h sink
        rw [Session.receive_chunk_short hc h hfit, Session.receive_chunk_short hc h' hfit]
        exact ⟨rfl, rfl, rfl⟩

/-! ## What is left unread -/

theorem reads_pos (a : Arrival) : 0 < a.reads := by
  cases a with
  | data bs => exact Nat.lt_of_lt_of_le Nat.one_pos (Nat.le_max_left 1 _)
  | fail f => exact Nat.one_pos

theorem unfinished_zero (as : List Arrival) : unfinished as 0 = as.length := by
  cases as with
  | nil => rfl
  | cons a as =>
      have hpos := reads_pos a
      rw [unfinished, if_neg (by omega), List.length_cons]

/-- An entry that fits into one read takes one. -/
theorem reads_of_length_le {bs : Bytes} (h : bs.length ≤ readRoom) : (data bs).reads = 1 := by
  by_cases hbs : bs = []
  · rw [hbs, reads, pieces_nil]
    rfl
  · rw [reads, pieces_of_length_le hbs h]
    rfl

/-- An entry that does not takes one read more than what one read leaves of it. -/
theorem reads_of_lt_length {bs : Bytes} (h : readRoom < bs.length) :
    (data bs).reads = (data (bs.drop readRoom)).reads + 1 := by
  have hbs : bs ≠ [] := List.ne_nil_of_length_pos (by omega)
  have hd : bs.drop readRoom ≠ [] := fun h0 => by
    have hle := List.drop_eq_nil_iff.mp h0
    omega
  rw [reads, reads, pieces_of_ne_nil hbs, pieces_of_ne_nil hd]
  simp only [List.length_cons]
  omega

/-- After one read, one read less is to be made. -/
theorem unfinished_take {as rest : List Arrival} {answer : Except Fault Bytes}
    (h : take as = (answer, rest)) (n : Nat) : unfinished as (n + 1) = unfinished rest n := by
  rcases as with _ | ⟨bs | g, as⟩
  · obtain ⟨-, rfl⟩ := Prod.mk.inj h
    rfl
  · obtain ⟨-, rfl⟩ := Prod.mk.inj h
    by_cases hle : bs.length ≤ readRoom
    · rw [if_pos hle, unfinished, reads_of_length_le hle, if_pos (by omega), Nat.add_sub_cancel]
    · rw [if_neg hle, unfinished, unfinished, reads_of_lt_length (by omega)]
      simp only [Nat.add_le_add_iff_right, Nat.add_sub_add_right]
  · obtain ⟨-, rfl⟩ := Prod.mk.inj h
    rfl

end Arrival

namespace Session

open WriteAnswer

/-- What is used of the answers is answered like all of them. -/
theorem send_consumed (ws : List WriteAnswer) (bs : Bytes) :
    send (WriteAnswer.consumed ws bs.length) bs = send ws bs := by
  have hlen : ∀ {bs : Bytes}, bs ≠ [] → bs.length ≠ 0 := fun h h0 =>
    h (List.eq_nil_of_length_eq_zero h0)
  fun_induction send ws bs with
  | case1 ws => rw [send]
  | case2 bs hbs =>
      rw [consumed_nil (hlen hbs), send, Nat.min_self, if_neg (hlen hbs), List.drop_length]
      · rfl
      · exact hbs
  | case3 f ws bs hbs hf rest ih =>
      have hnone : (WriteAnswer.fail f).fault? = none := if_pos hf
      have htaken : bs.length - (WriteAnswer.fail f).taken = bs.length := rfl
      rw [consumed_cons_of_none hnone ws (hlen hbs), htaken, send, if_pos hf, ih]
      exact hbs
  | case4 f ws bs hbs hf =>
      have hsome : (WriteAnswer.fail f).fault? = some f := if_neg hf
      rw [consumed_cons_of_some hsome ws (hlen hbs), send, if_neg hf]
      exact hbs
  | case5 n ws bs hbs k hk =>
      have hn : n = 0 := by
        have := hlen hbs
        omega
      subst hn
      rw [consumed_cons_of_some rfl ws (hlen hbs), send, if_pos (Nat.zero_min _)]
      exact hbs
  | case6 n ws bs hbs k hk rest ih =>
      cases n with
      | zero => exact (hk (Nat.zero_min _)).elim
      | succ m =>
          have hdrop : bs.length - (m + 1) = (bs.drop k).length := by
            rw [List.length_drop]
            omega
          rw [consumed_cons_of_none rfl ws (hlen hbs), taken, hdrop, send, if_neg hk, ih]
          exact hbs

/-- Answers of which the same is used let sending do the same. -/
theorem send_congr {ws₁ ws₂ : List WriteAnswer} {bs : Bytes}
    (h : WriteAnswer.consumed ws₁ bs.length = WriteAnswer.consumed ws₂ bs.length) :
    send ws₁ bs = send ws₂ bs := by
  rw [← send_consumed ws₁, ← send_consumed ws₂, h]

/-- Streams of which the same is consumed are received in the same way. -/
theorem receive_congr_consumed {as₁ as₂ : List Arrival} {sink : Sink}
    (h : Arrival.consumed sink as₁ = Arrival.consumed sink as₂) :
    (receive as₁ sink).events = (receive as₂ sink).events ∧
      (receive as₁ sink).records = (receive as₂ sink).records ∧
      (receive as₁ sink).result = (receive as₂ sink).result := by
  obtain ⟨hevents₁, hrecords₁, hresult₁⟩ := Arrival.receive_consumed as₁ sink
  obtain ⟨hevents₂, hrecords₂, hresult₂⟩ := Arrival.receive_consumed as₂ sink
  rw [h] at hevents₁ hrecords₁ hresult₁
  exact ⟨hevents₁.symm.trans hevents₂, hrecords₁.symm.trans hrecords₂,
    hresult₁.symm.trans hresult₂⟩

/-! ## The whole exchange -/

theorem countP_isRead_send (ws : List WriteAnswer) (bs : Bytes) :
    (send ws bs).1.countP Event.isRead = 0 := by
  refine List.countP_eq_zero.mpr fun e he => ?_
  obtain ⟨offered, answer, rfl⟩ := write_of_mem_send he
  exact Bool.false_ne_true

theorem countP_isRead_printed (text : Bytes) : (printed text).countP Event.isRead = 0 := by
  refine List.countP_eq_zero.mpr fun e he => ?_
  rw [mem_printed he]
  exact Bool.false_ne_true

/-- Once the last read is made, what it leaves to arrive is unfinished. -/
theorem unfinished_last_read {as rest : List Arrival} {answer : Except Fault Bytes}
    (h : Arrival.take as = (answer, rest)) (es : List Event) (hes : es.countP Event.isRead = 0) :
    Arrival.unfinished as ((Event.read Arrival.readRoom answer :: es).countP Event.isRead) =
      rest.length := by
  rw [List.countP_cons_of_pos rfl, hes, Arrival.unfinished_take h, Arrival.unfinished_zero]

/-- What receiving leaves unread are the entries that its reads did not consume to their end. -/
theorem length_unread_receive (as : List Arrival) (sink : Sink) :
    (receive as sink).unread.length =
      Arrival.unfinished as ((receive as sink).events.countP Event.isRead) := by
  induction as using Arrival.readInduction generalizing sink with
  | fails as f rest h =>
      rw [receive_failure h]
      exact (unfinished_last_read h [] rfl).symm
  | ends as rest h =>
      rw [receive_end h]
      exact (unfinished_last_read h _ (countP_isRead_printed _)).symm
  | chunk as c rest hc h ih =>
      by_cases hfit : sink.clip (Transcript.chunkLine c) = Transcript.chunkLine c
      · rw [receive_chunk hc h hfit]
        simp only [List.countP_cons, Event.isRead, Bool.false_eq_true, if_true, if_false, add_zero]
        rw [Arrival.unfinished_take h, ih]
      · rw [receive_chunk_short hc h hfit]
        exact (unfinished_last_read h _ (countP_isRead_printed _)).symm

/-- What an exchange leaves unread are the entries that its reads did not consume to their end. -/
theorem length_unread_exchange (request : Bytes) (script : Script) (sink : Sink) :
    (exchange request script sink).unread.length =
      Arrival.unfinished script.arrivals
        ((exchange request script sink).events.countP Event.isRead) := by
  have hwrites := countP_isRead_send script.writes request
  rw [exchange]
  split
  · next events f hs =>
      rw [hs] at hwrites
      show script.arrivals.length = _
      rw [hwrites, Arrival.unfinished_zero]
  · next events hs =>
      rw [hs] at hwrites
      split
      · show script.arrivals.length = Arrival.unfinished _ (List.countP _ (events ++ _))
        rw [List.countP_append, hwrites]
        exact (Arrival.unfinished_zero _).symm
      · show (receive script.arrivals sink).unread.length =
          Arrival.unfinished _ (List.countP _ (events ++ .flush none :: _))
        rw [List.countP_append, hwrites, Nat.zero_add]
        exact length_unread_receive script.arrivals sink

/-- Exchanges that use the same answers, flush alike and consume the same, as far as they get, do the
same. -/
theorem exchange_congr {request : Bytes} {script₁ script₂ : Script} {sink : Sink}
    (hwrites : WriteAnswer.consumed script₁.writes request.length =
      WriteAnswer.consumed script₂.writes request.length)
    (hflush : (send script₁.writes request).2 = none → script₁.flush = script₂.flush)
    (hreads : (send script₁.writes request).2 = none → script₁.flush = none →
      Arrival.consumed sink script₁.arrivals = Arrival.consumed sink script₂.arrivals) :
    let e₁ := exchange request script₁ sink
    let e₂ := exchange request script₂ sink
    e₁.events = e₂.events ∧ e₁.records = e₂.records ∧ e₁.result = e₂.result := by
  intro e₁ e₂
  have hsend := send_congr hwrites
  cases hs : send script₁.writes request with
  | mk events failure =>
      rw [hs] at hflush hreads
      simp only [e₁, e₂, exchange, ← hsend, hs]
      cases failure with
      | some f => exact ⟨rfl, rfl, rfl⟩
      | none =>
          simp only [← hflush rfl]
          cases hf : script₁.flush with
          | some f => exact ⟨rfl, rfl, rfl⟩
          | none =>
              obtain ⟨hevents, hrecords, hresult⟩ := receive_congr_consumed (hreads rfl hf)
              simp only [hevents, hrecords, hresult, and_self]

/-- **A run depends only on what it consumed.** Take two scripts of which a run uses the same answers
to its writes, up to the one that completes the request or is a failure (an interrupted write is
none), that flush alike if it comes to that, and that agree in what is read, up to the entry at which
reading stops. Whatever else they hold and however they shut down, the two runs bring over the same
bytes, print the same, end in the same way, and leave the same events and records up to the shutdown.
What each of them leaves unread are the entries that its reads did not consume to their end. -/
theorem run_of_same_consumed {request : Bytes} {script₁ script₂ : Script} {sink : Sink}
    (hwrites : WriteAnswer.consumed script₁.writes request.length =
      WriteAnswer.consumed script₂.writes request.length)
    (hflush : (send script₁.writes request).2 = none → script₁.flush = script₂.flush)
    (hreads : (send script₁.writes request).2 = none → script₁.flush = none →
      Arrival.consumed sink script₁.arrivals = Arrival.consumed sink script₂.arrivals) :
    let o₁ := run request script₁ sink
    let o₂ := run request script₂ sink
    o₁.result = o₂.result ∧ sent o₁.events = sent o₂.events ∧ output o₁.events = output o₂.events ∧
      (∃ (body : List Event) (unread₁ unread₂ : List Arrival),
        o₁.events = body ++ [Event.shutdown script₁.shutdown, Event.close unread₁] ∧
        o₂.events = body ++ [Event.shutdown script₂.shutdown, Event.close unread₂] ∧
        unread₁.length = Arrival.unfinished script₁.arrivals (body.countP Event.isRead) ∧
        unread₂.length = Arrival.unfinished script₂.arrivals (body.countP Event.isRead)) ∧
      ∃ rs : List Log.Record,
        o₁.records = rs ++ (script₁.shutdown.map shutdownFailed).toList ++ [connectionClosed] ∧
        o₂.records = rs ++ (script₂.shutdown.map shutdownFailed).toList ++ [connectionClosed] := by
  intro o₁ o₂
  obtain ⟨hevents, hrecords, hresult⟩ := exchange_congr hwrites hflush hreads
  have hes₁ : o₁.events = (exchange request script₁ sink).events ++ farewell script₁ _ := rfl
  have hes₂ : o₂.events = (exchange request script₁ sink).events ++
      farewell script₂ (exchange request script₂ sink).unread := by
    rw [hevents]
    rfl
  have hrs₂ : o₂.records = (exchange request script₁ sink).records ++
      (script₂.shutdown.map shutdownFailed).toList ++ [connectionClosed] := by
    rw [hrecords]
    rfl
  refine ⟨hresult, ?_, ?_, ⟨_, _, _, hes₁, hes₂, ?_, ?_⟩, _, rfl, hrs₂⟩
  · rw [hes₁, hes₂, sent_append, sent_append]
    rfl
  · rw [hes₁, hes₂, output_append, output_append, output_farewell, output_farewell]
  · exact length_unread_exchange request script₁ sink
  · rw [hevents]
    exact length_unread_exchange request script₂ sink

/-- Two scripts that differ in unused answers, in what is behind the end of the stream and in the
shutdown. -/
theorem run_of_same_consumed_behind_end :
    let script₁ : Script :=
      { writes := [.fail (.bare .interrupted), .accept 1, .accept 0],
        arrivals := [.data [0x78], .data [], .data [0x79]], shutdown := some (.system 32) }
    let script₂ : Script :=
      { writes := [.fail (.bare .interrupted), .accept 1], arrivals := [.data [0x78]] }
    (run [0x61] script₁ {}).result = (run [0x61] script₂ {}).result ∧
      output (run [0x61] script₁ {}).events = output (run [0x61] script₂ {}).events := by
  intro script₁ script₂
  have hwrites : WriteAnswer.consumed script₁.writes 1 = WriteAnswer.consumed script₂.writes 1 := by
    decide
  have hreads : Arrival.consumed {} script₁.arrivals = Arrival.consumed {} script₂.arrivals := by
    have hall : ∀ text, ({} : Sink).clip text = text := Sink.clip_of_capacity_none rfl
    simp [script₁, script₂, Arrival.consumed, hall]
  obtain ⟨hresult, -, houtput, -⟩ :=
    @run_of_same_consumed [0x61] script₁ script₂ {} hwrites (fun _ => rfl) fun _ _ => hreads
  exact ⟨hresult, houtput⟩

/-- What stands behind a write that failed can matter: two scripts that agree up to the first write,
which is interrupted in both runs, and in all but the writes. How the runs end is decided by the
answer behind it. -/
theorem result_decided_behind_failed_write :
    let script₁ : Script := { writes := [.fail (.bare .interrupted)] }
    let script₂ : Script := { writes := [.fail (.bare .interrupted), .fail (.bare .brokenPipe)] }
    let o₁ := run [0x61] script₁ {}
    let o₂ := run [0x61] script₂ {}
    script₁.writes.take 1 = script₂.writes.take 1 ∧ script₁ = { script₂ with writes := script₁.writes } ∧
      o₁.events.head? = some (.write [0x61] (.error (.bare .interrupted))) ∧
      o₂.events.head? = some (.write [0x61] (.error (.bare .interrupted))) ∧
      o₁.result = .ok {} ∧ o₂.result = .error (.write (.bare .brokenPipe)) := by
  intro script₁ script₂ o₁ o₂
  have hend : Arrival.take script₁.arrivals = (.ok [], []) := rfl
  have hflushed : WriteAnswer.faultOf? script₁.writes 1 = none := by decide
  have hfails : WriteAnswer.faultOf? script₂.writes 1 = some (.bare .brokenPipe) := by decide
  have ho₁ := @run_of_flushed [0x61] script₁ hflushed rfl {}
  have ho₂ := @run_of_send_fault [0x61] script₂ _ hfails {}
  refine ⟨rfl, rfl, ?_, ?_, ?_, ?_⟩
  · rw [show o₁ = _ from ho₁]
    rfl
  · rw [show o₂ = _ from ho₂]
    rfl
  · have hall : ({} : Sink).clip Transcript.endLine = Transcript.endLine :=
      Sink.clip_of_capacity_none rfl _
    rw [show o₁ = _ from ho₁, receive_end hend, hall]
    rfl
  · rw [show o₂ = _ from ho₂]

end Session

end RelayProbe
