import Mathlib.Logic.Function.Iterate
import RelayProbe.Proofs.Session.Run
import RelayProbe.Session.Stepwise

set_option autoImplicit false

/-! # A session that is carried out step by step is a run

Against a script, the steps of a session lead to the end of the run over that script, with the same
result, events and records (`advance_run`). Each step only adds to what happened, and a session that
waits for a read has printed all there was to print (`iterate_advance_keeps_up`).
-/

namespace RelayProbe

/-- The counts of two stretches of a stream together. -/
def Summary.plus (s t : Summary) : Summary := ⟨s.chunks + t.chunks, s.bytes + t.bytes⟩

/-- A chunk may be counted before the chunks behind it, or after them. -/
theorem Summary.map_add_plus (s : Summary) (n : Nat) (r : Except Failure Summary) :
    r.map (s.add n).plus = (r.map (·.add n)).map s.plus := by
  cases r with
  | error f => rfl
  | ok t =>
      simp only [Except.map, Summary.add, Summary.plus, Except.ok.injEq, Summary.mk.injEq]
      omega

theorem Summary.plus_zero (s : Summary) : s.plus {} = s := rfl

theorem Summary.map_zero_plus (r : Except Failure Summary) : r.map (Summary.plus {}) = r := by
  cases r with
  | error f => rfl
  | ok t => simp [Except.map, Summary.plus]

namespace Session

/-- Some number of steps leads from one point of a session to another. -/
def Leads (request : Bytes) (p q : Stage × Course) : Prop := ∃ n, (advance request)^[n] p = q

variable {request : Bytes}

theorem Leads.refl (p : Stage × Course) : Leads request p p := ⟨0, rfl⟩

theorem Leads.step {p q : Stage × Course} (h : advance request p = q) : Leads request p q := ⟨1, h⟩

theorem Leads.trans {p q r : Stage × Course} (h : Leads request p q) (h' : Leads request q r) :
    Leads request p r := by
  obtain ⟨n, rfl⟩ := h
  obtain ⟨m, rfl⟩ := h'
  exact ⟨m + n, Function.iterate_add_apply _ m n p⟩

/-! ## One step -/

section

variable (request)

/-- A line is printed as far as the sink takes it, and the session goes on if that is all of it. -/
theorem advance_printing (pieces : List Bytes) (next : Stage) (c : Course) :
    advance request (.printing pieces next, c) =
      let w := c.sink.writePieces pieces
      (match w.failure with
        | some f => .closing (.error (.output f))
        | none => next,
        { c with sink := w.sink }.happened (printed w.accepted)) := by
  rw [advance, Stage.step, Course.operations]
  simp only [StateT.run_bind, StateT.run_modifyGet, pure_bind]
  cases (c.sink.writePieces pieces).failure with
  | none => rfl
  | some f => rfl

/-- A write that fails ends the exchange, unless it was interrupted: then it is made again. -/
theorem advance_writing_error {c : Course} {left : Bytes} {f : Fault} {writes : List WriteAnswer}
    (h : WriteAnswer.take c.script.writes left = (.error f, writes)) :
    advance request (.writing left, c) =
      (if f.kind = .interrupted then .writing left else .closing (.error (.write f)),
        { c with script.writes := writes }.happened [.write left (.error f)]) := by
  rw [advance, Stage.step, Course.operations]
  simp only [StateT.run_bind, StateT.run_modifyGet, pure_bind, h]
  rfl

/-- What a write leaves over is still to be sent. A write that takes nothing ends the exchange. -/
theorem advance_writing_ok {c : Course} {left : Bytes} {k : Nat} {writes : List WriteAnswer}
    (h : WriteAnswer.take c.script.writes left = (.ok k, writes)) :
    advance request (.writing left, c) =
      (if k = 0 then .closing (.error (.write nothingTaken)) else .sending (left.drop k),
        { c with script.writes := writes }.happened [.write left (.ok k)]) := by
  rw [advance, Stage.step, Course.operations]
  simp only [StateT.run_bind, StateT.run_modifyGet, pure_bind, h]
  rfl

/-- A flush that fails ends the exchange. -/
theorem advance_flushing_failure {c : Course} {f : Fault} (h : c.script.flush = some f) :
    advance request (.flushing, c) =
      (.closing (.error (.write f)), c.happened [.flush (some f)]) := by
  rw [advance, Stage.step, Course.operations]
  simp only [StateT.run_bind, StateT.run_modifyGet, pure_bind, h]
  rfl

/-- Behind the flush comes the first read. -/
theorem advance_flushing {c : Course} (h : c.script.flush = none) :
    advance request (.flushing, c) =
      (.reading {},
        { c with records := c.records ++ [requestSent request.length] }.happened [.flush none]) := by
  rw [advance, Stage.step, Course.operations]
  simp only [StateT.run_bind, StateT.run_modifyGet, pure_bind, h]
  rfl

/-- A read that fails ends the exchange. -/
theorem advance_reading_failure {c : Course} {rest : List Arrival} {f : Fault}
    (h : Arrival.take c.script.arrivals = (.error f, rest)) (counts : Summary) :
    advance request (.reading counts, c) =
      (.closing (.error (.read f)),
        { c with script.arrivals := rest }.happened [.read Arrival.readRoom (.error f)]) := by
  rw [advance, Stage.step, Course.operations]
  simp only [StateT.run_bind, StateT.run_modifyGet, pure_bind, h]
  rfl

/-- A read that finds the end of the stream is followed by the last line. -/
theorem advance_reading_end {c : Course} {rest : List Arrival}
    (h : Arrival.take c.script.arrivals = (.ok [], rest)) (counts : Summary) :
    advance request (.reading counts, c) =
      (.printing Transcript.endPieces (.closing (.ok counts)),
        { c with script.arrivals := rest, records := c.records ++ [closedByPeer] }.happened
          [.read Arrival.readRoom (.ok [])]) := by
  rw [advance, Stage.step, Course.operations]
  simp only [StateT.run_bind, StateT.run_modifyGet, pure_bind, h]
  rfl

/-- A read that gives a chunk is followed by its line, and then by the next read. -/
theorem advance_reading_chunk {c : Course} {rest : List Arrival} {chunk : Bytes} (hne : chunk ≠ [])
    (h : Arrival.take c.script.arrivals = (.ok chunk, rest)) (counts : Summary) :
    advance request (.reading counts, c) =
      (.printing (Transcript.chunkPieces chunk) (.reading (counts.add chunk.length)),
        { c with
          script.arrivals := rest
          records := c.records ++ [chunkReceived chunk.length] }.happened
            [.read Arrival.readRoom (.ok chunk)]) := by
  obtain ⟨b, bs, rfl⟩ := List.exists_cons_of_ne_nil hne
  rw [advance, Stage.step, Course.operations]
  simp only [StateT.run_bind, StateT.run_modifyGet, pure_bind, h]
  rfl

/-- Whatever came of the exchange, the connection is shut down and closed behind it. -/
theorem advance_closing (result : Except Failure Summary) (c : Course) :
    advance request (.closing result, c) =
      (.closed result,
        { c with records :=
            c.records ++ (c.script.shutdown.map shutdownFailed).toList ++ [connectionClosed] }.happened
          [.shutdown c.script.shutdown, .close c.script.arrivals]) := by
  rw [advance, Stage.step, Course.operations]
  simp only [StateT.run_bind, StateT.run_modifyGet, pure_bind]
  cases c.script.shutdown with
  | none =>
      show ((_ : Stage), (_ : Course)) = _
      simp [Course.happened]
  | some f =>
      show ((_ : Stage), (_ : Course)) = _
      simp [Course.happened]

/-! ## Sending -/

/-- Where a session stands when sending is over. -/
def Stage.sent : Option Fault → Stage
  | none => flushing
  | some f => closing (.error (.write f))

/-- The steps of sending lead to where `send` ends. -/
theorem leads_send (ws : List WriteAnswer) (bs : Bytes) (c : Course) (hc : c.script.writes = ws) :
    ∃ writes, Leads request (.sending bs, c)
      (.sent (send ws bs).2, { c with script.writes := writes }.happened (send ws bs).1) := by
  fun_induction send ws bs generalizing c with
  | case1 ws =>
      refine ⟨c.script.writes, ?_⟩
      simpa [Course.happened, Stage.sent, Stage.sending] using Leads.refl _
  | case2 bs hbs =>
      -- past the end of the list a write takes all of it
      have htake : WriteAnswer.take c.script.writes bs = (.ok bs.length, []) := by
        rw [hc, WriteAnswer.take]
      have hlen : bs.length ≠ 0 := fun h0 => hbs (List.eq_nil_of_length_eq_zero h0)
      have hwrite := advance_writing_ok request htake
      rw [if_neg hlen, List.drop_length] at hwrite
      rw [Stage.sending, if_neg hbs]
      exact ⟨[], Leads.step hwrite⟩
  | case3 f ws bs hbs hf rest ih =>
      -- the session still stands at the same write
      have htake : WriteAnswer.take c.script.writes bs = (.error f, ws) := by
        rw [hc, WriteAnswer.take]
      have hwrite := advance_writing_error request htake
      obtain ⟨writes, hrest⟩ := ih
        ({ c with script.writes := ws }.happened [.write bs (.error f)]) rfl
      rw [if_pos hf] at hwrite
      rw [Stage.sending, if_neg hbs] at hrest ⊢
      exact ⟨writes, by simpa [Course.happened, rest] using (Leads.step hwrite).trans hrest⟩
  | case4 f ws bs hbs hf =>
      have htake : WriteAnswer.take c.script.writes bs = (.error f, ws) := by
        rw [hc, WriteAnswer.take]
      have hwrite := advance_writing_error request htake
      rw [if_neg hf] at hwrite
      rw [Stage.sending, if_neg hbs]
      exact ⟨ws, Leads.step hwrite⟩
  | case5 n ws bs hbs k hk =>
      have htake : WriteAnswer.take c.script.writes bs = (.ok 0, ws) := by
        rw [hc, WriteAnswer.take, show min n bs.length = 0 from hk]
      rw [Stage.sending, if_neg hbs]
      exact ⟨ws, Leads.step (advance_writing_ok request htake)⟩
  | case6 n ws bs hbs k hk rest ih =>
      -- the next write offers what this one left, if that is anything
      have htake : WriteAnswer.take c.script.writes bs = (.ok k, ws) := by
        rw [hc, WriteAnswer.take]
      have hwrite := advance_writing_ok request htake
      obtain ⟨writes, hrest⟩ := ih ({ c with script.writes := ws }.happened [.write bs (.ok k)]) rfl
      rw [if_neg hk] at hwrite
      rw [Stage.sending, if_neg hbs]
      exact ⟨writes, by simpa [Course.happened, rest] using (Leads.step hwrite).trans hrest⟩

/-! ## Receiving -/

/-- A course in which the answer was received. -/
def Course.received (c : Course) (r : Received) (sink : Sink) : Course :=
  ⟨{ c.script with arrivals := r.unread }, sink, c.events ++ r.events, c.records ++ r.records⟩

/-- The steps of receiving lead to where `receive` ends. -/
theorem leads_receive (as : List Arrival) (counts : Summary) (c : Course)
    (hc : c.script.arrivals = as) :
    let r := receive as c.sink
    ∃ sink, Leads request (.reading counts, c)
      (.closing (r.result.map counts.plus), c.received r sink) := by
  induction as using Arrival.readInduction generalizing counts c with
  | fails as f rest h =>
      subst hc
      have hread := Leads.step (advance_reading_failure request h counts)
      rw [receive_failure h]
      exact ⟨c.sink, by simpa [Course.received, Course.happened, Except.map] using hread⟩
  | ends as rest h =>
      subst hc
      have hread := Leads.step (advance_reading_end request h counts)
      have hall := hread.trans (Leads.step (advance_printing request _ _ _))
      rw [receive_end h]
      simp only [Course.happened, writePieces_endPieces] at hall
      refine ⟨c.sink.after (c.sink.clip Transcript.endLine).length, ?_⟩
      by_cases hfit : c.sink.clip Transcript.endLine = Transcript.endLine
      · simpa [Course.received, Except.map, hfit, Summary.plus_zero] using hall
      · simpa [Course.received, Except.map, hfit] using hall
  | chunk as chunk rest hne h ih =>
      subst hc
      have hread := Leads.step (advance_reading_chunk request hne h counts)
      have hall := hread.trans (Leads.step (advance_printing request _ _ _))
      simp only [Course.happened, writePieces_chunkPieces] at hall
      by_cases hfit : c.sink.clip (Transcript.chunkLine chunk) = Transcript.chunkLine chunk
      · rw [receive_chunk hne h hfit]
        rw [hfit, if_pos rfl, printed_of_ne_nil (chunkLine_ne_nil _)] at hall
        -- the next reads go on with the chunk counted, and with what the line left of the sink
        obtain ⟨sink, hrest⟩ := ih (counts.add chunk.length)
          ⟨{ c.script with arrivals := rest }, c.sink.after (Transcript.chunkLine chunk).length,
            c.events ++ [.read Arrival.readRoom (.ok chunk)] ++ [.print (Transcript.chunkLine chunk)],
            c.records ++ [chunkReceived chunk.length]⟩ rfl
        rw [Summary.map_add_plus] at hrest
        exact ⟨sink, by simpa [Course.received] using hall.trans hrest⟩
      · rw [receive_chunk_short hne h hfit]
        refine ⟨c.sink.after (c.sink.clip (Transcript.chunkLine chunk)).length, ?_⟩
        simpa [Course.received, Except.map, hfit] using hall

end

/-! ## The whole exchange -/

/-- The steps of an exchange lead to where `exchange` ends. -/
theorem leads_exchange (request : Bytes) (script : Script) (sink : Sink) :
    let e := exchange request script sink
    ∃ writes sink', Leads request (.sending request, { script, sink })
      (.closing e.result,
        ⟨{ script with writes := writes, arrivals := e.unread }, sink', e.events, e.records⟩) := by
  obtain ⟨writes, hsend⟩ := leads_send request script.writes request { script, sink } rfl
  cases hs : send script.writes request with
  | mk events failure =>
      rw [hs] at hsend
      rcases failure with _ | f
      · rcases Option.eq_none_or_eq_some script.flush with hf | ⟨f, hf⟩
        · have hflush := @advance_flushing request
            ⟨{ script with writes := writes }, sink, events, []⟩ hf
          obtain ⟨sink', hreceive⟩ := leads_receive request script.arrivals {}
            ⟨{ script with writes := writes }, sink, events ++ [.flush none],
              [requestSent request.length]⟩ rfl
          have hall := (hsend.trans (Leads.step hflush)).trans hreceive
          rw [exchange_of_flushed hs hf]
          exact ⟨writes, sink', by simpa [Course.received, Summary.map_zero_plus] using hall⟩
        · have hflush := @advance_flushing_failure request
            ⟨{ script with writes := writes }, sink, events, []⟩ f hf
          rw [exchange_of_flush_fault hs hf]
          exact ⟨writes, sink, hsend.trans (Leads.step hflush)⟩
      · rw [exchange_of_send_fault hs]
        exact ⟨writes, sink, hsend⟩

/-- **The steps of a session make up its run.** Taken against a script and a sink, they come to an end,
with the result, the events and the records of the run. -/
theorem advance_run (request : Bytes) (script : Script) (sink : Sink) :
    let o := run request script sink
    ∃ n left, (advance request)^[n] (.sending request, { script, sink }) = (.closed o.result, left) ∧
      left.events = o.events ∧ left.records = o.records := by
  obtain ⟨writes, sink', hexchange⟩ := leads_exchange request script sink
  obtain ⟨n, hn⟩ := hexchange.trans (Leads.step (advance_closing request _ _))
  exact ⟨n, _, hn, rfl, rfl⟩

/-! ## On the way -/

/-- A step adds to what happened. -/
theorem exists_events_advance (request : Bytes) (p : Stage × Course) :
    ∃ es, (advance request p).2.events = p.2.events ++ es := by
  obtain ⟨stage, c⟩ := p
  cases stage with
  | writing left =>
      rcases h : WriteAnswer.take c.script.writes left with ⟨f | k, writes⟩
      · exact ⟨_, by rw [advance_writing_error request h]; rfl⟩
      · exact ⟨_, by rw [advance_writing_ok request h]; rfl⟩
  | flushing =>
      rcases hf : c.script.flush with _ | f
      · exact ⟨_, by rw [advance_flushing request hf]; rfl⟩
      · exact ⟨_, by rw [advance_flushing_failure request hf]; rfl⟩
  | reading counts =>
      rcases h : Arrival.take c.script.arrivals with ⟨f | chunk, rest⟩
      · exact ⟨_, by rw [advance_reading_failure request h]; rfl⟩
      · by_cases hne : chunk = []
        · subst hne
          exact ⟨_, by rw [advance_reading_end request h]; rfl⟩
        · exact ⟨_, by rw [advance_reading_chunk request hne h]; rfl⟩
  | printing pieces next => exact ⟨_, by rw [advance_printing]; rfl⟩
  | closing result => exact ⟨_, by rw [advance_closing]; rfl⟩
  | closed result => exact ⟨[], (List.append_nil _).symm⟩

/-- Later steps leave what happened before. -/
theorem events_iterate_isPrefix (request : Bytes) (p : Stage × Course) {n m : Nat} (h : n ≤ m) :
    ((advance request)^[n] p).2.events <+: ((advance request)^[m] p).2.events := by
  induction h with
  | refl => exact List.prefix_rfl
  | @step m _ ih =>
      obtain ⟨es, hes⟩ := exists_events_advance request ((advance request)^[m] p)
      rw [Function.iterate_succ_apply', hes]
      exact ih.trans (List.prefix_append _ _)

/-- All that is owed is printed where a session stands, but for the lines that it prints before it goes
on. Of a failed exchange nothing is said: the sink may have taken a line in part. -/
def Stage.Settled (printed owed : Bytes) : Stage → Prop
  | printing pieces next => next.Settled (printed ++ pieces.flatten) owed
  | closing (.error _) => True
  | closed (.error _) => True
  | _ => printed = owed

/-- Events that print nothing and owe nothing leave it at that. -/
theorem settled_happened {stage : Stage} {c : Course} {es : List Event} (hprinted : output es = [])
    (howed : owed es = []) (h : stage.Settled (output c.events) (owed c.events)) :
    stage.Settled (output (c.happened es).events) (owed (c.happened es).events) := by
  rw [Course.happened, output_append, owed_append, hprinted, howed, List.append_nil,
    List.append_nil]
  exact h

/-- A step keeps what is printed and what is owed together. -/
theorem settled_advance {p : Stage × Course}
    (h : p.1.Settled (output p.2.events) (owed p.2.events)) :
    (advance request p).1.Settled (output (advance request p).2.events)
      (owed (advance request p).2.events) := by
  obtain ⟨stage, c⟩ := p
  cases stage with
  | writing left =>
      rcases ht : WriteAnswer.take c.script.writes left with ⟨f | k, writes⟩
      · rw [advance_writing_error request ht]
        split
        · exact settled_happened rfl rfl h
        · trivial
      · rw [advance_writing_ok request ht, Stage.sending]
        split
        · trivial
        · split <;> exact settled_happened rfl rfl h
  | flushing =>
      rcases hf : c.script.flush with _ | f
      · rw [advance_flushing request hf]
        exact settled_happened rfl rfl h
      · rw [advance_flushing_failure request hf]
        trivial
  | reading counts =>
      have hall : output c.events = owed c.events := h
      rcases ht : Arrival.take c.script.arrivals with ⟨f | chunk, rest⟩
      · rw [advance_reading_failure request ht]
        trivial
      -- the line of what was read is owed now, and stands in the pieces to be printed
      · by_cases hne : chunk = []
        · subst hne
          rw [advance_reading_end request ht]
          simp [Course.happened, Event.printed, Event.owed, Stage.Settled, hall,
            Transcript.endPieces_flatten]
        · rw [advance_reading_chunk request hne ht]
          simp [Course.happened, Event.printed, owed_read_chunk hne, Stage.Settled, hall,
            Transcript.chunkPieces_flatten]
  | printing pieces next =>
      have hnext : next.Settled (output c.events ++ pieces.flatten) (owed c.events) := h
      rw [advance_printing]
      cases hw : (c.sink.writePieces pieces).failure with
      | some f => simp [hw, Stage.Settled]
      | none =>
          have hline := Sink.accepted_writePieces hw
          simpa [Course.happened, hw, hline, (silent_printed _).1] using hnext
  | closing result =>
      rw [advance_closing]
      cases result with
      | error f => trivial
      | ok s => exact settled_happened rfl rfl h
  | closed result => exact h

/-- However many steps a session has taken, what is printed and what is owed stay together. -/
theorem settled_iterate (request : Bytes) (script : Script) (sink : Sink) (n : Nat) :
    let p := (advance request)^[n] (.sending request, { script, sink })
    p.1.Settled (output p.2.events) (owed p.2.events) := by
  induction n with
  | zero =>
      show (Stage.sending request).Settled [] []
      rw [Stage.sending]
      split <;> rfl
  | succ n ih =>
      rw [Function.iterate_succ_apply']
      exact settled_advance ih

/-- **Nothing is held back.** At any moment of a session the events so far are the first ones of its
run. When it waits for a read, all is printed that is owed for the reads before. -/
theorem iterate_advance_keeps_up (request : Bytes) (script : Script) (sink : Sink) (n : Nat) :
    let p := (advance request)^[n] (.sending request, { script, sink })
    p.2.events <+: (run request script sink).events ∧
      ∀ counts, p.1 = .reading counts → output p.2.events = owed p.2.events := by
  intro p
  constructor
  · obtain ⟨last, left, hlast, hevents, -⟩ := advance_run request script sink
    rcases Nat.le_total n last with hle | hle
    · rw [← hevents, show left = (_, left).2 from rfl, ← hlast]
      exact events_iterate_isPrefix request _ hle
    · -- a closed session stays as it is
      obtain ⟨k, rfl⟩ := Nat.exists_eq_add_of_le' hle
      have hp : p = (.closed (run request script sink).result, left) := by
        rw [show p = _ from Function.iterate_add_apply _ k last _, hlast]
        exact Function.iterate_fixed rfl k
      have hall : p.2.events = (run request script sink).events := by
        rw [hp]
        exact hevents
      exact hall ▸ List.prefix_rfl
  · intro counts hreading
    have hsettled : p.1.Settled (output p.2.events) (owed p.2.events) :=
      settled_iterate request script sink n
    rw [hreading] at hsettled
    exact hsettled

end Session

end RelayProbe
