import RelayProbe.Proofs.Session.Run

set_option autoImplicit false

/-! # In which order things happen

Whether an event may come next depends on the events before it (`Allowed`). A list of events follows
the rules when each of its events is allowed where it stands (`Follows`). Sending does, receiving
does, and so does a whole run (`follows_run`). What the rules mean for two events that stand far
apart is then read off the rules alone (`Orderly`).
-/

namespace RelayProbe

namespace Session

open WriteAnswer

/-! ## The rules -/

/-- Whether an event is a step of the exchange: a write, a flush or a read. -/
def Event.isStep (e : Event) : Bool := e.isWrite || e.isFlush || e.isRead

/-- Nothing has ended the exchange so far: no failure, no end of the stream, and the sink took
whatever had to be printed. -/
structure Going (sink : Sink) (past : List Event) : Prop where
  unfailed : failures past = []
  unended : ∀ e ∈ past, e.foundEnd = false
  printed : output past = owed past
  fits : sink.clip (owed past) = owed past

/-- Whether an event may come next, after the events of `past`. -/
def Allowed (request : Bytes) (sink : Sink) (past : List Event) : Event → Prop
  | .write _ _ => Going sink past ∧ ∀ e ∈ past, e.isWrite = true
  | .flush _ => Going sink past ∧ (∀ e ∈ past, e.isWrite = true) ∧ sent past = request
  | .read _ _ => Going sink past ∧ .flush none ∈ past
  | .print text =>
      (∃ (before : List Event) (read : Event),
        past = before ++ [read] ∧ read.isRead = true ∧ Going sink before) ∧
        text ≠ [] ∧ output past ++ text = sink.clip (owed past)
  | .shutdown _ => output past = sink.clip (owed past)
  | .close _ => ∃ before f, past = before ++ [Event.shutdown f]

/-- Every event is allowed after those that stand before it. -/
def Follows (request : Bytes) (sink : Sink) : List Event → List Event → Prop
  | _, [] => True
  | past, e :: es => Allowed request sink past e ∧ Follows request sink (past ++ [e]) es

variable {request : Bytes} {sink : Sink} {past es fs : List Event}

theorem follows_append :
    Follows request sink past (es ++ fs) ↔
      Follows request sink past es ∧ Follows request sink (past ++ es) fs := by
  induction es generalizing past with
  | nil => simp [Follows]
  | cons e es ih => simp [Follows, ih, and_assoc]

/-- An event of a list that follows the rules is allowed where it stands. -/
theorem Follows.allowed {e : Event} (h : Follows request sink past (es ++ e :: fs)) :
    Allowed request sink (past ++ es) e := (follows_append.mp h).2.1

namespace Going

/-- As long as no write failed, the exchange is going. -/
theorem of_writes (hw : ∀ e ∈ past, e.isWrite = true) (hf : failures past = []) :
    Going sink past where
  unfailed := hf
  unended := by
    intro e he
    have hwrite := hw e he
    cases e with
    | write offered answer => rfl
    | _ => cases hwrite
  printed := by rw [(silent_of_writes hw).1, (silent_of_writes hw).2.1]
  fits := by rw [(silent_of_writes hw).2.1, Sink.clip_nil]

/-- The exchange goes on when nothing failed, nothing ended, and all was printed. -/
theorem append (h : Going sink past) (hf : failures es = []) (he : ∀ e ∈ es, e.foundEnd = false)
    (hp : output es = owed es) (hs : sink.clip (owed (past ++ es)) = owed (past ++ es)) :
    Going sink (past ++ es) where
  unfailed := by rw [failures_append, h.unfailed, hf, List.append_nil]
  unended := by
    intro e hmem
    rcases List.mem_append.mp hmem with hmem | hmem
    · exact h.unended e hmem
    · exact he e hmem
  printed := by rw [output_append, owed_append, h.printed, hp]
  fits := hs

end Going

/-! ## A run follows the rules -/

/-- Sending follows the rules. -/
theorem follows_send (request : Bytes) (sink : Sink) (ws : List WriteAnswer) (bs : Bytes) :
    ∀ past, (∀ e ∈ past, e.isWrite = true) → failures past = [] →
      Follows request sink past (send ws bs).1 := by
  -- a write joins the past: it is one more write, and no failure if another one comes behind it
  have hsnoc : ∀ {past : List Event} {e : Event}, (∀ d ∈ past, d.isWrite = true) →
      e.isWrite = true → ∀ d ∈ past ++ [e], d.isWrite = true := by
    intro past e hw he d hd
    rcases List.mem_append.mp hd with hd | hd
    · exact hw d hd
    · rw [List.mem_singleton.mp hd]
      exact he
  fun_induction send ws bs with
  | case1 ws =>
      intro past _ _
      trivial
  | case2 bs hbs =>
      intro past hw hf
      exact ⟨⟨Going.of_writes hw hf, hw⟩, trivial⟩
  | case3 f ws bs hbs hf rest ih =>
      intro past hw hfail
      have hnone : (Event.write bs (.error f)).failure? = none := if_pos hf
      refine ⟨⟨Going.of_writes hw hfail, hw⟩, ih _ (hsnoc hw rfl) ?_⟩
      simp [hfail, hnone]
  | case4 f ws bs hbs hf =>
      intro past hw hfail
      exact ⟨⟨Going.of_writes hw hfail, hw⟩, trivial⟩
  | case5 n ws bs hbs k hk =>
      intro past hw hfail
      exact ⟨⟨Going.of_writes hw hfail, hw⟩, trivial⟩
  | case6 n ws bs hbs k hk rest ih =>
      intro past hw hfail
      refine ⟨⟨Going.of_writes hw hfail, hw⟩, ih _ (hsnoc hw rfl) ?_⟩
      simp [hfail, failure?_write_ok hk]

/-- What a sink still takes after the output of some events is what another sink takes. -/
def LeftBy (sink : Sink) (past : List Event) (left : Sink) : Prop :=
  ∀ text, sink.clip (output past ++ text) = output past ++ left.clip text

/-- A last read, with as much of its text as the sink takes, follows the rules. -/
theorem follows_read_printed {left : Sink} {room : Nat} {c : Bytes} (hg : Going sink past)
    (hflush : .flush none ∈ past) (hleft : LeftBy sink past left) :
    let read := Event.read room (.ok c)
    Follows request sink past (read :: printed (left.clip read.owed)) ∧
      output (past ++ read :: printed (left.clip read.owed)) =
        sink.clip (owed (past ++ read :: printed (left.clip read.owed))) := by
  intro read
  have htext : output past ++ left.clip read.owed = sink.clip (owed past ++ read.owed) := by
    rw [← hg.printed, hleft]
  have hall : output (past ++ read :: printed (left.clip read.owed)) =
      sink.clip (owed (past ++ read :: printed (left.clip read.owed))) := by
    simp only [output_append, output_cons, output_printed, owed_append, owed_cons,
      (silent_printed _).1, List.append_nil]
    exact htext
  refine ⟨⟨⟨hg, hflush⟩, ?_⟩, hall⟩
  -- a sink that takes nothing of the line leaves no event
  by_cases hnil : left.clip read.owed = []
  · rw [hnil]
    trivial
  · rw [printed_of_ne_nil hnil]
    refine ⟨⟨⟨past, read, rfl, rfl, hg⟩, hnil, ?_⟩, trivial⟩
    simpa [Event.printed, read] using htext

/-- After a chunk whose line was printed the exchange is going on, and the sink is left with so much
less room. -/
theorem going_chunk {left : Sink} (room : Nat) {c : Bytes} (hc : c ≠ []) (hg : Going sink past)
    (hleft : LeftBy sink past left)
    (hfit : left.clip (Transcript.chunkLine c) = Transcript.chunkLine c) :
    let es := [.read room (.ok c), .print (Transcript.chunkLine c)]
    Going sink (past ++ es) ∧
      LeftBy sink (past ++ es) (left.after (Transcript.chunkLine c).length) := by
  intro es
  have hout : output es = Transcript.chunkLine c := List.append_nil _
  have howed : owed es = Transcript.chunkLine c := by
    show (Event.read room (.ok c)).owed ++ [] = _
    rw [List.append_nil, owed_read_chunk hc]
  constructor
  · refine hg.append ?_ ?_ (hout.trans howed.symm) ?_
    · simp [es, Event.failure?]
    · intro e he
      simp only [es, List.mem_cons, List.not_mem_nil, or_false] at he
      rcases he with rfl | rfl
      · exact foundEnd_read_chunk hc
      · rfl
    · rw [owed_append, howed, ← hg.printed, hleft, hfit]
  · intro text
    rw [output_append, hout, List.append_assoc, hleft, Sink.clip_append hfit, List.append_assoc]

/-- Receiving follows the rules, and has printed as much as the sink takes in the end. -/
theorem follows_receive (request : Bytes) (sink : Sink) (as : List Arrival) :
    ∀ past left, Going sink past → .flush none ∈ past → LeftBy sink past left →
      Follows request sink past (receive as left).events ∧
        output (past ++ (receive as left).events) =
          sink.clip (owed (past ++ (receive as left).events)) := by
  -- what is left of the sink goes along with the past, read by read
  induction as using Arrival.readInduction with
  | fails as f rest h =>
      intro past left hg hflush _
      rw [receive_failure h]
      refine ⟨⟨⟨hg, hflush⟩, trivial⟩, ?_⟩
      simpa [Event.printed, Event.owed, hg.printed] using hg.fits.symm
  | ends as rest h =>
      intro past left hg hflush hleft
      rw [receive_end h]
      exact follows_read_printed hg hflush hleft
  | chunk as c rest hc h ih =>
      intro past left hg hflush hleft
      have howed : (Event.read Arrival.readRoom (.ok c)).owed = Transcript.chunkLine c :=
        owed_read_chunk hc
      by_cases hfit : left.clip (Transcript.chunkLine c) = Transcript.chunkLine c
      · rw [receive_chunk hc h hfit]
        obtain ⟨hg', hleft'⟩ := going_chunk Arrival.readRoom hc hg hleft hfit
        have hline : output past ++ Transcript.chunkLine c =
            sink.clip (owed past ++ Transcript.chunkLine c) := by
          rw [← hg.printed, hleft, hfit]
        obtain ⟨hfollows, hout⟩ :=
          ih _ _ hg' (List.mem_append_left _ hflush) hleft'
        constructor
        · refine ⟨⟨hg, hflush⟩, ⟨⟨past, _, rfl, rfl, hg⟩, chunkLine_ne_nil c, ?_⟩, ?_⟩
          · simpa [Event.printed, howed] using hline
          · rw [List.append_assoc]
            exact hfollows
        · simpa using hout
      · rw [receive_chunk_short hc h hfit, ← howed]
        exact follows_read_printed hg hflush hleft

/-- The connection is shut down once all was printed that the sink takes, and closed then. -/
theorem follows_farewell (request : Bytes) (script : Script) (unread : List Arrival)
    (h : output past = sink.clip (owed past)) :
    Follows request sink past (farewell script unread) :=
  ⟨h, ⟨past, script.shutdown, rfl⟩, trivial⟩

/-- After sending that does not fail, the request is flushed. -/
theorem allowed_flush {script : Script} (sink : Sink) (f : Option Fault)
    (hw : faultOf? script.writes request.length = none) :
    Allowed request sink (send script.writes request).1 (.flush f) := by
  have hsent : (send script.writes request).2 = none := (send_failure _ _).trans hw
  have hfail : failures (send script.writes request).1 = [] := by
    rw [failures_send, hsent]
    rfl
  have hwrites : ∀ e ∈ (send script.writes request).1, e.isWrite = true :=
    fun _ => isWrite_of_mem_send
  exact ⟨Going.of_writes hwrites hfail, hwrites, sent_send _ _ hsent⟩

/-- **A run follows the rules.** -/
theorem follows_run (request : Bytes) (script : Script) (sink : Sink) :
    Follows request sink [] (run request script sink).events := by
  have hsend := follows_send request sink script.writes request [] (fun _ he => nomatch he) rfl
  cases hw : faultOf? script.writes request.length with
  | some f =>
      rw [run_of_send_fault hw]
      refine follows_append.mpr ⟨hsend, follows_farewell request script _ ?_⟩
      simp [output_send, owed_send]
  | none =>
      have hflush := fun f => allowed_flush sink f hw
      cases hf : script.flush with
      | some f =>
          rw [run_of_flush_fault hw hf]
          refine follows_append.mpr ⟨hsend, hflush (some f), follows_farewell request script _ ?_⟩
          simp [output_send, owed_send, Event.printed, Event.owed]
      | none =>
          rw [run_of_flushed hw hf]
          have hg : Going sink ((send script.writes request).1 ++ [.flush none]) := by
            refine (hflush none).1.append rfl (fun e he => ?_) rfl ?_
            · rw [List.mem_singleton.mp he]
              rfl
            · simp [owed_send, Event.owed]
          have hleft : LeftBy sink ((send script.writes request).1 ++ [.flush none]) sink := by
            intro text
            simp [output_send, Event.printed]
          obtain ⟨hreceive, hout⟩ :=
            follows_receive request sink script.arrivals _ _ hg (by simp) hleft
          refine follows_append.mpr ⟨follows_append.mpr ⟨hsend, hflush none, hreceive⟩,
            follows_farewell request script _ ?_⟩
          simpa using hout

/-! ## What the rules mean -/

/-- The order of effects in a list of events. -/
structure Orderly (request : Bytes) (sink : Sink) (es : List Event) : Prop where
  /-- The request is flushed when all of it was taken. -/
  flush_after_request : ∀ (past : List Event) f rest,
    es = past ++ Event.flush f :: rest → sent past = request
  flush_once : ∀ (past : List Event) f rest, es = past ++ Event.flush f :: rest →
    ∀ e ∈ past ++ rest, e.isFlush = false
  read_after_flush : ∀ (past : List Event) room answer rest,
    es = past ++ Event.read room answer :: rest → Event.flush none ∈ past
  reads_last : ∀ (past : List Event) room answer rest, es = past ++ Event.read room answer :: rest →
    ∀ e ∈ rest, e.isWrite = false ∧ e.isFlush = false
  reads_apart : ∀ (past : List Event) (d e : Event) rest, es = past ++ d :: e :: rest →
    d.isRead = true → e.isRead = false
  /-- The line of a read comes right after it, as much of it as the sink takes. When that is not all
  of it, the exchange is over. -/
  line_follows : ∀ (past : List Event) room c rest, es = past ++ Event.read room (.ok c) :: rest →
    let line := (Event.read room (.ok c)).owed
    ∃ text after, rest = printed text ++ after ∧
      output past ++ text = sink.clip (output past ++ line) ∧
      (text ≠ line → ∀ e ∈ after, e.isStep = false)
  /-- A failure ends the exchange, and so does the end of the stream. -/
  stops : ∀ (past : List Event) (e : Event) rest, es = past ++ e :: rest →
    e.failure? ≠ none ∨ e.foundEnd = true → ∀ d ∈ rest, d.isStep = false
  /-- An interrupted write is made again at once. -/
  interrupted_again : ∀ (past : List Event) offered f rest,
    es = past ++ Event.write offered (.error f) :: rest → f.kind = .interrupted →
      ∃ answer rest', rest = Event.write offered answer :: rest'
  /-- What is printed is the beginning of the line of the read before it. -/
  print_in_place : ∀ (past : List Event) text rest, es = past ++ Event.print text :: rest →
    ∃ (before : List Event) (read : Event),
      past = before ++ [read] ∧ read.isRead = true ∧ text ≠ [] ∧ text <+: read.owed
  /-- The line at the end is printed behind a read that found the end of the stream. -/
  end_in_place : ∀ (past : List Event) text rest, es = past ++ Event.print text :: rest →
    text <+: Transcript.endLine → ∃ before room, past = before ++ [Event.read room (.ok [])]
  closes : ∃ (body : List Event) (f : Option Fault) (unread : List Arrival),
    es = body ++ [Event.shutdown f, Event.close unread] ∧
      ∀ e ∈ body, e.isShutdown = false ∧ e.isClose = false

theorem owed_read_ne_nil (room : Nat) (c : Bytes) : (Event.read room (.ok c)).owed ≠ [] := by
  cases c with
  | nil => exact endLine_ne_nil
  | cons b bs => exact chunkLine_ne_nil (b :: bs)

/-- The two kinds of lines differ from their first byte on. -/
theorem eq_nil_of_both_lines {text c : Bytes} (hend : text <+: Transcript.endLine)
    (hchunk : text <+: Transcript.chunkLine c) : text = [] := by
  cases text with
  | nil => rfl
  | cons b bs =>
      have he : b = 0x53 := (List.cons_prefix_cons.mp hend).1
      have hc : b = 0x52 := (List.cons_prefix_cons.mp hchunk).1
      rw [he] at hc
      exact absurd hc (by decide)

/-- Every step of the exchange is made while it is going. -/
theorem Allowed.going {e : Event} (h : Allowed request sink past e) (hstep : e.isStep = true) :
    Going sink past := by
  cases e with
  | write offered answer => exact h.1
  | flush f => exact h.1
  | read room answer => exact h.1
  | _ => cases hstep

/-- A step that comes later finds the sink without anything left to print. -/
theorem Going.printed_before (h : Going sink (past ++ es))
    (hp : output past = sink.clip (owed past)) : output past = owed past := by
  have hfits := h.fits
  rw [owed_append] at hfits
  exact hp.trans (Sink.clip_append_eq_iff.mp hfits).1

namespace Follows

variable {e : Event} {rest : List Event}

/-- An event that comes later is allowed where it stands. -/
theorem allowed_later (h : Follows request sink [] (past ++ rest)) (he : e ∈ rest) :
    ∃ mid, Allowed request sink (past ++ mid) e := by
  obtain ⟨mid, last, rfl⟩ := List.append_of_mem he
  rw [← List.append_assoc] at h
  exact ⟨mid, h.allowed⟩

/-- Behind an event that is no write there is no write and no flush. -/
theorem no_write_after {d : Event} (h : Follows request sink [] (past ++ d :: rest))
    (hd : d.isWrite = false) : ∀ e ∈ rest, e.isWrite = false ∧ e.isFlush = false := by
  intro e he
  rw [List.append_cons] at h
  obtain ⟨mid, hallowed⟩ := h.allowed_later he
  have hmem : d ∈ past ++ [d] ++ mid := by simp
  cases e with
  | write offered answer => exact absurd (hallowed.2 d hmem) (by simp [hd])
  | flush f => exact absurd (hallowed.2.1 d hmem) (by simp [hd])
  -- nothing else asks for a past that is all writes
  | _ => exact ⟨rfl, rfl⟩

/-- Behind a failure and behind the end of the stream there is no step. -/
theorem no_step_after {d : Event} (h : Follows request sink [] (past ++ d :: rest))
    (hd : d.failure? ≠ none ∨ d.foundEnd = true) : ∀ e ∈ rest, e.isStep = false := by
  intro e he
  refine Bool.eq_false_iff.mpr fun hstep => ?_
  rw [List.append_cons] at h
  obtain ⟨mid, hallowed⟩ := h.allowed_later he
  have hg := hallowed.going hstep
  rcases hd with hfail | hend
  · have hnone : failures (past ++ [d] ++ mid) = [] := hg.unfailed
    simp only [failures_append, failures_cons, failures_nil, List.append_nil,
      List.append_eq_nil_iff, Option.toList_eq_nil_iff] at hnone
    exact hfail hnone.1.2
  · have hopen := hg.unended d (by simp)
    rw [hend] at hopen
    cases hopen

/-- What may come right after a read is a text, or else the end of the exchange. -/
theorem read_next {room : Nat} {c : Bytes} {d : Event}
    (h : Follows request sink [] (past ++ Event.read room (.ok c) :: d :: rest)) :
    (∃ text, d = .print text) ∨ ∃ f, d = .shutdown f := by
  have hread : Allowed request sink past (.read room (.ok c)) := h.allowed
  rw [List.append_cons] at h
  have hnext : Allowed request sink (past ++ [.read room (.ok c)]) d := h.allowed
  have hmem : Event.read room (.ok c) ∈ past ++ [.read room (.ok c)] := by simp
  cases d with
  | write offered answer => exact nomatch hnext.2 _ hmem
  | flush f => exact nomatch hnext.2.1 _ hmem
  | read room' answer =>
      -- the line of the first read would have been printed before the second one
      have hp := hnext.1.printed
      rw [output_append, owed_append, hread.1.printed, List.append_right_inj] at hp
      refine absurd hp.symm ?_
      simpa [Event.printed] using owed_read_ne_nil room c
  | print text => exact Or.inl ⟨text, rfl⟩
  | shutdown f => exact Or.inr ⟨f, rfl⟩
  | close unread =>
      obtain ⟨before, f, hb⟩ := hnext
      exact nomatch (List.append_inj' hb rfl).2

/-- Once the sink took less than had to be printed there is no step. -/
theorem no_step_after_short (h : Follows request sink [] (past ++ rest))
    (hout : output past = sink.clip (owed past)) (hshort : output past ≠ owed past) :
    ∀ e ∈ rest, e.isStep = false := by
  intro e he
  refine Bool.eq_false_iff.mpr fun hstep => ?_
  obtain ⟨mid, hallowed⟩ := h.allowed_later he
  exact hshort ((hallowed.going hstep).printed_before hout)

/-- Right after a read comes its line, as much of it as the sink takes. -/
theorem line_after {room : Nat} {c : Bytes}
    (h : Follows request sink [] (past ++ Event.read room (.ok c) :: rest)) (hrest : rest ≠ []) :
    let line := (Event.read room (.ok c)).owed
    ∃ text after, rest = printed text ++ after ∧
      output past ++ text = sink.clip (output past ++ line) ∧
      (text ≠ line → ∀ e ∈ after, e.isStep = false) := by
  intro line
  have hg : Going sink past := (h.allowed : Allowed request sink past _).1
  obtain ⟨text, after, hsplit, hline⟩ : ∃ text after, rest = printed text ++ after ∧
      output past ++ text = sink.clip (output past ++ line) := by
    obtain ⟨d, rest, rfl⟩ := List.exists_cons_of_ne_nil hrest
    have hnext := h
    rw [List.append_cons] at hnext
    -- the sink took a text, or nothing at all, and then comes the end
    rcases h.read_next with ⟨text, rfl⟩ | ⟨f, rfl⟩
    · obtain ⟨-, hne, hout⟩ : Allowed request sink _ (.print text) := hnext.allowed
      refine ⟨text, rest, ?_, ?_⟩
      · rw [printed_of_ne_nil hne]
        rfl
      · simpa [Event.printed, hg.printed, line] using hout
    · have hout : output _ = _ := (hnext.allowed : Allowed request sink _ (.shutdown f))
      refine ⟨[], .shutdown f :: rest, rfl, ?_⟩
      simpa [Event.printed, hg.printed, line] using hout
  refine ⟨text, after, hsplit, hline, fun hshort => ?_⟩
  rw [hsplit, ← List.cons_append, ← List.append_assoc] at h
  refine h.no_step_after_short ?_ ?_
  · simpa [Event.printed, silent_printed, ← hg.printed] using hline
  · simpa [Event.printed, silent_printed, ← hg.printed] using hshort

/-- A text is printed right after a read, and is the beginning of its line. -/
theorem print_after_read {text : Bytes}
    (h : Follows request sink [] (past ++ Event.print text :: rest)) :
    ∃ (before : List Event) (read : Event),
      past = before ++ [read] ∧ read.isRead = true ∧ text ≠ [] ∧ text <+: read.owed := by
  obtain ⟨⟨before, read, rfl, hread, hg⟩, hne, hout⟩ :
    Allowed request sink past (.print text) := h.allowed
  refine ⟨before, read, rfl, hread, hne, ?_⟩
  have hsilent : read.printed = [] := by
    cases read with
    | read room answer => rfl
    | _ => cases hread
  have hline : owed before ++ text = sink.clip (owed before ++ read.owed) := by
    simpa [hsilent, hg.printed] using hout
  have hle : owed before ++ text <+: owed before ++ read.owed := hline ▸ sink.clip_isPrefix _
  exact (List.prefix_append_right_inj _).mp hle

end Follows

/-- **The order of effects.** A list of events that follows the rules and ends with the shutdown and
the close of the connection is in order. -/
theorem orderly_of_follows (h : Follows request sink [] es)
    (hagain : ∀ (past : List Event) offered f rest,
      es = past ++ Event.write offered (.error f) :: rest → f.kind = .interrupted →
        ∃ answer rest', rest = Event.write offered answer :: rest')
    (hclose : ∃ (body : List Event) (f : Option Fault) (unread : List Arrival),
      es = body ++ [Event.shutdown f, Event.close unread] ∧
        ∀ e ∈ body, e.isShutdown = false ∧ e.isClose = false) :
    Orderly request sink es where
  flush_after_request := by
    rintro past f rest rfl
    exact (h.allowed : Allowed request sink past (.flush f)).2.2
  flush_once := by
    rintro past f rest rfl e he
    rcases List.mem_append.mp he with he | he
    · have hw := (h.allowed : Allowed request sink past (.flush f)).2.1 e he
      obtain ⟨offered, answer, rfl⟩ := Event.exists_eq_write hw
      rfl
    · exact (h.no_write_after rfl e he).2
  read_after_flush := by
    rintro past room answer rest rfl
    exact (h.allowed : Allowed request sink past (.read room answer)).2
  reads_last := by
    rintro past room answer rest rfl
    exact h.no_write_after rfl
  reads_apart := by
    rintro past d e rest rfl hd
    cases d with
    | read room answer =>
        cases answer with
        | ok c =>
            rcases h.read_next with ⟨text, rfl⟩ | ⟨f, rfl⟩ <;> rfl
        | error f =>
            have hstep := h.no_step_after (Or.inl (by simp [Event.failure?])) e List.mem_cons_self
            exact (Bool.or_eq_false_iff.mp hstep).2
    | _ => cases hd
  line_follows := by
    rintro past room c rest rfl
    refine h.line_after ?_
    -- a read is not the last event, which is the close
    rintro rfl
    obtain ⟨body, f, unread, hend, -⟩ := hclose
    have hlast := congrArg List.getLast? hend
    simp at hlast
  stops := by
    rintro past e rest rfl he
    exact h.no_step_after he
  interrupted_again := hagain
  print_in_place := by
    rintro past text rest rfl
    exact h.print_after_read
  end_in_place := by
    rintro past text rest rfl hend
    obtain ⟨before, read, rfl, hread, hne, hline⟩ := h.print_after_read
    cases read with
    | read room answer =>
        match answer, hline with
        | .ok [], _ => exact ⟨before, room, rfl⟩
        | .ok (b :: bs), hline => exact (hne (eq_nil_of_both_lines hend hline)).elim
        | .error f, hline => exact (hne (List.prefix_nil.mp hline)).elim
    | _ => cases hread
  closes := hclose

/-- **Every run is in order.** The request is flushed once all of it was taken, and read after that;
the line of each read comes before the next one; after a failure, the end of the stream or a sink
that takes too little there is no further step, but an interrupted write is made again; and on every
path the connection is shut down once and then closed once, at the very end. -/
theorem run_orderly (request : Bytes) (script : Script) (sink : Sink) :
    Orderly request sink (run request script sink).events := by
  refine orderly_of_follows (follows_run request script sink) ?_ ?_
  · intro past offered f rest h hf
    exact write_behind_interrupted_run h hf
  · obtain ⟨body, unread, hes, hbody⟩ := exists_close_run request script sink
    exact ⟨body, script.shutdown, unread, hes, hbody⟩

/-- A failed write can be followed by another one: here the second write is interrupted. -/
theorem write_after_failed_write :
    let es := (run [0x61, 0x62, 0x63] { writes := [.accept 1, .fail (.system 4)] } {}).events
    ¬ ∀ (past : List Event) offered f rest, es = past ++ Event.write offered (.error f) :: rest →
      ∀ e ∈ rest, e.isWrite = false := by
  intro es hnone
  obtain ⟨tail, hes, -⟩ :=
    exists_tail_run [0x61, 0x62, 0x63] { writes := [.accept 1, .fail (.system 4)] } {}
  have hlast := hnone [.write [0x61, 0x62, 0x63] (.ok 1)] [0x62, 0x63] (.system 4)
    (.write [0x62, 0x63] (.ok 2) :: tail) hes
  cases hlast _ List.mem_cons_self

end Session

end RelayProbe
