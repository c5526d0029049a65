import RelayProbe.Proofs.Session.Account
import RelayProbe.Proofs.Session.Recovery
import RelayProbe.Transcript.Lines

set_option autoImplicit false

/-! # The far end cannot forge a line

A run prints the transcript of what it received, as much of it as the sink takes, and it reads on only
while the sink takes all of it. So all lines of the transcript are printed whole but for the last one,
which may be cut (`lines_run`). What the far end sends is printed in printable ASCII, without a quote
that is not escaped, so it can neither end its line nor look like the end of the stream.
-/

namespace RelayProbe

namespace Transcript

theorem isChunkLine_chunkText (chunk : Bytes) : isChunkLine (chunkText chunk) = true := by
  have hprefix : opening.isPrefixOf (chunkText chunk) = true := by
    rw [List.isPrefixOf_iff_prefix, chunkText, List.append_assoc]
    exact List.prefix_append _ _
  have hbehind : behindQuote? ((chunkText chunk).drop opening.length) = some [] := by
    rw [chunkText, List.append_assoc, List.drop_left]
    exact behindQuote_escape chunk []
  rw [isChunkLine, hprefix, hbehind]
  rfl

-- a quote that is not escaped would end the line early
example : isChunkLine (opening ++ [quote, quote]) = false := by decide

theorem isChunkLine_endText : isChunkLine endText = false := by decide

/-- A transcript is printed line by line. -/
theorem print_eq_unlines (t : Transcript) : t.print = unlines t.texts := by
  have hchunks : unlines (t.chunks.map chunkText) = t.chunks.flatMap chunkLine := by
    rw [unlines, List.flatMap_map]
    exact congrArg (List.flatMap · t.chunks) (funext fun c => (chunkLine_eq c).symm)
  rw [print, texts, unlines_append, hchunks]
  cases t.ended with
  | false => rfl
  | true => rw [if_pos rfl, if_pos rfl, unlines, List.flatMap_singleton, endLine]

/-- The lines of a transcript are in printable ASCII. -/
theorem isPrintable_of_mem_texts {t : Transcript} {l : Bytes} (hl : l ∈ t.texts) :
    ∀ x ∈ l, isPrintable x = true := by
  intro x hx
  rcases List.mem_append.mp hl with hl | hl
  · obtain ⟨c, -, rfl⟩ := List.mem_map.mp hl
    exact isPrintable_of_mem_chunkText hx
  · split at hl
    · rw [List.mem_singleton.mp hl] at hx
      exact isPrintable_of_mem_endText hx
    · cases hl

/-- Every byte of a printed transcript is printable, or ends a line. -/
theorem isPrintable_of_mem_print {t : Transcript} {b : UInt8} (hb : b ∈ t.print) :
    isPrintable b = true ∨ b = newline := by
  rw [print_eq_unlines] at hb
  obtain ⟨l, hl, hb⟩ := List.mem_flatMap.mp hb
  rcases List.mem_append.mp hb with hb | hb
  · exact Or.inl (isPrintable_of_mem_texts hl b hb)
  · exact Or.inr (List.mem_singleton.mp hb)

/-- No line about a chunk looks like the end of the stream. -/
theorem endText_notMem_map (cs : List Bytes) : endText ∉ cs.map chunkText := by
  intro hmem
  obtain ⟨c, -, hc⟩ := List.mem_map.mp hmem
  exact chunkText_ne_endText c hc

/-- Each line about a chunk looks like one. -/
theorem countP_isChunkLine_map (cs : List Bytes) :
    (cs.map chunkText).countP isChunkLine = cs.length := by
  rw [List.countP_map]
  exact List.countP_eq_length.mpr fun c _ => isChunkLine_chunkText c

/-- The last line of a transcript is the one at the end of the stream, if that was found, and else
the one about the last chunk. -/
theorem texts_eq_concat {t : Transcript} {init : List Bytes} {last : Bytes}
    (h : t.texts = init ++ [last]) :
    (t.ended = true ∧ init = t.chunks.map chunkText) ∨
      t.ended = false ∧ ∃ cs c, t.chunks = cs ++ [c] ∧ init = cs.map chunkText := by
  rw [texts] at h
  cases hend : t.ended with
  | true =>
      rw [hend, if_pos rfl] at h
      exact Or.inl ⟨rfl, (List.append_inj_left' h rfl).symm⟩
  | false =>
      rw [hend, if_neg Bool.false_ne_true, List.append_nil] at h
      obtain ⟨cs, cs', hcs, rfl, hlast⟩ := List.map_eq_append_iff.mp h
      obtain ⟨c, rfl, -⟩ := List.map_eq_singleton_iff.mp hlast
      exact Or.inr ⟨rfl, cs, c, hcs, rfl⟩

/-- A part of the printed form that holds all lines but the last, and not all of that. -/
theorem exists_part {init : List Bytes} {last out : Bytes} (hfrom : unlines init <+: out)
    (hto : out <+: unlines (init ++ [last])) (hne : out ≠ unlines (init ++ [last])) :
    ∃ part, out = unlines init ++ part ∧ part <+: last := by
  obtain ⟨part, rfl⟩ := hfrom
  have hlast : unlines [last] = last ++ [newline] := List.flatMap_singleton _ _
  rw [unlines_append, hlast] at hto hne
  have hpart : part <+: last ++ [newline] := (List.prefix_append_right_inj _).mp hto
  refine ⟨part, rfl, (List.prefix_concat_iff.mp hpart).resolve_left ?_⟩
  rintro rfl
  exact hne rfl

end Transcript

namespace Session

open WriteAnswer Transcript

/-! ## What is printed of a transcript -/

/-- Events print the transcript of what they received as far as the sink takes it, and the sink takes
all of its lines whole but for the last one. -/
structure PrintsTranscript (sink : Sink) (es : List Event) : Prop where
  owed_eq : owed es = (transcript es).print
  output_eq : output es = sink.clip (transcript es).print
  fits : sink.clip (unlines (transcript es).texts.dropLast) = unlines (transcript es).texts.dropLast

/-- A last read prints as much of its line as the sink takes. -/
theorem printsTranscript_last (sink : Sink) (room : Nat) (c : Bytes) :
    PrintsTranscript sink
      (.read room (.ok c) :: printed (sink.clip (Event.read room (.ok c)).owed)) := by
  have hreceived : ∀ text, transcript (.read room (.ok c) :: printed text) =
      transcript [.read room (.ok c)] := by
    intro text
    have hend : (printed text).any Event.foundEnd = false :=
      List.any_eq_false.mpr fun e he => by simp [mem_printed he, Event.foundEnd]
    simp [transcript, (silent_printed text).2.1, hend]
  have hprint : (transcript [.read room (.ok c)]).print = (Event.read room (.ok c)).owed := by
    cases c with
    | nil => rfl
    | cons b bs => simp [transcript, Event.chunk?, Event.foundEnd, print, Event.owed]
  have hlast : (transcript [.read room (.ok c)]).texts.dropLast = [] := by
    cases c <;> rfl
  constructor
  · rw [hreceived, hprint, owed_cons, (silent_printed _).1, List.append_nil]
  · rw [hreceived, hprint, output_cons, output_printed]
    rfl
  · rw [hreceived, hlast]
    exact Sink.clip_nil sink

/-- Receiving prints the transcript of what it received. -/
theorem printsTranscript_receive (as : List Arrival) (sink : Sink) :
    PrintsTranscript sink (receive as sink).events := by
  induction as using Arrival.readInduction generalizing sink with
  | fails as f rest h =>
      rw [receive_failure h]
      exact ⟨rfl, (Sink.clip_nil sink).symm, Sink.clip_nil sink⟩
  | ends as rest h =>
      rw [receive_end h]
      exact printsTranscript_last sink _ []
  | chunk as c rest hc h ih =>
      by_cases hfit : sink.clip (chunkLine c) = chunkLine c
      · rw [receive_chunk hc h hfit]
        let tail := receive rest (sink.after (chunkLine c).length)
        have htail : PrintsTranscript (sink.after (chunkLine c).length) tail.events := ih _
        show PrintsTranscript sink (.read _ (.ok c) :: .print (chunkLine c) :: tail.events)
        have hreceived := transcript_read_chunk hc Arrival.readRoom (chunkLine c) tail.events
        constructor
        · rw [hreceived, print_cons, ← htail.owed_eq, owed_cons, owed_read_chunk hc]
          rfl
        · rw [hreceived, print_cons, Sink.clip_append hfit, ← htail.output_eq]
          rfl
        · rw [hreceived, texts_cons]
          by_cases hnone : (transcript tail.events).texts = []
          · -- the line of this chunk is the last one so far
            rw [hnone]
            exact Sink.clip_nil sink
          · rw [List.dropLast_cons_of_ne_nil hnone, unlines_cons, ← chunkLine_eq,
              Sink.clip_append hfit, htail.fits]
      · rw [receive_chunk_short hc h hfit, ← owed_read_chunk hc]
        exact printsTranscript_last sink _ c

/-- **A run prints the transcript of what it received**, as far as the sink takes it. -/
theorem printsTranscript_run (request : Bytes) (script : Script) (sink : Sink) :
    PrintsTranscript sink (run request script sink).events := by
  have hnothing : ∀ {es : List Event}, owed es = [] → output es = [] → chunks es = [] →
      es.any Event.foundEnd = false → PrintsTranscript sink es := by
    intro es howed hout hchunks hend
    have ht : transcript es = ⟨[], false⟩ := by rw [transcript, hchunks, hend]
    refine ⟨?_, ?_, ?_⟩
    · rw [ht, howed]
      rfl
    · rw [ht, hout]
      exact (Sink.clip_nil sink).symm
    · rw [ht]
      exact Sink.clip_nil sink
  cases hw : faultOf? script.writes request.length with
  | some f =>
      rw [run_of_send_fault hw]
      refine hnothing ?_ ?_ ?_ ?_ <;> simp [owed_send, output_send, chunks_send, foundEnd_send]
  | none =>
      cases hf : script.flush with
      | some f =>
          rw [run_of_flush_fault hw hf]
          refine hnothing ?_ ?_ ?_ ?_ <;>
            simp [owed_send, output_send, chunks_send, foundEnd_send, Event.owed, Event.printed,
              Event.chunk?, Event.foundEnd]
      | none =>
          obtain ⟨howed, hout, hfits⟩ := printsTranscript_receive script.arrivals sink
          have hreceived := transcript_run hw hf sink
          refine ⟨?_, ?_, ?_⟩
          · rw [hreceived, ← howed, run_of_flushed hw hf]
            simp [owed_send, Event.owed]
          · rw [hreceived, ← hout, run_of_flushed hw hf]
            simp [output_send, Event.printed]
          · rw [hreceived, hfits]

/-! ## What a reader of the output sees -/

/-- A reader of the output sees all lines of the transcript; or all but the last, of which the sink
has not taken every byte. -/
theorem PrintsTranscript.lines_output {sink : Sink} {es : List Event} (h : PrintsTranscript sink es) :
    let t := transcript es
    (sink.clip t.print = t.print ∧ output es = unlines t.texts ∧ lines (output es) = (t.texts, [])) ∨
      ∃ init last part, t.texts = init ++ [last] ∧ part <+: last ∧
        sink.clip (unlines init) = unlines init ∧ sink.clip t.print ≠ t.print ∧
        output es = unlines init ++ part ∧ lines (output es) = (init, part) := by
  intro t
  have hnewline : ∀ l ∈ t.texts, newline ∉ l := fun l hl =>
    newline_notMem (isPrintable_of_mem_texts hl)
  by_cases hfit : sink.clip t.print = t.print
  · left
    have hout : output es = unlines t.texts := by rw [h.output_eq, hfit, print_eq_unlines]
    refine ⟨hfit, hout, ?_⟩
    rw [hout, ← lines_unlines_append hnewline List.not_mem_nil, List.append_nil]
  · right
    have hsome : t.texts ≠ [] := by
      intro hnone
      rw [print_eq_unlines, hnone] at hfit
      exact hfit (Sink.clip_nil sink)
    let init := t.texts.dropLast
    let last := t.texts.getLast hsome
    have htexts : t.texts = init ++ [last] := (List.dropLast_concat_getLast hsome).symm
    have hinit : sink.clip (unlines init) = unlines init := h.fits
    have hprint : t.print = unlines (init ++ [last]) := by rw [print_eq_unlines, htexts]
    -- the sink goes on behind the lines that it took, but not to the end
    have hfrom : unlines init <+: output es := by
      rw [h.output_eq, hprint, unlines_append, Sink.clip_append hinit]
      exact List.prefix_append _ _
    have hto : output es <+: unlines (init ++ [last]) := by
      rw [h.output_eq, ← hprint]
      exact sink.clip_isPrefix _
    have hne : output es ≠ unlines (init ++ [last]) := by
      rw [h.output_eq, ← hprint]
      exact hfit
    obtain ⟨part, hout, hpart⟩ := exists_part hfrom hto hne
    refine ⟨init, last, part, htexts, hpart, hinit, hfit, hout, ?_⟩
    rw [hout]
    refine lines_unlines_append (fun l hl => hnewline l ?_) fun hmem => hnewline last ?_ ?_
    · rw [htexts]
      exact List.mem_append_left _ hl
    · rw [htexts]
      exact List.mem_append_right _ List.mem_cons_self
    · exact hpart.subset hmem

/-- What the sink makes of the lines about chunks can be told from what it makes of their text. -/
theorem failure_chunkPieces {sink : Sink} {cs : List Bytes} :
    (sink.writePieces (cs.flatMap chunkPieces)).failure = none ↔
      sink.clip (unlines (cs.map chunkText)) = unlines (cs.map chunkText) := by
  have hflatten : (cs.flatMap chunkPieces).flatten = unlines (cs.map chunkText) := by
    induction cs with
    | nil => rfl
    | cons c cs ih =>
        rw [List.flatMap_cons, List.flatten_append, chunkPieces_flatten, ih, chunkLine_eq]
        rfl
  rw [Sink.failure_writePieces_eq_none_iff, hflatten]

namespace PrintsTranscript

variable {sink : Sink} {es : List Event}

/-- Whoever reads the output finds only lines of the transcript. -/
theorem mem_lines (h : PrintsTranscript sink es) {l : Bytes} (hl : l ∈ (lines (output es)).1) :
    isChunkLine l = true ∨ l = endText := by
  have hmem : l ∈ (transcript es).texts := by
    rcases h.lines_output with ⟨-, -, hlines⟩ | ⟨init, last, part, htexts, -, -, -, -, hlines⟩
    · rwa [hlines] at hl
    · rw [htexts]
      rw [hlines] at hl
      exact List.mem_append_left _ hl
  rcases List.mem_append.mp hmem with hmem | hmem
  · obtain ⟨c, -, rfl⟩ := List.mem_map.mp hmem
    exact Or.inl (isChunkLine_chunkText c)
  · split at hmem
    · exact Or.inr (List.mem_singleton.mp hmem)
    · cases hmem

/-- The end of the stream is printed behind all chunks, and nothing is printed behind it. -/
theorem end_in_lines (h : PrintsTranscript sink es) (hmem : endText ∈ (lines (output es)).1) :
    es.any Event.foundEnd = true ∧
      lines (output es) = ((chunks es).map chunkText ++ [endText], []) := by
  rcases h.lines_output with ⟨-, -, hlines⟩ | ⟨init, last, part, htexts, -, -, -, -, hlines⟩
  · rw [hlines] at hmem ⊢
    rw [texts] at hmem ⊢
    rcases List.mem_append.mp hmem with hmem | hmem
    · exact (endText_notMem_map _ hmem).elim
    · split at hmem
      · next hend =>
          rw [if_pos hend]
          exact ⟨hend, rfl⟩
      · cases hmem
  · -- with the last line cut, all lines that are complete are about chunks
    rw [hlines] at hmem
    rcases texts_eq_concat htexts with ⟨-, rfl⟩ | ⟨-, cs, c, -, rfl⟩
    · exact (endText_notMem_map _ hmem).elim
    · exact (endText_notMem_map _ hmem).elim

/-- There is a complete line for each chunk that was read, but for the last one if the sink has
refused a part of its line. -/
theorem countP_lines (h : PrintsTranscript sink es) :
    (lines (output es)).1.countP isChunkLine +
        (if (sink.writePieces ((chunks es).flatMap chunkPieces)).failure = none then 0 else 1) =
      (chunks es).length := by
  rcases h.lines_output with ⟨hfit, -, hlines⟩ |
    ⟨init, last, part, htexts, -, hinit, hfit, -, hlines⟩
  · have hchunks : sink.clip (unlines ((chunks es).map chunkText)) =
        unlines ((chunks es).map chunkText) := by
      rw [print_eq_unlines, texts, unlines_append] at hfit
      exact (Sink.clip_append_eq_iff.mp hfit).1
    have hlast : (if (transcript es).ended then [endText] else []).countP isChunkLine = 0 := by
      cases (transcript es).ended with
      | true => rw [if_pos rfl, List.countP_singleton, isChunkLine_endText]; rfl
      | false => rfl
    rw [if_pos (failure_chunkPieces.mpr hchunks), hlines, texts, List.countP_append,
      countP_isChunkLine_map, hlast]
    rfl
  · rw [hlines]
    rcases texts_eq_concat htexts with ⟨hend, rfl⟩ | ⟨hend, cs, c, hcs, rfl⟩
    · -- the line at the end of the stream was cut
      have hchunks : sink.clip (unlines ((chunks es).map chunkText)) =
          unlines ((chunks es).map chunkText) := hinit
      rw [if_pos (failure_chunkPieces.mpr hchunks)]
      exact countP_isChunkLine_map (chunks es)
    · -- the line about the last chunk was cut
      have hprint : (transcript es).print = unlines ((chunks es).map chunkText) := by
        rw [print_eq_unlines, texts, hend, if_neg Bool.false_ne_true, List.append_nil]
        rfl
      have hlength : (chunks es).length = cs.length + 1 := by
        show (transcript es).chunks.length = _
        rw [hcs, List.length_append, List.length_singleton]
      rw [hprint] at hfit
      rw [if_neg fun hnone => hfit (failure_chunkPieces.mp hnone), countP_isChunkLine_map, hlength]

end PrintsTranscript

/-- A run that ends well has printed a line for each chunk that it has counted, and the line at the end
of the stream. -/
theorem lines_of_ok {request : Bytes} {script : Script} {sink : Sink} {summary : Summary}
    (h : (run request script sink).result = .ok summary) :
    let es := (run request script sink).events
    output es = unlines ((chunks es).map chunkText ++ [endText]) ∧
      lines (output es) = ((chunks es).map chunkText ++ [endText], []) ∧
      (chunks es).length = summary.chunks := by
  intro es
  have hprints : PrintsTranscript sink es := printsTranscript_run request script sink
  obtain ⟨-, -, ⟨room, hread⟩, -, hall⟩ :=
    (ok_run_iff_events request script sink).mp ⟨summary, h⟩
  have htexts : (transcript es).texts = (chunks es).map chunkText ++ [endText] := by
    have hend : es.any Event.foundEnd = true := List.any_eq_true.mpr ⟨_, hread, rfl⟩
    rw [texts, transcript, hend]
    rfl
  have hfit : sink.clip (transcript es).print = (transcript es).print := by
    rw [← hprints.output_eq, ← hprints.owed_eq]
    exact hall
  rcases hprints.lines_output with ⟨-, hout, hlines⟩ | ⟨-, -, -, -, -, -, hshort, -, -⟩
  · rw [htexts] at hout hlines
    refine ⟨hout, hlines, ?_⟩
    rw [tally_of_ok h, tally_eq]
  · exact (hshort hfit).elim

/-- **The far end cannot forge a line.** Whatever it sends and whatever the sink takes, for every run:

* every byte of the output is printable ASCII or a newline;
* every line that is complete reads `Received: b"…"`, with no quote between the two that is not
  escaped, or is the line at the end of the stream;
* the line at the end of the stream is complete only if a read found the end; then it is the last
  line, the only one of its kind, and nothing stands behind it;
* there is a complete line about a chunk for each read that gave one, less one exactly when the sink
  refuses a byte of these lines;
* the output of a run that ends well is a line about each of the chunks that it has counted, followed
  by the line at the end of the stream. -/
theorem run_output_lines (request : Bytes) (script : Script) (sink : Sink) :
    let o := run request script sink
    let out := output o.events
    let complete := (lines out).1
    let refused := (sink.writePieces ((chunks o.events).flatMap chunkPieces)).failure ≠ none
    (∀ b ∈ out, (0x20 ≤ b ∧ b ≤ 0x7e) ∨ b = 0x0a) ∧
      (∀ l ∈ complete, isChunkLine l = true ∨ l = endText) ∧
      (endText ∈ complete → (∃ room, Event.read room (.ok []) ∈ o.events) ∧
        ∃ before, lines out = (before ++ [endText], []) ∧ endText ∉ before) ∧
      (¬ refused → complete.countP isChunkLine = (chunks o.events).length) ∧
      (refused → complete.countP isChunkLine + 1 = (chunks o.events).length) ∧
      ∀ summary, o.result = .ok summary → ∃ received : List Bytes,
        out = received.flatMap (· ++ [newline]) ++ endText ++ [newline] ∧
        lines out = (received ++ [endText], []) ∧ (∀ l ∈ received, isChunkLine l = true) ∧
        received.length = summary.chunks := by
  intro o out complete refused
  have hprints : PrintsTranscript sink o.events := printsTranscript_run request script sink
  have hcount := hprints.countP_lines
  refine ⟨fun b hb => ?bytes, fun l hl => hprints.mem_lines hl, fun hmem => ?ended,
    fun hall => ?all, fun hshort => ?short, fun summary hok => ?ok⟩
  case bytes =>
    have hprint : b ∈ (transcript o.events).print :=
      (sink.clip_isPrefix _).subset (hprints.output_eq ▸ hb)
    refine (isPrintable_of_mem_print hprint).imp_left fun h => ?_
    exact forall_byte (p := fun b => isPrintable b = true → 0x20 ≤ b ∧ b ≤ 0x7e)
      (by decide +kernel) b h
  case ended =>
    obtain ⟨hend, hlines⟩ := hprints.end_in_lines hmem
    obtain ⟨e, he, hfound⟩ := List.any_eq_true.mp hend
    refine ⟨?_, _, hlines, endText_notMem_map _⟩
    cases e with
    | read room answer =>
        rcases answer with f | ⟨_ | ⟨b, bs⟩⟩
        · cases hfound
        · exact ⟨room, he⟩
        · cases hfound
    | _ => cases hfound
  case all =>
    rw [if_pos (not_not.mp hall)] at hcount
    exact hcount
  case short =>
    rw [if_neg hshort] at hcount
    exact hcount
  case ok =>
    obtain ⟨hout, hlines, hlength⟩ := lines_of_ok hok
    refine ⟨(chunks o.events).map chunkText, ?_, hlines, fun l hl => ?_, ?_⟩
    · rw [show out = _ from hout, unlines_append, List.append_assoc]
      rfl
    · obtain ⟨c, -, rfl⟩ := List.mem_map.mp hl
      exact isChunkLine_chunkText c
    · rw [List.length_map, hlength]

end Session

end RelayProbe
