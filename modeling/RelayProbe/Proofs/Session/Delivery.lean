import RelayProbe.Proofs.Request.Ending
import RelayProbe.Proofs.Session.Order

set_option autoImplicit false

/-! # What the far end has of the request

A far end takes a request for complete when it sees the end of the headers. At any time of a run it
has a beginning of the request, and for a host in one piece that holds the end of the headers only
when it is the whole request. So a write that fails leaves the far end without a complete request
(`run_headers_end_with_request`).
-/

namespace RelayProbe

namespace Session

open Request

variable {request : Bytes} {script : Script} {sink : Sink}

/-- The far end has a beginning of the request. -/
theorem sent_run_isPrefix (request : Bytes) (script : Script) (sink : Sink) :
    sent (run request script sink).events <+: request := by
  rw [sent_run]
  exact sent_send_isPrefix script.writes request

/-- Whenever there is a write, the far end has a beginning of the request, and not all of it. -/
theorem sent_before_write {past rest : List Event} {offered : Bytes} {answer : Except Fault Nat}
    (h : (run request script sink).events = past ++ .write offered answer :: rest) :
    sent past <+: request ∧ sent past ≠ request := by
  obtain ⟨mid, -, hsend, -⟩ := write_of_run h
  obtain ⟨hall, hne⟩ := sent_append_offered hsend
  refine ⟨⟨offered, hall⟩, fun hsent => hne ?_⟩
  rw [hsent] at hall
  exact List.append_right_eq_self.mp hall

/-- Nothing comes over behind a failure. -/
theorem sent_run_of_failure {past rest : List Event} {e : Event}
    (h : (run request script sink).events = past ++ e :: rest) (he : e.failure? ≠ none) :
    sent (run request script sink).events = sent (past ++ [e]) := by
  have hfollows := follows_run request script sink
  rw [h] at hfollows ⊢
  have hrest : sent rest = [] := sent_of_no_write fun d hd => by
    have hstep := hfollows.no_step_after (Or.inl he) d hd
    simp only [Event.isStep, Bool.or_eq_false_iff] at hstep
    exact hstep.1.1
  rw [List.append_cons, sent_append, hrest, List.append_nil]

/-- A write that fails, or takes nothing, brings nothing over. -/
theorem sent_failed_write (past : List Event) (offered : Bytes) {answer : Except Fault Nat}
    (h : answer = .ok 0 ∨ ∃ f, answer = .error f) :
    sent (past ++ [Event.write offered answer]) = sent past := by
  rw [sent_append, List.append_right_eq_self]
  rcases h with rfl | ⟨f, rfl⟩ <;> rfl

/-- **The far end has no complete request from a write that failed.** For a host without CR LF in it,
what the far end accepted is a beginning of the request, and it holds the end of the headers exactly
if it is the whole request. When a write fails or takes nothing, what the far end has by then holds
no end of the headers; and that is all it ever gets, unless the write was interrupted and is made
again. -/
theorem run_headers_end_with_request {host : String} (h : Unbroken (utf8 host)) (script : Script)
    (sink : Sink) :
    let es := (run (forHost host) script sink).events
    sent es <+: forHost host ∧
      (headersEnd <:+: sent es ↔ sent es = forHost host) ∧
      ∀ (past : List Event) offered (answer : Except Fault Nat) rest,
        es = past ++ Event.write offered answer :: rest →
        (answer = .ok 0 ∨ ∃ f, answer = .error f) →
        ¬ headersEnd <:+: sent (past ++ [Event.write offered answer]) ∧
          ((∀ f, answer = .error f → f.kind ≠ .interrupted) → ¬ headersEnd <:+: sent es) := by
  intro es
  have hfront : sent es <+: forHost host := sent_run_isPrefix (forHost host) script sink
  refine ⟨hfront, headersEnd_infix_iff h hfront, ?_⟩
  intro past offered answer rest hes hfailed
  obtain ⟨hbeginning, hpart⟩ := sent_before_write hes
  have hopen : ¬ headersEnd <:+: sent (past ++ [Event.write offered answer]) := by
    rw [sent_failed_write past offered hfailed, headersEnd_infix_iff h hbeginning]
    exact hpart
  refine ⟨hopen, fun hkind => ?_⟩
  have hfailure : (Event.write offered answer).failure? ≠ none := by
    rcases hfailed with rfl | ⟨f, rfl⟩
    · exact Option.some_ne_none _
    · simp [Event.failure?, hkind f rfl]
  rw [sent_run_of_failure hes hfailure]
  exact hopen

/-- A host that starts with LF and ends in CR, and a second write that fails: what came over is the
start of the request line, without an end of the headers. -/
theorem run_headers_end_with_request_broken_pipe :
    let script : Script := { writes := [.accept 20, .fail (.bare .brokenPipe)] }
    let es := (run (forHost "\nHost: \r") script {}).events
    Unbroken (utf8 "\nHost: \r") ∧ sent es = utf8 "GET http://\nHost: \r/" ∧
      ¬ headersEnd <:+: sent es := by
  intro script es
  have hhost : Unbroken (utf8 "\nHost: \r") := by decide
  have hfirst : (forHost "\nHost: \r").take 20 = utf8 "GET http://\nHost: \r/" := by
    decide +kernel
  have hlen : 20 < (forHost "\nHost: \r").length := by decide +kernel
  have hes : es = [Event.write (forHost "\nHost: \r") (.ok 20)] ++
      Event.write ((forHost "\nHost: \r").drop 20) (.error (.bare .brokenPipe)) ::
        farewell script [] := by
    have hrest : (forHost "\nHost: \r").drop 20 ≠ [] := by
      rw [ne_eq, List.drop_eq_nil_iff]
      omega
    have hmin : min 20 (forHost "\nHost: \r").length = 20 := by omega
    simp only [es, run, exchange, script]
    rw [send, hmin, if_neg (by decide), send, if_neg (by decide)]
    · rfl
    · exact hrest
    · exact List.cons_ne_nil _ _
  obtain ⟨-, -, hfailed⟩ := run_headers_end_with_request hhost script {}
  refine ⟨hhost, ?_, (hfailed _ _ _ _ hes (Or.inr ⟨_, rfl⟩)).2 ?_⟩
  · rw [hes]
    simp [Event.sent, farewell, hfirst]
  · rintro f ⟨⟩
    decide

end Session

end RelayProbe
