import RelayProbe.Proofs.Request.Ending

set_option autoImplicit false

/-! # The host of a request

A request tells for which host it was made: the host stands behind the fixed start of the request
line, and the request is longer than the one for no host by twice the length of the host. So two
hosts never have the same request, whatever stands in them. A request whose host is in one piece
does not even start with the request for another host, since its headers end nowhere but at its end
(`forHost_determines_host`). A host with line ends in it can have such a request: the whole request
for any other host fits into it (`exists_forHost_isPrefix`).
-/

namespace RelayProbe

namespace Request

/-- What stands behind the start of the request line. -/
theorem forHost_eq_append (host : String) :
    forHost host = utf8 "GET http://" ++ (utf8 host ++ utf8 "/ HTTP/1.1" ++ crlf ++
      utf8 "Host: " ++ utf8 host ++ crlf ++ ofLines fixedLines) := by
  simp only [forHost, lines, ofLines_cons, requestLine, hostLine, List.append_assoc]

/-- The host stands twice in its request. -/
theorem length_forHost (host : String) :
    (forHost host).length = (forHost "").length + 2 * (utf8 host).length := by
  have hempty : (utf8 "").length = 0 := rfl
  rw [forHost_eq_append, forHost_eq_append]
  simp only [List.length_append]
  omega

/-- The host is what stands behind the start of the request line, as long as half of what its
request is longer than the one for no host. -/
theorem take_of_forHost_eq {host : String} {rest : Bytes}
    (h : forHost host = utf8 "GET http://" ++ rest) :
    rest.take (((forHost host).length - (forHost "").length) / 2) = utf8 host := by
  have hlen : ((forHost host).length - (forHost "").length) / 2 = (utf8 host).length := by
    rw [length_forHost]
    omega
  rw [hlen]
  rw [forHost_eq_append] at h
  rw [← List.append_cancel_left h]
  simp only [List.append_assoc, List.take_left]

theorem forHost_injective {host₁ host₂ : String} (h : forHost host₁ = forHost host₂) :
    host₁ = host₂ := by
  have h₁ := take_of_forHost_eq (forHost_eq_append host₁)
  have h₂ := take_of_forHost_eq (h ▸ forHost_eq_append host₁)
  apply utf8_injective
  rw [← h₁, ← h₂, h]

/-- A request whose host is in one piece starts with no other request. -/
theorem eq_of_forHost_isPrefix {host₁ host₂ : String} (h : Unbroken (utf8 host₂))
    (hp : forHost host₁ <+: forHost host₂) : host₁ = host₂ := by
  apply forHost_injective
  apply (headersEnd_infix_iff h hp).mp
  exact (headersEnd_suffix_ofLines (List.cons_ne_nil _ _)).isInfix

/-- **A request determines its host**, and requests cannot be confused: no two hosts have the same
request, and the host can be read back from it. When the host of a request is in one piece, the
request does not start with that for another host. -/
theorem forHost_determines_host (host₁ host₂ : String) :
    (Unbroken (utf8 host₂) → (forHost host₁ <+: forHost host₂ ↔ host₁ = host₂)) ∧
      (forHost host₁ = forHost host₂ ↔ host₁ = host₂) ∧
      ∃ rest, forHost host₁ = utf8 "GET http://" ++ rest ∧
        rest.take (((forHost host₁).length - (forHost "").length) / 2) = utf8 host₁ := by
  refine ⟨fun h => ⟨eq_of_forHost_isPrefix h, ?_⟩, ⟨forHost_injective, congrArg forHost⟩, ?_⟩
  · rintro rfl
    exact List.prefix_refl _
  · exact ⟨_, forHost_eq_append host₁, take_of_forHost_eq (forHost_eq_append host₁)⟩

/-- The placeholder of a template, between an LF and a CR, is a host like any other. -/
theorem forHost_determines_host_placeholder :
    Unbroken (utf8 "\n\x7bhost\x7d\r") ∧ ¬ forHost "\n" <+: forHost "\n\x7bhost\x7d\r" := by
  have hhost : Unbroken (utf8 "\n\x7bhost\x7d\r") := by decide
  refine ⟨hhost, fun hp => ?_⟩
  have heq := ((forHost_determines_host "\n" "\n\x7bhost\x7d\r").1 hhost).mp hp
  exact absurd heq (by decide)

/-! ## Hosts with line ends -/

/-- Lines put together are text if the lines are. -/
theorem exists_utf8_eq_ofLines {ls : List Bytes} (h : ∀ l ∈ ls, ∃ s, utf8 s = l) :
    ∃ s, utf8 s = ofLines ls := by
  induction ls with
  | nil => exact ⟨"\r\n", rfl⟩
  | cons l ls ih =>
      obtain ⟨s, rfl⟩ := h l List.mem_cons_self
      obtain ⟨t, ht⟩ := ih fun l' hl' => h l' (List.mem_cons_of_mem _ hl')
      exact ⟨s ++ "\r\n" ++ t, by rw [ofLines_cons, utf8_append, utf8_append, ht]; rfl⟩

/-- Every request is the start of the request for another host, one with line ends in it: what
stands behind the start of the request line can be a host itself. -/
theorem exists_forHost_isPrefix (host : String) :
    ∃ longer, longer ≠ host ∧ forHost host <+: forHost longer := by
  have hfixed : ∀ l ∈ fixedLines, ∃ s, utf8 s = l := by
    simp only [fixedLines, ← utf8_append, List.forall_mem_cons, exists_apply_eq_apply,
      List.not_mem_nil, false_implies, implies_true, and_self]
  obtain ⟨t, ht⟩ := exists_utf8_eq_ofLines hfixed
  obtain ⟨longer, hlonger⟩ : ∃ s, utf8 s = utf8 host ++ utf8 "/ HTTP/1.1" ++ crlf ++
      utf8 "Host: " ++ utf8 host ++ crlf ++ ofLines fixedLines := by
    refine ⟨host ++ "/ HTTP/1.1" ++ "\r\n" ++ "Host: " ++ host ++ "\r\n" ++ t, ?_⟩
    simp only [utf8_append, ht]
    rfl
  refine ⟨longer, ?_, ?_⟩
  · rintro rfl
    have hlen := congrArg List.length hlonger
    simp only [List.length_append, crlf, List.length_cons] at hlen
    omega
  · rw [forHost_eq_append host, ← hlonger, forHost_eq_append longer]
    simp only [List.append_assoc, List.prefix_append_right_inj, List.prefix_append]

end Request

end RelayProbe
