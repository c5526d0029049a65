import RelayProbe.Session.Sink

set_option autoImplicit false

/-! # A sink is a text that is cut off

However a text is handed to a sink, in which pieces, in how many calls and with how many
interruptions, the sink ends up with the first bytes of it, as many as it has room for
(`writePieces_eq_write`). What can be seen of a sink is therefore no more than its capacity and the
failure it ends with.
-/

namespace RelayProbe

namespace Sink

/-! ## What can be seen of a sink -/

/-- How many bytes a sink takes in all; `none` when there is no bound. One that takes nothing in a
call takes nothing at all. -/
def capacity (s : Sink) : Option Nat := if s.callBound = some 0 then some 0 else s.room

/-- As much of a text as a sink takes. -/
def clip (s : Sink) (text : Bytes) : Bytes := text.take (capped s.capacity text.length)

/-- The failure of a caller that has more bytes than a sink takes. -/
def lastWord (s : Sink) : Fault :=
  if s.callBound = some 0 ∧ s.room ≠ some 0 then stuck else s.refusal.getD stuck

/-- The sink after it took `n` bytes, when no interruption is left. -/
def after (s : Sink) (n : Nat) : Sink := { s.took n with interrupts := 0 }

/-- What comes of writing a text: the sink takes as much of it as it can. -/
def write (s : Sink) (text : Bytes) : Written :=
  if text = [] then ⟨[], none, s⟩
  else
    ⟨s.clip text, if s.clip text = text then none else some s.lastWord,
      s.after (s.clip text).length⟩

theorem clip_of_capacity_none {s : Sink} (h : s.capacity = none) (text : Bytes) :
    s.clip text = text := by
  rw [clip, h]
  exact List.take_length

theorem clip_of_capacity {s : Sink} {n : Nat} (h : s.capacity = some n) (text : Bytes) :
    s.clip text = text.take n := by
  rw [clip, h]
  show text.take (min n text.length) = text.take n
  rcases Nat.le_total n text.length with hn | hn
  · rw [Nat.min_eq_left hn]
  · rw [Nat.min_eq_right hn, List.take_length, List.take_of_length_le hn]

/-- A text is taken whole exactly when the sink has room for it. -/
theorem clip_eq_self_iff {s : Sink} {text : Bytes} :
    s.clip text = text ↔ ∀ n, s.capacity = some n → text.length ≤ n := by
  cases h : s.capacity with
  | none => simp [clip_of_capacity_none h]
  | some n =>
      rw [clip_of_capacity h]
      constructor
      · intro ht m hm
        obtain rfl := Option.some.inj hm
        calc text.length = (text.take n).length := by rw [ht]
          _ ≤ n := List.length_take_le n text
      · intro hn
        exact List.take_of_length_le (hn n rfl)

@[simp] theorem clip_nil (s : Sink) : s.clip [] = [] := List.take_nil

theorem clip_isPrefix (s : Sink) (text : Bytes) : s.clip text <+: text := List.take_prefix _ _

/-- A sink that took something takes something in each call. -/
theorem callBound_ne_of_clip {s : Sink} {text : Bytes} (h : s.clip text = text) (ht : text ≠ []) :
    s.callBound ≠ some 0 := by
  intro hb
  have hc : s.capacity = some 0 := if_pos hb
  rw [clip_of_capacity hc, List.take_zero] at h
  exact ht h.symm

theorem capacity_of_callBound {s : Sink} (h : s.callBound ≠ some 0) : s.capacity = s.room :=
  if_neg h

theorem lastWord_of_callBound {s : Sink} (h : s.callBound ≠ some 0) :
    s.lastWord = s.refusal.getD stuck := if_neg fun hs => h hs.1

@[simp] theorem room_after (s : Sink) (n : Nat) : (s.after n).room = s.room.map (· - n) := rfl

@[simp] theorem refusal_after (s : Sink) (n : Nat) : (s.after n).refusal = s.refusal := rfl

theorem after_after (s : Sink) (m n : Nat) : (s.after m).after n = s.after (m + n) := by
  simp only [after, took, Option.map_map, Function.comp_def, Nat.sub_sub]

theorem after_eq_took {s : Sink} (h : s.interrupts = 0) (n : Nat) : s.after n = s.took n := by
  rw [after, ← h]
  rfl

theorem took_zero (s : Sink) : s.took 0 = s := by
  cases s with
  | mk room _ _ _ _ => cases room <;> rfl

/-- A sink that took a text has so much less room, and will fail in the same way. -/
theorem view_after {s : Sink} {text : Bytes} (h : s.clip text = text) (ht : text ≠ []) :
    (s.after text.length).capacity = s.capacity.map (· - text.length) ∧
      (s.after text.length).lastWord = s.lastWord := by
  have hb := callBound_ne_of_clip h ht
  refine ⟨?_, ?_⟩
  · rw [capacity_of_callBound hb, capacity_of_callBound (by exact hb), room_after]
  · rw [lastWord_of_callBound hb, lastWord_of_callBound (by exact hb), refusal_after]

/-- What a sink takes of a text in two parts, the first of which fits: that part, and then what the
sink takes of the second. -/
theorem clip_append {s : Sink} {p : Bytes} (h : s.clip p = p) (q : Bytes) :
    s.clip (p ++ q) = p ++ (s.after p.length).clip q := by
  by_cases hp : p = []
  · -- an empty part tells nothing about the bound on a call
    subst hp
    have hc : (s.after 0).capacity = s.capacity := by simp [capacity, after, took]
    simp [clip, hc]
  · have hv := (view_after h hp).1
    cases hc : s.capacity with
    | none =>
        rw [hc] at hv
        rw [clip_of_capacity_none hc, clip_of_capacity_none hv]
    | some n =>
        rw [hc] at hv
        have hn : p.length ≤ n := clip_eq_self_iff.mp h n hc
        rw [clip_of_capacity hc, clip_of_capacity hv, List.take_append,
          List.take_of_length_le hn]

/-- What a sink takes of a text whose first part does not fit is what it takes of that part. -/
theorem clip_append_of_ne {s : Sink} {p : Bytes} (h : s.clip p ≠ p) (q : Bytes) :
    s.clip (p ++ q) = s.clip p := by
  rw [ne_eq, clip_eq_self_iff] at h
  simp only [Classical.not_forall, Nat.not_le] at h
  obtain ⟨n, hc, hn⟩ := h
  rw [clip_of_capacity hc, clip_of_capacity hc, List.take_append_of_le_length (Nat.le_of_lt hn)]

/-- A text in two parts is taken whole when both parts are. -/
theorem clip_append_eq_iff {s : Sink} {p q : Bytes} :
    s.clip (p ++ q) = p ++ q ↔ s.clip p = p ∧ (s.after p.length).clip q = q := by
  by_cases hfit : s.clip p = p
  · rw [clip_append hfit, List.append_right_inj]
    exact ⟨fun h => ⟨hfit, h⟩, fun h => h.2⟩
  · refine ⟨fun h => ?_, fun h => (hfit h.1).elim⟩
    rw [clip_append_of_ne hfit] at h
    refine (hfit ((clip_isPrefix s p).eq_of_length_le ?_)).elim
    rw [h, List.length_append]
    exact Nat.le_add_right _ _

theorem clip_congr {s t : Sink} (h : s.capacity = t.capacity) (text : Bytes) :
    s.clip text = t.clip text := by
  rw [clip, clip, h]

/-- Two sinks that look the same look the same after they took a text. -/
theorem after_congr {s t : Sink} (hc : s.capacity = t.capacity) (hl : s.lastWord = t.lastWord)
    {text : Bytes} (h : s.clip text = text) (ht : text ≠ []) :
    (s.after text.length).capacity = (t.after text.length).capacity ∧
      (s.after text.length).lastWord = (t.after text.length).lastWord := by
  have h' : t.clip text = text := by rw [← clip_congr hc, h]
  rw [(view_after h ht).1, (view_after h ht).2, (view_after h' ht).1, (view_after h' ht).2, hc, hl]
  exact ⟨rfl, rfl⟩

/-! ## Writing in calls and in pieces -/

/-- A call that is interrupted takes one interruption away, and nothing else. -/
theorem eq_of_offer_interrupted {s t : Sink} {n : Nat} (h : s.offer n = (.interrupted, t)) :
    t = { s with interrupts := s.interrupts - 1 } := by
  unfold offer at h
  split at h
  · exact (Prod.mk.inj h).2.symm
  · split at h <;> simp at h

/-- A sink refuses when it has no room, with the failure it was made for. -/
theorem of_offer_refused {s t : Sink} {n : Nat} {f : Fault} (h : s.offer n = (.refused f, t)) :
    s.interrupts = 0 ∧ s.room = some 0 ∧ s.refusal = some f ∧ t = s := by
  unfold offer at h
  split at h
  · simp at h
  · next hi =>
      split at h
      · next g hr hg =>
          simp only [Prod.mk.injEq, Answer.refused.injEq] at h
          obtain ⟨rfl, rfl⟩ := h
          exact ⟨Classical.not_not.mp hi, hr, hg, rfl⟩
      · simp at h

/-- A sink that answers a call otherwise takes what it has room for, and what it can take in one
call. -/
theorem of_offer_accepted {s t : Sink} {n k : Nat} (h : s.offer n = (.accepted k, t)) :
    s.interrupts = 0 ∧ (s.room = some 0 → s.refusal = none) ∧
      k = capped s.room (capped s.callBound n) ∧ t = s.took k := by
  unfold offer at h
  split at h
  · simp at h
  · next hi =>
      split at h
      · simp at h
      · next hne =>
          simp only [Prod.mk.injEq, Answer.accepted.injEq] at h
          obtain ⟨rfl, rfl⟩ := h
          refine ⟨Classical.not_not.mp hi, fun hr => ?_, rfl, rfl⟩
          cases hf : s.refusal with
          | none => rfl
          | some f => exact (hne f hr hf).elim

/-- Nothing is taken in a call only when there is no room, or never anything in a call. -/
theorem capped_capped_eq_zero {s : Sink} {n : Nat} (hn : n ≠ 0)
    (h : capped s.room (capped s.callBound n) = 0) : s.room = some 0 ∨ s.callBound = some 0 := by
  cases hr : s.room <;> cases hb : s.callBound <;> simp [capped, hr, hb] at h ⊢ <;> omega

/-- Interruptions leave no trace in what is written. -/
theorem write_with_interrupts (s : Sink) (n : Nat) {text : Bytes} (ht : text ≠ []) :
    { s with interrupts := n }.write text = s.write text := by
  rw [write, write, if_neg ht, if_neg ht]
  rfl

/-- A sink without room takes nothing of a text. -/
theorem write_of_capacity_eq_zero {s : Sink} (h : s.capacity = some 0) {text : Bytes}
    (ht : text ≠ []) : s.write text = ⟨[], some s.lastWord, s.after 0⟩ := by
  have hc : s.clip text = [] := by rw [clip_of_capacity h, List.take_zero]
  rw [write, if_neg ht, hc, if_neg (Ne.symm ht), List.length_nil]

/-- A text is written as its first part and then the rest of it, as far as it goes. -/
theorem write_append (s : Sink) (p q : Bytes) :
    s.write (p ++ q) =
      match (s.write p).failure with
      | some _ => s.write p
      | none =>
          let rest := (s.write p).sink.write q
          { rest with accepted := (s.write p).accepted ++ rest.accepted } := by
  by_cases hp : p = []
  · subst hp
    simp [write]
  by_cases hq : q = []
  · subst hq
    by_cases hfit : s.clip p = p <;> simp [write, hp, hfit]
  have hpq : p ++ q ≠ [] := by simp [hp]
  by_cases hfit : s.clip p = p
  · -- the first part fits, so what is left of the sink decides on the second
    have hw : (s.write p) = ⟨p, none, s.after p.length⟩ := by simp [write, hp, hfit]
    have hlast := (view_after hfit hp).2
    have heq : p ++ (s.after p.length).clip q = p ++ q ↔ (s.after p.length).clip q = q :=
      List.append_right_inj p
    rw [hw, write, if_neg hpq, write, if_neg hq, clip_append hfit, hlast]
    simp only [heq, List.length_append, after_after]
  · have hw : (s.write p).failure = some s.lastWord := by simp [write, hp, hfit]
    have hne : s.clip p ≠ p ++ q := by
      rw [← clip_append_of_ne hfit q]
      exact fun h => hfit (clip_append_eq_iff.mp h).1
    rw [hw, write, if_neg hpq, clip_append_of_ne hfit, if_neg hne]
    simp [write, hp, hfit]

/-- The first call takes what it takes, and what is left is written to the sink afterwards. -/
theorem write_of_accepted {s t : Sink} {bs : Bytes} {k : Nat}
    (h : s.offer bs.length = (.accepted k, t)) (hk : k ≠ 0) :
    s.write bs =
      { t.write (bs.drop k) with accepted := bs.take k ++ (t.write (bs.drop k)).accepted } := by
  obtain ⟨hi, -, hk', rfl⟩ := of_offer_accepted h
  -- something was taken, so a call can take something
  have hb : s.callBound ≠ some 0 := by
    intro hb
    refine hk ?_
    rw [hk', hb]
    cases s.room <;> simp [capped]
  have hle : (bs.take k).length = k := List.length_take_of_le (offer_accepted h).2
  have hfit : s.clip (bs.take k) = bs.take k := by
    rw [clip_eq_self_iff, capacity_of_callBound hb, hle, hk']
    intro n hn
    rw [hn]
    exact Nat.min_le_left _ _
  have hne : bs.take k ≠ [] := by
    intro h0
    rw [h0] at hle
    exact hk hle.symm
  have hw : s.write (bs.take k) = ⟨bs.take k, none, s.took k⟩ := by
    rw [write, if_neg hne, hfit, hle, after_eq_took hi, if_pos rfl]
  calc s.write bs = s.write (bs.take k ++ bs.drop k) := by rw [List.take_append_drop]
    _ = _ := by rw [write_append, hw]

/-- However many calls it takes, the bytes are written as by a single one. -/
theorem writeAll_eq_write (s : Sink) (bs : Bytes) : s.writeAll bs = s.write bs := by
  fun_induction s.writeAll bs with
  | case1 s => simp [write]
  | case2 s bs hbs t ht ih =>
      rw [ih, eq_of_offer_interrupted ht, write_with_interrupts _ _ hbs]
  | case3 s bs hbs f t ht =>
      obtain ⟨hi, hr, hf, rfl⟩ := of_offer_refused ht
      have hc : t.capacity = some 0 := by simp [capacity, hr]
      have hl : t.lastWord = f := by simp [lastWord, hr, hf]
      rw [write_of_capacity_eq_zero hc hbs, hl, after_eq_took hi, took_zero]
  | case4 s bs hbs t ht =>
      obtain ⟨hi, hrf, hk, rfl⟩ := of_offer_accepted ht
      have hn : bs.length ≠ 0 := fun h0 => hbs (List.eq_nil_of_length_eq_zero h0)
      -- there is no room and no failure for that, or nothing is ever taken in a call
      have hzero := capped_capped_eq_zero hn hk.symm
      have hc : s.capacity = some 0 := by
        rcases hzero with hr | hb
        · simp [capacity, hr]
        · simp [capacity, hb]
      have hl : s.lastWord = stuck := by
        by_cases hr : s.room = some 0
        · simp [lastWord, hr, hrf hr]
        · exact if_pos ⟨hzero.resolve_left hr, hr⟩
      rw [write_of_capacity_eq_zero hc hbs, hl, after_eq_took hi]
  | case5 s bs hbs k t ht hk rest ih =>
      rw [write_of_accepted ht hk, ← ih]

/-- In whatever pieces a text is handed out, it is written as in a single one. -/
theorem writePieces_eq_write (s : Sink) (ps : List Bytes) :
    s.writePieces ps = s.write ps.flatten := by
  induction ps generalizing s with
  | nil => simp [writePieces, write]
  | cons p ps ih =>
      rw [List.flatten_cons, write_append, writePieces, writeAll_eq_write]
      cases (s.write p).failure with
      | none => simp only [ih]
      | some f => rfl

/-- Pieces are written without a failure exactly when the sink takes all that they hold. -/
theorem failure_writePieces_eq_none_iff {s : Sink} {ps : List Bytes} :
    (s.writePieces ps).failure = none ↔ s.clip ps.flatten = ps.flatten := by
  rw [writePieces_eq_write, write]
  by_cases hnil : ps.flatten = []
  · rw [if_pos hnil, hnil]
    exact ⟨fun _ => clip_nil s, fun _ => rfl⟩
  · rw [if_neg hnil]
    by_cases hfit : s.clip ps.flatten = ps.flatten <;> simp [hfit]

/-- Without a failure the sink took all that the pieces hold. -/
theorem accepted_writePieces {s : Sink} {ps : List Bytes} (h : (s.writePieces ps).failure = none) :
    (s.writePieces ps).accepted = ps.flatten := by
  have hfit := failure_writePieces_eq_none_iff.mp h
  rw [writePieces_eq_write, write]
  by_cases hnil : ps.flatten = []
  · rw [if_pos hnil, hnil]
  · rw [if_neg hnil, hfit]

end Sink

end RelayProbe
