import RelayProbe.Bytes
import RelayProbe.Fault

set_option autoImplicit false

/-! # Where the output goes

A sink takes the bytes that are printed. It may take a call's bytes only in part, it may be
interrupted, and it may have room for a limited number of bytes. A caller that has bytes to write
(`writeAll`) goes on with what is left after each call, tries again when it was interrupted, and
gives up when the sink refuses or takes nothing.

A sink does not refuse with an interruption: it would be tried again for ever.
-/

namespace RelayProbe

/-- A place that printed bytes go to, as it stands after what was written so far. -/
structure Sink where
  /-- How many more bytes it has room for; `none` when there is no bound. -/
  room : Option Nat := none
  /-- How many bytes it takes in one call; `none` when there is no bound. -/
  callBound : Option Nat := none
  /-- How many of the next calls are interrupted. -/
  interrupts : Nat := 0
  /-- The failure of a call that finds no room; without one such a call takes no bytes. -/
  refusal : Option Fault := none
  refusal_kind : ∀ f, refusal = some f → f.kind ≠ .interrupted := by simp

namespace Sink

/-- The failure of a caller whose sink takes nothing of what is left. -/
def stuck : Fault := .described .writeZero "failed to write whole buffer"

/-- The answer of a sink to one call. -/
inductive Answer
  | interrupted
  | accepted (n : Nat)
  | refused (f : Fault)
  deriving DecidableEq, Repr

/-- The smaller of a number and a bound that may be absent. -/
def capped (bound : Option Nat) (n : Nat) : Nat :=
  match bound with
  | none => n
  | some m => min m n

/-- The sink after it took `n` bytes. -/
def took (s : Sink) (n : Nat) : Sink := { s with room := s.room.map (· - n) }

/-- One call that offers `n` bytes. -/
def offer (s : Sink) (n : Nat) : Answer × Sink :=
  if s.interrupts ≠ 0 then (.interrupted, { s with interrupts := s.interrupts - 1 })
  else
    match s.room, s.refusal with
    | some 0, some f => (.refused f, s)
    | _, _ =>
        let k := capped s.room (capped s.callBound n)
        (.accepted k, s.took k)

/-- What came of writing: the bytes that were taken, the failure that ended it early if there was
one, and the sink afterwards. -/
structure Written where
  accepted : Bytes
  failure : Option Fault
  sink : Sink

theorem offer_interrupted {s t : Sink} {n : Nat} (h : s.offer n = (.interrupted, t)) :
    t.interrupts < s.interrupts := by
  unfold offer at h
  split at h
  · next hs =>
      obtain ⟨-, rfl⟩ := Prod.mk.inj h
      exact Nat.sub_lt (Nat.pos_of_ne_zero hs) Nat.one_pos
  · split at h <;> simp at h

theorem offer_accepted {s t : Sink} {n k : Nat} (h : s.offer n = (.accepted k, t)) :
    t.interrupts = s.interrupts ∧ k ≤ n := by
  unfold offer at h
  split at h
  · simp at h
  · split at h
    · simp at h
    · obtain ⟨hk, rfl⟩ := Prod.mk.inj h
      refine ⟨rfl, ?_⟩
      have hc : ∀ (b : Option Nat) (m : Nat), capped b m ≤ m := by
        intro b m
        cases b with
        | none => exact Nat.le_refl m
        | some c => exact Nat.min_le_right c m
      cases hk
      exact Nat.le_trans (hc _ _) (hc _ _)

/-- Write all of `bs`: call again with what is left until nothing is. -/
def writeAll (s : Sink) (bs : Bytes) : Written :=
  if _hb : bs = [] then ⟨[], none, s⟩
  else
    match _h : s.offer bs.length with
    | (.interrupted, t) => t.writeAll bs
    | (.refused f, t) => ⟨[], some f, t⟩
    | (.accepted k, t) =>
        if _hk : k = 0 then ⟨[], some stuck, t⟩
        else
          let rest := t.writeAll (bs.drop k)
          { rest with accepted := bs.take k ++ rest.accepted }
termination_by (s.interrupts, bs.length)
decreasing_by
  · exact Prod.Lex.left _ _ (offer_interrupted _h)
  · have ht := offer_accepted _h
    rw [ht.1]
    refine Prod.Lex.right _ ?_
    have : bs.length ≠ 0 := fun h0 => _hb (List.eq_nil_of_length_eq_zero h0)
    simp only [List.length_drop]
    omega

/-- Write one piece after the other, as far as the sink takes them. -/
def writePieces (s : Sink) : List Bytes → Written
  | [] => ⟨[], none, s⟩
  | p :: ps =>
      let w := s.writeAll p
      match w.failure with
      | some _ => w
      | none =>
          let rest := w.sink.writePieces ps
          { rest with accepted := w.accepted ++ rest.accepted }

end Sink

end RelayProbe
