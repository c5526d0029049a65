import RelayProbe.Bytes
import RelayProbe.Fault

set_option autoImplicit false

/-! # The far end of a connection

A script says how an open connection answers each call that is made on it: the writes and the
reads one after the other, the flush and the shutdown once each. Past the end of its list a write
takes everything and a read finds the end of the stream.
-/

namespace RelayProbe

/-- The answer to one write: some of the offered bytes are taken, or the write fails. -/
inductive WriteAnswer
  | accept (n : Nat)
  | fail (f : Fault)
  deriving DecidableEq, Repr

/-- What the far end has to say: bytes that arrived together, or a failure. No bytes at all mean
the end of the stream. -/
inductive Arrival
  | data (bs : Bytes)
  | fail (f : Fault)
  deriving DecidableEq, Repr

/-- How an open connection answers. -/
structure Script where
  writes : List WriteAnswer := []
  /-- The failure of the flush, if it fails. -/
  flush : Option Fault := none
  arrivals : List Arrival := []
  /-- The failure of the shutdown, if it fails. -/
  shutdown : Option Fault := none
  deriving DecidableEq, Repr

namespace Arrival

/-- How many bytes one read has room for. -/
def readRoom : Nat := 4096

/-- One read: what it gives, no bytes for the end of the stream, and what is left to arrive. Bytes
that do not fit wait for the next read. -/
def take : List Arrival → Except Fault Bytes × List Arrival
  | [] => (.ok [], [])
  | .fail f :: rest => (.error f, rest)
  | .data bs :: rest =>
      (.ok (bs.take readRoom),
        if bs.length ≤ readRoom then rest else .data (bs.drop readRoom) :: rest)

/-- How much there is to read, counting every entry and every byte. -/
def weight : List Arrival → Nat
  | [] => 0
  | .fail _ :: rest => weight rest + 1
  | .data bs :: rest => weight rest + bs.length + 1

/-- A read that gives bytes leaves less to read. -/
theorem weight_take {as rest : List Arrival} {b : UInt8} {bs : Bytes}
    (h : take as = (.ok (b :: bs), rest)) : weight rest < weight as := by
  cases as with
  | nil => simp [take] at h
  | cons a as =>
      cases a with
      | fail f => simp [take] at h
      | data cs =>
          simp only [take, Prod.mk.injEq] at h
          obtain ⟨-, rfl⟩ := h
          split
          · simp only [weight]; omega
          · simp only [weight, List.length_drop, readRoom] at *; omega

end Arrival

end RelayProbe
