import RelayProbe.Session.Script

set_option autoImplicit false

/-! # What can be heard from the far end

Of all that is to arrive only what stands before the first failure or empty entry is ever read. It
is read entry by entry, each in pieces of the size of one read with a shorter last one; no piece
holds bytes of two entries.
-/

namespace RelayProbe

namespace Arrival

/-- The entries before the stream stops: no failure, and no empty one. -/
def heard : List Arrival → List Bytes
  | [] => []
  | .fail _ :: _ => []
  | .data bs :: rest => if bs = [] then [] else bs :: heard rest

/-- The failure at which the stream stops; `none` if it comes to its end. -/
def stop? : List Arrival → Option Fault
  | [] => none
  | .fail f :: _ => some f
  | .data bs :: rest => if bs = [] then none else stop? rest

/-- Bytes cut into pieces of the size of one read, with a shorter last one. -/
def pieces (bs : Bytes) : List Bytes :=
  if bs = [] then [] else bs.take readRoom :: pieces (bs.drop readRoom)
termination_by bs.length
decreasing_by
  have : 0 < bs.length := List.length_pos_iff.mpr (by assumption)
  simp only [List.length_drop, readRoom]; omega

/-- The bytes of an entry. -/
def bytes : Arrival → Bytes
  | .data bs => bs
  | .fail _ => []

/-- The pieces of some bytes hold these bytes, in order. -/
theorem flatten_pieces (bs : Bytes) : (pieces bs).flatten = bs := by
  fun_induction pieces bs with
  | case1 => rfl
  | case2 bs _ ih => rw [List.flatten_cons, ih, List.take_append_drop]

/-- No piece is empty, and none is longer than one read. -/
theorem length_of_mem_pieces {bs p : Bytes} (h : p ∈ pieces bs) :
    0 < p.length ∧ p.length ≤ readRoom := by
  fun_induction pieces bs with
  | case1 => cases h
  | case2 bs hbs ih =>
      rcases List.mem_cons.mp h with rfl | h
      · have : 0 < bs.length := List.length_pos_iff.mpr hbs
        simp only [List.length_take, readRoom]; omega
      · exact ih h

end Arrival

end RelayProbe
