import RelayProbe.Toml.Bare
import RelayProbe.Toml.Table

set_option autoImplicit false

/-! # Values

A value is a string, a bare value, an array between brackets or a table between braces. Arrays may
go over several lines, with comments, and with a comma behind their last value; a table between
braces may not. Brackets and braces may be nested to a fixed depth, which is what the reading of a
value is recursive in: the reader of a value is made from the reader of the values within it.
-/

namespace RelayProbe

namespace Toml

/-- How deep brackets and braces may be nested. -/
def nestingLimit : Nat := 79

/-- A reader of values: what stands behind a value is shorter than what the value starts. -/
structure Reader where
  run : Place → Except Place (Item × Place)
  shorter : ∀ {s r : Place} {v : Item}, run s = .ok (v, r) → r.length < s.length

/-- Read the values of an array up to its closing bracket. A value that is not followed by a proper
end of its line is itself the place of the error. -/
def elements (read : Reader) (s : Place) : Except Place (List Item × Place) :=
  match _h₁ : skipLines false s with
  | .error p => .error p
  | .ok (']' :: r) => .ok ([], r)
  | .ok s₁ =>
      match _h₂ : read.run s₁ with
      | .error p => .error p
      | .ok (v, s₂) =>
          match _h₃ : skipLines false s₂ with
          | .error _ => .error s₁
          | .ok (']' :: r) => .ok ([v], r)
          | .ok (',' :: r) => (elements read r).map fun t => (v :: t.1, t.2)
          | .ok p => .error p
termination_by s.length
decreasing_by
  have h₁ := length_skipLines _h₁
  have h₂ := read.shorter _h₂
  have h₃ := length_skipLines _h₃
  simp only [List.length_cons] at h₃
  omega

/-- Read an entry: a key, an equals sign and a value. -/
def entry (read : Reader) (s : Place) : Except Place ((DottedKey × Item) × Place) :=
  match dottedKey partLimit s with
  | .error p => .error p
  | .ok (k, '=' :: r) => (read.run (skipSpace r)).map fun t => ((k, t.1), t.2)
  | .ok (_, r) => .error r

theorem length_entry {read : Reader} {s r : Place} {e : DottedKey × Item}
    (h : entry read s = .ok (e, r)) : r.length < s.length := by
  unfold entry at h
  split at h
  · cases h
  · next k r₁ hk =>
      have h₁ := length_dottedKey hk
      have h₂ := length_skipSpace_le r₁
      cases hv : read.run (skipSpace r₁) with
      | error p => rw [hv] at h; cases h
      | ok t =>
          rw [hv] at h
          cases h
          have h₃ := read.shorter hv
          simp only [List.length_cons] at h₁
          omega
  · cases h

/-- Read the entries of a table between braces, up to what is not one more of them. -/
def entries (read : Reader) (s : Place) : Except Place (List (DottedKey × Item) × Place) :=
  match _h : entry read s with
  | .error p => .error p
  | .ok (e, r) =>
      match _hr : skipSpace r with
      | ',' :: r' =>
          if startsKey r' then (entries read r').map fun t => (e :: t.1, t.2)
          else .ok ([e], ',' :: r')
      | r' => .ok ([e], r')
termination_by s.length
decreasing_by
  have h₁ := length_entry _h
  have h₂ := length_skipSpace_le r
  rw [_hr, List.length_cons] at h₂
  omega

/-- The table of the given entries, if it can be built from them. -/
def ofEntries (span : Span) (es : List (DottedKey × Item)) : Option Item :=
  es.foldlM (fun t e => addEntry e.1 e.2 span .inline t.entries) (Item.table span .inline [])

/-- Read what stands between braces, behind the opening one, and the closing one. -/
def braced (read : Reader) (start : Place) (s : Place) : Except Place (Item × Place) :=
  let inside := if startsKey s then entries read s else .ok ([], skipSpace s)
  match inside with
  | .error p => .error p
  | .ok (es, r) =>
      match ofEntries ⟨start, r.tail⟩ es with
      | none => .error s
      | some t =>
          match r with
          | '}' :: r' => .ok (t, r')
          | _ => .error r

/-- Read a value; `read` reads the values within it, and is absent where nothing may be nested any
more. -/
def valueWith (read : Option Reader) (s : Place) : Except Place (Item × Place) :=
  match s with
  | '"' :: r => (quoted .basic r).map fun t => (.scalar ⟨s, t.2⟩ (.string t.1), t.2)
  | '\'' :: r => (quoted .literal r).map fun t => (.scalar ⟨s, t.2⟩ (.string t.1), t.2)
  | '[' :: r =>
      match read with
      | none => .error r
      | some read => (elements read r).map fun t => (.array ⟨s, t.2⟩ .literal t.1, t.2)
  | '{' :: r =>
      match read with
      | none => .error r
      | some read => braced read s r
  | _ => (readBare s).map fun t => (.scalar ⟨s, t.2⟩ t.1, t.2)

theorem length_elements {read : Reader} {s r : Place} {vs : List Item}
    (h : elements read s = .ok (vs, r)) : r.length < s.length := by
  fun_induction elements read s generalizing vs with
  | case1 => cases h
  | case2 s r₁ hs =>
      cases h
      have := length_skipLines hs
      simp only [List.length_cons] at this
      omega
  | case3 => cases h
  | case4 => cases h
  | case5 s s₁ _ h₁ v s₂ h₂ r₁ h₃ =>
      cases h
      have h₁ := length_skipLines h₁
      have h₂ := read.shorter h₂
      have h₃ := length_skipLines h₃
      simp only [List.length_cons] at h₃
      omega
  | case6 s s₁ _ h₁ v s₂ h₂ r₁ h₃ ih =>
      cases hr : elements read r₁ with
      | error p => rw [hr] at h; cases h
      | ok t =>
          rw [hr] at h
          cases h
          have h₁ := length_skipLines h₁
          have h₂ := read.shorter h₂
          have h₃ := length_skipLines h₃
          have h₄ := ih hr
          simp only [List.length_cons] at h₃
          omega
  | case7 => cases h

theorem length_entries {read : Reader} {s r : Place} {es : List (DottedKey × Item)}
    (h : entries read s = .ok (es, r)) : r.length < s.length := by
  fun_induction entries read s generalizing es with
  | case1 => cases h
  | case2 s e r₁ he r₂ hr _ ih =>
      have h₁ := length_entry he
      have h₂ := length_skipSpace_le r₁
      rw [hr, List.length_cons] at h₂
      cases ht : entries read r₂ with
      | error p => rw [ht] at h; cases h
      | ok t =>
          rw [ht] at h
          cases h
          have h₃ := ih ht
          omega
  | case3 s e r₁ he r₂ hr _ =>
      cases h
      have h₁ := length_entry he
      have h₂ := length_skipSpace_le r₁
      rw [hr] at h₂
      omega
  | case4 s e r₁ he _ =>
      cases h
      have h₁ := length_entry he
      have h₂ := length_skipSpace_le r₁
      omega

theorem length_braced {read : Reader} {start s r : Place} {v : Item}
    (h : braced read start s = .ok (v, r)) : r.length < s.length + 1 := by
  simp only [braced] at h
  split at h
  · cases h
  · next es r₁ hi =>
      have h₁ : r₁.length ≤ s.length := by
        split at hi
        · exact Nat.le_of_lt (length_entries hi)
        · cases hi; exact length_skipSpace_le s
      split at h
      · cases h
      · split at h
        · cases h
          simp only [List.length_cons] at h₁
          omega
        · cases h

theorem length_valueWith {read : Option Reader} {s r : Place} {v : Item}
    (h : valueWith read s = .ok (v, r)) : r.length < s.length := by
  have hmap : ∀ {α : Type} {x : Except Place (α × Place)} {g : α × Place → Item} {n : Nat},
      (x.map fun t => (g t, t.2)) = .ok (v, r) →
      (∀ {a q}, x = .ok (a, q) → q.length < n) → r.length < n := by
    intro α x g n hx hn
    cases x with
    | error p => cases hx
    | ok t => cases hx; exact hn rfl
  unfold valueWith at h
  split at h
  · exact Nat.lt_succ_of_lt (hmap h length_quoted)
  · exact Nat.lt_succ_of_lt (hmap h length_quoted)
  · split at h
    · cases h
    · exact Nat.lt_succ_of_lt (hmap h length_elements)
  · split at h
    · cases h
    · exact length_braced h
  · exact hmap h length_readBare

/-- The reader of values in which brackets and braces are nested to at most the given depth. -/
def value : Nat → Reader
  | 0 => ⟨valueWith none, length_valueWith⟩
  | n + 1 => ⟨valueWith (some (value n)), length_valueWith⟩

end Toml

end RelayProbe
