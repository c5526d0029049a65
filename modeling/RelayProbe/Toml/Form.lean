import RelayProbe.Digits
import RelayProbe.Toml.Item

set_option autoImplicit false

/-! # Forms

A form is a way in which something may be written, looked for at a place without knowing whether it
is the one that stands there. Either it is read there, and takes as much of the text as belongs to
it, whatever follows. Or it is absent, and another form may stand there. Or it is broken: it has
begun there and goes wrong, and no other form is tried any more.

Forms are put together in sequence and as alternatives. A sequence is absent as soon as a part of
it is; what settles that no other form can stand there is followed by parts that are `required`.
-/

namespace RelayProbe

namespace Toml

/-- What is found where a form is looked for. -/
inductive Attempt (α : Type)
  | read (value : α) (rest : Place)
  | absent
  | broken

/-- The same find with another value. -/
def Attempt.map {α β : Type} (f : α → β) : Attempt α → Attempt β
  | read v r => read (f v) r
  | absent => absent
  | broken => broken

theorem Attempt.exists_of_map_eq_read {α β : Type} {f : α → β} {a : Attempt α} {v : β} {r : Place}
    (h : a.map f = .read v r) : ∃ u, a = .read u r := by
  cases a with
  | read u r' => cases h; exact ⟨u, rfl⟩
  | absent => cases h
  | broken => cases h

/-- A form: how it is looked for. What is left is never longer than the text was. -/
structure Form (α : Type) where
  run : Place → Attempt α
  keeps : ∀ {s r : Place} {v : α}, run s = .read v r → r.length ≤ s.length

namespace Form

variable {α β : Type}

/-- Nothing at all, which stands everywhere. -/
def nothing (v : α) : Form α where
  run s := .read v s
  keeps h := by cases h; exact Nat.le_refl _

/-- A form that stands nowhere. -/
def never : Form α where
  run _ := .absent
  keeps h := by cases h

/-- A form that goes wrong everywhere. -/
def wrong : Form α where
  run _ := .broken
  keeps h := by cases h

/-- A form and another one behind it, which may depend on what was read. -/
def andThen (f : Form α) (g : α → Form β) : Form β where
  run s :=
    match f.run s with
    | .read v r => (g v).run r
    | .absent => .absent
    | .broken => .broken
  keeps {s r v} h := by
    split at h
    · next u r₁ hf => exact Nat.le_trans ((g u).keeps h) (f.keeps hf)
    · cases h
    · cases h

instance : Monad Form where
  pure := nothing
  bind := andThen

/-- The first form, or the second one where the first one is absent. -/
def or (f g : Form α) : Form α where
  run s :=
    match f.run s with
    | .absent => g.run s
    | a => a
  keeps {s r v} h := by
    split at h
    · exact g.keeps h
    · exact f.keeps h

instance : OrElse (Form α) where
  orElse f g := f.or (g ())

/-- A form that may not be absent. -/
def required (f : Form α) : Form α := f <|> wrong

/-- A form that may be absent. -/
def optional (f : Form α) : Form (Option α) := some <$> f <|> pure none

/-! ## Characters and digits -/

/-- One character of a class. -/
def char (p : Char → Bool) : Form Char where
  run
    | [] => .absent
    | c :: r => if p c then .read c r else .absent
  keeps {s r v} h := by
    split at h
    · cases h
    · split at h
      · cases h; exact Nat.le_succ _
      · cases h

/-- As many characters of a class as there are. -/
def chars (p : Char → Bool) : Form (List Char) where
  run s := .read (s.takeWhile p) (s.dropWhile p)
  keeps h := by cases h; exact (List.dropWhile_suffix _).length_le

/-- A certain text. -/
def text (t : String) : Form Unit where
  run s := if t.toList.isPrefixOf s then .read () (s.drop t.toList.length) else .absent
  keeps {s r v} h := by
    split at h
    · cases h; simp only [List.length_drop]; omega
    · cases h

/-- A number of exactly `n` digits between two bounds. -/
def field (n low high : Nat) : Form Nat where
  run s :=
    let v := Digits.toNat 10 (s.take n)
    if n ≤ s.length ∧ (s.take n).all Char.isDigit ∧ low ≤ v ∧ v ≤ high then .read v (s.drop n)
    else .absent
  keeps {s r v} h := by
    simp only at h
    split at h
    · cases h; simp only [List.length_drop]; omega
    · cases h

/-- What may stand behind a digit of a number: more digits, each with or without an underscore in
front of it. -/
def digitsBehind (base : Nat) : Place → Attempt (List Char)
  | [] => .read [] []
  | ['_'] => .broken
  | '_' :: d :: r =>
      if Digits.isDigitOf base d then (digitsBehind base r).map (d :: ·) else .broken
  | d :: r =>
      if Digits.isDigitOf base d then (digitsBehind base r).map (d :: ·) else .read [] (d :: r)

theorem length_digitsBehind {base : Nat} {s r : Place} {ds : List Char}
    (h : digitsBehind base s = .read ds r) : r.length ≤ s.length := by
  fun_induction digitsBehind base s generalizing ds with
  | case1 => cases h; exact Nat.le_refl _
  | case2 => cases h
  | case3 d r' _ ih =>
      obtain ⟨es, he⟩ := Attempt.exists_of_map_eq_read h
      have := ih he
      simp only [List.length_cons]; omega
  | case4 => cases h
  | case5 d r' _ _ _ ih =>
      obtain ⟨es, he⟩ := Attempt.exists_of_map_eq_read h
      have := ih he
      simp only [List.length_cons]; omega
  | case6 => cases h; exact Nat.le_refl _

/-- The digits of a number, where single underscores may stand between two digits. -/
def digits (base : Nat) : Form (List Char) := do
  let d ← char (Digits.isDigitOf base)
  let ds ← ⟨digitsBehind base, length_digitsBehind⟩
  return d :: ds

/-! ## Forms that take something -/

/-- Whether what is left behind a form is always shorter than the text was. -/
def Shortens (f : Form α) : Prop :=
  ∀ {s r : Place} {v : α}, f.run s = .read v r → r.length < s.length

theorem shortens_bind_left {f : Form α} {g : α → Form β} (hf : f.Shortens) :
    (f >>= g).Shortens := by
  intro s r v h
  change (f.andThen g).run s = _ at h
  simp only [andThen] at h
  split at h
  · next u r₁ h₁ => exact Nat.lt_of_le_of_lt ((g u).keeps h) (hf h₁)
  · cases h
  · cases h

theorem shortens_bind_right {f : Form α} {g : α → Form β} (hg : ∀ v, (g v).Shortens) :
    (f >>= g).Shortens := by
  intro s r v h
  change (f.andThen g).run s = _ at h
  simp only [andThen] at h
  split at h
  · next u r₁ h₁ => exact Nat.lt_of_lt_of_le (hg u h) (f.keeps h₁)
  · cases h
  · cases h

theorem shortens_or {f g : Form α} (hf : f.Shortens) (hg : g.Shortens) : (f <|> g).Shortens := by
  intro s r v h
  change (f.or g).run s = _ at h
  simp only [or] at h
  split at h
  · exact hg h
  · exact hf h

theorem shortens_char {p : Char → Bool} : (char p).Shortens := by
  intro s r v h
  simp only [char] at h
  split at h
  · cases h
  · split at h
    · cases h; exact Nat.lt_succ_self _
    · cases h

theorem shortens_text {t : String} (ht : t.toList ≠ []) : (text t).Shortens := by
  intro s r v h
  have hpos : 0 < t.toList.length := List.length_pos_iff.mpr ht
  simp only [text] at h
  split at h
  · next hp =>
      cases h
      have := (List.isPrefixOf_iff_prefix.mp hp).length_le
      simp only [List.length_drop]; omega
  · cases h

theorem shortens_field {n low high : Nat} (hn : 0 < n) : (field n low high).Shortens := by
  intro s r v h
  simp only [field] at h
  split at h
  · next hs => cases h; simp only [List.length_drop]; omega
  · cases h

end Form

end Toml

end RelayProbe
