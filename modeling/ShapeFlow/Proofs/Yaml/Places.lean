import ShapeFlow.Yaml.Cursor

/-!
# Places behind the characters of a line

All that a writer puts on a line is printable and of ASCII (`IsInline`). Behind such characters a
cursor is on the same line with all three counts advanced (`skip_inline`), and behind a line feed
with blanks it is in the column that the blanks lead to (`skip_lineFeed`). The text behind a cursor
is known whatever it moves over (`rest_next`, `rest_skip`).
-/

set_option autoImplicit false

namespace ShapeFlow.Yaml

/-- A printable character of ASCII, the blank among them. -/
def IsInline (c : Char) : Prop := 0x20 ≤ c.toNat ∧ c.toNat ≤ 0x7e

instance (c : Char) : Decidable (IsInline c) := inferInstanceAs (Decidable (_ ∧ _))

/-- A text on one line. -/
def AllInline (w : List Char) : Prop := ∀ c ∈ w, IsInline c

/-- A text that starts with a character of a line other than a blank. -/
def Unspaced (cs : List Char) : Prop := ∃ x, cs.head? = some x ∧ IsInline x ∧ x ≠ ' '

/-- A character of a name: a small letter or an underscore. -/
def IsNameChar (c : Char) : Prop := (0x61 ≤ c.toNat ∧ c.toNat ≤ 0x7a) ∨ c = '_'

instance (c : Char) : Decidable (IsNameChar c) := inferInstanceAs (Decidable (_ ∨ _))

/-- A line ends, and behind so many blanks there is a name or, at once, the end of the text. -/
inductive LineEnd : Nat → List Char → Prop
  | last : LineEnd 0 ['\n']
  | name {n : Nat} {x : Char} {r : List Char} :
    IsNameChar x → LineEnd n ('\n' :: (List.replicate n ' ' ++ x :: r))

section Characters

variable {c : Char}

theorem IsInline.ne {d : Char} (h : IsInline c) (hd : ¬ IsInline d) : c ≠ d := by
  rintro rfl
  exact hd h

theorem IsInline.isBreak (h : IsInline c) : isBreak c = false := by
  have hr := h.ne (d := '\r') (by decide)
  have hn := h.ne (d := '\n') (by decide)
  have hu := h.ne (d := '\u0085') (by decide)
  have hl := h.ne (d := '\u2028') (by decide)
  have hp := h.ne (d := '\u2029') (by decide)
  simp [Yaml.isBreak, hr, hn, hu, hl, hp]

theorem IsInline.isSpace (h : IsInline c) : isSpace c = (c == ' ') := by
  have ht : (c == '\t') = false := beq_false_of_ne (h.ne (by decide))
  have he : (c == endMark) = false := beq_false_of_ne (h.ne (by decide))
  simp [Yaml.isSpace, isBreakOrEnd, h.isBreak, ht, he]

theorem IsInline.isAllowed (h : IsInline c) : isAllowed c = true := by
  obtain ⟨hlow, hhigh⟩ := h
  simp [Yaml.isAllowed, hlow, hhigh]

theorem IsNameChar.ne {d : Char} (h : IsNameChar c) (hd : ¬ IsNameChar d) : c ≠ d := by
  rintro rfl
  exact hd h

theorem IsNameChar.isInline (h : IsNameChar c) : IsInline c := by
  rcases h with ⟨hlow, hhigh⟩ | rfl
  · exact ⟨by omega, by omega⟩
  · decide

end Characters

section Lines

variable {v w : List Char}

theorem AllInline.append (hv : AllInline v) (hw : AllInline w) : AllInline (v ++ w) := by
  intro c hc
  rcases List.mem_append.1 hc with hc | hc
  · exact hv c hc
  · exact hw c hc

theorem allInline_blanks (n : Nat) : AllInline (List.replicate n ' ') := by
  intro c hc
  rw [List.eq_of_mem_replicate hc]
  decide

theorem AllInline.isAllowed (hw : AllInline w) : w.all isAllowed = true := by
  rw [List.all_eq_true]
  exact fun c hc => (hw c hc).isAllowed

end Lines

namespace Cursor

variable {c : Cursor} {x : Char} {w r : List Char}

@[simp]
theorem rest_next (c : Cursor) : c.next.rest = c.rest.tail := by
  unfold next
  cases h : c.rest with
  | nil => exact h
  | cons ch rest =>
    dsimp only
    split
    · rfl
    · split <;> rfl

@[simp]
theorem rest_skip (c : Cursor) (n : Nat) : (c.skip n).rest = c.rest.drop n := by
  induction n generalizing c with
  | zero => simp [skip]
  | succ n ih => simp [skip, ih]

theorem skip_one (c : Cursor) : c.skip 1 = c.next := rfl

theorem skip_add (c : Cursor) (m n : Nat) : c.skip (m + n) = (c.skip m).skip n := by
  induction m generalizing c with
  | zero => simp [skip]
  | succ m ih => simp [skip, Nat.add_right_comm m 1 n, ih]

theorem next_inline (h : c.rest = x :: r) (hx : IsInline x) :
    c.next = ⟨r, c.index + 1, c.line, c.column + 1⟩ := by
  have hn := hx.ne (d := '\n') (by decide)
  have hu := hx.ne (d := '\u0085') (by decide)
  have hl := hx.ne (d := '\u2028') (by decide)
  have hp := hx.ne (d := '\u2029') (by decide)
  have hr := hx.ne (d := '\r') (by decide)
  have hm := hx.ne (d := '\ufeff') (by decide)
  unfold next
  simp [h, hn, hu, hl, hp, hr, hm]

/-- Behind characters of a line a cursor is that many columns further. -/
theorem skip_inline (h : c.rest = w ++ r) (hw : AllInline w) :
    c.skip w.length = ⟨r, c.index + w.length, c.line, c.column + w.length⟩ := by
  induction w generalizing c with
  | nil =>
    obtain ⟨rest, index, line, column⟩ := c
    obtain rfl : rest = r := h
    rfl
  | cons x w ih =>
    have hnext := next_inline (c := c) (x := x) (r := w ++ r) h (hw x List.mem_cons_self)
    have hskip := ih (c := c.next) (by simp [h]) fun d hd => hw d (List.mem_cons_of_mem x hd)
    rw [List.length_cons, skip, hskip, hnext]
    simp only [Cursor.mk.injEq, true_and]
    omega

/-- Behind a line feed and blanks a cursor is in the column that the blanks lead to. -/
theorem skip_lineFeed {n : Nat} (h : c.rest = '\n' :: (List.replicate n ' ' ++ r)) :
    c.skip (n + 1) = ⟨r, c.index + (n + 1), c.line + 1, n⟩ := by
  have hnext : c.next = ⟨List.replicate n ' ' ++ r, c.index + 1, c.line + 1, 0⟩ := by
    unfold next
    simp [h]
  have hskip := skip_inline (c := c.next) (w := List.replicate n ' ') (r := r) (by simp [h])
    (allInline_blanks n)
  rw [List.length_replicate] at hskip
  rw [skip, hskip, hnext]
  simp only [Cursor.mk.injEq, true_and]
  omega

theorem peek_eq (h : c.rest = x :: r) : c.peek = x := by
  simp [peek, h]

theorem peekAt_one (h : c.rest = x :: r) : c.peekAt 1 = r.headD endMark := by
  simp [peekAt, h]

/-- The characters of a class up to the first one that is not of it. -/
theorem span_eq {p : Char → Bool} (h : c.rest = w ++ r) (hw : ∀ d ∈ w, p d = true)
    (hr : ∀ d, r.head? = some d → p d = false) : c.span p = (w, c.skip w.length) := by
  have hnone : r.takeWhile p = [] := by
    cases r with
    | nil => rfl
    | cons d r => simp [hr d rfl]
  simp [span, h, List.takeWhile_append_of_pos hw, hnone]

theorem lineBreak_lineFeed (h : c.rest = '\n' :: r) : c.lineBreak = (['\n'], c.next) := by
  simp [lineBreak, h]

theorem atSeparator_eq_false (h : c.rest = x :: r) (hdash : x ≠ '-') (hdot : x ≠ '.') :
    c.atSeparator = false := by
  simp [atSeparator, h, hdash, hdot]

/-- Blanks do not separate documents. -/
theorem atSeparator_of_blanks {n : Nat} (h : c.rest = List.replicate (n + 1) ' ' ++ r) :
    c.atSeparator = false :=
  atSeparator_eq_false (x := ' ') (by simpa [List.replicate_succ] using h) (by decide) (by decide)

/-- What follows the end of a line does not separate documents. -/
theorem atSeparator_of_lineEnd {n : Nat} (hw : LineEnd n w) (h : c.rest = w) :
    c.next.atSeparator = false := by
  cases hw with
  | last => simp [atSeparator, h]
  | @name n x r hx =>
    cases n with
    | zero =>
      exact atSeparator_eq_false (r := r) (by simp [h]) (hx.ne (by decide)) (hx.ne (by decide))
    | succ n => exact atSeparator_of_blanks (n := n) (r := x :: r) (by simp [h])

theorem column_of_lineEnd {n : Nat} (hw : LineEnd n w) (h : c.rest = w) :
    (c.skip (n + 1)).column = n := by
  cases hw with
  | last => rw [skip_lineFeed (n := 0) (r := []) h]
  | name hx => rw [skip_lineFeed h]

end Cursor

end ShapeFlow.Yaml
