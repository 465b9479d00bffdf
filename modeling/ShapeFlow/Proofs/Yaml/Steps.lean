import ShapeFlow.Proofs.Yaml.Places
import ShapeFlow.Yaml.Token
import Mathlib.Data.List.TakeWhile

/-!
# Steps of the scanner

Before each token the scanner moves to where the token starts and closes the blocks that end there
(`Scan.settle`); only that place and the state in it matter for what follows (`toEnd_congr`). One
state leads to another if from the first the scanner gets to the second, however much fuel is left
(`Scan.Leads`).
-/

set_option autoImplicit false

namespace ShapeFlow.Yaml

namespace Scan

variable {s t u v : Scan} {fuel : Nat}

/-- The scanner at another place. -/
def moved (s : Scan) (c : Cursor) : Scan := { s with cursor := c }

/-- The scanner at a place in another line, where a key may stand. -/
def movedDown (s : Scan) (c : Cursor) : Scan := { s with cursor := c, keyAllowed := true }

/-- The scanner at the start of the next token, with the blocks closed that end there. -/
def settle (s : Scan) : Option Scan := do
  let s ← (s.toNext (s.cursor.rest.length + 1)).dropStale
  return s.unwind s.cursor.column

theorem toEnd_succ (fuel : Nat) (s : Scan) :
    toEnd (fuel + 1) s = s.settle.bind fun t =>
      if t.cursor.rest.isEmpty then (t.unwind (-1)).dropKey
      else t.nextToken.bind fun u => toEnd fuel u := by
  rw [toEnd, settle]
  cases (s.toNext (s.cursor.rest.length + 1)).dropStale <;> rfl

theorem toEnd_congr (h : s.settle = t.settle) : toEnd fuel s = toEnd fuel t := by
  cases fuel with
  | zero => rfl
  | succ fuel => rw [toEnd_succ, toEnd_succ, h]

/-- From one state the scanner gets to another, in fewer steps than there are characters between
them. -/
def Leads (s t : Scan) : Prop :=
  ∃ n, n + t.cursor.rest.length ≤ s.cursor.rest.length ∧ ∀ fuel, toEnd (fuel + n) s = toEnd fuel t

theorem Leads.trans (h : Leads s t) (h' : Leads t u) : Leads s u := by
  obtain ⟨m, hm, hst⟩ := h
  obtain ⟨n, hn, htu⟩ := h'
  refine ⟨n + m, by omega, ?_⟩
  intro fuel
  rw [← Nat.add_assoc, hst, htu]

theorem leads_of_settle (h : s.settle = t.settle)
    (hrest : t.cursor.rest.length ≤ s.cursor.rest.length) : Leads s t :=
  ⟨0, by omega, fun _ => toEnd_congr h⟩

theorem leads_of_nextToken (hs : s.settle = some t) (hne : t.cursor.rest ≠ [])
    (hnext : t.nextToken = some u) (hu : u.settle = v.settle)
    (hrest : v.cursor.rest.length < s.cursor.rest.length) : Leads s v := by
  refine ⟨1, by omega, ?_⟩
  intro fuel
  have hnonempty : t.cursor.rest.isEmpty = false := by simpa using hne
  rw [toEnd_succ, hs, Option.bind_some, hnonempty, if_neg Bool.false_ne_true, hnext,
    Option.bind_some, toEnd_congr hu]

/-! ## Closing blocks -/

section Unwind

variable {j k : Int}

theorem unwind_eq (hflow : s.inFlow = false) (k : Int) :
    s.unwind k = { s with
      tokens := s.tokens ++ ((s.indent :: s.outer).takeWhile (k < ·)).map fun _ => Token.blockEnd
      indent := ((s.indent :: s.outer).dropWhile (k < ·)).headD (-1)
      outer := ((s.indent :: s.outer).dropWhile (k < ·)).tail } := by
  have hdrop : (s.indent :: s.outer).drop ((s.indent :: s.outer).takeWhile (k < ·)).length =
      (s.indent :: s.outer).dropWhile (k < ·) := by
    have hsplit := congrArg (List.drop ((s.indent :: s.outer).takeWhile (k < ·)).length)
      (List.takeWhile_append_dropWhile (p := (k < ·)) (l := s.indent :: s.outer))
    rw [← hsplit, List.drop_left]
  unfold unwind
  rw [hflow, if_neg Bool.false_ne_true]
  dsimp only
  rw [hdrop]

theorem unwind_of_le (hflow : s.inFlow = false) (h : s.indent ≤ k) : s.unwind k = s := by
  rw [unwind_eq hflow]
  simp [Int.not_lt.2 h]

/-- At the column of the enclosing block the innermost one is closed. -/
theorem unwind_innermost {outer : List Int} (hflow : s.inFlow = false) (h : k < s.indent)
    (houter : s.outer = k :: outer) :
    s.unwind k = { s with tokens := s.tokens ++ [.blockEnd], indent := k, outer := outer } := by
  rw [unwind_eq hflow]
  simp [houter, h]

@[simp]
theorem keys_unwind : (s.unwind k).keys = s.keys := by
  unfold unwind
  split <;> rfl

@[simp]
theorem inFlow_unwind : (s.unwind k).inFlow = s.inFlow := by
  rw [inFlow, keys_unwind, inFlow]

@[simp]
theorem cursor_unwind : (s.unwind k).cursor = s.cursor := by
  unfold unwind
  split <;> rfl

/-- Behind a closing no block is deeper than the column. -/
theorem indent_unwind_le (hflow : s.inFlow = false) (hk : -1 ≤ k) : (s.unwind k).indent ≤ k := by
  have hhead := List.head?_dropWhile_not (fun i => decide (k < i)) (s.indent :: s.outer)
  rw [unwind_eq hflow]
  cases h : (s.indent :: s.outer).dropWhile (k < ·) with
  | nil => exact hk
  | cons i rest =>
    rw [h] at hhead
    simpa using hhead

/-- What is closed at a column is closed at every lower one. -/
theorem unwind_unwind (hflow : s.inFlow = false) (hj : -1 ≤ j) (hjk : j ≤ k) :
    (s.unwind k).unwind j = s.unwind j := by
  have hflow' : (s.unwind k).inFlow = false := by rw [inFlow_unwind, hflow]
  rw [unwind_eq hflow', unwind_eq hflow j, unwind_eq hflow k]
  -- the blocks are those deeper than `k`, which are deeper than `j` as well, and what is left
  generalize s.indent :: s.outer = blocks
  have hdeeper : ∀ i ∈ blocks.takeWhile (k < ·), decide (j < i) = true := by
    intro i hi
    have hki := List.mem_takeWhile_imp hi
    simp only [decide_eq_true_eq] at hki ⊢
    omega
  have hblocks := List.takeWhile_append_dropWhile (p := (k < ·)) (l := blocks)
  generalize blocks.takeWhile (k < ·) = deeper at hblocks hdeeper ⊢
  generalize blocks.dropWhile (k < ·) = left at hblocks ⊢
  subst hblocks
  rw [List.takeWhile_append_of_pos hdeeper, List.dropWhile_append_of_pos hdeeper]
  cases left with
  | nil => simp [Int.not_lt.2 hj]
  | cons i left => simp

end Unwind

/-! ## Moving to the next token -/

/-- A token that no blank or comment precedes, or the end of the text. -/
def Starts (r : List Char) : Prop := ∀ x, r.head? = some x → IsInline x ∧ x ≠ ' ' ∧ x ≠ '#'

section Next

variable {n : Nat} {r tail : List Char}

theorem peek_of_starts {c : Cursor} (hr : Starts r) (h : c.rest = r) :
    c.peek ≠ ' ' ∧ c.peek ≠ '#' ∧ isBreak c.peek = false := by
  cases r with
  | nil =>
    have hpeek : c.peek = endMark := by simp [Cursor.peek, h]
    rw [hpeek]
    decide
  | cons x r =>
    obtain ⟨hinline, hblank, hhash⟩ := hr x rfl
    rw [Cursor.peek_eq h]
    exact ⟨hblank, hhash, hinline.isBreak⟩

theorem toNext_blanks (h : s.cursor.rest = List.replicate n ' ' ++ r) (hr : Starts r) :
    s.toNext (fuel + 1) = s.moved (s.cursor.skip n) := by
  -- a byte order mark would be skipped
  have hmark : s.cursor.peek ≠ '\ufeff' := by
    cases n with
    | zero =>
      cases r with
      | nil => simp [Cursor.peek, h, endMark]
      | cons x r =>
        rw [Cursor.peek_eq h]
        exact (hr x rfl).1.ne (by decide)
    | succ n =>
      rw [Cursor.peek_eq (x := ' ') (by simpa [List.replicate_succ] using h)]
      decide
  have hspan := Cursor.span_eq (p := fun ch => ch == ' ') h
    (fun d hd => by simp [List.eq_of_mem_replicate hd]) (fun d hd => by simpa using (hr d hd).2.1)
  obtain ⟨-, hhash, hbreak⟩ := peek_of_starts (c := s.cursor.skip n) hr (by simp [h])
  rw [List.length_replicate] at hspan
  simp [toNext, hmark, hspan, hhash, hbreak, moved]

theorem toNext_lineFeed (h : s.cursor.rest = '\n' :: (List.replicate n ' ' ++ r)) (hr : Starts r)
    (hflow : s.inFlow = false) :
    s.toNext (fuel + 2) = s.movedDown (s.cursor.skip (n + 1)) := by
  have hspan := Cursor.span_eq (c := s.cursor) (p := fun ch => ch == ' ') (w := [])
    (by simpa using h) (by simp) (by simp)
  have hbehind : (s.movedDown s.cursor.next).toNext (fuel + 1) =
      (s.movedDown s.cursor.next).moved (s.cursor.next.skip n) :=
    toNext_blanks (by simp [movedDown, h]) hr
  simp only [movedDown, moved] at hbehind
  rw [toNext]
  simp [Cursor.peek_eq h, hspan, Cursor.skip, Cursor.lineBreak_lineFeed h, hflow, hbehind,
    movedDown, show isBreak '\n' = true from rfl]

theorem dropStale_eq (hkeys : s.keys = [none]) : s.dropStale = some s := by
  obtain ⟨cursor, tokens, indent, outer, keyAllowed, keys⟩ := s
  obtain rfl : keys = [none] := hkeys
  rfl

theorem inFlow_eq (hkeys : s.keys = [none]) : s.inFlow = false := by
  simp [inFlow, hkeys]

theorem settle_blanks (hkeys : s.keys = [none]) (h : s.cursor.rest = List.replicate n ' ' ++ r)
    (hr : Starts r) :
    s.settle = some ((s.moved (s.cursor.skip n)).unwind (s.cursor.skip n).column) := by
  have hstale := dropStale_eq (s := s.moved (s.cursor.skip n)) hkeys
  rw [settle, toNext_blanks h hr, hstale]
  rfl

/-- On a line the scanner only moves over blanks. -/
theorem settle_inline (hkeys : s.keys = [none]) (h : s.cursor.rest = List.replicate n ' ' ++ r)
    (hr : Starts r) (hindent : s.indent ≤ s.cursor.column) :
    s.settle = some (s.moved (s.cursor.skip n)) := by
  have hskip := Cursor.skip_inline h (allInline_blanks n)
  have hcolumn : (s.moved (s.cursor.skip n)).indent ≤ (s.cursor.skip n).column := by
    rw [List.length_replicate] at hskip
    simp only [moved, hskip]
    omega
  rw [settle_blanks hkeys h hr,
    unwind_of_le (s := s.moved (s.cursor.skip n)) (inFlow_eq hkeys) hcolumn]

theorem exists_starts (htail : LineEnd n tail) :
    ∃ r, tail = '\n' :: (List.replicate n ' ' ++ r) ∧ Starts r := by
  cases htail with
  | last => exact ⟨[], rfl, by rintro x ⟨⟩⟩
  | @name _ x r hx =>
    refine ⟨x :: r, rfl, ?_⟩
    rintro d ⟨⟩
    exact ⟨hx.isInline, hx.ne (by decide), hx.ne (by decide)⟩

/-- At the end of a line the scanner moves to the next one, where a key may stand, and closes the
blocks that are deeper. -/
theorem settle_lineEnd (hkeys : s.keys = [none]) (h : s.cursor.rest = tail)
    (htail : LineEnd n tail) :
    s.settle = some ((s.movedDown (s.cursor.skip (n + 1))).unwind n) := by
  have hcolumn := Cursor.column_of_lineEnd htail h
  obtain ⟨r, rfl, hr⟩ := exists_starts htail
  obtain ⟨fuel, hfuel⟩ : ∃ fuel, s.cursor.rest.length + 1 = fuel + 2 :=
    ⟨s.cursor.rest.length - 1, by simp [h]⟩
  have hstale := dropStale_eq (s := s.movedDown (s.cursor.skip (n + 1))) hkeys
  rw [settle, hfuel, toNext_lineFeed h hr (inFlow_eq hkeys), hstale]
  show some (unwind _ ((s.cursor.skip (n + 1)).column : Int)) = _
  rw [hcolumn]

end Next

end Scan

end ShapeFlow.Yaml
