import ShapeFlow.Proofs.Yaml.Places
import ShapeFlow.Yaml.Scalar

/-!
# The grammar of quoted scalars

What may stand between quotation marks is given by a grammar (`Body`): characters, doubled marks,
escapes, blanks, and line breaks in the places where they count as a blank or not at all. A scanner
reads an input word by word with a count of steps (`Reads`). `Body.reads` says that it reads every
input of the grammar as the text that the grammar gives, so a writer only has to stay inside of the
grammar.
-/

set_option autoImplicit false

namespace ShapeFlow.Yaml

/-- The mark around a quoted scalar. -/
def quotationMark (double : Bool) : Char := if double then '\x22' else '\x27'

/-- What stands between quotation marks, the closing one included: `Body double input text tail`
says that `input` is the writing of `text` and then a closing mark with `tail` behind it. -/
inductive Body : Bool → List Char → List Char → List Char → Prop
  | close {double : Bool} {tail : List Char} :
    tail.head? ≠ some '\x27' → Body double (quotationMark double :: tail) [] tail
  | char {double : Bool} {x : Char} {input text tail : List Char} :
    IsInline x → x ≠ ' ' → x ≠ quotationMark double → (double = true → x ≠ '\\') →
      Body double input text tail → Body double (x :: input) (x :: text) tail
  | doubled {input text tail : List Char} :
    Body false input text tail → Body false ('\x27' :: '\x27' :: input) ('\x27' :: text) tail
  | letter {l x : Char} {input text tail : List Char} :
    escapes.lookup l = some x → IsInline l →
      Body true input text tail → Body true ('\\' :: l :: input) (x :: text) tail
  | number {l : Char} {digits : List Char} {n : Nat} {input text tail : List Char} :
    escapes.lookup l = none → numberedEscapes.lookup l = some digits.length →
      AllInline (l :: digits) → hexNumber? digits = some n → n.isValidChar →
      Body true input text tail →
        Body true ('\\' :: l :: (digits ++ input)) (Char.ofNat n :: text) tail
  | continued {n : Nat} {input text tail : List Char} :
    Unspaced input → Body true input text tail →
      Body true ('\\' :: '\n' :: (List.replicate (n + 1) ' ' ++ input)) text tail
  | blanks {double : Bool} {n : Nat} {input text tail : List Char} :
    Unspaced input → Body double input text tail →
      Body double (List.replicate (n + 1) ' ' ++ input) (List.replicate (n + 1) ' ' ++ text) tail
  | folded {double : Bool} {n : Nat} {input text tail : List Char} :
    Unspaced input → Body double input text tail →
      Body double ('\n' :: (List.replicate (n + 1) ' ' ++ input)) (' ' :: text) tail
  | breaks {double : Bool} {m n : Nat} {input text tail : List Char} :
    Unspaced input → Body double input text tail →
      Body double ('\n' :: (List.replicate (m + 1) '\n' ++ (List.replicate (n + 1) ' ' ++ input)))
        (List.replicate (m + 1) '\n' ++ text) tail

/-! ## Reading -/

section Reading

variable {double : Bool} {c : Cursor} {x : Char} {r : List Char} {m n : Nat} {read : List Char}

theorem quotedWord_stop (h : c.rest = x :: r) (hx : isSpace x = true) :
    quotedWord double (m + 1) c read = some (read, c) := by
  simp [quotedWord, Cursor.peek_eq h, hx]

theorem quotedWord_char (h : c.rest = x :: r) (hx : isSpace x = false)
    (hmark : x ≠ quotationMark double) (hslash : double = true → x ≠ '\\') :
    quotedWord double (m + 1) c read = quotedWord double m c.next (read ++ [x]) := by
  cases double with
  | true =>
    simp [quotationMark] at hmark
    simp [quotedWord, Cursor.peek_eq h, hx, hmark, hslash rfl]
  | false =>
    simp [quotationMark] at hmark
    simp [quotedWord, Cursor.peek_eq h, hx, hmark]

theorem quotedWord_close (h : c.rest = quotationMark double :: r) (hr : r.head? ≠ some '\x27') :
    quotedWord double (m + 1) c read = some (read, c) := by
  have hspace : isSpace (quotationMark double) = false := by cases double <;> rfl
  cases double with
  | true => simp [quotedWord, Cursor.peek_eq h, quotationMark]
  | false =>
    have hnext : c.peekAt 1 ≠ '\x27' := by
      rw [Cursor.peekAt_one h]
      cases r with
      | nil => decide
      | cons y r => simpa using hr
    simp [quotedWord, Cursor.peek_eq h, quotationMark, hnext]

theorem quotedWord_doubled (h : c.rest = '\x27' :: '\x27' :: r) :
    quotedWord false (m + 1) c read = quotedWord false m (c.skip 2) (read ++ ['\x27']) := by
  have hspace : isSpace '\x27' = false := rfl
  simp [quotedWord, Cursor.peek_eq h, Cursor.peekAt_one h, hspace]

theorem quotedWord_escape {escaped : List Char} {c' : Cursor} (h : c.rest = '\\' :: r)
    (hescape : quotedEscape c.next = some (escaped, c')) :
    quotedWord true (m + 1) c read = quotedWord true m c' (read ++ escaped) := by
  have hspace : isSpace '\\' = false := rfl
  simp [quotedWord, Cursor.peek_eq h, hspace, hescape]

theorem quotedEscape_letter {l : Char} (h : c.rest = l :: r) (hl : escapes.lookup l = some x)
    (hinline : IsInline l) : quotedEscape c = some ([x], c.next) := by
  have hend : l ≠ endMark := hinline.ne (by decide)
  simp [quotedEscape, Cursor.peek_eq h, hl, hend]

theorem quotedEscape_number {l : Char} {digits : List Char} (h : c.rest = l :: (digits ++ r))
    (hl : escapes.lookup l = none) (hcount : numberedEscapes.lookup l = some digits.length)
    (hn : hexNumber? digits = some n) (hvalid : n.isValidChar) :
    quotedEscape c = some ([Char.ofNat n], c.next.skip digits.length) := by
  simp [quotedEscape, Cursor.peek_eq h, hl, hcount, h, hn, hvalid]

/-- Blanks up to a character of the line. -/
theorem span_blanks {input : List Char} (h : c.rest = List.replicate n ' ' ++ input)
    (hinput : Unspaced input) :
    c.span (fun ch => ch == ' ' || ch == '\t') = (List.replicate n ' ', c.skip n) := by
  obtain ⟨x, hx, hinline, hblank⟩ := hinput
  have htab : x ≠ '\t' := hinline.ne (by decide)
  have hspan := Cursor.span_eq (p := fun ch => ch == ' ' || ch == '\t') h
    (fun d hd => by simp [List.eq_of_mem_replicate hd])
    (fun d hd => by simp_all)
  simpa using hspan

theorem peek_skip_blanks {input : List Char} (h : c.rest = List.replicate n ' ' ++ input)
    (hx : input.head? = some x) : (c.skip n).peek = x := by
  simp [Cursor.peek, h, hx]

theorem quotedBreaks_eq {input : List Char} (hinput : Unspaced input)
    (h : c.rest = List.replicate m '\n' ++ (List.replicate (n + 1) ' ' ++ input))
    (breaks : List Char) (fuel : Nat) (hfuel : m < fuel) :
    ∃ c', c'.rest = input ∧
      quotedBreaks fuel c breaks = some (breaks ++ List.replicate m '\n', c') := by
  induction m generalizing c breaks fuel with
  | zero =>
    obtain ⟨x, hx, hinline, hblank⟩ := hinput
    obtain ⟨fuel, rfl⟩ : ∃ k, fuel = k + 1 := ⟨fuel - 1, by omega⟩
    simp only [List.replicate_zero, List.nil_append] at h
    have hsep := Cursor.atSeparator_of_blanks h
    refine ⟨c.skip (n + 1), by simp [h], ?_⟩
    simp [quotedBreaks, hsep, span_blanks h ⟨x, hx, hinline, hblank⟩, peek_skip_blanks h hx,
      hinline.isBreak]
  | succ m ih =>
    obtain ⟨fuel, rfl⟩ : ∃ k, fuel = k + 1 := ⟨fuel - 1, by omega⟩
    rw [List.replicate_succ, List.cons_append] at h
    have hsep := Cursor.atSeparator_eq_false h (by decide) (by decide)
    have hspan := Cursor.span_eq (c := c) (p := fun ch => ch == ' ' || ch == '\t') (w := [])
      (by simpa using h) (by simp) (by simp)
    obtain ⟨c', hrest, hc'⟩ := ih (c := c.next) (by simp [h]) (breaks ++ ['\n']) fuel (by omega)
    refine ⟨c', hrest, ?_⟩
    simp [quotedBreaks, hsep, hspan, Cursor.skip, Cursor.peek_eq h, Cursor.lineBreak_lineFeed h,
      hc', List.replicate_succ, show isBreak '\n' = true from rfl]

/-- A backslash takes back the line feed behind it. -/
theorem quotedEscape_lineFeed {input : List Char} (hinput : Unspaced input)
    (h : c.rest = '\n' :: (List.replicate (n + 1) ' ' ++ input)) :
    ∃ c', c'.rest = input ∧ quotedEscape c = some ([], c') := by
  obtain ⟨c', hrest, hbreaks⟩ := quotedBreaks_eq (c := c.next) (m := 0) (n := n) hinput
    (by simp [h]) [] (c.next.rest.length + 1) (by omega)
  have hletter : escapes.lookup '\n' = none := rfl
  have hnumber : numberedEscapes.lookup '\n' = none := rfl
  simp only [Cursor.rest_next, List.length_tail] at hbreaks
  refine ⟨c', hrest, ?_⟩
  simp [quotedEscape, Cursor.peek_eq h, hletter, hnumber, show isBreak '\n' = true from rfl,
    Cursor.lineBreak_lineFeed h, hbreaks]

theorem quotedSpaces_blanks {input : List Char} (hinput : Unspaced input)
    (h : c.rest = List.replicate (n + 1) ' ' ++ input) :
    quotedSpaces c = some (List.replicate (n + 1) ' ', c.skip (n + 1)) := by
  obtain ⟨x, hx, hinline, hblank⟩ := hinput
  have hend : x ≠ endMark := hinline.ne (by decide)
  simp [quotedSpaces, span_blanks h ⟨x, hx, hinline, hblank⟩, peek_skip_blanks h hx,
    hinline.isBreak, hend]

/-- Of several line feeds the first is dropped, and a single one counts as a blank. -/
theorem quotedSpaces_lineFeeds {input : List Char} (hinput : Unspaced input)
    (h : c.rest = '\n' :: (List.replicate m '\n' ++ (List.replicate (n + 1) ' ' ++ input))) :
    ∃ c', c'.rest = input ∧
      quotedSpaces c = some (if m = 0 then [' '] else List.replicate m '\n', c') := by
  have hspan := Cursor.span_eq (c := c) (p := fun ch => ch == ' ' || ch == '\t') (w := [])
    (by simpa using h) (by simp) (by simp)
  have hfuel : m < c.next.rest.length + 1 := by
    rw [Cursor.rest_next, h]
    simp only [List.tail_cons, List.length_append, List.length_replicate]
    omega
  obtain ⟨c', hrest, hbreaks⟩ := quotedBreaks_eq (c := c.next) (m := m) (n := n) hinput
    (by simp [h]) [] (c.next.rest.length + 1) hfuel
  simp only [Cursor.rest_next, List.length_tail] at hbreaks
  refine ⟨c', hrest, ?_⟩
  simp [quotedSpaces, hspan, Cursor.skip, Cursor.peek_eq h, Cursor.lineBreak_lineFeed h, hbreaks,
    show isBreak '\n' = true from rfl, show ('\n' : Char) ≠ endMark by decide]
  cases m <;> simp

end Reading

/-! ## Words and gaps -/

/-- From every place in front of an input the scanner reads a word and then the rest of a text, and
stops in front of a tail. -/
def Reads (double : Bool) (input text tail : List Char) : Prop :=
  ∀ c : Cursor, c.rest = input → ∃ (word rest : List Char) (gap c' : Cursor),
    text = word ++ rest ∧ c'.rest = tail ∧ gap.rest.length ≤ input.length ∧
      (∀ m read, input.length < m → quotedWord double m c read = some (read ++ word, gap)) ∧
        ∀ n read, gap.rest.length < n → quotedRest double n gap read = some (read ++ rest, c')

section Reads

variable {double : Bool} {c : Cursor} {input input' text tail : List Char}

theorem reads_close (htail : tail.head? ≠ some '\x27') :
    Reads double (quotationMark double :: tail) [] tail := by
  intro c hc
  refine ⟨[], [], c, c.next, rfl, by simp [hc], by simp [hc], ?_, ?_⟩
  · intro m read hm
    obtain ⟨m, rfl⟩ : ∃ k, m = k + 1 := ⟨m - 1, by omega⟩
    rw [quotedWord_close hc htail, List.append_nil]
  · intro n read hn
    obtain ⟨n, rfl⟩ : ∃ k, n = k + 1 := ⟨n - 1, by omega⟩
    simp [quotedRest, Cursor.peek_eq hc, quotationMark]

/-- A step inside of a word. -/
theorem Reads.of_word (h : Reads double input' text tail) (taken : List Char)
    (hlength : input'.length < input.length)
    (hstep : ∀ c : Cursor, c.rest = input → ∃ c', c'.rest = input' ∧
      ∀ m read, quotedWord double (m + 1) c read = quotedWord double m c' (read ++ taken)) :
    Reads double input (taken ++ text) tail := by
  intro c hc
  obtain ⟨c₁, hrest₁, hword₁⟩ := hstep c hc
  obtain ⟨word, rest, gap, c', rfl, hrest, hgap, hword, hread⟩ := h c₁ hrest₁
  refine ⟨taken ++ word, rest, gap, c', by simp, hrest, by omega, ?_, hread⟩
  intro m read hm
  obtain ⟨m, rfl⟩ : ∃ k, m = k + 1 := ⟨m - 1, by omega⟩
  rw [hword₁, hword m _ (by omega), List.append_assoc]

/-- A step from one word to the next. -/
theorem Reads.of_gap {x : Char} {r : List Char} (h : Reads double input' text tail)
    (taken : List Char)
    (hlength : input'.length < input.length) (hinput : input = x :: r) (hx : isSpace x = true)
    (hstep : ∀ c : Cursor, c.rest = input → ∃ c', c'.rest = input' ∧
      quotedSpaces c = some (taken, c')) :
    Reads double input (taken ++ text) tail := by
  intro c hc
  obtain ⟨c₁, hrest₁, hspaces⟩ := hstep c hc
  obtain ⟨word, rest, gap, c', rfl, hrest, hgap, hword, hread⟩ := h c₁ hrest₁
  have hx' : c.rest = x :: r := hc.trans hinput
  -- in front of a gap the word is empty, and the next word is read behind the gap
  refine ⟨[], taken ++ (word ++ rest), c, c', rfl, hrest, by simp [hc], ?_, ?_⟩
  · intro m read hm
    obtain ⟨m, rfl⟩ : ∃ k, m = k + 1 := ⟨m - 1, by omega⟩
    rw [quotedWord_stop hx' hx, List.append_nil]
  · intro n read hn
    obtain ⟨n, rfl⟩ : ∃ k, n = k + 1 := ⟨n - 1, by omega⟩
    have hmark : ¬ c.peek = if double = true then '\x22' else '\x27' := by
      rw [Cursor.peek_eq hx']
      rintro rfl
      cases double <;> exact absurd hx (by decide)
    rw [hc] at hn
    have hfuel : input'.length < c₁.rest.length + 1 := by simp [hrest₁]
    simp [quotedRest, hmark, hspaces, hword _ _ hfuel, hread n _ (by omega)]

theorem Reads.scanQuoted_eq (h : Reads double input text tail)
    (hc : c.rest = quotationMark double :: input) :
    ∃ c', c'.rest = tail ∧ scanQuoted double c = some (text, c') := by
  obtain ⟨word, rest, gap, c', rfl, hrest, -, hword, hread⟩ := h c.next (by simp [hc])
  refine ⟨c', hrest, ?_⟩
  simp [scanQuoted, hword (c.rest.length + 1) [] (by rw [hc, List.length_cons]; omega),
    hread (gap.rest.length + 1) word (by omega)]

end Reads

/-- **The scanner reads what the grammar says.** -/
theorem Body.reads {double : Bool} {input text tail : List Char}
    (h : Body double input text tail) : Reads double input text tail := by
  induction h with
  | close htail => exact reads_close htail
  | @char double x input text tail hx hblank hmark hslash _ ih =>
    refine ih.of_word [x] (by simp) ?_
    intro c hc
    have hspace : isSpace x = false := by simpa [hx.isSpace] using hblank
    exact ⟨c.next, by simp [hc], fun m read => quotedWord_char hc hspace hmark hslash⟩
  | doubled _ ih =>
    refine ih.of_word ['\x27'] (by simp only [List.length_cons]; omega) ?_
    intro c hc
    exact ⟨c.skip 2, by simp [hc], fun m read => quotedWord_doubled hc⟩
  | @letter l x input text tail hl hinline _ ih =>
    refine ih.of_word [x] (by simp only [List.length_cons]; omega) ?_
    intro c hc
    have hnext : c.next.rest = l :: input := by simp [hc]
    exact ⟨c.next.next, by simp [hc], fun m read =>
      quotedWord_escape hc (quotedEscape_letter hnext hl hinline)⟩
  | @number l digits k input text tail hnone hcount _ hnumber hvalid _ ih =>
    refine ih.of_word [Char.ofNat k] (by simp only [List.length_cons, List.length_append]; omega) ?_
    intro c hc
    have hnext : c.next.rest = l :: (digits ++ input) := by simp [hc]
    exact ⟨c.next.next.skip digits.length, by simp [hc], fun m read =>
      quotedWord_escape hc (quotedEscape_number hnext hnone hcount hnumber hvalid)⟩
  | @continued k input text tail hinput _ ih =>
    refine ih.of_word [] (by simp only [List.length_cons, List.length_append]; omega) ?_
    intro c hc
    obtain ⟨c', hrest, hescape⟩ := quotedEscape_lineFeed (c := c.next) (n := k) hinput
      (by simp [hc])
    exact ⟨c', hrest, fun m read => quotedWord_escape hc hescape⟩
  | @blanks double k input text tail hinput _ ih =>
    refine ih.of_gap _ (by simp) (List.cons_append ..) rfl ?_
    intro c hc
    exact ⟨c.skip (k + 1), by simp [hc], quotedSpaces_blanks hinput hc⟩
  | folded hinput _ ih =>
    refine ih.of_gap [' '] (by simp only [List.length_cons, List.length_append]; omega) rfl rfl ?_
    intro c hc
    exact quotedSpaces_lineFeeds (m := 0) hinput (by simpa using hc)
  | @breaks double j k input text tail hinput _ ih =>
    refine ih.of_gap _ (by simp only [List.length_cons, List.length_append]; omega) rfl rfl ?_
    intro c hc
    exact quotedSpaces_lineFeeds (m := j + 1) hinput hc

/-- What the grammar admits may stand in a document. -/
theorem Body.exists_allowed {double : Bool} {input text tail : List Char}
    (h : Body double input text tail) : ∃ w, input = w ++ tail ∧ w.all isAllowed = true := by
  have hfeed : isAllowed '\n' = true := rfl
  have hslash : isAllowed '\\' = true := rfl
  have hmark : isAllowed '\x27' = true := rfl
  have hblanks : ∀ n, (List.replicate n ' ').all isAllowed = true :=
    fun n => (allInline_blanks n).isAllowed
  induction h with
  | @close double tail htail =>
    refine ⟨[quotationMark double], rfl, ?_⟩
    cases double <;> rfl
  | @char double x input text tail hx _ _ _ _ ih =>
    obtain ⟨w, rfl, hw⟩ := ih
    exact ⟨x :: w, rfl, by simp [hx.isAllowed, hw]⟩
  | doubled _ ih =>
    obtain ⟨w, rfl, hw⟩ := ih
    exact ⟨'\x27' :: '\x27' :: w, rfl, by simp [hmark, hw]⟩
  | @letter l x input text tail _ hl _ ih =>
    obtain ⟨w, rfl, hw⟩ := ih
    exact ⟨'\\' :: l :: w, rfl, by simp [hslash, hl.isAllowed, hw]⟩
  | @number l digits n input text tail _ _ hdigits _ _ _ ih =>
    obtain ⟨w, rfl, hw⟩ := ih
    have hline := hdigits.isAllowed
    exact ⟨'\\' :: l :: (digits ++ w), by simp, by simp_all⟩
  | @continued n input text tail _ _ ih =>
    obtain ⟨w, rfl, hw⟩ := ih
    exact ⟨'\\' :: '\n' :: (List.replicate (n + 1) ' ' ++ w), by simp, by
      simp only [List.all_cons, List.all_append, hslash, hfeed, hblanks, hw, Bool.and_true]⟩
  | @blanks double n input text tail _ _ ih =>
    obtain ⟨w, rfl, hw⟩ := ih
    exact ⟨List.replicate (n + 1) ' ' ++ w, by simp, by
      simp only [List.all_append, hblanks, hw, Bool.and_true]⟩
  | @folded double n input text tail _ _ ih =>
    obtain ⟨w, rfl, hw⟩ := ih
    exact ⟨'\n' :: (List.replicate (n + 1) ' ' ++ w), by simp, by
      simp only [List.all_cons, List.all_append, hfeed, hblanks, hw, Bool.and_true]⟩
  | @breaks double m n input text tail _ _ ih =>
    obtain ⟨w, rfl, hw⟩ := ih
    refine ⟨'\n' :: (List.replicate (m + 1) '\n' ++ (List.replicate (n + 1) ' ' ++ w)), by simp, ?_⟩
    simp only [List.all_cons, List.all_append, hfeed, hblanks, hw, Bool.and_true, Bool.true_and]
    simp [hfeed]

end ShapeFlow.Yaml
