import ShapeFlow.Proofs.Yaml.Runs
import ShapeFlow.Yaml.Scalar

/-!
# Plain scalars

A text that may be written plainly is words with blanks between them (`Phrase`). No word starts with
a number sign or ends with a colon, so the scanner finds the end of each (`plainLength_eq`). It puts
the words of all lines together again and stops in front of the next line
(`Phrase.scanPlain_eq`).
-/

set_option autoImplicit false

namespace ShapeFlow.Yaml

/-- A word of a plain scalar. -/
structure Solid (w : List Char) : Prop where
  nonempty : w ≠ []
  inline : ∀ c ∈ w, IsInline c ∧ c ≠ ' '
  head : w.head? ≠ some '#'
  last : w.getLast? ≠ some ':'

/-- The runs of a plain scalar: words with blanks between them. -/
inductive Phrase : List (RunKind × List Char) → Prop
  | word {w : List Char} : Solid w → Phrase [(.word, w)]
  | cons {w : List Char} {n : Nat} {rs : List (RunKind × List Char)} :
    Solid w → Phrase rs → Phrase ((.word, w) :: (.blanks, List.replicate (n + 1) ' ') :: rs)

/-! ## Texts that may be plain -/

section Allowed

variable {b : Char} {v w r cs : List Char} {rs : List (RunKind × List Char)}

theorem badInside_behind {x : Char} (h : badInside b (v ++ x :: w) = false) :
    badInside x w = false := by
  induction v generalizing b with
  | nil =>
    simp only [List.nil_append, badInside, Bool.or_eq_false_iff] at h
    exact h.2
  | cons c v ih =>
    simp only [List.cons_append, badInside, Bool.or_eq_false_iff] at h
    exact ih h.2

theorem getLast?_of_badInside (h : badInside b (w ++ r) = false)
    (hr : isSpace (r.headD endMark) = true) : w.getLast? ≠ some ':' := by
  induction w generalizing b with
  | nil => simp
  | cons c w ih =>
    simp only [List.cons_append, badInside, Bool.or_eq_false_iff] at h
    cases w with
    | nil =>
      rintro hlast
      obtain rfl : c = ':' := by simpa using hlast
      have hnot : isSpace (r.headD endMark) = false := by simpa using h.1.1
      exact absurd (hr.symm.trans hnot) (by decide)
    | cons d w => simpa using ih h.2

theorem head?_of_badInside (h : badInside ' ' w = false) : w.head? ≠ some '#' := by
  cases w with
  | nil => simp
  | cons c w =>
    rintro hhead
    obtain rfl : c = '#' := by simpa using hhead
    simp [badInside, show isSpace ' ' = true from rfl] at h

theorem solid_of_badInside (hw : w ≠ []) (hinline : ∀ c ∈ w, IsInline c ∧ c ≠ ' ')
    (h : badInside ' ' (w ++ r) = false) (hr : isSpace (r.headD endMark) = true) : Solid w where
  nonempty := hw
  inline := hinline
  head := by
    have hhead := head?_of_badInside h
    cases w with
    | nil => exact absurd rfl hw
    | cons c w => exact hhead
  last := getLast?_of_badInside h hr

/-- Words that take turns with blanks are a phrase if none of them is misread. -/
theorem phrase_of_onLines (h : OnLines ((.word, w) :: rs))
    (hbreaks : ∀ run ∈ rs, run.1 ≠ .breaks)
    (hlast : (w ++ rs.flatMap Prod.snd).getLast? ≠ some ' ')
    (hbad : badInside ' ' (w ++ rs.flatMap Prod.snd) = false) : Phrase ((.word, w) :: rs) := by
  -- the induction is on the number of runs, since a word and its blanks go together
  induction hlength : rs.length using Nat.strong_induction_on generalizing w rs with
  | h length ih =>
    have hw := h.word
    have hne : w ≠ [] := (h.isRun _ List.mem_cons_self).nonempty
    obtain rfl | ⟨kind, blanks, rs, rfl, hkind⟩ := h.behind_word
    · exact .word (solid_of_badInside hne hw hbad rfl)
    · obtain rfl : kind = .blanks := by
        have hnot : kind ≠ .breaks := hbreaks _ List.mem_cons_self
        cases kind with
        | blanks => rfl
        | breaks => exact absurd rfl hnot
        | word => exact absurd rfl hkind
      obtain ⟨n, rfl⟩ := (h.behind.isRun _ List.mem_cons_self).eq_blanks
      have hsolid : Solid w := solid_of_badInside hne hw hbad rfl
      obtain rfl | ⟨c, v, rs, rfl⟩ := h.behind.behind_gap hkind
      · exact absurd (by simp [List.replicate_succ']) hlast
      · refine .cons hsolid (ih rs.length ?_ h.behind.behind ?_ ?_ ?_ rfl)
        · simp only [List.length_cons] at hlength
          omega
        · exact fun run hrun => hbreaks run (by simp [hrun])
        · simpa [List.getLast?_append] using hlast
        · refine badInside_behind (b := ' ') (v := w ++ List.replicate n ' ') (x := ' ') ?_
          simpa [List.replicate_succ'] using hbad

/-- What `plainAllowed` says of a text that is not empty. -/
structure PlainText (c : Char) (cs : List Char) : Prop where
  inline : ∀ d ∈ c :: cs, IsInline d
  head : c ≠ ' '
  last : (c :: cs).getLast? ≠ some ' '
  indicator : isIndicator c = false
  mark : c = '?' ∨ c = ':' ∨ c = '-' → isSpace (cs.headD endMark) = false
  inside : badInside ' ' (c :: cs) = false

theorem plainText_of_plainAllowed {c : Char} (h : plainAllowed (c :: cs) = true) :
    PlainText c cs := by
  simp only [plainAllowed, Bool.not_eq_true', Bool.or_eq_false_iff] at h
  obtain ⟨⟨⟨⟨⟨⟨hblank, hfeed⟩, hbreaks⟩, hescape⟩, -⟩, hstart⟩, hinside⟩ := h
  simp only [badStart, Bool.or_eq_false_iff] at hstart
  have hhash : c ≠ '#' := by
    rintro rfl
    exact absurd hstart.1 (by decide)
  refine ⟨?_, ?_, ?_, hstart.1, ?_, ?_⟩
  · intro d hd
    have hneeds : needsEscape d = false := by simpa using List.any_eq_false.1 hescape d hd
    refine (needsEscape_eq_false_iff.1 hneeds).resolve_left ?_
    rintro rfl
    simp [hd] at hbreaks
  · rintro rfl
    simp at hblank
  · intro hlast
    rw [hlast] at hblank
    simp at hblank
  · intro hc
    have hmark := hstart.2
    rcases hc with rfl | rfl | rfl <;> simpa using hmark
  · rw [badInside, hinside, beq_false_of_ne hhash]
    have hmark := hstart.2
    by_cases hcolon : c = ':'
    · subst hcolon
      simpa using hmark
    · simp [hcolon]

theorem mem_of_adjoins {x y : Char} (h : adjoins x y cs = true) : x ∈ cs ∧ y ∈ cs := by
  induction cs with
  | nil => cases h
  | cons c cs ih =>
    cases cs with
    | nil => cases h
    | cons d cs =>
      simp only [adjoins, Bool.or_eq_true, Bool.and_eq_true, beq_iff_eq] at h
      rcases h with ⟨rfl, rfl⟩ | h
      · simp
      · exact ⟨List.mem_cons_of_mem c (ih h).1, List.mem_cons_of_mem c (ih h).2⟩

theorem PlainText.phrase {c : Char} (h : PlainText c cs) : Phrase (runs (c :: cs)) := by
  have hfeed : '\n' ∉ c :: cs := fun hmem => absurd (h.inline _ hmem) (by decide)
  have honLines : OnLines (runs (c :: cs)) := by
    refine onLines_runs (takeTurns_runs ?_ ?_) ?_
    · exact Bool.eq_false_iff.2 fun hadjoins => hfeed (mem_of_adjoins hadjoins).2
    · exact Bool.eq_false_iff.2 fun hadjoins => hfeed (mem_of_adjoins hadjoins).1
    · exact fun d hd => needsEscape_eq_false_iff.2 (.inr (h.inline d hd))
  have hbreaks : ∀ run ∈ runs (c :: cs), run.1 ≠ .breaks := by
    intro run hrun hkind
    have hisRun := isRun_of_mem (c :: cs) run hrun
    obtain ⟨d, hd⟩ := List.exists_mem_of_ne_nil _ hisRun.nonempty
    obtain rfl : d = '\n' := RunKind.of_eq_breaks_iff.1 ((hisRun.kind d hd).trans hkind)
    apply hfeed
    rw [← flatMap_runs (c :: cs)]
    exact List.mem_flatMap.2 ⟨run, hrun, hd⟩
  have hflat := flatMap_runs (c :: cs)
  have hkind : RunKind.of c = .word := by
    refine RunKind.of_eq_word_iff.2 ⟨h.head, ?_⟩
    rintro rfl
    exact hfeed List.mem_cons_self
  obtain ⟨ds, more, hruns⟩ := exists_runs_cons cs c
  rw [hruns, hkind] at honLines hbreaks hflat ⊢
  rw [List.flatMap_cons] at hflat
  refine phrase_of_onLines honLines (List.forall_mem_cons.1 hbreaks).2 ?_ ?_
  · rw [hflat]
    exact h.last
  · rw [hflat]
    exact h.inside

end Allowed

/-! ## Reading -/

section Reading

variable {c : Cursor} {w r : List Char} {rs : List (RunKind × List Char)} {split : Bool}
  {k column : Nat}

/-- A word ends where the next character ends it. -/
theorem plainLength_eq (hw : Solid w)
    (hr : ∀ x r', r = x :: r' → endsPlain false x (r'.headD endMark) = true) :
    plainLength false (w ++ r) = w.length := by
  obtain ⟨-, hinline, -, hlast⟩ := hw
  induction w with
  | nil =>
    cases r with
    | nil => rfl
    | cons x r => rw [List.nil_append, plainLength, if_pos (hr x r rfl), List.length_nil]
  | cons c w ih =>
    obtain ⟨hc, hblank⟩ := hinline c List.mem_cons_self
    have hspace : isSpace c = false := by simpa [hc.isSpace] using hblank
    have hends : endsPlain false c ((w ++ r).headD endMark) = false := by
      cases w with
      | nil =>
        have hcolon : c ≠ ':' := by simpa using hlast
        simp [endsPlain, hspace, hcolon]
      | cons d w =>
        obtain ⟨hd, hblank⟩ := hinline d (by simp)
        have hnext : isSpace d = false := by simpa [hd.isSpace] using hblank
        simp [endsPlain, hspace, hnext]
    have ih := ih (fun d hd => hinline d (List.mem_cons_of_mem c hd)) (by
      cases w with
      | nil => simp
      | cons d w => simpa using hlast)
    rw [List.cons_append, plainLength, if_neg (by rw [hends]; exact Bool.false_ne_true), ih,
      List.length_cons]

variable {indent : Int} {fuel : Nat} {spaces text : List Char} {ended : Bool}

/-- One word and what stands behind it. -/
theorem plainWords_succ {spaces' : List Char} {c' : Cursor} {ended' : Bool} (hw : Solid w)
    (h : c.rest = w ++ r) (hr : ∀ x r', r = x :: r' → endsPlain false x (r'.headD endMark) = true)
    (hspaces : plainSpaces (c.skip w.length) = (spaces', c', ended')) :
    plainWords false indent (fuel + 1) c spaces text ended =
      if spaces'.isEmpty || c'.peek == '#' || (c'.column : Int) < indent then
        (text ++ spaces ++ w, c', ended')
      else plainWords false indent fuel c' spaces' (text ++ spaces ++ w) ended' := by
  have hlength : plainLength false c.rest = w.length := by rw [h, plainLength_eq hw hr]
  have hnonempty : w.length ≠ 0 := by simpa using hw.nonempty
  have hhash : (c.peek == '#') = false := by
    obtain ⟨hne, -, hhead, -⟩ := hw
    cases w with
    | nil => exact absurd rfl hne
    | cons d w =>
      rw [Cursor.peek_eq h]
      exact beq_false_of_ne (by simpa using hhead)
  have htake : c.rest.take w.length = w := by simp [h]
  simp [plainWords, hhash, hlength, hnonempty, hspaces, htake]

/-- A name is read up to the colon behind it. -/
theorem scanPlain_name (hw : Solid w) (h : c.rest = w ++ ':' :: r)
    (hr : isSpace (r.headD endMark) = true) :
    scanPlain false indent c = (w, c.skip w.length, false) := by
  have hspaces : plainSpaces (c.skip w.length) = ([], c.skip w.length, false) := by
    have hspan := Cursor.span_eq (c := c.skip w.length) (p := fun ch => ch == ' ') (w := [])
      (r := ':' :: r) (by simp [h]) (by simp) (by simp)
    have hpeek : (c.skip w.length).peek = ':' := Cursor.peek_eq (r := r) (by simp [h])
    simp [plainSpaces, hspan, hpeek, Cursor.skip, show isBreak ':' = false from rfl]
  rw [scanPlain, plainWords_succ hw h ?_ hspaces]
  · simp
  · rintro x r' ⟨⟩
    rw [endsPlain, hr]
    rfl

/-- Blanks between two words of a line. -/
theorem plainSpaces_blanks {n : Nat} (h : c.rest = List.replicate n ' ' ++ r) (hr : Unspaced r) :
    plainSpaces c = (List.replicate n ' ', c.skip n, false) := by
  obtain ⟨x, hx, hinline, hblank⟩ := hr
  have hspan := Cursor.span_eq (p := fun ch => ch == ' ') h
    (fun d hd => by simp [List.eq_of_mem_replicate hd]) (fun d hd => by simp_all)
  have hpeek : (c.skip n).peek = x := by simp [Cursor.peek, h, hx]
  rw [List.length_replicate] at hspan
  simp [plainSpaces, hspan, hpeek, hinline.isBreak]

theorem plainBreaks_blanks {n : Nat} (h : c.rest = List.replicate n ' ' ++ r)
    (hr : ∀ x, r.head? = some x → IsInline x ∧ x ≠ ' ') (hfuel : n < fuel) :
    plainBreaks fuel c [] = some ([], c.skip n) := by
  induction n generalizing c fuel with
  | zero =>
    obtain ⟨fuel, rfl⟩ : ∃ k, fuel = k + 1 := ⟨fuel - 1, by omega⟩
    cases r with
    | nil =>
      have hpeek : c.peek = endMark := by simp [Cursor.peek, h]
      simp [plainBreaks, hpeek, Cursor.skip, endMark, isBreak]
    | cons x r =>
      obtain ⟨hinline, hblank⟩ := hr x rfl
      have hpeek : c.peek = x := Cursor.peek_eq h
      simp [plainBreaks, hpeek, hblank, hinline.isBreak, Cursor.skip]
  | succ n ih =>
    obtain ⟨fuel, rfl⟩ : ∃ k, fuel = k + 1 := ⟨fuel - 1, by omega⟩
    have hpeek : c.peek = ' ' := Cursor.peek_eq (by simpa [List.replicate_succ] using h)
    have ih := ih (c := c.next) (by simp [h, List.replicate_succ]) (show n < fuel by omega)
    simp [plainBreaks, hpeek, ih, Cursor.skip]

/-- A line feed with blanks counts as a blank. -/
theorem plainSpaces_lineFeed {n : Nat} (h : c.rest = '\n' :: (List.replicate n ' ' ++ r))
    (hsep : c.next.atSeparator = false) (hr : ∀ x, r.head? = some x → IsInline x ∧ x ≠ ' ') :
    plainSpaces c = ([' '], c.skip (n + 1), true) := by
  have hspan := Cursor.span_eq (c := c) (p := fun ch => ch == ' ') (w := [])
    (by simpa using h) (by simp) (by simp)
  have hfuel : n < c.next.rest.length + 1 := by
    rw [Cursor.rest_next, h]
    simp only [List.tail_cons, List.length_append, List.length_replicate]
    omega
  have hbreaks := plainBreaks_blanks (c := c.next) (n := n) (by simp [h]) hr
    hfuel
  simp only [Cursor.rest_next, List.length_tail] at hbreaks
  simp [plainSpaces, hspan, Cursor.skip, Cursor.peek_eq h, Cursor.lineBreak_lineFeed h, hsep,
    hbreaks, show isBreak '\n' = true from rfl]

/-- Behind the last word of a scalar the scanner goes on to the next line. -/
theorem plainSpaces_lineEnd {n : Nat} {tail : List Char} (htail : LineEnd n tail)
    (h : c.rest = tail) : plainSpaces c = ([' '], c.skip (n + 1), true) := by
  have hsep := Cursor.atSeparator_of_lineEnd htail h
  cases htail with
  | last => exact plainSpaces_lineFeed (r := []) h hsep (by simp)
  | name hx =>
    refine plainSpaces_lineFeed h hsep ?_
    rintro d ⟨⟩
    exact ⟨hx.isInline, hx.ne (by decide)⟩

/-- Behind a word of a phrase there are its blanks, or a new line in place of a single one. -/
theorem exists_writePlainRuns_cons (split : Bool) (k column m : Nat) (w : List Char)
    (rs : List (RunKind × List Char)) :
    ∃ gap column', (gap = List.replicate (m + 1) ' ' ∨ m = 0 ∧ gap = newLine k) ∧
      writePlainRuns split k column ((.word, w) :: (.blanks, List.replicate (m + 1) ' ') :: rs) =
        w ++ (gap ++ writePlainRuns split k column' rs) := by
  by_cases hfold : (m = 0 ∧ lineWidth < column + w.length) ∧ split = true
  · exact ⟨newLine k, k, .inr ⟨hfold.1.1, rfl⟩, by simp [writePlainRuns, hfold]⟩
  · exact ⟨_, column + w.length + (m + 1), .inl rfl, by simp [writePlainRuns, hfold]⟩

/-- Either way blanks are read, and the next word stands where the scalar may go on. -/
theorem plainSpaces_gap (indent : Int) {gap : List Char} {m : Nat}
    (hgap : gap = List.replicate (m + 1) ' ' ∨ m = 0 ∧ gap = newLine k) (hk : 0 < k)
    (h : c.rest = gap ++ r) (hr : Unspaced r) :
    ∃ ended, plainSpaces c = (List.replicate (m + 1) ' ', c.skip gap.length, ended) ∧
      (indent ≤ c.column → indent ≤ k → indent ≤ (c.skip gap.length).column) := by
  rcases hgap with rfl | ⟨rfl, rfl⟩
  · refine ⟨false, by rw [plainSpaces_blanks h hr, List.length_replicate], fun hc _ => ?_⟩
    rw [Cursor.skip_inline h (allInline_blanks _)]
    simp only
    omega
  · have hc : c.rest = '\n' :: (List.replicate k ' ' ++ r) := h
    have hsep : c.next.atSeparator = false := by
      obtain ⟨k, rfl⟩ : ∃ j, k = j + 1 := ⟨k - 1, by omega⟩
      exact Cursor.atSeparator_of_blanks (n := k) (r := r) (by simp [hc])
    have hlength : (newLine k).length = k + 1 := by simp [newLine]
    obtain ⟨x, hx, hinline, hblank⟩ := hr
    refine ⟨true, ?_, fun _ hk => ?_⟩
    · rw [hlength, plainSpaces_lineFeed hc hsep (by simp [hx, hinline, hblank])]
      rfl
    · rw [hlength, Cursor.skip_lineFeed hc]
      exact hk

theorem Solid.exists_head (hw : Solid w) (r : List Char) :
    ∃ x, (w ++ r).head? = some x ∧ IsInline x ∧ x ≠ ' ' ∧ x ≠ '#' := by
  obtain ⟨hne, hinline, hhead, -⟩ := hw
  cases w with
  | nil => exact absurd rfl hne
  | cons c w =>
    obtain ⟨hc, hblank⟩ := hinline c List.mem_cons_self
    exact ⟨c, rfl, hc, hblank, by simpa using hhead⟩

theorem Phrase.exists_head (h : Phrase rs) (split : Bool) (k column : Nat) (r : List Char) :
    ∃ x, (writePlainRuns split k column rs ++ r).head? = some x ∧
      IsInline x ∧ x ≠ ' ' ∧ x ≠ '#' := by
  cases h with
  | word hw => simpa [writePlainRuns] using hw.exists_head r
  | @cons w m rs hw _ =>
    obtain ⟨gap, column', -, hwritten⟩ := exists_writePlainRuns_cons split k column m w rs
    rw [hwritten, List.append_assoc]
    exact hw.exists_head _

/-- The words of a scalar are read up to the next line, which belongs to an outer block. -/
theorem Phrase.plainWords_eq {n : Nat} {tail : List Char} (h : Phrase rs) (htail : LineEnd n tail)
    (hn : (n : Int) < indent) (hk : indent ≤ k)
    (hc : c.rest = writePlainRuns split k column rs ++ tail) (hcolumn : indent ≤ c.column)
    (hfuel : (writePlainRuns split k column rs).length < fuel) :
    plainWords false indent fuel c spaces text ended =
      (text ++ spaces ++ rs.flatMap Prod.snd,
        (c.skip (writePlainRuns split k column rs).length).skip (n + 1), true) := by
  induction h generalizing c column fuel spaces text ended with
  | @word w hw =>
    obtain ⟨fuel, rfl⟩ : ∃ k, fuel = k + 1 := ⟨fuel - 1, by omega⟩
    have hwritten : writePlainRuns split k column [(.word, w)] = w := by simp [writePlainRuns]
    rw [hwritten] at hc ⊢
    have hrest : (c.skip w.length).rest = tail := by simp [hc]
    have hends : ∀ x r', tail = x :: r' → endsPlain false x (r'.headD endMark) = true := by
      rintro x r' rfl
      cases htail <;> rfl
    -- the next line is in an outer column, which ends the scalar
    rw [plainWords_succ hw hc hends (plainSpaces_lineEnd htail hrest), if_pos]
    · simp
    · simp [Cursor.column_of_lineEnd htail hrest, hn]
  | @cons w m rs hw hrs ih =>
    obtain ⟨fuel, rfl⟩ : ∃ k, fuel = k + 1 := ⟨fuel - 1, by omega⟩
    obtain ⟨gap, column', hgap, hwritten⟩ := exists_writePlainRuns_cons split k column m w rs
    rw [hwritten, List.append_assoc, List.append_assoc] at hc
    rw [hwritten] at hfuel ⊢
    have hrest : (c.skip w.length).rest = gap ++ (writePlainRuns split k column' rs ++ tail) := by
      simp [hc]
    obtain ⟨x, hx, hinline, hblank, hhash⟩ := hrs.exists_head split k column' tail
    obtain ⟨ended', hspaces, hbehind⟩ := plainSpaces_gap indent hgap (by omega) hrest
      ⟨x, hx, hinline, hblank⟩
    have hends : ∀ y r', gap ++ (writePlainRuns split k column' rs ++ tail) = y :: r' →
        endsPlain false y (r'.headD endMark) = true := by
      rcases hgap with rfl | ⟨rfl, rfl⟩
      · rintro y r' ⟨⟩
        rfl
      · rintro y r' ⟨⟩
        rfl
    have hword : indent ≤ (c.skip w.length).column := by
      rw [Cursor.skip_inline hc fun d hd => (hw.inline d hd).1]
      simp only
      omega
    -- the gap leads to the next word, in a column of the scalar
    have hmore : ((c.skip w.length).skip gap.length).rest =
        writePlainRuns split k column' rs ++ tail := by
      rw [Cursor.rest_skip, hrest, List.drop_left]
    have hleft : (writePlainRuns split k column' rs).length < fuel := by
      have hpositive := List.length_pos_iff.2 hw.nonempty
      simp only [List.length_append] at hfuel
      omega
    rw [plainWords_succ hw hc hends hspaces, if_neg]
    · rw [ih hmore (hbehind hword hk) hleft]
      simp [← Cursor.skip_add, Nat.add_assoc]
    · have hpeek : ((c.skip w.length).skip gap.length).peek = x := by
        rw [Cursor.peek, Cursor.rest_skip, hrest, List.drop_left, List.headD_eq_head?_getD, hx]
        rfl
      have hdeep := hbehind hword hk
      simp [hpeek, hhash, hdeep]

theorem Phrase.scanPlain_eq {n : Nat} {tail : List Char} (h : Phrase rs) (htail : LineEnd n tail)
    (hn : (n : Int) < indent) (hk : indent ≤ k)
    (hc : c.rest = writePlainRuns split k column rs ++ tail) (hcolumn : indent ≤ c.column) :
    scanPlain false indent c = (rs.flatMap Prod.snd,
      (c.skip (writePlainRuns split k column rs).length).skip (n + 1), true) := by
  rw [scanPlain, h.plainWords_eq htail hn hk hc hcolumn
    (by rw [hc, List.length_append]; omega)]
  simp

/-- What is written may stand in a document. -/
theorem Phrase.isAllowed (h : Phrase rs) :
    (writePlainRuns split k column rs).all Yaml.isAllowed = true := by
  induction h generalizing column with
  | @word w hw =>
    have hinline : AllInline w := fun d hd => (hw.inline d hd).1
    simpa [writePlainRuns] using hinline.isAllowed
  | @cons w m rs hw _ ih =>
    obtain ⟨gap, column', hgap, hwritten⟩ := exists_writePlainRuns_cons split k column m w rs
    have hinline : AllInline w := fun d hd => (hw.inline d hd).1
    have hblanks : gap.all Yaml.isAllowed = true := by
      rcases hgap with rfl | ⟨-, rfl⟩
      · exact (allInline_blanks _).isAllowed
      · rw [newLine, List.all_cons, (allInline_blanks k).isAllowed]
        rfl
    rw [hwritten, List.all_append, List.all_append, hinline.isAllowed, hblanks, ih]
    rfl

end Reading

/-- A text that starts a plain scalar: with no indicator, and a mark only in front of a word. -/
structure Opening (x : Char) (r : List Char) : Prop where
  inline : IsInline x
  blank : x ≠ ' '
  indicator : isIndicator x = false
  mark : x = '?' ∨ x = ':' ∨ x = '-' → isSpace (r.headD endMark) = false

theorem PlainText.exists_opening {c : Char} {cs : List Char} (h : PlainText c cs) (split : Bool)
    (k column : Nat) (tail : List Char) :
    ∃ r, writePlainRuns split k column (runs (c :: cs)) ++ tail = c :: r ∧ Opening c r := by
  obtain ⟨ds, more, hruns⟩ := exists_runs_cons cs c
  have hphrase := h.phrase
  have hflat := flatMap_runs (c :: cs)
  have hkind : RunKind.of c = .word := by
    rw [hruns] at hphrase
    generalize RunKind.of c = kind at hphrase
    cases hphrase <;> rfl
  rw [hruns, hkind] at hphrase hflat ⊢
  obtain rfl : ds ++ more.flatMap Prod.snd = cs := by simpa using hflat
  refine ⟨ds ++ (writePlainRuns split k (column + (ds.length + 1)) more ++ tail),
    by simp [writePlainRuns], h.inline c List.mem_cons_self, h.head, h.indicator, ?_⟩
  intro hmark
  have hnext := h.mark hmark
  cases ds with
  | cons d ds => exact hnext
  | nil =>
    cases hphrase with
    | word => cases hnext
    | cons => cases hnext

end ShapeFlow.Yaml
