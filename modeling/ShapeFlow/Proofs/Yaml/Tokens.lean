import ShapeFlow.Proofs.Yaml.PlainScalars
import ShapeFlow.Proofs.Yaml.QuotedWriters
import ShapeFlow.Proofs.Yaml.Steps

/-!
# Tokens of what is written

From a place in front of a name with a colon the scanner gets behind both, with the name as a key
(`Scan.leads_name`). The name is first a scalar that may turn out to be a key (`Scan.atColon`), and
the colon puts the marks in front of it. From a place behind a colon the scanner gets behind the
writing of a text, with the text as one more token (`leads_text`).
-/

set_option autoImplicit false

namespace ShapeFlow.Yaml

/-! ## Names -/

/-- A name: it stands for itself as a plain scalar, and it may be a key. -/
structure IsName (name : List Char) : Prop where
  nonempty : name ≠ []
  chars : ∀ c ∈ name, IsNameChar c
  short : name.length ≤ 1024

/-- Names are recognised character by character. -/
instance (name : List Char) : Decidable (IsName name) :=
  decidable_of_iff
    (name ≠ [] ∧ (name.all fun c => decide (IsNameChar c)) = true ∧ name.length ≤ 1024)
    ⟨fun ⟨hne, hchars, hshort⟩ => ⟨hne, by simpa using hchars, hshort⟩,
      fun h => ⟨h.nonempty, by simpa using h.chars, h.short⟩⟩

theorem IsName.solid {name : List Char} (h : IsName name) : Solid name where
  nonempty := h.nonempty
  inline c hc := ⟨(h.chars c hc).isInline, (h.chars c hc).ne (by decide)⟩
  head hhead := (h.chars _ (List.mem_of_head? hhead)).ne (by decide) rfl
  last hlast := (h.chars _ (List.mem_of_getLast? hlast)).ne (by decide) rfl

theorem IsName.exists_opening {name : List Char} (h : IsName name) (r : List Char) :
    ∃ x u, name ++ r = x :: u ∧ Opening x u ∧ x ≠ '-' ∧ x ≠ '.' := by
  obtain ⟨hne, hchars, -⟩ := h
  cases name with
  | nil => exact absurd rfl hne
  | cons x u =>
    have hx := hchars x List.mem_cons_self
    refine ⟨x, u ++ r, rfl, ⟨hx.isInline, hx.ne (by decide), ?_, ?_⟩, hx.ne (by decide),
      hx.ne (by decide)⟩
    · have hnone : "#,[]\x7b\x7d&*!|>'\x22%@\x60".toList.any (fun d => decide (IsNameChar d)) =
          false := by decide
      refine Bool.eq_false_iff.2 fun hmem => ?_
      exact List.any_eq_false.1 hnone x (List.contains_iff_mem.1 hmem) (decide_eq_true hx)
    · rintro (rfl | rfl | rfl) <;> exact absurd hx (by decide)

namespace Scan

variable {s t : Scan} {x : Char} {r : List Char}

/-! ## Which token comes next -/

theorem starts_of_opening (hx : Opening x r) : Starts (x :: r) := by
  rintro d ⟨⟩
  refine ⟨hx.inline, hx.blank, ?_⟩
  rintro rfl
  exact absurd hx.indicator (by decide)

theorem startsPlain_of_opening (h : s.cursor.rest = x :: r) (hx : Opening x r)
    (hflow : s.inFlow = false) : s.startsPlain = true := by
  obtain ⟨hinline, hblank, hindicator, hmark⟩ := hx
  have hspace : isSpace x = false := by simpa [hinline.isSpace] using hblank
  have hpeek := Cursor.peek_eq h
  have hnext := Cursor.peekAt_one h
  generalize r.headD endMark = y at hmark hnext
  -- of the marks only these three may start a plain scalar, and then in front of no blank
  by_cases hreserved : x = '?' ∨ x = ':' ∨ x = '-'
  · have hbehind := hmark hreserved
    rcases hreserved with rfl | rfl | rfl <;> simp [startsPlain, hpeek, hnext, hbehind, hflow]
  · simp [isIndicator] at hindicator
    simp_all [startsPlain]

theorem nextToken_plain (h : s.cursor.rest = x :: r) (hx : Opening x r) (hflow : s.inFlow = false)
    (hcolumn : s.cursor.column = 0 → x ≠ '-' ∧ x ≠ '.') : s.nextToken = s.plain := by
  have hstarts := startsPlain_of_opening h hx hflow
  obtain ⟨hinline, hblank, hindicator, hmark⟩ := hx
  have hpeek := Cursor.peek_eq h
  have hnext := Cursor.peekAt_one h
  generalize r.headD endMark = y at hmark hnext
  have hspaced : ∀ d, d = '?' ∨ d = ':' ∨ d = '-' → (x == d && isSpace y) = false := by
    rintro d hd
    by_cases hx : x = d
    · subst hx
      rw [hmark hd, Bool.and_false]
    · rw [beq_false_of_ne hx, Bool.false_and]
  have hseparates : (s.cursor.column == 0 && x == '-') = false ∧
      (s.cursor.column == 0 && x == '.') = false := by
    by_cases hzero : s.cursor.column = 0
    · simp [hcolumn hzero]
    · simp [hzero]
  have hquestion := hspaced '?' (by simp)
  have hcolon := hspaced ':' (by simp)
  have hdash := hspaced '-' (by simp)
  simp [isIndicator] at hindicator
  simp only [nextToken, hpeek, hnext, hseparates.1, hseparates.2, hquestion, hcolon, hdash, hflow,
    hstarts, Bool.false_or, Bool.false_and]
  simp [hindicator]

theorem nextToken_colon (h : s.cursor.rest = ':' :: r) (hr : isSpace (r.headD endMark) = true) :
    s.nextToken = s.valueMark := by
  have hnext := Cursor.peekAt_one h
  generalize r.headD endMark = y at hr hnext
  simp [nextToken, Cursor.peek_eq h, hnext, hr]

theorem nextToken_quoted {double : Bool} (h : s.cursor.rest = quotationMark double :: r)
    (hflow : s.inFlow = false) : s.nextToken = s.quoted double := by
  cases double <;> simp [nextToken, Cursor.peek_eq h, quotationMark, hflow]

/-! ## Keys -/

/-- The scanner in the block of its column, which starts there if the enclosing one is less deep. -/
def opened (s : Scan) : Scan :=
  if s.indent < s.cursor.column then
    { s with
      tokens := s.tokens ++ [.blockMappingStart]
      indent := s.cursor.column
      outer := s.indent :: s.outer }
  else s

/-- The scanner behind a name and its colon. -/
def behindName (s : Scan) (name : List Char) : Scan :=
  { s.opened with
    cursor := s.cursor.skip (name.length + 1)
    tokens := s.opened.tokens ++ [.key, .scalar (String.ofList name) true, .value]
    keyAllowed := false }

/-- The scanner behind a name, which may turn out to be a key. -/
def atColon (s : Scan) (name : List Char) : Scan :=
  { s with
    cursor := s.cursor.skip name.length
    tokens := s.tokens ++ [.scalar (String.ofList name) true]
    keyAllowed := false
    keys := [some ⟨s.tokens.length, s.indent == s.cursor.column, s.cursor.index, s.cursor.line,
      s.cursor.column⟩] }

theorem plain_name {name : List Char} (hname : IsName name) (h : s.cursor.rest = name ++ ':' :: r)
    (hr : isSpace (r.headD endMark) = true) (hallowed : s.keyAllowed = true)
    (hkeys : s.keys = [none]) : s.plain = some (s.atColon name) := by
  have hflow := inFlow_eq hkeys
  have hscan : scanPlain false (s.indent + 1) s.cursor = (name, s.cursor.skip name.length, false) :=
    scanPlain_name hname.solid h hr
  simp [plain, saveKey, dropKey, hallowed, hkeys, inFlow, hscan, emit, atColon]

theorem settle_atColon {name : List Char} (hname : IsName name)
    (h : s.cursor.rest = name ++ ':' :: r) (hindent : s.indent ≤ s.cursor.column) :
    (s.atColon name).settle = some (s.atColon name) := by
  have hinline : AllInline name := fun c hc => (hname.chars c hc).isInline
  have hskip := Cursor.skip_inline h hinline
  have hnext : (s.atColon name).toNext ((s.atColon name).cursor.rest.length + 1) =
      s.atColon name := by
    refine toNext_blanks (n := 0) (r := ':' :: r) (by simp [atColon, h]) ?_
    rintro x ⟨⟩
    decide
  have hstale : (s.atColon name).dropStale = some (s.atColon name) := by
    have hshort : ¬ 1024 < name.length := Nat.not_lt.2 hname.short
    simp [dropStale, atColon, hskip, hshort]
  have hcolumn : (s.atColon name).indent ≤ (s.atColon name).cursor.column := by
    simp only [atColon, hskip]
    omega
  rw [settle, hnext, hstale]
  show some _ = some _
  rw [unwind_of_le (by simp [inFlow, atColon]) hcolumn]

theorem valueMark_atColon {name : List Char} (hkeys : s.keys = [none]) :
    (s.atColon name).valueMark = some (s.behindName name) := by
  have hskip : s.cursor.skip (name.length + 1) = (s.cursor.skip name.length).skip 1 :=
    Cursor.skip_add _ _ _
  by_cases hdeeper : s.indent < s.cursor.column <;>
    simp [valueMark, atColon, behindName, opened, indentTo, hdeeper, hkeys, hskip, emitAt, emit,
      take, inFlow]

/-- A name with its colon is read in two steps. -/
theorem leads_name {name : List Char} (hname : IsName name) (h : s.cursor.rest = name ++ ':' :: r)
    (hr : isSpace (r.headD endMark) = true) (hallowed : s.keyAllowed = true)
    (hkeys : s.keys = [none]) (hindent : s.indent ≤ s.cursor.column) :
    Leads s (s.behindName name) := by
  obtain ⟨x, u, hopening, hx, hdash, hdot⟩ := hname.exists_opening (':' :: r)
  have hpositive : 0 < name.length := List.length_pos_iff.2 hname.nonempty
  have hplain : s.nextToken = some (s.atColon name) := by
    rw [nextToken_plain (h.trans hopening) hx (inFlow_eq hkeys) fun _ => ⟨hdash, hdot⟩,
      plain_name hname h hr hallowed hkeys]
  have hcolon : (s.atColon name).cursor.rest = ':' :: r := by simp [atColon, h]
  have hmark : (s.atColon name).nextToken = some (s.behindName name) := by
    rw [nextToken_colon hcolon hr, valueMark_atColon hkeys]
  have hsettle : s.settle = some s :=
    settle_inline (n := 0) hkeys (h.trans hopening) (starts_of_opening hx) hindent
  refine .trans (t := s.atColon name) ?_ ?_
  · refine leads_of_nextToken hsettle (by simp [h]) hplain rfl ?_
    rw [hcolon, h, List.length_append]
    omega
  · exact leads_of_nextToken (settle_atColon hname h hindent) (by simp [hcolon]) hmark rfl
      (by simp [atColon, behindName, h])

/-! ## Values on a line -/

/-- The scanner behind a scalar that is a value. -/
def behindScalar (s : Scan) (text : List Char) (plain : Bool) (c : Cursor) : Scan :=
  { s with
    cursor := c, tokens := s.tokens ++ [.scalar (String.ofList text) plain], keyAllowed := false }

/-- The scanner in front of a value: behind a colon, in a block of an indentation. -/
structure AtValue (s : Scan) (k : Nat) : Prop where
  keyAllowed : s.keyAllowed = false
  keys : s.keys = [none]
  indent : s.indent = k
  column : k < s.cursor.column

section Values

variable {k column n : Nat} {rs : List (RunKind × List Char)} {split : Bool} {tail : List Char}

/-- Where the next line starts the scanner has the same before it as in front of the line's end. -/
theorem settle_movedDown {c : Cursor} (hkeys : s.keys = [none]) (htail : LineEnd n tail)
    (hc : c.rest = tail) : (s.movedDown (c.skip (n + 1))).settle = (s.moved c).settle := by
  obtain ⟨r, hr, hstarts⟩ := exists_starts htail
  have hcolumn := Cursor.column_of_lineEnd htail hc
  have hbehind : (c.skip (n + 1)).rest = r := by simp [hc, hr]
  have hleft := settle_blanks (s := s.movedDown (c.skip (n + 1))) (n := 0) hkeys hbehind hstarts
  have hright := settle_lineEnd (s := s.moved c) hkeys hc htail
  rw [hleft, hright]
  show some (unwind _ ((c.skip (n + 1)).column : Int)) = _
  rw [hcolumn]
  rfl

/-- A plain scalar as a value. -/
theorem leads_plain (hs : s.AtValue k) (hphrase : Phrase rs) (htail : LineEnd n tail) (hn : n ≤ k)
    (h : s.cursor.rest = ' ' :: (writePlainRuns split (k + 2) column rs ++ tail))
    (hopening : writePlainRuns split (k + 2) column rs ++ tail = x :: r) (hx : Opening x r) :
    ∃ c', c'.rest = tail ∧ Leads s (s.behindScalar (rs.flatMap Prod.snd) true c') := by
  obtain ⟨hkeyAllowed, hkeys, hindent, hcolumn⟩ := hs
  have hrest : (s.cursor.skip 1).rest = writePlainRuns split (k + 2) column rs ++ tail := by
    simp [h]
  have hskip : (s.cursor.skip 1).column = s.cursor.column + 1 := by
    rw [Cursor.skip_one, Cursor.next_inline h (by decide)]
  have hstarts : Starts (writePlainRuns split (k + 2) column rs ++ tail) := by
    rw [hopening]
    exact starts_of_opening hx
  -- the scalar ends behind its line, and a key may stand where the scanner is then
  have hscan := hphrase.scanPlain_eq htail (show (n : Int) < s.indent + 1 by omega) (by omega) hrest
    (by omega)
  generalize hlength : (writePlainRuns split (k + 2) column rs).length = length at hscan
  have hbehind : ((s.cursor.skip 1).skip length).rest = tail := by
    rw [Cursor.rest_skip, hrest, ← hlength, List.drop_left]
  generalize (s.cursor.skip 1).skip length = c' at hscan hbehind
  have hnext : (s.moved (s.cursor.skip 1)).nextToken =
      some ((s.behindScalar (rs.flatMap Prod.snd) true c').movedDown (c'.skip (n + 1))) := by
    rw [nextToken_plain (s := s.moved (s.cursor.skip 1)) (hrest.trans hopening) hx
      (inFlow_eq hkeys)]
    · simp [plain, saveKey, hkeyAllowed, inFlow, hkeys, hscan, emit, behindScalar, moved, movedDown]
    · intro hzero
      simp only [moved] at hzero
      omega
  have hsettle := settle_inline (n := 1) hkeys h hstarts (by omega)
  refine ⟨c', hbehind, leads_of_nextToken hsettle ?_ hnext
    (settle_movedDown hkeys htail hbehind) ?_⟩
  · show (s.cursor.skip 1).rest ≠ []
    rw [hrest, hopening]
    exact List.cons_ne_nil _ _
  · show c'.rest.length < s.cursor.rest.length
    rw [hbehind, h, List.length_cons, List.length_append]
    omega

/-- A quoted scalar as a value. -/
theorem leads_quoted {double : Bool} {body text : List Char} (hs : s.AtValue k)
    (hbody : Body double body text tail)
    (h : s.cursor.rest = ' ' :: quotationMark double :: body) :
    ∃ c', c'.rest = tail ∧ Leads s (s.behindScalar text false c') := by
  obtain ⟨hkeyAllowed, hkeys, hindent, hcolumn⟩ := hs
  have hrest : (s.cursor.skip 1).rest = quotationMark double :: body := by simp [h]
  have hstarts : Starts (quotationMark double :: body) := by
    rintro d ⟨⟩
    cases double <;> decide
  obtain ⟨c', hc', hscan⟩ := hbody.reads.scanQuoted_eq hrest
  have hnext : (s.moved (s.cursor.skip 1)).nextToken = some (s.behindScalar text false c') := by
    rw [nextToken_quoted (s := s.moved (s.cursor.skip 1)) hrest (inFlow_eq hkeys)]
    simp [quoted, saveKey, hkeyAllowed, hscan, emit, behindScalar, moved]
  refine ⟨c', hc', leads_of_nextToken (settle_inline (n := 1) hkeys h hstarts (by omega)) ?_ hnext
    rfl ?_⟩
  · show (s.cursor.skip 1).rest ≠ []
    rw [hrest]
    exact List.cons_ne_nil _ _
  · obtain ⟨w, hw, -⟩ := hbody.exists_allowed
    show c'.rest.length < s.cursor.rest.length
    rw [hc', h, hw, List.length_cons, List.length_cons, List.length_append]
    omega

end Values

end Scan

/-! ## Texts -/

/-- Whether a text is written plainly. -/
def isPlain (text : String) : Bool := plainAllowed text.toList && Kind.ofPlain text == .text

theorem kind_of_isPlain {text : String} (h : isPlain text = true) : Kind.ofPlain text = .text := by
  simpa using (Bool.and_eq_true_iff.1 h).2

/-- A text that is written plainly is not empty. -/
theorem exists_plainText {text : String} (h : isPlain text = true) :
    ∃ c cs, text.toList = c :: cs ∧ PlainText c cs := by
  cases htext : text.toList with
  | nil =>
    obtain rfl : text = "" := by simpa using htext
    exact absurd (kind_of_isPlain h) (by decide)
  | cons c cs =>
    have hallowed := (Bool.and_eq_true_iff.1 h).1
    rw [htext] at hallowed
    exact ⟨c, cs, rfl, plainText_of_plainAllowed hallowed⟩

section Texts

variable {text : String} {s : Scan} {k column n : Nat} {tail : List Char}

theorem writeText_eq (key : Bool) (k column : Nat) (text : String) :
    writeText key k column text =
      match styleOf key text with
      | .plain => writePlain (!key) k column text.toList
      | .single => writeSingle (!key) k column text.toList
      | .double => writeDouble (!key) k column text.toList := by
  unfold writeText
  rfl

theorem styleOf_of_isPlain (key : Bool) (h : isPlain text = true) : styleOf key text = .plain := by
  unfold isPlain at h
  unfold styleOf
  exact if_pos h

theorem writeText_of_isPlain (key : Bool) (k column : Nat) (h : isPlain text = true) :
    writeText key k column text = writePlain (!key) k column text.toList := by
  rw [writeText_eq, styleOf_of_isPlain key h]

/-- A text that is not written plainly has a body between marks. -/
theorem exists_body (column : Nat) (h : isPlain text = false) (hk : k + 1 < lineWidth)
    (htail : tail.head? ≠ some '\x27') :
    ∃ double body, writeText false (k + 1) column text ++ tail = quotationMark double :: body ∧
      Body double body text.toList tail := by
  rw [isPlain] at h
  by_cases hsingle : singleAllowed text.toList = true
  · have hstyle : styleOf false text = .single := by simp [styleOf, h, hsingle]
    obtain ⟨body, hwritten, hbody⟩ := body_writeSingle true k column hsingle htail
    refine ⟨false, body, ?_, hbody⟩
    rw [writeText_eq, hstyle]
    exact hwritten
  · have hstyle : styleOf false text = .double := by simp [styleOf, h, hsingle]
    obtain ⟨body, hwritten, hbody⟩ := body_writeDouble true column text.toList hk htail
    refine ⟨true, body, ?_, hbody⟩
    rw [writeText_eq, hstyle]
    exact hwritten

theorem head?_of_lineEnd (htail : LineEnd n tail) : tail.head? ≠ some '\x27' := by
  cases htail <;> simp

/-- A text as a value. -/
theorem leads_text (hs : s.AtValue k) (hk : k + 2 < lineWidth) (htail : LineEnd n tail) (hn : n ≤ k)
    (h : s.cursor.rest = ' ' :: (writeText false (k + 2) column text ++ tail)) :
    ∃ c', c'.rest = tail ∧ s.Leads (s.behindScalar text.toList (isPlain text) c') := by
  cases hplain : isPlain text with
  | true =>
    obtain ⟨c, cs, htext, hcs⟩ := exists_plainText hplain
    rw [writeText_of_isPlain false _ _ hplain, writePlain, htext] at h
    obtain ⟨r, hwritten, hopening⟩ := hcs.exists_opening true (k + 2) column tail
    have hleads := Scan.leads_plain hs hcs.phrase htail hn h hwritten hopening
    rwa [flatMap_runs, ← htext] at hleads
  | false =>
    obtain ⟨double, body, hwritten, hbody⟩ := exists_body column hplain hk
      (head?_of_lineEnd htail)
    rw [hwritten] at h
    exact Scan.leads_quoted hs hbody h

theorem isAllowed_writeText (hk : k + 2 < lineWidth) :
    (writeText false (k + 2) column text).all isAllowed = true := by
  cases hplain : isPlain text with
  | true =>
    obtain ⟨c, cs, htext, hcs⟩ := exists_plainText hplain
    rw [writeText_of_isPlain false _ _ hplain, writePlain, htext]
    exact hcs.phrase.isAllowed
  | false =>
    obtain ⟨double, body, hwritten, hbody⟩ := exists_body column hplain hk
      (show ([] : List Char).head? ≠ some '\x27' by simp)
    obtain ⟨w, rfl, hw⟩ := hbody.exists_allowed
    rw [List.append_nil, List.append_nil] at hwritten
    rw [hwritten, List.all_cons, hw, Bool.and_true]
    cases double <;> rfl

end Texts

end ShapeFlow.Yaml
