import ShapeFlow.Proofs.Yaml.QuotedBodies
import ShapeFlow.Proofs.Yaml.Runs

/-!
# Quoted scalars as they are written

A text between apostrophes is written run by run, with a line break in place of a blank where the
line gets long (`body_writeSingle`). A text between double marks is written character by character
with escapes; there a line ends with a backslash, which takes the line break back
(`body_writeDouble`). Both stay inside of the grammar of quoted scalars. Between double marks the
writer looks one character ahead to know whether the next line needs a backslash in front of its
blanks, so its output is followed with the characters at its start that stand for themselves
(`BareThen`).
-/

set_option autoImplicit false

namespace ShapeFlow.Yaml

/-! ## Between apostrophes -/

section Single

variable {w input text tail : List Char} {split first : Bool} {k column : Nat}
  {rs : List (RunKind × List Char)}

theorem Body.of_word (hw : ∀ c ∈ w, IsInline c ∧ c ≠ ' ') (h : Body false input text tail) :
    Body false (doubleMarks w ++ input) (w ++ text) tail := by
  induction w with
  | nil => exact h
  | cons c w ih =>
    obtain ⟨hc, hblank⟩ := hw c List.mem_cons_self
    have ih := ih fun d hd => hw d (List.mem_cons_of_mem c hd)
    by_cases hmark : c = '\x27'
    · subst hmark
      exact .doubled ih
    · have hbody := Body.char hc hblank (show c ≠ quotationMark false from hmark) (by simp) ih
      simpa [doubleMarks, hmark] using hbody

variable {kind : RunKind} {cs : List Char}

theorem unspaced_writeSingleRuns (h : OnLines ((kind, cs) :: rs)) (hkind : kind ≠ .word) :
    Unspaced (writeSingleRuns split (k + 1) first column rs ++ '\x27' :: tail) := by
  obtain rfl | ⟨c, w, rs', rfl⟩ := h.behind_gap hkind
  · exact ⟨'\x27', rfl, by decide, by decide⟩
  · obtain ⟨hc, hblank⟩ := h.behind.word c List.mem_cons_self
    refine ⟨c, ?_, hc, hblank⟩
    by_cases hmark : c = '\x27' <;> simp [writeSingleRuns, doubleMarks, hmark]

theorem body_writeSingleRuns (h : OnLines rs) (htail : tail.head? ≠ some '\x27') :
    Body false (writeSingleRuns split (k + 1) first column rs ++ '\x27' :: tail)
      (rs.flatMap Prod.snd) tail := by
  induction rs generalizing first column with
  | nil => exact .close htail
  | cons run rs ih =>
    obtain ⟨kind, cs⟩ := run
    cases kind with
    | word =>
      rw [writeSingleRuns, List.append_assoc]
      exact .of_word h.word (ih h.behind)
    | blanks =>
      obtain ⟨n, rfl⟩ := (h.isRun _ List.mem_cons_self).eq_blanks
      rw [writeSingleRuns]
      split
      · rename_i hfold
        obtain rfl : n = 0 := by simp_all
        rw [newLine, List.append_assoc]
        exact .folded (unspaced_writeSingleRuns h (by decide)) (ih h.behind)
      · rw [List.append_assoc]
        exact .blanks (unspaced_writeSingleRuns h (by decide)) (ih h.behind)
    | breaks =>
      obtain ⟨n, rfl⟩ := (h.isRun _ List.mem_cons_self).eq_breaks
      simp only [writeSingleRuns, List.cons_append, List.append_assoc]
      exact .breaks (unspaced_writeSingleRuns h (by decide)) (ih h.behind)

/-- A text that may stand between apostrophes is read back from there. -/
theorem body_writeSingle {cs : List Char} (split : Bool) (k column : Nat)
    (h : singleAllowed cs = true) (htail : tail.head? ≠ some '\x27') :
    ∃ body, writeSingle split (k + 1) column cs ++ tail = '\x27' :: body ∧
      Body false body cs tail := by
  simp only [singleAllowed, Bool.not_eq_true', Bool.or_eq_false_iff] at h
  obtain ⟨⟨hescape, hblank⟩, hbreak⟩ := h
  have hruns : OnLines (runs cs) := by
    refine onLines_runs (takeTurns_runs hblank hbreak) ?_
    intro c hc
    simpa using List.any_eq_false.1 hescape c hc
  have hbody : Body false
      (writeSingleRuns split (k + 1) true (column + 1) (runs cs) ++ '\x27' :: tail)
      ((runs cs).flatMap Prod.snd) tail := body_writeSingleRuns hruns htail
  rw [flatMap_runs] at hbody
  exact ⟨_, by simp [writeSingle], hbody⟩

end Single

/-! ## Numbers in hexadecimal digits -/

section Hexadecimal

variable {w n : Nat}

theorem hexNumber?_concat (cs : List Char) (c : Char) :
    hexNumber? (cs ++ [c]) = do return 16 * (← hexNumber? cs) + (← hexValue? c) := by
  simp [hexNumber?]

theorem hexValue?_digitChar (hn : n < 16) :
    IsInline n.digitChar.toUpper ∧ hexValue? n.digitChar.toUpper = some n := by
  have hall : ∀ k : Fin 16,
      IsInline k.val.digitChar.toUpper ∧ hexValue? k.val.digitChar.toUpper = some k.val := by decide
  exact hall ⟨n, hn⟩

theorem hexNumber?_toDigits (n : Nat) :
    AllInline ((Nat.toDigits 16 n).map Char.toUpper) ∧
      hexNumber? ((Nat.toDigits 16 n).map Char.toUpper) = some n := by
  induction n using Nat.strong_induction_on with
  | h n ih =>
    rw [Nat.toDigits_eq_if (by decide)]
    split
    · rename_i hn
      obtain ⟨hinline, hvalue⟩ := hexValue?_digitChar hn
      refine ⟨by simpa [AllInline] using hinline, ?_⟩
      simp [hexNumber?, hvalue]
    · -- the last digit is the remainder, and those in front of it are the quotient's
      obtain ⟨hinline, hvalue⟩ := hexValue?_digitChar (Nat.mod_lt n (show 0 < 16 by decide))
      obtain ⟨hfront, hnumber⟩ := ih (n / 16) (by omega)
      rw [List.map_append, List.map_singleton]
      refine ⟨hfront.append (by simpa [AllInline] using hinline), ?_⟩
      rw [hexNumber?_concat, hnumber, hvalue]
      simp [Nat.div_add_mod]

theorem hexNumber?_zeros (k : Nat) (cs : List Char) :
    hexNumber? (List.replicate k '0' ++ cs) = hexNumber? cs := by
  induction k with
  | zero => rfl
  | succ k ih =>
    have hzero : hexValue? '0' = some 0 := rfl
    simpa [hexNumber?, List.replicate_succ, hzero] using ih

theorem length_upperHex (hw : 0 < w) (hn : n < Nat.pow 16 w) : (upperHex w n).length = w := by
  have hlength := (Nat.length_toDigits_le_iff (by decide) hw).2 hn
  simp [upperHex, Text.hexadecimal]
  omega

theorem hexNumber?_upperHex : AllInline (upperHex w n) ∧ hexNumber? (upperHex w n) = some n := by
  obtain ⟨hinline, hnumber⟩ := hexNumber?_toDigits n
  have hzero : Char.toUpper '0' = '0' := rfl
  simp only [upperHex, Text.hexadecimal, List.map_append, List.map_replicate, hzero,
    hexNumber?_zeros, hnumber, and_true]
  refine AllInline.append ?_ hinline
  intro c hc
  rw [List.eq_of_mem_replicate hc]
  decide

end Hexadecimal

/-! ## Between double marks -/

section Double

variable {c : Char} {input text tail escaped pending cs : List Char} {split : Bool}
  {k total index column : Nat}

theorem doubleEscape?_eq_none (h : doubleEscape? c = none) :
    IsInline c ∧ c ≠ '\x22' ∧ c ≠ '\\' := by
  unfold doubleEscape? at h
  split at h
  · rename_i hplain
    simp only [Bool.and_eq_true, decide_eq_true_eq, bne_iff_ne, ne_eq] at hplain
    exact ⟨isInline_iff.2 hplain.1.1, hplain.1.2, hplain.2⟩
  · split at h
    · cases h
    · dsimp only at h
      split at h
      · cases h
      · split at h <;> cases h

/-- What a letter is written for it is read as. -/
theorem escapes_of_shortEscapes {letter : Char} (h : shortEscapes.lookup c = some letter) :
    escapes.lookup letter = some c ∧ IsInline letter := by
  have hall : ∀ p ∈ shortEscapes, escapes.lookup p.2 = some p.1 ∧ IsInline p.2 := by decide
  obtain ⟨front, behind, hsplit, -⟩ := List.lookup_eq_some_iff.1 h
  exact hall (c, letter) (by rw [hsplit]; simp)

theorem Body.of_number {l : Char} {w : Nat} (hnone : escapes.lookup l = none)
    (hwidth : numberedEscapes.lookup l = some w) (hw : 0 < w) (hl : IsInline l)
    (hc : c.toNat < Nat.pow 16 w) (h : Body true input text tail) :
    Body true ('\\' :: l :: upperHex w c.toNat ++ input) (c :: text) tail := by
  obtain ⟨hinline, hnumber⟩ := hexNumber?_upperHex (w := w) (n := c.toNat)
  have hdigits : AllInline (l :: upperHex w c.toNat) := by
    intro d hd
    rcases List.mem_cons.1 hd with rfl | hd
    · exact hl
    · exact hinline d hd
  have hbody := Body.number hnone (by rwa [length_upperHex hw hc]) hdigits hnumber c.valid h
  rwa [Char.ofNat_toNat] at hbody

theorem Body.of_doubleEscape (hescape : doubleEscape? c = some escaped)
    (h : Body true input text tail) :
    Unspaced (escaped ++ input) ∧ Body true (escaped ++ input) (c :: text) tail := by
  have hslash : ∀ r, Unspaced ('\\' :: r) := fun r => ⟨'\\', rfl, by decide, by decide⟩
  unfold doubleEscape? at hescape
  split at hescape
  · cases hescape
  · split at hescape
    · rename_i letter hletter
      obtain ⟨hread, hinline⟩ := escapes_of_shortEscapes hletter
      cases hescape
      exact ⟨hslash _, .letter hread hinline h⟩
    · dsimp only at hescape
      split at hescape
      · rename_i hc
        cases hescape
        have hlt : c.toNat < Nat.pow 16 2 := Nat.lt_succ_of_le hc
        exact ⟨hslash _, .of_number rfl rfl (by decide) (by decide) hlt h⟩
      · split at hescape
        · rename_i hc
          cases hescape
          have hlt : c.toNat < Nat.pow 16 4 := Nat.lt_succ_of_le hc
          exact ⟨hslash _, .of_number rfl rfl (by decide) (by decide) hlt h⟩
        · cases hescape
          have hlt : c.toNat < Nat.pow 16 8 := c.val.toNat_lt
          exact ⟨hslash _, .of_number rfl rfl (by decide) (by decide) hlt h⟩

theorem Body.blank (hinput : ∃ x, input.head? = some x ∧ IsInline x)
    (h : Body true input text tail) : Body true (' ' :: input) (' ' :: text) tail := by
  obtain ⟨x, hx, hinline⟩ := hinput
  by_cases hblank : x = ' '
  · -- the blanks behind are one gap together with this one
    subst hblank
    generalize hdouble : true = double at h
    cases h with
    | @blanks _ n input text _ hinput hbody => exact .blanks (n := n + 1) hinput hbody
    | close => cases double <;> cases hx
    | char _ hblank => exact absurd (Option.some.inj hx) hblank
    | _ => cases hx
  · exact .blanks (n := 0) ⟨x, hx, hinline, hblank⟩ h

/-- Characters that stand for themselves, blanks among them. -/
theorem Body.of_bare {bare : List Char} (hbare : ∀ c ∈ bare, doubleEscape? c = none)
    (hinput : Unspaced input) (h : Body true input text tail) :
    Body true (bare ++ input) (bare ++ text) tail := by
  induction bare with
  | nil => exact h
  | cons c bare ih =>
    obtain ⟨hinline, hmark, hslash⟩ := doubleEscape?_eq_none (hbare c List.mem_cons_self)
    have hbehind : ∀ d ∈ bare, doubleEscape? d = none :=
      fun d hd => hbare d (List.mem_cons_of_mem c hd)
    by_cases hblank : c = ' '
    · subst hblank
      refine .blank ?_ (ih hbehind)
      cases bare with
      | nil =>
        obtain ⟨x, hx, hinline, -⟩ := hinput
        exact ⟨x, hx, hinline⟩
      | cons d bare => exact ⟨d, rfl, (doubleEscape?_eq_none (hbehind d List.mem_cons_self)).1⟩
    · exact .char hinline hblank hmark (fun _ => hslash) (ih hbehind)

/-- A line that ends with a backslash is continued by the next one, which needs a backslash of its
own in front of a blank. -/
theorem Body.of_continued {lead bare : List Char} (hbare : ∀ c ∈ bare, doubleEscape? c = none)
    (hinput : Unspaced input) (h : Body true input text tail)
    (hlead : lead = if bare.head? = some ' ' then ['\\'] else []) :
    Body true ('\\' :: newLine (k + 1) ++ (lead ++ (bare ++ input))) (bare ++ text) tail := by
  split at hlead
  · rename_i hblank
    subst hlead
    cases bare with
    | nil => cases hblank
    | cons c bare =>
      obtain rfl : c = ' ' := Option.some.inj hblank
      have hbehind := Body.of_bare (fun d hd => hbare d (List.mem_cons_of_mem _ hd)) hinput h
      exact .continued ⟨'\\', rfl, by decide, by decide⟩ (.letter rfl (by decide) hbehind)
  · rename_i hblank
    subst hlead
    have hbehind := Body.of_bare hbare hinput h
    refine .continued ?_ hbehind
    cases bare with
    | nil => exact hinput
    | cons c bare =>
      refine ⟨c, rfl, (doubleEscape?_eq_none (hbare c List.mem_cons_self)).1, ?_⟩
      rintro rfl
      exact hblank rfl

/-- The backslash that a new line needs if a blank starts it. -/
def leadOf (cs : List Char) : List Char := if cs.head? = some ' ' then ['\\'] else []

theorem writeDoubleFrom_escape (h : doubleEscape? c = some escaped) :
    writeDoubleFrom split k total index column pending (c :: cs) =
      pending.reverse ++ (escaped ++
        if 0 < index && index + 1 < total &&
            lineWidth + 1 < column + pending.length + escaped.length && split then
          '\\' :: newLine k ++ (leadOf cs ++
            writeDoubleFrom split k total (index + 1) (k + (leadOf cs).length) [] cs)
        else
          writeDoubleFrom split k total (index + 1) (column + pending.length + escaped.length) []
            cs) := by
  rw [writeDoubleFrom, h]
  simp only [leadOf, beq_iff_eq]
  split <;> simp

theorem writeDoubleFrom_bare (h : doubleEscape? c = none) :
    writeDoubleFrom split k total index column pending (c :: cs) =
      if (0 < index && index + 1 < total && (c == ' ' || pending.isEmpty)) &&
          lineWidth < column + pending.length && split then
        pending.reverse ++ ('\\' :: newLine k ++ (leadOf (c :: cs) ++
          writeDoubleFrom split k total (index + 1) (k + (leadOf (c :: cs)).length) [c] cs))
      else writeDoubleFrom split k total (index + 1) column (c :: pending) cs := by
  rw [writeDoubleFrom, h]
  simp only [leadOf, beq_iff_eq, List.head?_cons, Option.some.injEq]
  split <;> simp

/-- An output between double marks: first characters of a text that stand for themselves, and then
an input that starts with no blank and reads as the rest. -/
def BareThen (bare output cs tail : List Char) : Prop :=
  ∃ input text, output = bare ++ input ∧ cs = bare ++ text ∧ (∀ c ∈ bare, doubleEscape? c = none) ∧
    Unspaced input ∧ Body true input text tail

section BareThen

variable {bare output : List Char}

theorem BareThen.body (h : BareThen bare output cs tail) : Body true output cs tail := by
  obtain ⟨input, text, rfl, rfl, hbare, hinput, hbody⟩ := h
  exact .of_bare hbare hinput hbody

/-- An output may start with what does not stand for itself. -/
theorem bareThen_of_body (houtput : Unspaced output) (h : Body true output cs tail) :
    BareThen [] output cs tail :=
  ⟨output, cs, rfl, rfl, by simp, houtput, h⟩

theorem BareThen.cons (hc : doubleEscape? c = none) (h : BareThen bare output cs tail) :
    BareThen (c :: bare) (c :: output) (c :: cs) tail := by
  obtain ⟨input, text, rfl, rfl, hbare, hinput, hbody⟩ := h
  exact ⟨input, text, rfl, rfl, List.forall_mem_cons.2 ⟨hc, hbare⟩, hinput, hbody⟩

theorem bareThen_escape (hescape : doubleEscape? c = some escaped) (h : Body true output cs tail) :
    BareThen [] (escaped ++ output) (c :: cs) tail := by
  obtain ⟨hunspaced, hbody⟩ := Body.of_doubleEscape hescape h
  exact bareThen_of_body hunspaced hbody

/-- A line that ends takes back its line feed, and the next one takes back its blanks. -/
theorem BareThen.continued (h : BareThen bare output cs tail)
    (hlead : leadOf cs = if bare.head? = some ' ' then ['\\'] else []) (k : Nat) :
    Body true ('\\' :: newLine (k + 1) ++ (leadOf cs ++ output)) cs tail := by
  obtain ⟨input, text, rfl, rfl, hbare, hinput, hbody⟩ := h
  exact .of_continued hbare hinput hbody hlead

/-- Whether a blank starts the next line shows in its characters that stand for themselves. -/
theorem leadOf_eq (hblank : cs.head? = some ' ' → bare.head? = some ' ')
    (h : BareThen bare output cs tail) :
    leadOf cs = if bare.head? = some ' ' then ['\\'] else [] := by
  obtain ⟨input, text, -, rfl, -⟩ := h
  cases bare with
  | nil => exact if_neg fun hhead => by simpa using hblank hhead
  | cons c bare => rfl

end BareThen

theorem length_leadOf_le (cs : List Char) : (leadOf cs).length ≤ 1 := by
  unfold leadOf
  split <;> simp

/-- What is written from a character on: the pending word, and then an output that goes on with the
text. A blank stands for itself as long as the line has not passed its width. -/
theorem exists_writeDoubleFrom (split : Bool) (total index column : Nat) (pending cs : List Char)
    (hk : k + 1 < lineWidth) (htail : tail.head? ≠ some '\x27') :
    ∃ bare output,
      writeDoubleFrom split (k + 1) total index column pending cs ++ '\x22' :: tail =
          pending.reverse ++ output ∧ BareThen bare output cs tail ∧
        (cs.head? = some ' ' → column + pending.length ≤ lineWidth → bare.head? = some ' ') := by
  induction cs generalizing index column pending with
  | nil =>
    have hclose : BareThen [] ('\x22' :: tail) [] tail :=
      bareThen_of_body ⟨'\x22', rfl, by decide, by decide⟩ (.close htail)
    exact ⟨[], _, rfl, hclose, by simp⟩
  | cons c cs ih =>
    cases hescape : doubleEscape? c with
    | some escaped =>
      have hc : (c :: cs).head? ≠ some ' ' := by
        rintro hblank
        obtain rfl : c = ' ' := Option.some.inj hblank
        cases hescape
      rw [writeDoubleFrom_escape hescape]
      split
      · -- the line ends behind the escape, and the next one is short enough for a blank
        obtain ⟨bare, output, houtput, hthen, hblank⟩ :=
          ih (index + 1) (k + 1 + (leadOf cs).length) []
        have hshort : k + 1 + (leadOf cs).length + 0 ≤ lineWidth := by
          have hlength := length_leadOf_le cs
          omega
        have hlead := leadOf_eq (fun hhead => hblank hhead hshort) hthen
        refine ⟨[], _, ?_, bareThen_escape hescape (hthen.continued hlead k), fun h => absurd h hc⟩
        simp [houtput]
      · obtain ⟨bare, output, houtput, hthen, -⟩ :=
          ih (index + 1) (column + pending.length + escaped.length) []
        refine ⟨[], _, ?_, bareThen_escape hescape hthen.body, fun h => absurd h hc⟩
        simp [houtput]
    | none =>
      rw [writeDoubleFrom_bare hescape]
      split
      · -- the line ends in front of this character, which starts the next one
        rename_i hfold
        obtain ⟨bare, output, houtput, hthen, -⟩ :=
          ih (index + 1) (k + 1 + (leadOf (c :: cs)).length) [c]
        have hcontinued := (hthen.cons hescape).continued rfl k
        have hthen' := bareThen_of_body ⟨'\\', rfl, by decide, by decide⟩ hcontinued
        refine ⟨[], _, ?_, hthen', ?_⟩
        · simp only [List.cons_append, List.append_assoc, houtput]
          rfl
        · intro hblank hcolumn
          simp at hfold
          omega
      · obtain ⟨bare, output, houtput, hthen, -⟩ := ih (index + 1) column (c :: pending)
        refine ⟨c :: bare, _, ?_, hthen.cons hescape, fun h _ => h⟩
        simp [houtput]

/-- **A text between double marks is read back from there.** -/
theorem body_writeDouble (split : Bool) (column : Nat) (cs : List Char) (hk : k + 1 < lineWidth)
    (htail : tail.head? ≠ some '\x27') :
    ∃ body, writeDouble split (k + 1) column cs ++ tail = '\x22' :: body ∧
      Body true body cs tail := by
  obtain ⟨bare, output, houtput, hthen, -⟩ :=
    exists_writeDoubleFrom split cs.length 0 (column + 1) [] cs hk htail
  refine ⟨output, ?_, hthen.body⟩
  rw [writeDouble, List.cons_append, List.cons_append, List.append_assoc]
  exact congrArg _ houtput

end Double

end ShapeFlow.Yaml
