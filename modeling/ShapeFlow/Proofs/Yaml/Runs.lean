import ShapeFlow.Proofs.Yaml.Places
import ShapeFlow.Yaml.Writer
import Mathlib.Data.List.Chain

/-!
# The runs of a text

A text is the runs that it is cut into (`flatMap_runs`), each of which is blanks, line feeds or a
word (`IsRun`). Where no blank stands beside a line feed, words and gaps take turns
(`takeTurns_runs`).
-/

set_option autoImplicit false

namespace ShapeFlow.Yaml

/-- A run of characters of its kind. -/
structure IsRun (run : RunKind × List Char) : Prop where
  nonempty : run.2 ≠ []
  kind : ∀ c ∈ run.2, RunKind.of c = run.1

/-- Of two runs side by side exactly one is a word. -/
def TakeTurns (rs : List (RunKind × List Char)) : Prop :=
  rs.IsChain fun a b => a.1 = .word ↔ b.1 ≠ .word

theorem RunKind.of_eq_blanks_iff {c : Char} : RunKind.of c = .blanks ↔ c = ' ' := by
  unfold RunKind.of
  split
  · simp_all
  · split <;> simp_all

theorem RunKind.of_eq_breaks_iff {c : Char} : RunKind.of c = .breaks ↔ c = '\n' := by
  unfold RunKind.of
  split
  · simp_all
  · split <;> simp_all

theorem RunKind.of_eq_word_iff {c : Char} : RunKind.of c = .word ↔ c ≠ ' ' ∧ c ≠ '\n' := by
  unfold RunKind.of
  split
  · simp_all
  · split <;> simp_all

section IsRun

variable {cs : List Char}

theorem IsRun.eq_replicate {kind : RunKind} {c : Char} (h : IsRun (kind, cs))
    (hkind : ∀ d, RunKind.of d = kind → d = c) : ∃ n, cs = List.replicate (n + 1) c := by
  have hall : cs = List.replicate cs.length c :=
    List.eq_replicate_of_mem fun d hd => hkind d (h.kind d hd)
  have hpos : 0 < cs.length := List.length_pos_iff.2 h.nonempty
  refine ⟨cs.length - 1, ?_⟩
  rwa [Nat.sub_add_cancel hpos]

theorem IsRun.eq_blanks (h : IsRun (.blanks, cs)) : ∃ n, cs = List.replicate (n + 1) ' ' :=
  h.eq_replicate fun _ hd => RunKind.of_eq_blanks_iff.1 hd

theorem IsRun.eq_breaks (h : IsRun (.breaks, cs)) : ∃ n, cs = List.replicate (n + 1) '\n' :=
  h.eq_replicate fun _ hd => RunKind.of_eq_breaks_iff.1 hd

end IsRun

section Runs

variable (cs : List Char)

/-- The first run begins with the first character. -/
theorem exists_runs_cons (c : Char) : ∃ ds more, runs (c :: cs) = (.of c, c :: ds) :: more := by
  unfold runs
  cases runs cs with
  | nil => exact ⟨[], [], rfl⟩
  | cons run more =>
    obtain ⟨kind, ds⟩ := run
    dsimp only
    split
    · rename_i hkind
      subst hkind
      exact ⟨ds, more, rfl⟩
    · exact ⟨[], (kind, ds) :: more, rfl⟩

theorem flatMap_runs : (runs cs).flatMap Prod.snd = cs := by
  induction cs with
  | nil => rfl
  | cons c cs ih =>
    unfold runs
    cases hruns : runs cs with
    | nil =>
      rw [hruns] at ih
      simp [← ih]
    | cons run more =>
      obtain ⟨kind, ds⟩ := run
      rw [hruns] at ih
      dsimp only
      split <;> simp [← ih]

theorem isRun_of_mem : ∀ run ∈ runs cs, IsRun run := by
  induction cs with
  | nil => simp [runs]
  | cons c cs ih =>
    have hsingle : IsRun (RunKind.of c, [c]) := ⟨by simp, by simp⟩
    unfold runs
    cases hruns : runs cs with
    | nil => simpa using hsingle
    | cons run more =>
      obtain ⟨kind, ds⟩ := run
      rw [hruns] at ih
      have hfirst : IsRun (kind, ds) := ih _ List.mem_cons_self
      dsimp only
      split
      · rename_i hkind
        intro run hrun
        rcases List.mem_cons.1 hrun with rfl | hrun
        · refine ⟨by simp, ?_⟩
          intro d hd
          rcases List.mem_cons.1 hd with rfl | hd
          · exact hkind.symm
          · exact hfirst.kind d hd
        · exact ih run (List.mem_cons_of_mem _ hrun)
      · intro run hrun
        rcases List.mem_cons.1 hrun with rfl | hrun
        · exact hsingle
        · exact ih run hrun

variable {cs}

/-- Characters of two kinds side by side, one of which is part of a word. -/
theorem RunKind.of_eq_word_iff_of_ne {c d : Char} (h : RunKind.of d ≠ RunKind.of c)
    (hblank : (c == ' ' && d == '\n') = false) (hbreak : (c == '\n' && d == ' ') = false) :
    RunKind.of c = .word ↔ RunKind.of d ≠ .word := by
  cases hc : RunKind.of c with
  | blanks =>
    obtain rfl := of_eq_blanks_iff.1 hc
    cases hd : RunKind.of d with
    | blanks => exact absurd (hd.trans hc.symm) h
    | breaks =>
      obtain rfl := of_eq_breaks_iff.1 hd
      exact absurd hblank (by decide)
    | word => simp
  | breaks =>
    obtain rfl := of_eq_breaks_iff.1 hc
    cases hd : RunKind.of d with
    | blanks =>
      obtain rfl := of_eq_blanks_iff.1 hd
      exact absurd hbreak (by decide)
    | breaks => exact absurd (hd.trans hc.symm) h
    | word => simp
  | word => exact iff_of_true rfl fun hd => h (hd.trans hc.symm)

/-- Words and gaps take turns if no blank stands beside a line feed. -/
theorem takeTurns_runs (hblank : adjoins ' ' '\n' cs = false)
    (hbreak : adjoins '\n' ' ' cs = false) : TakeTurns (runs cs) := by
  induction cs with
  | nil => exact .nil
  | cons c cs ih =>
    cases cs with
    | nil => exact .singleton _
    | cons d cs =>
      simp only [adjoins, Bool.or_eq_false_iff] at hblank hbreak
      have ih := ih hblank.2 hbreak.2
      obtain ⟨ds, more, hruns⟩ := exists_runs_cons cs d
      rw [hruns] at ih
      unfold runs
      rw [hruns]
      dsimp only
      split
      · cases more with
        | nil => exact .singleton _
        | cons next more =>
          obtain ⟨hnext, hmore⟩ := List.isChain_cons_cons.1 ih
          exact .cons_cons hnext hmore
      · rename_i hkind
        exact .cons_cons (RunKind.of_eq_word_iff_of_ne hkind hblank.1 hbreak.1) ih

end Runs

theorem isInline_iff {c : Char} : IsInline c ↔ ' ' ≤ c ∧ c ≤ '~' := by
  rw [Char.le_def, Char.le_def, UInt32.le_iff_toNat_le, UInt32.le_iff_toNat_le]
  rfl

theorem needsEscape_eq_false_iff {c : Char} : needsEscape c = false ↔ c = '\n' ∨ IsInline c := by
  simp [needsEscape, isInline_iff, or_iff_not_imp_left]

/-- Runs of which words and gaps take turns, and each word stays on its line. -/
structure OnLines (rs : List (RunKind × List Char)) : Prop where
  isRun : ∀ run ∈ rs, IsRun run
  turns : TakeTurns rs
  inline : ∀ run ∈ rs, run.1 = .word → AllInline run.2

section OnLines

variable {kind : RunKind} {cs : List Char} {rs : List (RunKind × List Char)}

theorem OnLines.behind (h : OnLines ((kind, cs) :: rs)) : OnLines rs where
  isRun run hrun := h.isRun run (List.mem_cons_of_mem _ hrun)
  turns := h.turns.tail
  inline run hrun := h.inline run (List.mem_cons_of_mem _ hrun)

theorem OnLines.word (h : OnLines ((.word, cs) :: rs)) : ∀ c ∈ cs, IsInline c ∧ c ≠ ' ' := by
  intro c hc
  have hkind := (h.isRun _ List.mem_cons_self).kind c hc
  exact ⟨h.inline _ List.mem_cons_self rfl c hc, (RunKind.of_eq_word_iff.1 hkind).1⟩

/-- Behind a gap there is a word or the end. -/
theorem OnLines.behind_gap (h : OnLines ((kind, cs) :: rs)) (hkind : kind ≠ .word) :
    rs = [] ∨ ∃ c w rs', rs = (.word, c :: w) :: rs' := by
  cases rs with
  | nil => exact .inl rfl
  | cons run rs =>
    obtain ⟨kind', w⟩ := run
    have hturn : kind = .word ↔ kind' ≠ .word := (List.isChain_cons_cons.1 h.turns).1
    obtain rfl : kind' = .word := by
      by_contra hne
      exact hkind (hturn.2 hne)
    cases w with
    | nil => exact absurd rfl (h.behind.isRun _ List.mem_cons_self).nonempty
    | cons c w => exact .inr ⟨c, w, rs, rfl⟩

/-- Behind a word there is a gap or the end. -/
theorem OnLines.behind_word (h : OnLines ((.word, cs) :: rs)) :
    rs = [] ∨ ∃ kind' w rs', rs = (kind', w) :: rs' ∧ kind' ≠ .word := by
  cases rs with
  | nil => exact .inl rfl
  | cons run rs =>
    have hturn : RunKind.word = .word ↔ run.1 ≠ .word := (List.isChain_cons_cons.1 h.turns).1
    exact .inr ⟨run.1, run.2, rs, rfl, hturn.1 rfl⟩

/-- The runs of a text without escapes stay on their lines. -/
theorem onLines_runs (hturns : TakeTurns (runs cs)) (h : ∀ c ∈ cs, needsEscape c = false) :
    OnLines (runs cs) := by
  refine ⟨isRun_of_mem cs, hturns, ?_⟩
  intro run hrun hword c hc
  have hmem : c ∈ cs := by
    rw [← flatMap_runs cs]
    exact List.mem_flatMap.2 ⟨run, hrun, hc⟩
  have hkind := (isRun_of_mem cs run hrun).kind c hc
  rw [hword, RunKind.of_eq_word_iff] at hkind
  exact (needsEscape_eq_false_iff.1 (h c hmem)).resolve_left hkind.2

end OnLines

end ShapeFlow.Yaml
