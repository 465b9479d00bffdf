import ShapeFlow.Proofs.Yaml.Tokens

/-!
# Blocks as they are written and scanned

The values considered are flags, texts and mappings of such values by names (`Writable`). A value is
scanned into its tokens (`tokensOf`) in front of whatever comes on the next line, by induction on
the value: a mapping starts a block in a deeper column, and each of its entries leads to the next
(`leads_entries`). A block is closed only when the scanner gets to the next line, so what has been
read is compared with what should have been read with the deeper blocks closed (`Scan.Behind`).
`tokenize_write` is the result for a whole document.
-/

set_option autoImplicit false

namespace ShapeFlow.Yaml

/-! ## Writable values -/

/-- The key of an entry is a name that is written plainly. -/
def HasName (e : Datum × Datum) : Prop :=
  ∃ name, e.1 = .text name ∧ IsName name.toList ∧ isPlain name = true

/-- The entries of a mapping by names, each of which is given once. -/
structure Named (entries : List (Datum × Datum)) : Prop where
  nonempty : entries ≠ []
  names : ∀ e ∈ entries, HasName e
  distinct : (entries.map Prod.fst).Nodup

theorem HasName.exists_text {e : Datum × Datum} (h : HasName e) : ∃ name, e.1 = .text name := by
  obtain ⟨name, hkey, -⟩ := h
  exact ⟨name, hkey⟩

/-- Entries under distinct names make such a mapping. -/
theorem named_of_names {entries : List (Datum × Datum)} (names : List String)
    (hkeys : entries.map Prod.fst = names.map .text) (hne : names ≠ [])
    (hnames : ∀ name ∈ names, IsName name.toList ∧ isPlain name = true)
    (hdistinct : names.Nodup) : Named entries where
  nonempty := by
    rintro rfl
    exact hne (List.map_eq_nil_iff.1 hkeys.symm)
  names := by
    intro e he
    have hkey : e.1 ∈ names.map Datum.text := hkeys ▸ List.mem_map_of_mem he
    obtain ⟨name, hname, hsame⟩ := List.mem_map.1 hkey
    exact ⟨name, hsame.symm, hnames name hname⟩
  distinct := by
    rw [hkeys]
    exact List.Pairwise.map Datum.text (fun _ _ => mt Datum.text.inj) hdistinct

/-- The values that an entry at an indentation can have: flags, texts, and mappings of such values
by names. A text must have room on its line. -/
inductive Writable : Nat → Datum → Prop
  | flag {k : Nat} (b : Bool) : Writable k (.bool b)
  | text {k : Nat} (s : String) : k + 2 < lineWidth → Writable k (.text s)
  | mapping {k : Nat} {entries : List (Datum × Datum)} :
    Named entries → (∀ e ∈ entries, Writable (k + 2) e.2) → Writable k (.dict entries)

/-- The word for a flag. -/
def flagWord (b : Bool) : String := if b then "true" else "false"

mutual

/-- The tokens of a value. -/
def tokensOf : Datum → List Token
  | .bool b => [.scalar (flagWord b) true]
  | .text s => [.scalar s (isPlain s)]
  | .dict entries => .blockMappingStart :: (entryTokens entries ++ [.blockEnd])
  | _ => []

/-- The tokens of the entries of a mapping. -/
def entryTokens : List (Datum × Datum) → List Token
  | [] => []
  | (key, value) :: rest =>
    .key :: (tokensOf key ++ .value :: (tokensOf value ++ entryTokens rest))

end

/-! ## Places in a block -/

namespace Scan

variable {s t u : Scan} {ts : List Token} {tail r : List Char} {k n column : Nat}

/-- The scanner in front of a name at a column, the deeper blocks closed. -/
structure AtKey (s : Scan) (k : Nat) : Prop where
  keyAllowed : s.keyAllowed = true
  keys : s.keys = [none]
  column : s.cursor.column = k
  indent : s.indent ≤ k

/-- The scanner is behind some tokens and in front of a tail; blocks that are not closed yet will be
closed on the next line. -/
structure Behind (s : Scan) (ts : List Token) (tail : List Char) (t : Scan) : Prop where
  rest : t.cursor.rest = tail
  keys : t.keys = [none]
  tokens : (t.unwind s.indent).tokens = s.tokens ++ ts
  indent : (t.unwind s.indent).indent = s.indent
  outer : (t.unwind s.indent).outer = s.outer

theorem behind_behindScalar {c : Cursor} (text : List Char) (plain : Bool) (hkeys : s.keys = [none])
    (hc : c.rest = tail) :
    Behind s [.scalar (String.ofList text) plain] tail (s.behindScalar text plain c) := by
  have hunwind : (s.behindScalar text plain c).unwind s.indent = s.behindScalar text plain c :=
    unwind_of_le (inFlow_eq hkeys) (Int.le_refl _)
  refine ⟨hc, hkeys, ?_, ?_, ?_⟩ <;> rw [hunwind] <;> rfl

/-- What is read on the next line comes behind what was read before. -/
theorem Behind.append {ts' : List Token} {tail' : List Char} {c : Cursor}
    (h : Behind s ts tail' t) (h' : Behind ((t.unwind s.indent).movedDown c) ts' tail u) :
    Behind s (ts ++ ts') tail u := by
  obtain ⟨hrest, hkeys, htokens, hindent, houter⟩ := h'
  have hsame : ((t.unwind s.indent).movedDown c).indent = s.indent := h.indent
  -- blocks that start in the next line are closed down to the same indentation
  rw [hsame] at htokens hindent houter
  refine ⟨hrest, hkeys, ?_, hindent, houter.trans h.outer⟩
  rw [htokens, ← List.append_assoc]
  exact congrArg (· ++ ts') h.tokens

/-- A block that started behind a state is closed at the indentation of that state. -/
theorem Behind.closed {j : Int} (hbehind : Behind t ts tail u) (hindent : t.indent = j)
    (htokens : t.tokens = s.tokens ++ [.blockMappingStart]) (houter : t.outer = s.indent :: s.outer)
    (hj : s.indent < j) (hs : -1 ≤ s.indent) :
    Behind s (.blockMappingStart :: (ts ++ [.blockEnd])) tail u := by
  subst hindent
  have hflow := inFlow_eq hbehind.keys
  -- what is deeper than the block is closed first, and then the block itself
  have hinner : u.unwind s.indent = { u.unwind t.indent with
      tokens := (u.unwind t.indent).tokens ++ [.blockEnd]
      indent := s.indent
      outer := s.outer } := by
    rw [← unwind_unwind hflow hs (Int.le_of_lt hj)]
    refine unwind_innermost (inFlow_unwind.trans hflow) ?_ (hbehind.outer.trans houter)
    rw [hbehind.indent]
    exact hj
  refine ⟨hbehind.rest, hbehind.keys, ?_, ?_, ?_⟩
  · rw [hinner]
    simp [hbehind.tokens, htokens]
  · rw [hinner]
  · rw [hinner]

theorem movedDown_unwind (s : Scan) (c : Cursor) (j : Int) :
    (s.movedDown c).unwind j = (s.unwind j).movedDown c := by
  unfold unwind movedDown inFlow
  split <;> rfl

/-- From the end of a line the scanner gets to a name in the next one. -/
theorem leads_nextLine {x : Char} (hkeys : s.keys = [none])
    (h : s.cursor.rest = '\n' :: (List.replicate n ' ' ++ x :: r)) (hx : IsNameChar x) :
    Leads s ((s.unwind n).movedDown (s.cursor.skip (n + 1))) := by
  have hsettle := settle_lineEnd hkeys h (.name hx)
  rw [movedDown_unwind] at hsettle
  have hcolumn := Cursor.column_of_lineEnd (.name hx) h
  have hrest : (s.cursor.skip (n + 1)).rest = x :: r := by simp [h]
  refine leads_of_settle (hsettle.trans ?_) ?_
  · refine (settle_inline (s := (s.unwind n).movedDown (s.cursor.skip (n + 1))) (n := 0)
      (r := x :: r) ?_ hrest ?_ ?_).symm
    · exact keys_unwind.trans hkeys
    · rintro d ⟨⟩
      exact ⟨hx.isInline, hx.ne (by decide), hx.ne (by decide)⟩
    · show (s.unwind n).indent ≤ ((s.cursor.skip (n + 1)).column : Int)
      rw [hcolumn]
      exact indent_unwind_le (inFlow_eq hkeys) (by omega)
  · show (s.cursor.skip (n + 1)).rest.length ≤ s.cursor.rest.length
    rw [hrest, h]
    simp only [List.length_cons, List.length_append]
    omega

theorem AtKey.opened_indent (hs : AtKey s k) : s.opened.indent = k := by
  have hindent := hs.indent
  have hcolumn : (s.cursor.column : Int) = k := congrArg _ hs.column
  unfold opened
  split
  · exact hcolumn
  · omega

theorem keys_opened : s.opened.keys = s.keys := by
  unfold opened
  split <;> rfl

/-- In the block of its column a name starts no other one. -/
theorem AtKey.opened_eq (hs : AtKey s k) (hindent : s.indent = k) : s.opened = s := by
  have hcolumn : (s.cursor.column : Int) = k := congrArg _ hs.column
  exact if_neg (by omega)

/-- Deeper than the enclosing block a name starts one of its own. -/
theorem AtKey.opened_of_lt (hs : AtKey s k) (h : s.indent < k) :
    s.opened = { s with
      tokens := s.tokens ++ [.blockMappingStart], indent := k, outer := s.indent :: s.outer } := by
  have hcolumn : (s.cursor.column : Int) = k := congrArg _ hs.column
  rw [opened, if_pos (by omega), hcolumn]

/-- Where the next line of a block starts the scanner is in front of the next name, and what it
reads from there on comes behind what it has read. -/
theorem Behind.exists_atKey {x : Char}
    (h : Behind s ts ('\n' :: (List.replicate k ' ' ++ x :: r)) t) (hindent : s.indent = k)
    (hx : IsNameChar x) :
    ∃ u, t.Leads u ∧ u.AtKey k ∧ u.opened = u ∧ u.cursor.rest = x :: r ∧
      ∀ {ts' tail' v}, Behind u ts' tail' v → Behind s (ts ++ ts') tail' v := by
  have hsame : ((t.unwind k).movedDown (t.cursor.skip (k + 1))).indent = k := by
    rw [← hindent]
    exact h.indent
  have hkey : AtKey ((t.unwind k).movedDown (t.cursor.skip (k + 1))) k :=
    ⟨rfl, keys_unwind.trans h.keys, Cursor.column_of_lineEnd (.name hx) h.rest, Int.le_of_eq hsame⟩
  refine ⟨_, leads_nextLine h.keys h.rest hx, hkey, hkey.opened_eq hsame, ?_, ?_⟩
  · show (t.cursor.skip (k + 1)).rest = x :: r
    simp [h.rest]
  · intro ts' tail' v hbehind
    rw [← hindent] at hbehind
    exact h.append hbehind

/-- A name in front of which a block starts is read in that block, which is closed behind it. -/
theorem AtKey.closed (hs : s.AtKey k) (hdeeper : s.indent < k) (houtside : -1 ≤ s.indent)
    (h : s.opened.Behind ts tail t) :
    s.Behind (.blockMappingStart :: (ts ++ [.blockEnd])) tail t := by
  rw [hs.opened_of_lt hdeeper] at h
  exact h.closed rfl rfl rfl hdeeper houtside

/-- The value of an entry on the next line is a block of its own. -/
theorem AtValue.exists_atKey {x : Char} (hs : s.AtValue k) (hx : IsNameChar x)
    (h : s.cursor.rest = '\n' :: (List.replicate (k + 2) ' ' ++ x :: r)) :
    ∃ u, s.Leads u ∧ u.AtKey (k + 2) ∧ u.cursor.rest = x :: r ∧
      ∀ {ts tail t}, u.opened.Behind ts tail t →
        s.Behind (.blockMappingStart :: (ts ++ [.blockEnd])) tail t := by
  have hindent := hs.indent
  have hdown := leads_nextLine hs.keys h hx
  rw [unwind_of_le (inFlow_eq hs.keys) (by omega)] at hdown
  have hkey : (s.movedDown (s.cursor.skip (k + 2 + 1))).AtKey (k + 2) := by
    refine ⟨rfl, hs.keys, Cursor.column_of_lineEnd (.name hx) h, ?_⟩
    show s.indent ≤ _
    omega
  refine ⟨_, hdown, hkey, by simp [movedDown, h], ?_⟩
  intro ts tail t hbehind
  have hdeeper : s.indent < ((k + 2 : Nat) : Int) := by omega
  have hclosed := hkey.closed hdeeper (show -1 ≤ s.indent by omega) hbehind
  exact ⟨hclosed.rest, hclosed.keys, hclosed.tokens, hclosed.indent, hclosed.outer⟩

theorem AtKey.atValue {name : List Char} (hs : AtKey s k) (hname : IsName name)
    (h : s.cursor.rest = name ++ ':' :: r) :
    (s.behindName name).AtValue k ∧ (s.behindName name).cursor.rest = r := by
  have hinline : AllInline (name ++ [':']) := by
    refine AllInline.append (fun c hc => (hname.chars c hc).isInline) ?_
    intro c hc
    obtain rfl := List.mem_singleton.1 hc
    decide
  have hskip := Cursor.skip_inline (c := s.cursor) (w := name ++ [':']) (r := r) (by simp [h])
    hinline
  have hlength : (name ++ [':']).length = name.length + 1 := by simp
  rw [hlength] at hskip
  refine ⟨⟨rfl, keys_opened.trans hs.keys, hs.opened_indent, ?_⟩, ?_⟩
  · show k < (s.cursor.skip (name.length + 1)).column
    rw [hskip, hs.column]
    simp only
    omega
  · show (s.cursor.skip (name.length + 1)).rest = r
    rw [hskip]

end Scan

/-! ## Reading blocks -/

section Blocks

variable {s : Scan} {v : Datum} {key : String} {tail : List Char} {k n column : Nat}

/-- A value at an indentation is read as its tokens, whatever was read before. -/
def ReadsValue (k : Nat) (v : Datum) : Prop :=
  ∀ (s : Scan) (column n : Nat) (tail : List Char), s.AtValue k → LineEnd n tail → n ≤ k →
    s.cursor.rest = writeEntryValue k column v ++ tail →
      ∃ t, s.Leads t ∧ s.Behind (tokensOf v) tail t

theorem writeScalar_text (key : Bool) (s : String) :
    writeScalar key k column (.text s) = writeText key k column s := rfl

theorem writeEntryValue_text (s : String) :
    writeEntryValue k column (.text s) = ' ' :: writeText false (k + 2) (column + 1) s := by
  rw [writeEntryValue, writeScalar_text] <;> simp

theorem writeEntryValue_flag (b : Bool) :
    writeEntryValue k column (.bool b) = ' ' :: (flagWord b).toList := by
  rw [writeEntryValue]
  · rfl
  all_goals simp

theorem readsValue_text (s : String) (hk : k + 2 < lineWidth) : ReadsValue k (.text s) := by
  intro t column n tail ht htail hn h
  rw [writeEntryValue_text] at h
  obtain ⟨c', hc', hleads⟩ := leads_text ht hk htail hn h
  refine ⟨_, hleads, ?_⟩
  have hbehind := Scan.behind_behindScalar s.toList (isPlain s) ht.keys hc'
  simpa [tokensOf] using hbehind

theorem readsValue_flag (b : Bool) : ReadsValue k (.bool b) := by
  intro s column n tail hs htail hn h
  have hname : IsName (flagWord b).toList := by
    cases b <;> decide
  have hwritten : writePlainRuns true (k + 2) column [(.word, (flagWord b).toList)] =
      (flagWord b).toList := by
    simp [writePlainRuns]
  obtain ⟨x, r, hx, hopening, -⟩ := hname.exists_opening tail
  rw [writeEntryValue_flag, List.cons_append, ← hwritten] at h
  obtain ⟨c', hc', hleads⟩ := Scan.leads_plain hs (.word hname.solid) htail hn h
    (by rw [hwritten]; exact hx) hopening
  refine ⟨_, hleads, ?_⟩
  have hbehind := Scan.behind_behindScalar (flagWord b).toList true hs.keys hc'
  simpa [tokensOf] using hbehind

/-- An entry is read as a key and a value, in the block of its column. -/
theorem leads_entry (hs : s.AtKey k) (hkey : IsName key.toList) (hv : ReadsValue k v)
    (htail : LineEnd n tail) (hn : n ≤ k)
    (hspace : ∃ x u, writeEntryValue k column v = x :: u ∧ isSpace x = true)
    (h : s.cursor.rest = key.toList ++ ':' :: (writeEntryValue k column v ++ tail)) :
    ∃ t, s.Leads t ∧ s.opened.Behind (.key :: .scalar key true :: .value :: tokensOf v) tail t := by
  obtain ⟨x, u, hx, hspace⟩ := hspace
  obtain ⟨hvalue, hrest⟩ := hs.atValue hkey h
  have hindent : s.indent ≤ s.cursor.column := by
    have hcolumn : (s.cursor.column : Int) = k := congrArg _ hs.column
    rw [hcolumn]
    exact hs.indent
  have hname := Scan.leads_name hkey h (by rw [hx]; exact hspace) hs.keyAllowed hs.keys hindent
  obtain ⟨t, hleads, hbehind⟩ := hv _ _ _ _ hvalue htail hn hrest
  refine ⟨t, hname.trans hleads, hbehind.rest, hbehind.keys, ?_, hbehind.indent, hbehind.outer⟩
  have htokens := hbehind.tokens
  simpa [Scan.behindName] using htokens

theorem writePlainRuns_unsplit (rs : List (RunKind × List Char)) :
    writePlainRuns false k column rs = rs.flatMap Prod.snd := by
  induction rs generalizing column with
  | nil => rfl
  | cons run rs ih => simp [writePlainRuns, ih]

/-- A name is written as it is. -/
theorem writeScalar_name (hplain : isPlain key = true) :
    writeScalar true k column (.text key) = key.toList := by
  rw [writeScalar_text, writeText_of_isPlain true k column hplain, writePlain]
  exact (writePlainRuns_unsplit _).trans (flatMap_runs _)

/-- Behind the colon of an entry there is a blank or a new line. -/
theorem Writable.exists_space (hv : Writable k v) (column : Nat) :
    ∃ x u, writeEntryValue k column v = x :: u ∧ isSpace x = true := by
  cases hv with
  | flag b => exact ⟨' ', _, writeEntryValue_flag b, rfl⟩
  | text s _ => exact ⟨' ', _, writeEntryValue_text s, rfl⟩
  | @mapping _ entries hnamed _ =>
    cases entries with
    | nil => exact absurd rfl hnamed.nonempty
    | cons e es => exact ⟨'\n', _, by rw [writeEntryValue, newLine, List.cons_append], rfl⟩

theorem writeEntries_singleton (hplain : isPlain key = true) :
    writeEntries k [(.text key, v)] =
      key.toList ++ ':' :: writeEntryValue k (k + (key.toList ++ [':']).length) v := by
  rw [writeEntries, writeScalar_name hplain, List.append_assoc]
  rfl

theorem writeEntries_cons {e : Datum × Datum} {rest : List (Datum × Datum)}
    (hplain : isPlain key = true) :
    writeEntries k ((.text key, v) :: e :: rest) =
      key.toList ++ ':' :: (writeEntryValue k (k + (key.toList ++ [':']).length) v ++
        (newLine k ++ writeEntries k (e :: rest))) := by
  rw [writeEntries, writeScalar_name hplain] <;> simp

/-- The first line of a block starts with a name. -/
theorem exists_name_writeEntries {e : Datum × Datum} (k : Nat) (rest : List (Datum × Datum))
    (he : HasName e) :
    ∃ x u, writeEntries k (e :: rest) = x :: u ∧ IsNameChar x := by
  obtain ⟨key, v⟩ := e
  obtain ⟨name, rfl, hname, hplain⟩ := he
  have hhead : ∀ r, ∃ x u, name.toList ++ r = x :: u ∧ IsNameChar x := by
    intro r
    cases htext : name.toList with
    | nil => exact absurd htext hname.nonempty
    | cons x u => exact ⟨x, u ++ r, rfl, hname.chars x (by simp [htext])⟩
  cases rest with
  | nil => rw [writeEntries_singleton hplain]; exact hhead _
  | cons e rest => rw [writeEntries_cons hplain]; exact hhead _

/-- The entries of a mapping are read one after the other, each on lines of its own. -/
theorem leads_entries {entries : List (Datum × Datum)} (hs : s.AtKey k) (hne : entries ≠ [])
    (hnames : ∀ e ∈ entries, HasName e)
    (hwritable : ∀ e ∈ entries, Writable k e.2) (hvalues : ∀ e ∈ entries, ReadsValue k e.2)
    (htail : LineEnd n tail) (hn : n ≤ k)
    (h : s.cursor.rest = writeEntries k entries ++ tail) :
    ∃ t, s.Leads t ∧ s.opened.Behind (entryTokens entries) tail t := by
  induction entries generalizing s with
  | nil => exact absurd rfl hne
  | cons e rest ih =>
    obtain ⟨key, v⟩ := e
    obtain ⟨⟨name, rfl, hname, hplain⟩, hothers⟩ := List.forall_mem_cons.1 hnames
    obtain ⟨hv, hwritable⟩ := List.forall_mem_cons.1 hwritable
    obtain ⟨hreads, hvalues⟩ := List.forall_mem_cons.1 hvalues
    have htokens : tokensOf (.text name) = [.scalar name true] := by rw [tokensOf, hplain]
    cases rest with
    | nil =>
      rw [writeEntries_singleton hplain, List.append_assoc] at h
      obtain ⟨t, hleads, hbehind⟩ := leads_entry hs hname hreads htail hn (hv.exists_space _) h
      exact ⟨t, hleads, by simpa [entryTokens, htokens] using hbehind⟩
    | cons next rest =>
      -- behind the first entry its line ends, and the next line starts with a name
      obtain ⟨x, r, hnext, hx⟩ := exists_name_writeEntries k rest (hothers next List.mem_cons_self)
      rw [writeEntries_cons hplain, hnext, newLine] at h
      obtain ⟨t, hleads, hbehind⟩ := leads_entry hs hname hreads (.name hx) (le_refl k)
        (hv.exists_space _) (by simpa using h)
      obtain ⟨u, hdown, hkey, hopened, hrest, happend⟩ := hbehind.exists_atKey hs.opened_indent hx
      obtain ⟨last, hleads', hbehind'⟩ := ih hkey (List.cons_ne_nil _ _) hothers hwritable hvalues
        (by rw [hrest, hnext, List.cons_append])
      rw [hopened] at hbehind'
      refine ⟨last, (hleads.trans hdown).trans hleads', ?_⟩
      simpa [entryTokens, htokens] using happend hbehind'

/-- A mapping as a value starts a block of its own on the next line. -/
theorem readsValue_mapping {entries : List (Datum × Datum)} (hnamed : Named entries)
    (hwritable : ∀ e ∈ entries, Writable (k + 2) e.2)
    (hvalues : ∀ e ∈ entries, ReadsValue (k + 2) e.2) : ReadsValue k (.dict entries) := by
  intro s column n tail hs htail hn h
  obtain ⟨hnonempty, hnames, -⟩ := hnamed
  cases entries with
  | nil => exact absurd rfl hnonempty
  | cons e rest =>
    obtain ⟨x, r, hnext, hx⟩ := exists_name_writeEntries (k + 2) rest (hnames e List.mem_cons_self)
    rw [writeEntryValue, hnext, newLine] at h
    obtain ⟨u, hdown, hkey, hrest, hblock⟩ := hs.exists_atKey (r := r ++ tail) hx (by simpa using h)
    obtain ⟨t, hleads, hbehind⟩ := leads_entries hkey (List.cons_ne_nil _ _) hnames hwritable
      hvalues htail (show n ≤ k + 2 by omega) (by rw [hrest, hnext, List.cons_append])
    exact ⟨t, hdown.trans hleads, hblock hbehind⟩

/-- **Every writable value is read as its tokens.** -/
theorem Writable.readsValue (hv : Writable k v) : ReadsValue k v := by
  induction hv with
  | flag b => exact readsValue_flag b
  | text s hk => exact readsValue_text s hk
  | mapping hnamed hwritable ih => exact readsValue_mapping hnamed hwritable ih

theorem all_newLine : (newLine k).all isAllowed = true := by
  rw [newLine, List.all_cons, (allInline_blanks k).isAllowed]
  rfl

theorem all_writeEntries {entries : List (Datum × Datum)}
    (hnames : ∀ e ∈ entries, HasName e)
    (hvalues : ∀ e ∈ entries, ∀ column, (writeEntryValue k column e.2).all isAllowed = true) :
    (writeEntries k entries).all isAllowed = true := by
  have hcolon : isAllowed ':' = true := rfl
  induction entries with
  | nil => rfl
  | cons e rest ih =>
    obtain ⟨key, v⟩ := e
    obtain ⟨⟨name, rfl, hname, hplain⟩, hothers⟩ := List.forall_mem_cons.1 hnames
    obtain ⟨hv, hvalues⟩ := List.forall_mem_cons.1 hvalues
    have hkey : name.toList.all isAllowed = true :=
      AllInline.isAllowed fun c hc => (hname.chars c hc).isInline
    cases rest with
    | nil =>
      rw [writeEntries_singleton hplain, List.all_append, List.all_cons, hkey, hcolon, hv]
      rfl
    | cons next rest =>
      rw [writeEntries_cons hplain, List.all_append, List.all_cons, List.all_append,
        List.all_append, hkey, hcolon, hv, all_newLine, ih hothers hvalues]
      rfl

/-- What is written for a value may stand in a document. -/
theorem Writable.isAllowed (hv : Writable k v) :
    (writeEntryValue k column v).all Yaml.isAllowed = true := by
  induction hv generalizing column with
  | flag b =>
    rw [writeEntryValue_flag]
    cases b <;> rfl
  | text s hk =>
    rw [writeEntryValue_text, List.all_cons, isAllowed_writeText hk]
    rfl
  | @mapping k entries hnamed _ ih =>
    cases entries with
    | nil => exact absurd rfl hnamed.nonempty
    | cons e rest =>
      rw [writeEntryValue, List.all_append, all_newLine,
        all_writeEntries hnamed.names fun e he column => ih e he]
      rfl

end Blocks

/-! ## Documents -/

/-- Where the last line ends, the scanner closes all blocks and stops. -/
theorem Scan.toEnd_last {s t : Scan} {ts : List Token} (h : s.Behind ts ['\n'] t)
    (hs : s.indent = -1) (fuel : Nat) :
    ∃ u, toEnd (fuel + 1) t = some u ∧ u.tokens = s.tokens ++ ts := by
  have hlast : LineEnd 0 ['\n'] := .last
  have hsettle := settle_lineEnd h.keys h.rest hlast
  have hflow : inFlow (t.movedDown (t.cursor.skip 1)) = false := inFlow_eq h.keys
  refine ⟨(t.movedDown (t.cursor.skip 1)).unwind (-1), ?_, ?_⟩
  · have hend : ((t.movedDown (t.cursor.skip 1)).unwind (0 : Nat)).cursor.rest.isEmpty = true := by
      rw [cursor_unwind]
      show (t.cursor.skip 1).rest.isEmpty = true
      simp [h.rest]
    have hkeys : (t.movedDown (t.cursor.skip 1)).keys = [none] := h.keys
    rw [toEnd_succ, hsettle, Option.bind_some, if_pos hend,
      unwind_unwind hflow (Int.le_refl _) (by decide)]
    simp [dropKey, hkeys]
  · rw [movedDown_unwind]
    have htokens := h.tokens
    rw [hs] at htokens
    exact htokens

/-- The scanner in front of a text. -/
def Scan.start (text : List Char) : Scan := { cursor := { rest := text } }

theorem Scan.atKey_start (text : List Char) : (start text).AtKey 0 where
  keyAllowed := rfl
  keys := rfl
  column := rfl
  indent := by
    show (-1 : Int) ≤ 0
    decide

theorem write_dict {entries : List (Datum × Datum)} (hne : entries ≠ []) :
    (write (.dict entries)).toList = writeEntries 0 entries ++ ['\n'] := by
  cases entries with
  | nil => exact absurd rfl hne
  | cons e rest => simp [write, writeItem]

/-- **The tokens of a written mapping are those of the mapping.** -/
theorem tokenize_write {entries : List (Datum × Datum)} (hnamed : Named entries)
    (hwritable : ∀ e ∈ entries, Writable 0 e.2) :
    tokenize (write (.dict entries)) = some (tokensOf (.dict entries)) := by
  have hwritten := write_dict hnamed.nonempty
  have hallowed : (write (.dict entries)).toList.all isAllowed = true := by
    rw [hwritten, List.all_append,
      all_writeEntries hnamed.names fun e he column => (hwritable e he).isAllowed]
    rfl
  have hkey := Scan.atKey_start (write (.dict entries)).toList
  obtain ⟨t, ⟨steps, hsteps, hleads⟩, hbehind⟩ := leads_entries hkey hnamed.nonempty hnamed.names
    hwritable (fun e he => (hwritable e he).readsValue) .last (le_refl 0) hwritten
  have houtside : (Scan.start (write (.dict entries)).toList).indent = -1 := rfl
  have hclosed := hkey.closed (by rw [houtside]; decide) (Int.le_of_eq houtside.symm) hbehind
  -- a step takes at least one character, so the count of characters is enough
  obtain ⟨fuel, hfuel⟩ : ∃ fuel, (write (.dict entries)).length + 2 = fuel + 1 + steps := by
    have hlength : (Scan.start (write (.dict entries)).toList).cursor.rest.length =
        (write (.dict entries)).length := String.length_toList
    refine ⟨(write (.dict entries)).length + 1 - steps, ?_⟩
    omega
  obtain ⟨u, hend, htokens⟩ := Scan.toEnd_last hclosed rfl fuel
  have hscan : Scan.toEnd ((write (.dict entries)).length + 2)
      (Scan.start (write (.dict entries)).toList) = some u := by
    rw [hfuel, hleads, hend]
  rw [tokenize, if_pos hallowed]
  refine (congrArg (Option.map Scan.tokens) hscan).trans ?_
  rw [Option.map_some, htokens, tokensOf]
  rfl

end ShapeFlow.Yaml
