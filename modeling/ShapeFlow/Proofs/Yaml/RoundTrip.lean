import ShapeFlow.Proofs.Yaml.Blocks
import ShapeFlow.Yaml.Document

/-!
# Written mappings are read back

The tokens of a writable value are parsed into the node of that value (`nodeOf`), whatever tokens
come behind them (`parses_of_writable`), and the value of this node is the value itself
(`valueOf_nodeOf`): a text that is written plainly is of no other kind, and no name of an entry asks
for a merge. Together with `tokenize_write` this gives `read?_write`: a mapping of names to flags,
texts and such mappings is read from what is written for it, whatever its texts are.
-/

set_option autoImplicit false

namespace ShapeFlow

/-! ## Mappings of pairs -/

namespace Datum

theorem sameKey_text (s t : String) : sameKey (.text s) (.text t) = (s == t) := rfl

/-- A name that is not there is set at the end. -/
theorem setKey_of_not_mem {entries : List (Datum × Datum)} {name : String} {value : Datum}
    (hnames : ∀ e ∈ entries, ∃ key, e.1 = .text key)
    (h : .text name ∉ entries.map Prod.fst) :
    setKey (.text name) value entries = entries ++ [(.text name, value)] := by
  induction entries with
  | nil => rfl
  | cons e rest ih =>
    obtain ⟨key, v⟩ := e
    obtain ⟨⟨other, rfl⟩, hothers⟩ := List.forall_mem_cons.1 hnames
    rw [List.map_cons, List.mem_cons, not_or] at h
    have hother : sameKey (.text other) (.text name) = false := by
      rw [sameKey_text, beq_eq_false_iff_ne]
      rintro rfl
      exact h.1 rfl
    rw [setKey, hother, if_neg Bool.false_ne_true, ih hothers h.2]
    rfl

theorem foldl_setKey {before pairs : List (Datum × Datum)}
    (hnames : ∀ e ∈ before ++ pairs, ∃ key, e.1 = .text key)
    (hdistinct : ((before ++ pairs).map Prod.fst).Nodup) :
    pairs.foldl (fun entries pair => setKey pair.1 pair.2 entries) before = before ++ pairs := by
  induction pairs generalizing before with
  | nil => simp
  | cons e rest ih =>
    obtain ⟨key, v⟩ := e
    obtain ⟨name, rfl⟩ : ∃ name, key = .text name := hnames (key, v) (by simp)
    have hnew : Datum.text name ∉ before.map Prod.fst := by
      rw [List.map_append, List.map_cons] at hdistinct
      exact fun hmem => (List.nodup_append.1 hdistinct).2.2 _ hmem _ List.mem_cons_self rfl
    have hnext : before ++ (.text name, v) :: rest = before ++ [(.text name, v)] ++ rest := by simp
    rw [hnext] at hnames hdistinct ⊢
    rw [List.foldl_cons, setKey_of_not_mem (fun e he => hnames e (by simp [he])) hnew]
    exact ih hnames hdistinct

/-- The mapping of pairs of distinct names has just these pairs as its entries. -/
theorem dictOf_of_nodup {pairs : List (Datum × Datum)}
    (hnames : ∀ e ∈ pairs, ∃ key, e.1 = .text key) (hdistinct : (pairs.map Prod.fst).Nodup) :
    dictOf pairs = .dict pairs :=
  congrArg Datum.dict (foldl_setKey hnames hdistinct)

end Datum

namespace Yaml

/-! ## Nodes -/

mutual

/-- The node of a value. -/
def nodeOf : Datum → Node
  | .bool b => .scalar none (flagWord b) true
  | .text s => .scalar none s (isPlain s)
  | .dict entries => .mapping none (entryNodes entries)
  | _ => .empty

/-- The nodes of the entries of a mapping. -/
def entryNodes : List (Datum × Datum) → List (Node × Node)
  | [] => []
  | (key, value) :: rest => (nodeOf key, nodeOf value) :: entryNodes rest

end

namespace Node

variable {fuel : Nat} {bare : Bool} {anchors : Anchors} {rest : List Token} {v : Datum}

/-- From the tokens of a value its node is read, with three steps for each token. -/
def Parses (v : Datum) : Prop :=
  ∀ (bare : Bool) (fuel : Nat) (rest : List Token) (anchors : Anchors),
    3 * (tokensOf v).length ≤ fuel →
      parse true bare fuel (tokensOf v ++ rest) anchors = some (nodeOf v, rest, anchors)

theorem parse_scalar (text : String) (plain : Bool) (fuel : Nat) :
    parse true bare (fuel + 2) (.scalar text plain :: rest) anchors =
      some (scalar none text plain, rest, anchors) := by
  simp [parse, properties, content, define]

theorem parse_mapping {entries : List (Node × Node)} {ts : List Token}
    (h : blockEntries fuel ts anchors = some (entries, rest, anchors)) :
    parse true bare (fuel + 2) (.blockMappingStart :: ts) anchors =
      some (mapping none entries, rest, anchors) := by
  simp [parse, properties, content, define, h]

/-- Where a part of an entry in a block is left out. -/
def entryGap (t : Token) : Bool := t == .key || t == .value || t == .blockEnd

theorem optional_of_parse {gap : Token → Bool} {ts : List Token} {node : Node}
    (hgap : nextIs gap ts = false)
    (h : parse true bare fuel ts anchors = some (node, rest, anchors)) :
    optional true bare gap (fuel + 1) ts anchors = some (node, rest, anchors) := by
  simp [optional, hgap, h]

theorem blockEntries_end (fuel : Nat) :
    blockEntries (fuel + 1) (.blockEnd :: rest) anchors = some ([], rest, anchors) := by
  simp [blockEntries]

theorem blockEntries_entry {key value : Node} {entries : List (Node × Node)}
    {ts ts' ts'' : List Token}
    (hkey : optional true true entryGap (fuel + 1) ts anchors =
      some (key, .value :: ts', anchors))
    (hvalue : optional true true entryGap fuel ts' anchors = some (value, ts'', anchors))
    (hentries : blockEntries (fuel + 1) ts'' anchors = some (entries, rest, anchors)) :
    blockEntries (fuel + 2) (.key :: ts) anchors =
      some ((key, value) :: entries, rest, anchors) := by
  unfold entryGap at hkey hvalue
  rw [blockEntries]
  simp only [hkey, Option.bind_eq_bind, Option.bind_some, entryValue, hvalue, hentries]
  rfl

/-- What stands for a writable value is no gap. -/
theorem nextIs_entryGap_tokensOf {k : Nat} (hv : Writable k v) :
    nextIs entryGap (tokensOf v ++ rest) = false := by
  cases hv <;> simp [tokensOf, nextIs, entryGap]

/-- The entries of a mapping are read up to its end. -/
theorem blockEntries_entryTokens {k : Nat} {entries : List (Datum × Datum)}
    (hnames : ∀ e ∈ entries, HasName e)
    (hwritable : ∀ e ∈ entries, Writable k e.2) (hvalues : ∀ e ∈ entries, Parses e.2)
    (hfuel : 3 * (entryTokens entries).length + 1 ≤ fuel) :
    blockEntries fuel (entryTokens entries ++ .blockEnd :: rest) anchors =
      some (entryNodes entries, rest, anchors) := by
  induction entries generalizing fuel with
  | nil =>
    obtain ⟨fuel, rfl⟩ := Nat.exists_eq_add_of_le' hfuel
    exact blockEntries_end _
  | cons e tail ih =>
    obtain ⟨key, v⟩ := e
    obtain ⟨⟨name, rfl, -⟩, hothers⟩ := List.forall_mem_cons.1 hnames
    obtain ⟨hv, hwritable⟩ := List.forall_mem_cons.1 hwritable
    obtain ⟨hparses, hvalues⟩ := List.forall_mem_cons.1 hvalues
    have hlength : (entryTokens ((.text name, v) :: tail)).length =
        (tokensOf v).length + (entryTokens tail).length + 3 := by
      simp [entryTokens, tokensOf]
    obtain ⟨fuel, rfl⟩ : ∃ m, fuel = m + 4 := ⟨fuel - 4, by omega⟩
    have hkey : optional true true entryGap (fuel + 3) (.scalar name (isPlain name) :: .value ::
        (tokensOf v ++ (entryTokens tail ++ .blockEnd :: rest))) anchors =
          some (nodeOf (.text name), _, anchors) := optional_of_parse rfl (parse_scalar _ _ _)
    have hvalue := optional_of_parse (nextIs_entryGap_tokensOf hv)
      (hparses true (fuel + 1) (entryTokens tail ++ .blockEnd :: rest) anchors
        (show 3 * (tokensOf v).length ≤ fuel + 1 by omega))
    have hentries := ih hothers hwritable hvalues
      (show 3 * (entryTokens tail).length + 1 ≤ fuel + 3 by omega)
    have hentry := blockEntries_entry hkey hvalue hentries
    simpa [entryTokens, tokensOf, entryNodes, nodeOf] using hentry

theorem parses_mapping {k : Nat} {entries : List (Datum × Datum)} (hnamed : Named entries)
    (hwritable : ∀ e ∈ entries, Writable k e.2) (hvalues : ∀ e ∈ entries, Parses e.2) :
    Parses (.dict entries) := by
  intro bare fuel rest anchors hfuel
  have hlength : (tokensOf (.dict entries)).length = (entryTokens entries).length + 2 := by
    simp [tokensOf]
  obtain ⟨fuel, rfl⟩ : ∃ m, fuel = m + 2 := ⟨fuel - 2, by omega⟩
  have hentries : blockEntries fuel (entryTokens entries ++ .blockEnd :: rest) anchors =
      some (entryNodes entries, rest, anchors) :=
    blockEntries_entryTokens hnamed.names hwritable hvalues (by omega)
  simpa [tokensOf, nodeOf] using parse_mapping hentries

/-- **The node of a writable value is read from its tokens.** -/
theorem parses_of_writable {k : Nat} (hv : Writable k v) : Parses v := by
  induction hv with
  | flag b =>
    intro bare fuel rest anchors hfuel
    obtain ⟨fuel, rfl⟩ := Nat.exists_eq_add_of_le' hfuel
    exact parse_scalar _ _ _
  | text s _ =>
    intro bare fuel rest anchors hfuel
    obtain ⟨fuel, rfl⟩ := Nat.exists_eq_add_of_le' hfuel
    exact parse_scalar _ _ _
  | mapping hnamed hwritable ih => exact parses_mapping hnamed hwritable ih

end Node

/-! ## Values -/

theorem valueOf_text (s : String) : valueOf (nodeOf (.text s)) = some (.text s) := by
  cases hplain : isPlain s with
  | false => simp [nodeOf, valueOf, scalarValue, hplain]
  | true =>
    have hkind := kind_of_isPlain hplain
    rw [nodeOf, hplain, valueOf, scalarValue, if_pos rfl, hkind]
    rfl

theorem valueOf_flag (b : Bool) : valueOf (nodeOf (.bool b)) = some (.bool b) := by
  cases b <;> rfl

theorem isMergeKey_nodeOf {name : String} (h : isPlain name = true) :
    isMergeKey (nodeOf (.text name)) = false := by
  have hname : name ≠ "<<" := by
    rintro rfl
    exact absurd (kind_of_isPlain h) (by decide)
  rw [nodeOf, h, isMergeKey]
  simpa using hname

/-- The entries of a mapping are its own. -/
theorem entriesOf_entryNodes {entries : List (Datum × Datum)}
    (hnames : ∀ e ∈ entries, HasName e)
    (hvalues : ∀ e ∈ entries, valueOf (nodeOf e.2) = some e.2) :
    entriesOf (entryNodes entries) = some ([], entries) := by
  induction entries with
  | nil => rfl
  | cons e rest ih =>
    obtain ⟨key, v⟩ := e
    obtain ⟨⟨name, rfl, -, hplain⟩, hothers⟩ := List.forall_mem_cons.1 hnames
    obtain ⟨hv, hvalues⟩ := List.forall_mem_cons.1 hvalues
    have hkey := valueOf_text name
    have hmerge := isMergeKey_nodeOf hplain
    have hrest := ih hothers hvalues
    rw [entryNodes, entriesOf]
    simp only [hv, hrest, hmerge, Option.bind_eq_bind, Option.bind_some, if_neg Bool.false_ne_true]
    split
    case h_1 hsame =>
      obtain rfl : name = "=" := by
        rw [nodeOf] at hsame
        injection hsame
      rfl
    case h_2 =>
      rw [hkey]
      rfl

theorem valueOf_mapping {entries : List (Datum × Datum)} (hnamed : Named entries)
    (hvalues : ∀ e ∈ entries, valueOf (nodeOf e.2) = some e.2) :
    valueOf (nodeOf (.dict entries)) = some (.dict entries) := by
  have htexts : ∀ e ∈ entries, ∃ name, e.1 = .text name :=
    fun e he => (hnamed.names e he).exists_text
  rw [nodeOf, valueOf, entriesOf_entryNodes hnamed.names hvalues]
  exact congrArg some (Datum.dictOf_of_nodup htexts hnamed.distinct)

/-- **The value of a writable value's node is that value.** -/
theorem valueOf_nodeOf {k : Nat} {v : Datum} (hv : Writable k v) :
    valueOf (nodeOf v) = some v := by
  induction hv with
  | flag b => exact valueOf_flag b
  | text s _ => exact valueOf_text s
  | mapping hnamed _ ih => exact valueOf_mapping hnamed ih

/-- The one document of the tokens of a mapping is its node. -/
theorem document?_tokensOf {entries : List (Datum × Datum)}
    (h : Node.Parses (.dict entries)) :
    document? (tokensOf (.dict entries)) = some (some (nodeOf (.dict entries))) := by
  have hparse := h false (3 * (tokensOf (.dict entries)).length + 3) [] [] (Nat.le_add_right _ _)
  have hnode : Node.parse? (tokensOf (.dict entries)) = some (nodeOf (.dict entries), []) := by
    rw [List.append_nil] at hparse
    rw [Node.parse?, hparse]
    rfl
  rw [tokensOf] at hnode ⊢
  simp [document?, hnode, isFinished]

/-- **A mapping that was written is read as the same one.** -/
theorem read?_write {entries : List (Datum × Datum)} (hnamed : Named entries)
    (hwritable : ∀ e ∈ entries, Writable 0 e.2) :
    read? (write (.dict entries)) = some (.dict entries) := by
  have hdocument := document?_tokensOf (Node.parses_mapping hnamed hwritable
    fun e he => Node.parses_of_writable (hwritable e he))
  have hvalue := valueOf_mapping hnamed fun e he => valueOf_nodeOf (hwritable e he)
  rw [read?, tokenize_write hnamed hwritable]
  simp only [Option.bind_eq_bind, Option.bind_some, hdocument, hvalue]

end Yaml

end ShapeFlow
