import ShapeFlow.Session
import ShapeFlow.Proofs.Pass.Phases

/-!
# What steps of a pass keep

A step keeps a property of the store if the property holds behind it whenever it held before,
however the step ends (`Pass.Keeps`). Steps that keep a property may be composed, so what the parts
of a pass keep is kept by the whole.

The properties of interest say that a store holds certain entries and has only certain records
behind them (`Store.Extends`). A step of a node keeps such a property if its rule gives no other
records (`Graph.keeps_step`), and binding inputs keeps it if the inputs have no other ones
(`Pass.keeps_bindFrom`).
-/

set_option autoImplicit false

namespace ShapeFlow

/-- A store has certain entries in front, and behind them only records that a predicate admits. -/
def Store.Extends (base : List (ValueId × Meta)) (P : Meta → Prop) (s : Store) : Prop :=
  ∃ added, s.entries = base ++ added ∧ ∀ entry ∈ added, P entry.2

/-- A step keeps a property of the store, also where it fails, and it gives only values that a
predicate admits. -/
def Pass.Keeps {α : Type} (I : Store → Prop) (Q : α → Prop) (step : Pass α) : Prop :=
  ∀ p, I p.store → I (step.runFrom p).2.store ∧ GivesOnly Q (step.runFrom p).1

namespace Store

variable {base : List (ValueId × Meta)} {P : Meta → Prop} {s : Store}

theorem extends_self (P : Meta → Prop) (s : Store) : s.Extends s.entries P :=
  ⟨[], (List.append_nil _).symm, fun _ h => nomatch h⟩

theorem extends_nil_iff : s.Extends [] P ↔ ∀ entry ∈ s.entries, P entry.2 := by
  constructor
  · rintro ⟨added, hs, hadded⟩
    rw [hs]
    exact hadded
  · intro h
    exact ⟨s.entries, rfl, h⟩

theorem Extends.insert (hs : s.Extends base P) {id : ValueId} {m : Meta} (h : id ∉ s.ids)
    (hm : P m) : (s.insert id m h).Extends base P := by
  obtain ⟨added, hentries, hadded⟩ := hs
  refine ⟨added ++ [(id, m)], ?_, ?_⟩
  · rw [entries_insert, hentries, List.append_assoc]
  · intro entry hentry
    rcases List.mem_append.1 hentry with hold | hnew
    · exact hadded entry hold
    · rw [List.mem_singleton.1 hnew]
      exact hm

end Store

namespace Pass

variable {α β : Type} {I : Store → Prop} {Q : α → Prop} {R : β → Prop}

/-- What a step keeps holds of the store that it leaves behind. -/
theorem Keeps.leaves {step : Pass α} {p q : Progress} {result : Except Failure α}
    (h : Keeps I Q step) (hp : I p.store) (hrun : step.runFrom p = (result, q)) : I q.store := by
  have hafter := (h p hp).1
  rw [hrun] at hafter
  exact hafter

theorem keeps_pure {a : α} (h : Q a) : Keeps I Q (pure a) :=
  fun _ hp => ⟨hp, givesOnly_ok h⟩

theorem keeps_ofExcept {r : Except Failure α} (h : GivesOnly Q r) : Keeps I Q (ofExcept r) :=
  fun _ hp => ⟨hp, h⟩

theorem keeps_ofStore {f : Store → Except Failure α} (h : ∀ s, I s → GivesOnly Q (f s)) :
    Keeps I Q (ofStore f) :=
  fun p hp => ⟨hp, h p.store hp⟩

theorem keeps_note (records : List Record) : Keeps I (fun _ => True) (note records) :=
  fun _ hp => ⟨hp, fun _ _ => trivial⟩

theorem Keeps.bind {step : Pass α} {next : α → Pass β} (hstep : Keeps I Q step)
    (hnext : ∀ a, Q a → Keeps I R (next a)) : Keeps I R (step >>= next) := by
  intro p hp
  obtain ⟨hI, hgives⟩ := hstep p hp
  rcases hrun : step.runFrom p with ⟨result, q⟩
  rw [hrun] at hI hgives
  cases result with
  | ok a =>
    rw [run_bind_ok hrun]
    exact hnext a (hgives a rfl) q hI
  | error e =>
    rw [run_bind_error hrun]
    exact ⟨hI, givesOnly_error e⟩

theorem Keeps.mapFailure {step : Pass α} (h : Keeps I Q step) (f : Failure → Failure) :
    Keeps I Q (mapFailure f step) := by
  intro p hp
  obtain ⟨hI, hgives⟩ := h p hp
  unfold runFrom at hI hgives ⊢
  unfold Pass.mapFailure
  generalize step p = outcome at hI hgives ⊢
  obtain ⟨result, q⟩ := outcome
  cases result with
  | ok a => exact ⟨hI, hgives⟩
  | error e => exact ⟨hI, givesOnly_error (f e)⟩

/-! ## Stores that grow by certain records -/

variable {base : List (ValueId × Meta)} {P : Meta → Prop} {names : Naming}

theorem keeps_write (id : ValueId) {m : Meta} (hm : P m) :
    Keeps (Store.Extends base P) (fun _ => True) (write names id m) := by
  intro p hp
  by_cases hid : id ∈ p.store.ids
  · rw [run_write_of_mem m hid]
    exact ⟨hp, givesOnly_error _⟩
  · rw [run_write_of_not_mem m hid]
    exact ⟨hp.insert hid hm, fun _ _ => trivial⟩

/-- Records that are read are such as the store has. -/
theorem keeps_readAll (ids : List ValueId) :
    Keeps (Store.Extends [] P) (fun ms => ∀ m ∈ ms, P m) (ofStore (readAll names ids)) := by
  apply keeps_ofStore
  intro s hs ms hread m hm
  obtain ⟨hfound, -⟩ := readAll_eq_ok hread
  -- a record that was read was found under one of the ids
  have hsome : some m ∈ ids.map s.find? := hfound ▸ List.mem_map_of_mem hm
  obtain ⟨id, -, hid⟩ := List.mem_map.1 hsome
  exact Store.extends_nil_iff.1 hs (id, m) (Store.find?_eq_some_iff.1 hid)

theorem keeps_bindFrom (position : Nat) {pairs : List (ValueId × Datum)}
    (h : ∀ pair ∈ pairs, GivesOnly P pair.2.asMeta) :
    Keeps (Store.Extends base P) (fun _ => True) (bindFrom names position pairs) := by
  induction pairs generalizing position with
  | nil => exact keeps_pure trivial
  | cons pair rest ih =>
    obtain ⟨id, x⟩ := pair
    obtain ⟨hx, hrest⟩ := List.forall_mem_cons.1 h
    rw [bindFrom]
    cases hmeta : x.asMeta with
    | error i => exact keeps_ofExcept (givesOnly_error _)
    | ok m =>
      refine (keeps_write id (hx m hmeta)).bind fun _ _ => ?_
      refine (keeps_note _).bind fun _ _ => ?_
      exact (ih (position + 1) hrest).bind fun _ _ => keeps_pure trivial

theorem keeps_bindInputs {ids : List ValueId} {xs : List Datum}
    (h : ∀ x ∈ xs, GivesOnly P x.asMeta) :
    Keeps (Store.Extends base P) (fun _ => True) (bindInputs names ids xs) := by
  unfold bindInputs
  split_ifs
  · exact keeps_bindFrom 0 fun pair hpair => h pair.2 (List.of_mem_zip hpair).2
  · exact keeps_ofExcept (givesOnly_error _)

end Pass

namespace Graph

open Pass (Keeps)

variable {g : Graph} {settings : PassSettings} {policy : ConstantPolicy} {node : Node}
  {base : List (ValueId × Meta)} {I : Store → Prop} {P R : Meta → Prop}

theorem keeps_writeResults {pairs : List (ValueId × Meta)} (h : ∀ pair ∈ pairs, P pair.2) :
    Keeps (Store.Extends base P) (fun _ => True) (g.writeResults node pairs) := by
  induction pairs with
  | nil => exact Pass.keeps_pure trivial
  | cons pair rest ih =>
    obtain ⟨id, m⟩ := pair
    obtain ⟨hm, hrest⟩ := List.forall_mem_cons.1 h
    have hname : GivesOnly (fun _ => True) (faulted (g.nameOf id)) := fun _ _ => trivial
    rw [writeResults, writeResultsNamed]
    refine (Pass.keeps_write id hm).bind fun _ _ => ?_
    refine (Pass.keeps_ofExcept hname).bind fun _ _ => ?_
    exact (Pass.keeps_note _).bind fun _ _ => ih hrest

/-- **A step adds only records that its rule gives** for operands such as it reads. -/
theorem keeps_step
    (hread : Keeps (Store.Extends base P) (fun operands => ∀ m ∈ operands, R m)
      (Pass.ofStore (Pass.readAll g.nameOf node.inputs)))
    (hyield : ∀ operands : List Meta, (∀ m ∈ operands, R m) →
      GivesOnly (fun y : Yield => ∀ m ∈ y.metas, P m) (g.yield policy node operands)) :
    Keeps (Store.Extends base P) (fun _ => True) (g.step policy node) := by
  unfold step stepNamed
  refine hread.bind fun operands hoperands => ?_
  refine (Pass.keeps_ofExcept (hyield operands hoperands)).bind fun y hy => ?_
  refine (Pass.keeps_note _).bind fun _ _ => ?_
  exact keeps_writeResults fun pair hpair => hy pair.2 (List.of_mem_zip hpair).2

theorem keeps_runNodes (index : Nat) {nodes : List Node}
    (h : ∀ node ∈ nodes, Keeps I (fun _ => True) (g.step policy node)) :
    Keeps I (fun _ => True) (g.runNodes policy index nodes) := by
  induction nodes generalizing index with
  | nil => exact Pass.keeps_pure trivial
  | cons node rest ih =>
    obtain ⟨hnode, hrest⟩ := List.forall_mem_cons.1 h
    exact (hnode.mapFailure _).bind fun _ _ => ih (index + 1) hrest

/-- The pass up to a node keeps what binding the inputs and the steps before the node keep. -/
theorem keeps_passTo {xs : List Datum} (k : Nat)
    (hinputs : Keeps I (fun _ => True) (Pass.bindInputs g.nameOf g.inputs xs))
    (hnodes : ∀ node ∈ g.nodes,
      Keeps I (fun _ => True) (g.step settings.unknownConstants node)) :
    Keeps I (fun _ => True) (g.passTo settings xs k) := by
  have hchecks : GivesOnly (fun _ => True) (g.precheck settings xs) := fun _ _ => trivial
  have hopening : Keeps I (fun _ => True) (g.opening settings xs) := by
    unfold opening
    refine (Pass.keeps_ofExcept hchecks).bind fun _ _ => ?_
    refine (Pass.keeps_note _).bind fun _ _ => ?_
    exact hinputs.bind fun _ _ => Pass.keeps_pure trivial
  exact hopening.bind fun _ _ =>
    keeps_runNodes 0 fun node hnode => hnodes node (List.mem_of_mem_take hnode)

end Graph

end ShapeFlow
