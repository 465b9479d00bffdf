import ShapeFlow.Proofs.Pass.Phases

/-!
# What settings let pass

One step of a pass extends another if it does what the other does wherever the other gives a value
(`Pass.Extends`). A policy that lets more constants pass extends the rule of every node, and with it
every run of nodes (`Graph.extends_runNodes`). The order check stops no pass that gives shapes, so a
pass on an ordered graph is extended by the pass under all settings whose policy lets as much pass
(`Graph.extends_pass`).
-/

set_option autoImplicit false

namespace ShapeFlow

/-- A step does what another one does wherever that one gives a value. -/
def Pass.Extends {α : Type} (wide narrow : Pass α) : Prop :=
  ∀ p a q, narrow.runFrom p = (.ok a, q) → wide.runFrom p = (.ok a, q)

namespace Pass

variable {α β : Type} {wide narrow : Pass α}

theorem extends_refl (step : Pass α) : Extends step step := fun _ _ _ h => h

theorem extends_ofExcept {r r' : Except Failure α} (h : ∀ a, r = .ok a → r' = .ok a) :
    Extends (ofExcept r') (ofExcept r) := by
  intro p a q hrun
  obtain ⟨hok, rfl⟩ := Prod.mk.inj hrun
  rw [run_ofExcept, h a hok]

theorem Extends.bind {next next' : α → Pass β} (h : Extends wide narrow)
    (hnext : ∀ a, Extends (next' a) (next a)) : Extends (wide >>= next') (narrow >>= next) := by
  intro p b q hrun
  obtain ⟨a, r, hfirst, hrest⟩ := run_bind_eq_ok_iff.1 hrun
  exact run_bind_eq_ok_iff.2 ⟨a, r, h p a r hfirst, hnext a r b q hrest⟩

theorem Extends.mapFailure (f : Failure → Failure) (h : Extends wide narrow) :
    Extends (mapFailure f wide) (mapFailure f narrow) := by
  intro p a q hrun
  exact run_mapFailure_eq_ok_iff.2 (h p a q (run_mapFailure_eq_ok_iff.1 hrun))

end Pass

/-! ## Policies -/

section Policies

variable {policy policy' : ConstantPolicy}

/-- A policy that lets more pass gives the same content to each constant that passed before. -/
theorem Rule.constant_of_le (hle : policy.le policy') {node : Node} {type : DeclaredType}
    {content : List Int} (h : Rule.constant policy node type = .ok content) :
    Rule.constant policy' node type = .ok content := by
  rcases hle with rfl | rfl
  · exact h
  · cases policy with
    | empty => exact h
    | refuse =>
      cases type with
      | float | int | bool | none | tensor => exact h
      | intList | other => cases h

namespace Graph

theorem constantYield_of_le (g : Graph) (hle : policy.le policy') {node : Node} {y : Yield}
    (h : g.constantYield policy node = .ok y) : g.constantYield policy' node = .ok y := by
  unfold constantYield at h ⊢
  split at h
  · obtain ⟨value, hvalue, h⟩ := except_bind_eq_ok_iff.1 h
    obtain ⟨content, hcontent, h⟩ := except_bind_eq_ok_iff.1 h
    refine except_bind_eq_ok_iff.2 ⟨value, hvalue, ?_⟩
    exact except_bind_eq_ok_iff.2 ⟨content, Rule.constant_of_le hle hcontent, h⟩
  · cases h

/-- Only the rule of constants looks at the policy. -/
theorem yield_of_le (g : Graph) (hle : policy.le policy') {node : Node} {operands : List Meta}
    {y : Yield} (h : g.yield policy node operands = .ok y) :
    g.yield policy' node operands = .ok y := by
  unfold yield at h ⊢
  by_cases hop : node.operator = .constant
  · rw [if_pos hop] at h ⊢
    exact g.constantYield_of_le hle h
  · rw [if_neg hop] at h ⊢
    exact h

theorem extends_step (g : Graph) (hle : policy.le policy') (node : Node) :
    Pass.Extends (g.step policy' node) (g.step policy node) :=
  (Pass.extends_refl _).bind fun _ =>
    (Pass.extends_ofExcept fun _ hy => g.yield_of_le hle hy).bind fun _ => Pass.extends_refl _

/-- **A run of nodes is extended by the run under a policy that lets more pass.** -/
theorem extends_runNodes (g : Graph) (hle : policy.le policy') (index : Nat) (nodes : List Node) :
    Pass.Extends (g.runNodes policy' index nodes) (g.runNodes policy index nodes) := by
  induction nodes generalizing index with
  | nil => exact Pass.extends_refl _
  | cons node rest ih =>
    exact ((g.extends_step hle node).mapFailure _).bind fun _ => ih (index + 1)

end Graph

end Policies

/-! ## Settings -/

namespace Graph

variable {g : Graph} {settings settings' : PassSettings} {xs : List Datum} {q : Progress}
  {shapes : List Shape}

/-- A pass that gives shapes ran over an ordered graph, whether this was checked or not. -/
theorem ordered_of_run_pass (h : (g.pass settings xs).runFrom {} = (.ok shapes, q)) :
    g.Ordered := by
  obtain ⟨hto, metas, hread, -⟩ := run_pass_eq_ok h
  obtain ⟨hids, hordered⟩ := (reached_of_passTo hto).complete
  exact ⟨hordered, hids ▸ (Pass.readAll_eq_ok hread).2⟩

/-- What the checks before a pass let through under some settings, they let through under all
settings if the graph is ordered. -/
theorem precheck_of_ordered (ho : g.Ordered) (h : g.precheck settings xs = .ok ()) :
    g.precheck settings' xs = .ok () :=
  precheck_eq_ok_iff.2 ⟨(precheck_eq_ok_iff.1 h).1, fun _ => ho⟩

/-- **On an ordered graph settings matter by their policy alone.** -/
theorem extends_pass (ho : g.Ordered)
    (hle : settings.unknownConstants.le settings'.unknownConstants) :
    Pass.Extends (g.pass settings' xs) (g.pass settings xs) := by
  have hopening : Pass.Extends (g.opening settings' xs) (g.opening settings xs) :=
    (Pass.extends_ofExcept fun _ h => precheck_of_ordered ho h).bind fun _ => Pass.extends_refl _
  have hnodes := g.extends_runNodes hle 0 (g.nodes.take g.nodes.length)
  rw [pass_eq_passTo, pass_eq_passTo]
  exact (hopening.bind fun _ => hnodes).bind fun _ => Pass.extends_refl _

end Graph

end ShapeFlow
