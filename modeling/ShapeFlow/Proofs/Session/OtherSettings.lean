import ShapeFlow.Proofs.Session.Ending
import ShapeFlow.Proofs.Pass.Leniency

/-!
# Answers under other settings

A session that answers shapes under some settings answers the same shapes, with the same store,
under all settings whose policy lets as much pass (`Session.answer_of_other_settings`). Neither the
order check nor the log can stop it: a pass that gives shapes ran over an ordered graph, and every
id in its store has a name, provided that the graph inputs have rows in the value table.
-/

set_option autoImplicit false

namespace ShapeFlow

/-! ## Showing a store -/

namespace Store

variable {names : Naming}

theorem lines_of_named {entries : List (ValueId × Meta)}
    (h : ∀ entry ∈ entries, ∃ name, names entry.1 = .ok name) :
    ∃ shown, lines names entries = .ok shown := by
  induction entries with
  | nil => exact ⟨[], rfl⟩
  | cons entry rest ih =>
    obtain ⟨id, m⟩ := entry
    obtain ⟨name, hname⟩ := h (id, m) List.mem_cons_self
    obtain ⟨more, hmore⟩ := ih fun e he => h e (List.mem_cons_of_mem _ he)
    refine ⟨line name m :: more, ?_⟩
    rw [lines, hname, hmore]
    rfl

/-- A store can be shown if all ids in it have a name. -/
theorem text_of_named {s : Store} (h : ∀ id ∈ s.ids, ∃ name, names id = .ok name) :
    ∃ text, s.text names = .ok text := by
  obtain ⟨shown, hshown⟩ := lines_of_named fun entry hentry =>
    h entry.1 (List.mem_map_of_mem hentry)
  exact ⟨_, by rw [text, hshown]; rfl⟩

end Store

open ShapeFlow.Graph

variable {g : Graph} {settings settings' : PassSettings} {xs : List Datum} {shapes : List Shape}

/-- Behind the last node the store can be shown if the graph inputs have rows. -/
theorem Graph.Reached.text {t : Store} (h : g.Reached settings xs g.nodes.length t)
    (hrows : ∀ id ∈ g.inputs, g.HasRow id) : ∃ text, t.text g.nameOf = .ok text := by
  apply Store.text_of_named
  intro id hid
  rw [h.ids] at hid
  rcases List.mem_append.1 hid with hinput | hresult
  · exact nameOf_of_hasRow (hrows id hinput)
  · exact nameOf_of_hasRow (h.rows id hresult)

/-- **Settings do not change a successful answer.** The order check accepts every graph over which a
session answers shapes, whether it was asked for or not. If the graph inputs have rows, each policy
that lets as much pass leads to the same answer and the same store, and the order check and the log
may be switched on or off. -/
theorem Session.answer_of_other_settings
    (h : (Session.new g xs settings).run.1 = .answered (.ok shapes)) :
    g.checkOrder = .ok () ∧
      ((∀ id ∈ g.inputs, g.HasRow id) →
        ∀ settings' : PassSettings, settings.unknownConstants.le settings'.unknownConstants →
          (Session.new g xs settings').run.1 = .answered (.ok shapes) ∧
            (Session.new g xs settings').storeAfter = (Session.new g xs settings).storeAfter) := by
  obtain ⟨q, hpass, hstore⟩ := pass_of_answered h
  have hordered := ordered_of_run_pass hpass
  refine ⟨checkOrder_of_ordered hordered, fun hrows settings' hle => ?_⟩
  have hpass' := extends_pass hordered hle _ _ _ hpass
  obtain ⟨hto, -⟩ := run_pass_eq_ok hpass
  have htext := (reached_of_passTo hto).text hrows
  rw [hstore]
  exact answered_of_pass hpass' fun _ => htext

/-- A tensor is doubled. -/
def Graph.doubled : Graph where
  values :=
    [{ id := 0, name := "x" }, { id := 1, name := "two", type := .int }, { id := 2, name := "y" }]
  nodes :=
    [{ kind := "prim::Constant", outputs := [1], attributes := [("value", .int 2)] },
     { kind := "aten::mul", inputs := [0, 1], outputs := [2] }]
  inputs := [0]
  outputs := [2]

theorem doubled_under_other_settings :
    (Session.new doubled [.tensor [5, 7]] {}).run.1 = .answered (.ok [[5, 7]]) ∧
      (Session.new doubled [.tensor [5, 7]] ⟨true, .empty, true⟩).run.1 =
        .answered (.ok [[5, 7]]) ∧
      (Session.new doubled [.tensor [5, 7]] ⟨true, .empty, true⟩).storeAfter =
        (Session.new doubled [.tensor [5, 7]] {}).storeAfter := by
  have hrun : (Session.new doubled [.tensor [5, 7]] {}).run.1 = .answered (.ok [[5, 7]]) := rfl
  obtain ⟨-, hother⟩ := Session.answer_of_other_settings hrun
  have hrows : ∀ id ∈ doubled.inputs, doubled.HasRow id := by
    intro id hid
    obtain rfl := List.mem_singleton.1 hid
    exact ⟨by decide, by decide⟩
  exact ⟨hrun, hother hrows ⟨true, .empty, true⟩ (Or.inr rfl)⟩

/-! The condition on graph inputs is needed: one without a row can be answered, but not logged. -/

example : (Session.new { inputs := [7], outputs := [7] } [.tensor [3]] {}).run.1 =
    .answered (.ok [[3]]) := rfl

example :
    (Session.new { inputs := [7], outputs := [7] } [.tensor [3]] ⟨false, .refuse, true⟩).run.1 =
      .raised (.fault .indexOutOfRange) := rfl

end ShapeFlow
