import ShapeFlow.Proofs.Session.Ending

/-!
# The life of a session

A session may be called in any order: to run, and to show its outputs, its store or a record
(`Session.respond`, `Session.after`). No query changes what it shows, and neither does a run of a
session that has started (`Session.agrees_after`). So the first run is the only one that works:
before it there is nothing to show, and whatever it leaves behind stays, however it ended
(`Session.works_once`).
-/

set_option autoImplicit false

namespace ShapeFlow

namespace Session

/-- A call of a session. -/
inductive Call where
  | run
  | outputs
  | shapes
  | find (id : ValueId)
  | text
  | log

/-- What a call answers. -/
inductive Answer where
  | ended (ending : Ending)
  | outputs (shapes : List Shape)
  | shapes (shapes : List (ValueId × Shape))
  | found (result : Except Failure Meta)
  | text (result : Except Fault String)
  | logged (result : Except Fault Unit)

/-- The answer of a session to a call, and the session behind it. -/
def respond (s : Session) : Call → Answer × Session
  | .run => (.ended s.run.1, s.run.2)
  | .outputs => (.outputs s.outputs, s)
  | .shapes => (.shapes s.store.shapes, s)
  | .find id => (.found (s.find id), s)
  | .text => (.text s.storeText, s)
  | .log =>
    match s.logStore with
    | .ok t => (.logged (.ok ()), t)
    | .error f => (.logged (.error f), s)

/-- A session behind a sequence of calls. -/
def after (s : Session) (calls : List Call) : Session :=
  calls.foldl (fun s call => (s.respond call).2) s

variable {s t u : Session} {calls : List Call}

/-! ## Calls that change nothing -/

/-- Two sessions show the same: they differ in their logs at most. -/
structure Agrees (s t : Session) : Prop where
  store : t.store = s.store
  outputs : t.outputs = s.outputs
  started : t.started = s.started

theorem Agrees.refl (s : Session) : s.Agrees s := ⟨rfl, rfl, rfl⟩

theorem Agrees.trans (hst : s.Agrees t) (htu : t.Agrees u) : s.Agrees u where
  store := htu.store.trans hst.store
  outputs := htu.outputs.trans hst.outputs
  started := htu.started.trans hst.started

/-- A session that has started refuses to run. -/
theorem run_of_started (h : s.started = true) :
    s.run = (.answered (.err Issue.alreadyRan.failure), s) := if_pos h

/-- No query changes what a session shows, and a run does not if the session has started. -/
theorem agrees_respond {call : Call} (h : call = .run → s.started = true) :
    s.Agrees (s.respond call).2 := by
  cases call with
  | run =>
    rw [respond, run_of_started (h rfl)]
    exact .refl s
  | outputs | shapes | find id | text => exact .refl s
  | log =>
    rw [respond, logStore]
    cases s.storeText with
    | ok text => exact ⟨rfl, rfl, rfl⟩
    | error f => exact .refl s

/-- So it is with a sequence of calls that has no run in it or comes after a first run. -/
theorem agrees_after (h : .run ∈ calls → s.started = true) : s.Agrees (s.after calls) := by
  induction calls generalizing s with
  | nil => exact .refl s
  | cons call rest ih =>
    have hcall : s.Agrees (s.respond call).2 :=
      agrees_respond fun hrun => h (hrun ▸ List.mem_cons_self)
    refine hcall.trans (ih fun hrest => ?_)
    -- whether the session has started is not changed by the first call either
    rw [hcall.started]
    exact h (List.mem_cons_of_mem call hrest)

/-! ## The first run -/

theorem finish_started (s : Session) (shapes : List Shape) :
    (s.finish shapes).2.started = s.started := by
  unfold finish
  dsimp only
  split_ifs
  · unfold logStore
    cases storeText _ with
    | ok text => rfl
    | error f => rfl
  · rfl

theorem abort_keeps (s : Session) (e : Failure) :
    (s.abort e).2.started = s.started ∧ (s.abort e).2.outputs = s.outputs := by
  unfold abort
  cases e.recoverable? with
  | some r => exact ⟨rfl, rfl⟩
  | none => exact ⟨rfl, rfl⟩

/-- However a run ends, it counts. -/
theorem started_run (s : Session) : s.run.2.started = true := by
  by_cases h : s.started = true
  · rw [run_of_started h]
    exact h
  · rw [run, if_neg h]
    rcases (s.graph.pass s.settings s.inputs).runFrom s.progress with ⟨e | shapes, progress⟩
    · exact (abort_keeps _ _).1
    · exact finish_started _ _

/-- The end of a pass that failed answers no shapes. -/
theorem abort_ne_shapes (s : Session) (e : Failure) (shapes : List Shape) :
    (s.abort e).1 ≠ .answered (.ok shapes) := by
  unfold abort
  cases e.recoverable? with
  | some r => simp
  | none => simp

/-- What a first run records: the shapes that it answers, and none if it answers a failure or if a
precondition was broken. -/
theorem outputs_run (hstarted : s.started = false) (houtputs : s.outputs = []) :
    (∀ shapes, s.run.1 = .answered (.ok shapes) → s.run.2.outputs = shapes) ∧
      (∀ e, s.run.1 = .answered (.err e) → s.run.2.outputs = []) ∧
      (∀ e, s.run.1 = .raised e → e.isInvariant = true → s.run.2.outputs = []) := by
  rw [run, if_neg (by simp [hstarted])]
  rcases (s.graph.pass s.settings s.inputs).runFrom s.progress with ⟨e | found, progress⟩
  · -- the pass failed, and nothing was recorded
    have hnone := (abort_keeps { s with progress, started := true } e).2.trans houtputs
    exact ⟨fun shapes h => absurd h (abort_ne_shapes _ e shapes), fun _ _ => hnone,
      fun _ _ _ => hnone⟩
  · -- the pass gave shapes, and showing the store may still fail, with a fault
    have hfound := (finish_leaves { s with progress, started := true } found).2
    rcases finish_cases { s with progress, started := true } found with
      ⟨hend, -⟩ | ⟨f, hend, -⟩
    · refine ⟨fun shapes h => ?_, fun e h => ?_, fun e h => ?_⟩
      · cases hend.symm.trans h
        exact hfound
      · cases hend.symm.trans h
      · cases hend.symm.trans h
    · refine ⟨fun shapes h => ?_, fun e h => ?_, fun e h hinvariant => ?_⟩
      · cases hend.symm.trans h
      · cases hend.symm.trans h
      · cases hend.symm.trans h
        cases hinvariant

/-! ## Any number of calls -/

/-- What a session shows from its first run on: `first` is the session right before that run, and
`last` is the session at any later time. -/
structure WorksOnce (first last : Session) : Prop where
  unwritten : first.store = .empty
  unrecorded : (first.respond .outputs).1 = .outputs []
  store : last.store = first.run.2.store
  outputs : last.outputs = first.run.2.outputs
  refused : last.respond .run = (.ended (.answered (.err Issue.alreadyRan.failure)), last)
  answered : ∀ shapes, first.run.1 = .answered (.ok shapes) →
    (last.respond .outputs).1 = .outputs shapes
  failed : ∀ e, first.run.1 = .answered (.err e) → (last.respond .outputs).1 = .outputs []
  raised : ∀ e, first.run.1 = .raised e → e.isInvariant = true →
    (last.respond .outputs).1 = .outputs []

/-- **Only the first run works.** Whatever is asked of a new session before its first run, nothing
is in its store and no shapes are recorded. Whatever is called behind that run, however it ended,
the store and the recorded shapes stay as it left them, and each further run is refused. -/
theorem works_once (g : Graph) (xs : List Datum) (settings : PassSettings) {before : List Call}
    (h : .run ∉ before) (later : List Call) :
    WorksOnce ((new g xs settings).after before)
      (((new g xs settings).after before).run.2.after later) := by
  have hfirst : (new g xs settings).Agrees ((new g xs settings).after before) :=
    agrees_after fun hrun => absurd hrun h
  -- `first` is like a new session, and `last` is like the session behind the run
  generalize (new g xs settings).after before = first at hfirst ⊢
  have hlater : first.run.2.Agrees (first.run.2.after later) :=
    agrees_after fun _ => first.started_run
  have hstarted : (first.run.2.after later).started = true :=
    hlater.started.trans first.started_run
  generalize first.run.2.after later = last at hlater hstarted ⊢
  obtain ⟨hanswered, hfailed, hraised⟩ := outputs_run hfirst.started hfirst.outputs
  exact
    { unwritten := hfirst.store
      unrecorded := congrArg Answer.outputs hfirst.outputs
      store := hlater.store
      outputs := hlater.outputs
      refused := by rw [respond, run_of_started hstarted]
      answered := fun shapes hend =>
        congrArg Answer.outputs (hlater.outputs.trans (hanswered shapes hend))
      failed := fun e hend => congrArg Answer.outputs (hlater.outputs.trans (hfailed e hend))
      raised := fun e hend hinvariant =>
        congrArg Answer.outputs (hlater.outputs.trans (hraised e hend hinvariant)) }

end Session

/-- A tensor goes through an activation. -/
def Graph.activation : Graph where
  values := [{ id := 0, name := "x" }, { id := 1, name := "y" }]
  nodes := [{ kind := "aten::relu", inputs := [0], outputs := [1] }]
  inputs := [0]
  outputs := [1]

/-- A session is looked at, runs, logs its store and is run again: it still shows its shapes. -/
theorem activation_works_once :
    ((Session.new .activation [.tensor [2, 3]] {}).after [.shapes, .log]).run.1 =
        .answered (.ok [[2, 3]]) ∧
      (((((Session.new .activation [.tensor [2, 3]] {}).after [.shapes, .log]).run.2.after
        [.log, .run]).respond .outputs).1 = .outputs [[2, 3]]) := by
  have hbefore : Session.Call.run ∉ [Session.Call.shapes, .log] := by simp
  have hworks := Session.works_once .activation [.tensor [2, 3]] {} hbefore [.log, .run]
  have hrun : ((Session.new .activation [.tensor [2, 3]] {}).after [.shapes, .log]).run.1 =
      .answered (.ok [[2, 3]]) := by
    decide +kernel
  exact ⟨hrun, hworks.answered _ hrun⟩

end ShapeFlow
