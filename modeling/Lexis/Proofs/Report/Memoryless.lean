import Lexis.Proofs.Report.Transcript

namespace Lexis.Reporter

/-- The reporter after a list of steps. -/
def after (r : Reporter) : List Step → Checked Reporter
  | [] => return r
  | s :: steps => do
      let (_, next) ← r.step s
      next.after steps

/-- A new reporter, with the source at hand that the given steps attach last. -/
def fresh (colors : Bool) (steps : List Step) : Reporter :=
  ⟨colors, lastFile? steps⟩

namespace Transcript

variable {file : Option SourceFile} {before later steps : List Step} {layouts : List Report}

theorem exists_append (h : Transcript file (before ++ later) layouts) :
    ∃ written rest, layouts = written ++ rest ∧ Transcript file before written ∧
      Transcript ((lastFile? before).or file) later rest := by
  induction before generalizing file layouts with
  | nil => exact ⟨[], layouts, rfl, .nil, h⟩
  | cons s before ih =>
      cases h with
      | cons hlayout hrest =>
          obtain ⟨written, rest, rfl, hwritten, hlater⟩ := ih hrest
          refine ⟨_ :: written, rest, rfl, .cons hlayout hwritten, ?_⟩
          rwa [lastFile?_cons, Option.or_assoc]

theorem after_eq (h : Transcript file steps layouts) (colors : Bool) :
    (Reporter.mk colors file).after steps =
      .ok (Reporter.mk colors ((lastFile? steps).or file)) := by
  induction h with
  | nil => rfl
  | cons hlayout hrest ih =>
      simp only [after, step_eq, hlayout]
      rw [lastFile?_cons, Option.or_assoc, ← ih]
      rfl

end Transcript

theorem legible_lastFile? {steps : List Step}
    (hsize : ∀ path text, Step.attach path text ∈ steps → text.utf8ByteSize < UInt32.size - 2) :
    Report.Legible (lastFile? steps) := by
  cases hlast : lastFile? steps with
  | none => exact Report.legible_none
  | some file =>
      obtain ⟨s, hs, hfile⟩ := List.mem_filterMap.mp (List.mem_of_getLast? hlast)
      cases s with
      | report d => contradiction
      | summarize errors => contradiction
      | attach path text =>
          rw [← Option.some.inj hfile]
          exact Report.legible_ofText path (hsize path text hs)

theorem exists_writeLabels {r : Reporter} (h : Report.Legible r.file) (labels : List Label) :
    ∃ texts, List.Forall₂ (fun label text => r.writeLabel label = .ok (text, r)) labels texts ∧
      r.writeLabels labels = .ok (String.join texts, r) := by
  induction labels with
  | nil => exact ⟨[], .nil, rfl⟩
  | cons label labels ih =>
      obtain ⟨layout, hlayout⟩ := h label
      obtain ⟨texts, hlabels, htexts⟩ := ih
      have hlabel : r.writeLabel label = .ok (layout.paint r.colors, r) := by
        rw [writeLabel_eq, hlayout]
        rfl
      refine ⟨layout.paint r.colors :: texts, .cons hlabel hlabels, ?_⟩
      simp only [writeLabels, Checked.bind_eq_ok_iff]
      exact ⟨_, hlabel, _, htexts, by simp⟩

/-- Every step of a run is written as by a reporter that is made for it, with the source attached
last before it. The reporter that comes to the step is that one, and so it is again after any
labels, so that none of them is written without the source that the first one had. -/
theorem run_writes_afresh (colors : Bool) (steps : List Step)
    (hsize : ∀ path text, Step.attach path text ∈ steps → text.utf8ByteSize < UInt32.size - 2) :
    ∃ texts : List String, (Reporter.mk colors none).run steps = texts.map .ok ∧
      texts.length = steps.length ∧
      ∀ before step later, steps = before ++ step :: later →
        (Reporter.mk colors none).after before = .ok (fresh colors before) ∧
        (∃ text, texts[before.length]? = some text ∧
          (fresh colors before).run [step] = [.ok text]) ∧
        ∀ labels, ∃ shown,
          List.Forall₂ (fun label text =>
            (fresh colors before).writeLabel label = .ok (text, fresh colors before)) labels shown ∧
          (fresh colors before).writeLabels labels =
            .ok (String.join shown, fresh colors before) := by
  obtain ⟨layouts, hlayouts⟩ := exists_transcript Report.legible_none hsize
  refine ⟨layouts.map (Report.paint colors), hlayouts.run_eq colors, ?_, ?_⟩
  · rw [List.length_map, hlayouts.length_eq]
  · rintro before step later rfl
    have hlegible : Report.Legible (lastFile? before) :=
      legible_lastFile? fun path text h => hsize path text (List.mem_append_left _ h)
    obtain ⟨written, rest, rfl, hwritten, hlater⟩ := hlayouts.exists_append
    rw [Option.or_none] at hlater
    refine ⟨?_, ?_, exists_writeLabels hlegible⟩
    · have hafter := hwritten.after_eq colors
      rwa [Option.or_none] at hafter
    · cases hlater with
      | cons hlayout hrest =>
          rename_i layout rest
          have halone : Transcript (lastFile? before) [step] [layout] := .cons hlayout .nil
          refine ⟨layout.paint colors, ?_, halone.run_eq colors⟩
          rw [List.getElem?_map, ← hwritten.length_eq, List.getElem?_append_right (Nat.le_refl _),
            Nat.sub_self]
          rfl

theorem run_writes_afresh_second_source :
    "7 \"é\n".utf8ByteSize < UInt32.size - 2 ∧ "\"x\ny".utf8ByteSize < UInt32.size - 2 ∧
      ∃ text,
        ((Reporter.mk true none).run
          [.attach "a.why" "7 \"é\n", .report (.ofLexError ⟨⟨2, 5⟩, .lineBreak⟩),
            .attach "b.why" "\"x\ny", .report (.ofLexError ⟨⟨0, 2⟩, .lineBreak⟩),
            .summarize 2])[3]? = some (.ok text) ∧
        ((Reporter.mk true none).attach "b.why" "\"x\ny").run
          [.report (.ofLexError ⟨⟨0, 2⟩, .lineBreak⟩)] = [.ok text] := by
  have hfirst : "7 \"é\n".utf8ByteSize < UInt32.size - 2 := by decide
  have hsecond : "\"x\ny".utf8ByteSize < UInt32.size - 2 := by decide
  obtain ⟨texts, hrun, -, hsteps⟩ := run_writes_afresh true
    [.attach "a.why" "7 \"é\n", .report (.ofLexError ⟨⟨2, 5⟩, .lineBreak⟩),
      .attach "b.why" "\"x\ny", .report (.ofLexError ⟨⟨0, 2⟩, .lineBreak⟩), .summarize 2] (by
    intro path text h
    simp only [List.mem_cons, Step.attach.injEq, reduceCtorEq, List.not_mem_nil, or_false,
      false_or] at h
    rcases h with ⟨-, rfl⟩ | ⟨-, rfl⟩
    · exact hfirst
    · exact hsecond)
  obtain ⟨-, ⟨text, htext, halone⟩, -⟩ := hsteps
    [.attach "a.why" "7 \"é\n", .report (.ofLexError ⟨⟨2, 5⟩, .lineBreak⟩),
      .attach "b.why" "\"x\ny"] _ _ rfl
  refine ⟨hfirst, hsecond, text, ?_, halone⟩
  rw [hrun, List.getElem?_map]
  exact congrArg (Option.map Except.ok) htext

end Lexis.Reporter
