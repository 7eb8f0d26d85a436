import Lexis.Proofs.Report.Faultless

namespace Lexis

/-- The layout of what a step writes. -/
def Report.ofStep (file : Option SourceFile) : Reporter.Step → Checked Report
  | .report d => ofDiagnostic file d
  | .summarize errors => return summary errors
  | .attach _ _ => return []

theorem Report.Legible.exists_ofStep {file : Option SourceFile} (h : Legible file)
    (s : Reporter.Step) : ∃ layout, ofStep file s = .ok layout := by
  cases s with
  | report d =>
      obtain ⟨layout, hlayout⟩ := h.exists_ofDiagnostic d
      exact ⟨_, hlayout⟩
  | summarize errors => exact ⟨_, rfl⟩
  | attach path text => exact ⟨_, rfl⟩

namespace Reporter

/-- The source that a step attaches. -/
def Step.file? : Step → Option SourceFile
  | .attach path text => some (.ofText path text)
  | _ => none

/-- The source attached last. -/
def lastFile? (steps : List Step) : Option SourceFile :=
  (steps.filterMap Step.file?).getLast?

theorem lastFile?_cons (s : Step) (steps : List Step) :
    lastFile? (s :: steps) = (lastFile? steps).or s.file? := by
  cases hfile : s.file? with
  | none => simp [lastFile?, hfile]
  | some file => simp [lastFile?, hfile, List.getLast?_cons]

theorem step_eq (r : Reporter) (s : Step) :
    r.step s = do
      let layout ← Report.ofStep r.file s
      return (layout.paint r.colors, { r with file := s.file?.or r.file }) := by
  cases s with
  | report d => exact r.emit_eq d
  | summarize errors => rfl
  | attach path text => rfl

/-- The layouts of what steps write, from a reporter with the given source on. -/
inductive Transcript : Option SourceFile → List Step → List Report → Prop where
  | nil {file : Option SourceFile} : Transcript file [] []
  | cons {file : Option SourceFile} {s : Step} {steps : List Step} {layout : Report}
      {layouts : List Report} :
      Report.ofStep file s = .ok layout → Transcript (s.file?.or file) steps layouts →
      Transcript file (s :: steps) (layout :: layouts)

theorem exists_transcript {file : Option SourceFile} {steps : List Step}
    (hfile : Report.Legible file)
    (hsize : ∀ path text, Step.attach path text ∈ steps → text.utf8ByteSize < UInt32.size - 2) :
    ∃ layouts, Transcript file steps layouts := by
  induction steps generalizing file with
  | nil => exact ⟨[], .nil⟩
  | cons s steps ih =>
      obtain ⟨layout, hlayout⟩ := hfile.exists_ofStep s
      have hnext : Report.Legible (s.file?.or file) := by
        cases s with
        | report d => exact hfile
        | summarize errors => exact hfile
        | attach path text =>
            exact Report.legible_ofText path (hsize path text List.mem_cons_self)
      obtain ⟨layouts, hlayouts⟩ :=
        ih hnext fun path text h => hsize path text (List.mem_cons_of_mem s h)
      exact ⟨layout :: layouts, .cons hlayout hlayouts⟩

namespace Transcript

variable {file : Option SourceFile} {steps : List Step} {layouts : List Report}

theorem length_eq (h : Transcript file steps layouts) : layouts.length = steps.length := by
  induction h with
  | nil => rfl
  | cons hlayout hrest ih => rw [List.length_cons, List.length_cons, ih]

theorem run_eq (h : Transcript file steps layouts) (colors : Bool) :
    (Reporter.mk colors file).run steps = (layouts.map (Report.paint colors)).map .ok := by
  induction h with
  | nil => rfl
  | cons hlayout hrest ih =>
      simp only [run, step_eq, hlayout, List.map_cons]
      exact congrArg (_ :: ·) ih

end Transcript

end Reporter

end Lexis
