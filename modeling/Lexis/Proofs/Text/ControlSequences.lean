import Mathlib.Data.List.TakeWhile

namespace Lexis.Text

def isParameter (c : Char) : Bool :=
  c.isDigit || c == ';'

def controlSequence (parameters : List Char) : List Char :=
  '\x1b' :: '[' :: (parameters ++ ['m'])

/-- The parameters of the control sequence that a text begins with, and the text behind it. -/
def splitControl? : List Char → Option (List Char × List Char)
  | '\x1b' :: '[' :: cs =>
      match cs.dropWhile isParameter with
      | 'm' :: behind => some (cs.takeWhile isParameter, behind)
      | _ => none
  | _ => none

theorem splitControl?_append {parameters : List Char} (h : parameters.all isParameter = true)
    (behind : List Char) :
    splitControl? (controlSequence parameters ++ behind) = some (parameters, behind) := by
  rw [List.all_eq_true] at h
  have hm : isParameter 'm' = false := by decide
  simp only [controlSequence, List.cons_append, List.append_assoc, List.nil_append, splitControl?]
  rw [List.dropWhile_append_of_pos h, List.takeWhile_append_of_pos h,
    List.dropWhile_cons_of_neg (by simp [hm]), List.takeWhile_cons_of_neg (by simp [hm]),
    List.append_nil]
  rfl

theorem eq_append_of_splitControl? {cs parameters behind : List Char}
    (h : splitControl? cs = some (parameters, behind)) :
    cs = controlSequence parameters ++ behind := by
  unfold splitControl? at h
  split at h
  · rename_i cs
    split at h
    · rename_i rest hdrop
      simp only [Option.some.injEq, Prod.mk.injEq] at h
      obtain ⟨rfl, rfl⟩ := h
      have hcs := List.takeWhile_append_dropWhile (p := isParameter) (l := cs)
      rw [hdrop] at hcs
      simp [controlSequence, hcs]
    · contradiction
  · contradiction

theorem length_lt_of_splitControl? {cs parameters behind : List Char}
    (h : splitControl? cs = some (parameters, behind)) : behind.length < cs.length := by
  rw [eq_append_of_splitControl? h]
  simp only [controlSequence, List.length_append, List.length_cons]
  omega

theorem splitControl?_cons_of_ne {c : Char} (h : c ≠ '\x1b') (cs : List Char) :
    splitControl? (c :: cs) = none := by
  unfold splitControl?
  split
  · rename_i heq
    exact absurd (List.cons.inj heq).1 h
  · rfl

/-- What a text is made of: single characters, and control sequences. -/
inductive Mark where
  | char (c : Char)
  | control (sequence : String)
  deriving DecidableEq

def Mark.char? : Mark → Option Char
  | char c => some c
  | control _ => none

def Mark.control? : Mark → Option String
  | char _ => none
  | control sequence => some sequence

def marks (cs : List Char) : List Mark :=
  match cs with
  | [] => []
  | c :: rest =>
      match h : splitControl? (c :: rest) with
      | some (parameters, behind) =>
          have : behind.length < rest.length + 1 := length_lt_of_splitControl? h
          .control (String.ofList (controlSequence parameters)) :: marks behind
      | none => .char c :: marks rest
termination_by cs.length

/-- The text with its control sequences deleted. -/
def withoutControls (s : String) : String :=
  String.ofList ((marks s.toList).filterMap Mark.char?)

/-- The control sequences of a text, in their order. -/
def controls (s : String) : List String :=
  (marks s.toList).filterMap Mark.control?

theorem marks_controlSequence {parameters : List Char} (h : parameters.all isParameter = true)
    (behind : List Char) :
    marks (controlSequence parameters ++ behind) =
      .control (String.ofList (controlSequence parameters)) :: marks behind := by
  have hsplit := splitControl?_append h behind
  rw [controlSequence, List.cons_append] at hsplit
  rw [controlSequence, List.cons_append, marks]
  split
  · rename_i hsome
    rw [hsplit, Option.some.injEq, Prod.mk.injEq] at hsome
    obtain ⟨rfl, rfl⟩ := hsome
    rfl
  · rename_i hnone
    rw [hsplit] at hnone
    contradiction

theorem marks_cons_of_ne {c : Char} (h : c ≠ '\x1b') (cs : List Char) :
    marks (c :: cs) = .char c :: marks cs := by
  rw [marks]
  split
  · rename_i hsome
    rw [splitControl?_cons_of_ne h] at hsome
    contradiction
  · rfl

theorem marks_append {cs : List Char} (h : '\x1b' ∉ cs) (behind : List Char) :
    marks (cs ++ behind) = cs.map .char ++ marks behind := by
  induction cs with
  | nil => rfl
  | cons c cs ih =>
      obtain ⟨hc, hcs⟩ := List.ne_and_not_mem_of_not_mem_cons h
      rw [List.cons_append, marks_cons_of_ne (Ne.symm hc), ih hcs, List.map_cons, List.cons_append]

end Lexis.Text
