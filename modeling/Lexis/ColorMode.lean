namespace Lexis

inductive ColorMode where
  | auto
  | always
  | never
  deriving DecidableEq, Repr

namespace ColorMode

instance : Inhabited ColorMode := ⟨auto⟩

def text : ColorMode → String
  | auto => "auto"
  | always => "always"
  | never => "never"

/-- The mode of the given name. Case matters. -/
def parse? (name : String) : Option ColorMode :=
  if name = "auto" then some auto
  else if name = "always" then some always
  else if name = "never" then some never
  else none

theorem parse?_eq_some_iff {name : String} {mode : ColorMode} :
    parse? name = some mode ↔ name = mode.text := by
  unfold parse?
  cases mode <;> repeat' split
  all_goals simp_all [text]

/-- Whether to write in colour, given whether the output is a terminal. -/
def useColors (mode : ColorMode) (terminal : Bool) : Bool :=
  match mode with
  | auto => terminal
  | always => true
  | never => false

end ColorMode

end Lexis
