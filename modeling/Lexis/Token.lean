import Lexis.Span

/-!
Tokens. An `Item` is a kind together with the value that belongs to it, so that a keyword with a
value or an integer without one cannot be written down; `Item.ofParts?` decides for a loose pair
whether it is such an item.
-/

namespace Lexis

open Text

/-- What a token says, apart from where it stands. -/
inductive Item where
  | endOfFile
  | unknown
  | keyword (word : Keyword)
  | identifier (name : String)
  | integer (number : Int64)
  | string (body : String)
  | punctuation (mark : Punctuation)
  deriving DecidableEq

namespace Item

def kind : Item → Kind
  | endOfFile => .endOfFile
  | unknown => .unknown
  | keyword word => .keyword word
  | identifier _ => .identifier
  | integer _ => .integer
  | string _ => .string
  | punctuation mark => .punctuation mark

def value : Item → Value
  | identifier name => .identifier name
  | integer number => .integer number
  | string body => .string body
  | _ => .null

/-- The item with the given kind and value, if they belong together. -/
def ofParts? : Kind → Value → Option Item
  | .endOfFile, .null => some endOfFile
  | .unknown, .null => some unknown
  | .keyword word, .null => some (keyword word)
  | .punctuation mark, .null => some (punctuation mark)
  | .identifier, .identifier name => some (identifier name)
  | .integer, .integer number => some (integer number)
  | .string, .string body => some (string body)
  | _, _ => none

@[simp] theorem ofParts?_kind_value (item : Item) :
    ofParts? item.kind item.value = some item := by
  cases item <;> rfl

theorem value_fits_kind (item : Item) : item.value.fits item.kind = true := by
  cases item <;> rfl

/-- Exactly the fitting pairs are items. -/
theorem isSome_ofParts? (kind : Kind) (value : Value) :
    (ofParts? kind value).isSome = value.fits kind := by
  cases kind <;> cases value <;> rfl

end Item

/-- An item and the stretch of source it was read from. -/
structure Token where
  span : Span
  item : Item
  deriving DecidableEq

namespace Token

def kind (t : Token) : Kind :=
  t.item.kind

def value (t : Token) : Value :=
  t.item.value

def isEndOfFile (t : Token) : Bool :=
  t.kind == .endOfFile

def ofParts (span : Span) (kind : Kind) (value : Value) : Checked Token :=
  match Item.ofParts? kind value with
  | some item => .ok ⟨span, item⟩
  | none => .error (.valueMismatch value kind)

/-- The kind, its value in parentheses if there is one, and the span. -/
def describe (t : Token) : String :=
  let value := if t.value.isNull then "" else "(" ++ t.value.render ++ ")"
  t.kind.name ++ value ++ " @ " ++ t.span.render

end Token

end Lexis
