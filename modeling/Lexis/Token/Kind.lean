/-!
The kinds of tokens: keywords, punctuation, the three literal classes that carry a value, text that
belongs to no class, and the end of the input.
-/

namespace Lexis

inductive Keyword where
  | define
  | external
  deriving DecidableEq, Repr

namespace Keyword

def text : Keyword → String
  | define => "def"
  | external => "extern"

/-- The keyword a word spells. Case matters, so `Def` is an ordinary name. -/
def ofText? (word : String) : Option Keyword :=
  if word = "def" then some define
  else if word = "extern" then some external
  else none

theorem ofText?_eq_some_iff {word : String} {k : Keyword} :
    ofText? word = some k ↔ word = k.text := by
  unfold ofText?
  cases k <;> split <;> simp_all [text]

end Keyword

/-- Marks that are a token by themselves. -/
inductive Punctuation where
  | leftParen
  | rightParen
  | comma
  | plus
  | star
  | slash
  | assign
  deriving DecidableEq, Repr

namespace Punctuation

def char : Punctuation → Char
  | leftParen => '('
  | rightParen => ')'
  | comma => ','
  | plus => '+'
  | star => '*'
  | slash => '/'
  | assign => '='

def ofChar? : Char → Option Punctuation
  | '(' => some leftParen
  | ')' => some rightParen
  | ',' => some comma
  | '+' => some plus
  | '*' => some star
  | '/' => some slash
  | '=' => some assign
  | _ => none

theorem ofChar?_eq_some_iff {c : Char} {p : Punctuation} : ofChar? c = some p ↔ c = p.char := by
  constructor
  · intro h
    unfold ofChar? at h
    split at h <;> simp_all [char] <;> subst h <;> rfl
  · rintro rfl
    cases p <;> rfl

end Punctuation

inductive Kind where
  | endOfFile
  | unknown
  | keyword (word : Keyword)
  | identifier
  | integer
  | string
  | punctuation (mark : Punctuation)
  deriving DecidableEq, Repr

namespace Kind

/-- The name under which listings and messages show a kind. -/
def name : Kind → String
  | endOfFile => "EndOfFile"
  | unknown => "Unknown"
  | keyword .define => "Def"
  | keyword .external => "Extern"
  | identifier => "Identifier"
  | integer => "Integer"
  | string => "String"
  | punctuation .leftParen => "LParen"
  | punctuation .rightParen => "RParen"
  | punctuation .comma => "Comma"
  | punctuation .plus => "Plus"
  | punctuation .star => "Star"
  | punctuation .slash => "Slash"
  | punctuation .assign => "Assign"

/-- All kinds, in the order in which they are documented. -/
def all : List Kind :=
  [endOfFile, unknown, keyword .define, keyword .external, identifier, integer, string,
   punctuation .leftParen, punctuation .rightParen, punctuation .comma, punctuation .plus,
   punctuation .star, punctuation .slash, punctuation .assign]

theorem mem_all (k : Kind) : k ∈ all := by
  cases k with
  | keyword word => cases word <;> simp [all]
  | punctuation mark => cases mark <;> simp [all]
  | _ => simp [all]

def ofName? (name : String) : Option Kind :=
  all.find? (·.name == name)

/-- The kinds whose tokens carry a value. -/
def expectsValue : Kind → Bool
  | identifier | integer | string => true
  | _ => false

end Kind

end Lexis
