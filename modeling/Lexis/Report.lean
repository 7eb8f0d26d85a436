import Lexis.Diagnostic
import Lexis.LineTable

/-!
Reports: diagnostics laid out for a terminal. A report is a row of segments, each with the style it
is shown in; `paint` alone writes colours, so that the layout cannot depend on them. With the source
at hand a label is shown under its line, with carets below the text it marks; without it, by its
byte offsets.
-/

namespace Lexis

open Text

inductive Style where
  | error
  | note
  | strong
  | gutter
  deriving DecidableEq, Repr

def Style.opener : Style → String
  | error => "\x1b[1;31m"
  | note => "\x1b[1;36m"
  | strong => "\x1b[1m"
  | gutter => "\x1b[1;34m"

def Style.reset : String := "\x1b[0m"

structure Segment where
  style : Option Style
  text : String
  deriving DecidableEq, Repr

namespace Segment

def plain (text : String) : Segment :=
  ⟨none, text⟩

def styled (style : Style) (text : String) : Segment :=
  ⟨some style, text⟩

/-- The segment as written, with control sequences around it only in colour. -/
def paint (colors : Bool) (s : Segment) : String :=
  match s.style with
  | some style => if colors then style.opener ++ s.text ++ Style.reset else s.text
  | none => s.text

end Segment

abbrev Report := List Segment

def Report.paint (colors : Bool) (r : Report) : String :=
  String.join (r.map (Segment.paint colors))

namespace Report

@[simp] theorem paint_nil (colors : Bool) : Report.paint colors [] = "" := rfl

@[simp] theorem paint_cons (colors : Bool) (segment : Segment) (r : Report) :
    Report.paint colors (segment :: r) = segment.paint colors ++ Report.paint colors r := by
  simp [Report.paint]

@[simp] theorem paint_append (colors : Bool) (r r' : Report) :
    Report.paint colors (r ++ r') = Report.paint colors r ++ Report.paint colors r' := by
  simp [Report.paint]

@[simp] theorem paint_plain (colors : Bool) (text : String) :
    (Segment.plain text).paint colors = text := rfl

@[simp] theorem paint_styled (style : Style) (text : String) :
    (Segment.styled style text).paint false = text := rfl

end Report

structure SourceFile where
  path : String
  text : String
  lines : LineTable

def SourceFile.ofText (path text : String) : SourceFile :=
  { path, text, lines := .ofText text }

namespace Label

/-- Primary labels look like the error, secondary ones like the margin. -/
def style (l : Label) : Style :=
  if l.isPrimary then .error else .gutter

def marker (l : Label) : String :=
  if l.isPrimary then "-->" else ":::"

end Label

namespace Report

open Segment

def spaces (n : Nat) : String :=
  String.ofList (List.replicate n ' ')

/-- How many carets mark a span of `marked` characters that starts after `before` characters of a
line of `length`: as many as the line has, and at least one. -/
def caretCount (marked before length : Nat) : Nat :=
  max 1 (min marked (length - before))

def carets (before count : Nat) : String :=
  String.ofList (List.replicate before ' ' ++ List.replicate count '^')

def margin (content : String) : Segment :=
  styled .gutter (" " ++ content ++ " |")

/-- The source line of a label at the given position, and the carets below it. -/
def excerpt (file : SourceFile) (label : Label) (p : Position) (line : String) : Report :=
  let number := Decimal.ofNat p.line.toNat
  let pad := spaces number.length
  let before := p.column.toNat - 1
  let marked := match slice? file.text label.span.start.toNat label.span.stop.toNat with
    | some t => t.length
    | none => 1
  [margin pad, plain "\n", margin number, plain (" " ++ line ++ "\n"), margin pad, plain " ",
   styled label.style (carets before (caretCount marked before line.length)), plain " "]

def bareLabel (label : Label) : Report :=
  [plain ("  " ++ label.marker ++ " " ++ label.span.render ++ ": "),
   styled label.style label.message, plain "\n"]

/-- A label with its place in the source and the line it stands in. -/
def sourceLabel (file : SourceFile) (label : Label) : Checked Report := do
  let p ← file.lines.position file.text label.span.start
  let shown ← file.lines.lineText file.text p.line
  let context := match shown with
    | some line => excerpt file label p line
    | none => [plain "  "]
  return plain ("  " ++ label.marker ++ " " ++ file.path ++ ":" ++ p.render ++ "\n") :: context
    ++ [styled label.style label.message, plain "\n"]

def ofLabel (file : Option SourceFile) (label : Label) : Checked Report :=
  match file with
  | some file => sourceLabel file label
  | none => return bareLabel label

def ofNote (note : String) : Report :=
  [plain "  = ", styled .note "note", plain (": " ++ note ++ "\n")]

def header (d : Diagnostic) : Report :=
  [styled .error "error", styled .strong ("[" ++ d.code.text ++ "]"),
   plain (": " ++ d.message ++ "\n")]

/-- What stands behind the labels: the notes and an empty line. -/
def footer (d : Diagnostic) : Report :=
  d.notes.flatMap ofNote ++ [plain "\n"]

/-- The closing line after a number of errors; none is needed where there were none. -/
def summary (errors : Nat) : Report :=
  if errors = 0 then []
  else if errors = 1 then [styled .error "error", plain ": aborting due to previous error\n"]
  else
    [styled .error "error",
     plain (": aborting due to " ++ Decimal.ofNat errors ++ " previous errors\n")]

end Report

/-- Writes reports, in colour or not, with or without a source to quote from. -/
structure Reporter where
  colors : Bool
  file : Option SourceFile

namespace Reporter

inductive Step where
  | report (d : Diagnostic)
  | summarize (errors : Nat)
  /-- Quote from another source from now on. -/
  | attach (path text : String)

def attach (r : Reporter) (path text : String) : Reporter :=
  { r with file := some (.ofText path text) }

/-- The source of a reporter, and the reporter without it. -/
def detach (r : Reporter) : Option SourceFile × Reporter :=
  (r.file, { r with file := none })

/-- Writes a label. The source is taken out of the reporter to be quoted from, and put back when the
label is written. -/
def writeLabel (r : Reporter) (label : Label) : Checked (String × Reporter) := do
  let (file, bare) := r.detach
  let layout ← Report.ofLabel file label
  match file with
  | none => return (layout.paint bare.colors, bare)
  | some file => return (layout.paint bare.colors, { bare with file := some file })

/-- Writes labels, each with the reporter that the one before it has left. -/
def writeLabels (r : Reporter) : List Label → Checked (String × Reporter)
  | [] => return ("", r)
  | label :: labels => do
      let (text, next) ← r.writeLabel label
      let (texts, last) ← next.writeLabels labels
      return (text ++ texts, last)

/-- Writes a diagnostic: header, labels, notes and an empty line. -/
def emit (r : Reporter) (d : Diagnostic) : Checked (String × Reporter) := do
  let (labels, next) ← r.writeLabels d.labels
  return ((Report.header d).paint r.colors ++ labels ++ (Report.footer d).paint next.colors, next)

/-- What is written for a diagnostic. -/
def report (r : Reporter) (d : Diagnostic) : Checked String := do
  return (← r.emit d).1

def summarize (r : Reporter) (errors : Nat) : String :=
  (Report.summary errors).paint r.colors

/-- What a step writes, and the reporter after it. -/
def step (r : Reporter) : Step → Checked (String × Reporter)
  | .report d => r.emit d
  | .summarize errors => return (r.summarize errors, r)
  | .attach path text => return ("", r.attach path text)

/-- What each of a list of steps writes. A fault ends the list. -/
def run (r : Reporter) : List Step → List (Checked String)
  | [] => []
  | s :: steps =>
      match r.step s with
      | .ok (output, next) => .ok output :: next.run steps
      | .error fault => [.error fault]

/-- The full report of a lexical error: the diagnostic and the closing line. -/
def reportLexError (r : Reporter) (e : LexError) : Checked String := do
  let (report, next) ← r.emit (.ofLexError e)
  return report ++ next.summarize 1

end Reporter

end Lexis
