import Lexis.Proofs.Lexer.Operations
import Lexis.Proofs.Session.Reachable
import Lexis.Proofs.TokenStream.Elements

namespace Lexis

open Text

theorem Text.slice?_byteIndex {needles : List UInt8} (hneedles : needles.all (· < 128) = true)
    (cs : List Char) :
    slice? (String.ofList cs) 0 (byteIndex needles.contains cs) =
      some (String.ofList (splitAtByte (byteIndex needles.contains cs) cs).1) := by
  rw [splitAtByte_byteIndex hneedles, byteIndex_eq_byteLength hneedles]
  have hcs : (String.ofList cs).toList = [] ++ ((cs.takeWhile fun c => !isNeedle needles c) ++
      cs.dropWhile fun c => !isNeedle needles c) := by
    rw [String.toList_ofList, List.nil_append, List.takeWhile_append_dropWhile]
  have hslice := slice?_of_toList_eq hcs
  rwa [byteLength_nil, Nat.zero_add] at hslice

theorem Token.ofParts_self (t : Token) : Token.ofParts t.span t.kind t.value = .ok t := by
  rw [Token.ofParts, Token.kind, Token.value, Item.ofParts?_kind_value]

variable {s : String}

namespace Cursor

variable {c : Cursor}

/-- The checks that an operation can fail, each with the fault it ends in. -/
inductive Move.Refused (c : Cursor) : Move → Fault → Prop where
  | skip {p : Char → Bool} (h : c.start ≠ c.stop) :
      Refused c (.skipWhile p) (.windowNotEmpty c.start c.stop)
  | search {needles : List UInt8} {b : UInt8} (hb : b ∈ needles) (h : 128 ≤ b) :
      Refused c (.takeUntilAscii needles) .needleNotAscii

/-- All that work on the cursor cuts out of `s` can be cut out: the window, the text ahead, and of
that the part in front of what a byte search finds. The window has a span, and its end can be moved
past any part of the text ahead. -/
structure Sound (s : String) (c : Cursor) : Prop where
  source_eq : c.source = s
  span_eq : c.span = .ok ⟨c.start, c.stop⟩
  content_eq : slice? s c.start.toNat c.stop.toNat = some c.content
  ahead_eq : slice? s c.stop.toNat s.utf8ByteSize = some (String.ofList c.rest)
  found_eq : ∀ needles : List UInt8, needles.all (· < 128) = true →
    slice? (String.ofList c.rest) 0 (byteIndex needles.contains c.rest) =
      some (String.ofList (splitAtByte (byteIndex needles.contains c.rest) c.rest).1)
  stop_add : ∀ taken rest, c.rest = taken ++ rest →
    ∃ stop, addOffset c.stop (byteLength taken) = .ok stop

theorem StandsIn.sound (hsize : s.utf8ByteSize ≤ sourceLimit) (h : c.StandsIn s) :
    c.Sound s := by
  have hwindow := h.windowed hsize
  refine ⟨hwindow.source_eq, ?_, hwindow.content_eq, h.slice?_stop hsize,
    fun _ hneedles => slice?_byteIndex hneedles c.rest, ?_⟩
  · rw [span, Span.between, if_pos hwindow.ordered]
  · intro taken rest hrest
    obtain ⟨c', hextend, -⟩ := h.extend hsize hrest
    obtain ⟨stop, hstop, -⟩ := Checked.bind_eq_ok_iff.mp hextend
    exact ⟨stop, hstop⟩

theorem Move.Refused.not_allowed {m : Move} {fault : Fault} (h : m.Refused c fault) :
    ¬ m.Allowed c := by
  cases h with
  | skip h => exact h
  | search hb h =>
      intro hneedles
      have hlt := List.all_eq_true.mp hneedles _ hb
      exact absurd h (UInt8.not_le.mpr (by simpa using hlt))

theorem move_skipWhile_of_not_allowed {p : Char → Bool}
    (h : ¬ (Move.skipWhile p).Allowed c) :
    c.move (.skipWhile p) = .error (.windowNotEmpty c.start c.stop) := by
  have hends : ¬ c.start = c.stop := h
  rw [move, skipWhile, if_neg hends]
  rfl

theorem move_takeUntilAscii_of_not_allowed {needles : List UInt8}
    (h : ¬ (Move.takeUntilAscii needles).Allowed c) :
    c.move (.takeUntilAscii needles) = .error .needleNotAscii := by
  have hneedles : ¬ needles.all (· < 128) = true := h
  rw [move, takeUntilAscii, if_neg hneedles]
  rfl

theorem StandsIn.move_eq_error_iff (hsize : s.utf8ByteSize ≤ sourceLimit) (h : c.StandsIn s)
    {m : Move} {fault : Fault} : c.move m = .error fault ↔ m.Refused c fault := by
  constructor
  · intro herror
    have hm : ¬ m.Allowed c := by
      intro hallowed
      obtain ⟨answer, c', hmove, -⟩ := h.move hsize hallowed
      rw [hmove] at herror
      contradiction
    cases m with
    | takeUntilAscii needles =>
        rw [move_takeUntilAscii_of_not_allowed hm] at herror
        cases herror
        obtain ⟨b, hb, hhigh⟩ : ∃ b ∈ needles, 128 ≤ b := by simpa [Move.Allowed] using hm
        exact .search hb hhigh
    | skipWhile p =>
        rw [move_skipWhile_of_not_allowed hm] at herror
        cases herror
        exact .skip hm
    | _ => exact absurd trivial hm
  · intro hrefused
    have hm := hrefused.not_allowed
    cases hrefused with
    | skip => exact move_skipWhile_of_not_allowed hm
    | search => exact move_takeUntilAscii_of_not_allowed hm

end Cursor

theorem Spells.eq_of_string {lexeme : List Char} {next : Option Char} {body : String}
    (h : Spells lexeme next (.ok (.string body))) : lexeme = '"' :: (body.toList ++ ['"']) := by
  cases h
  rw [String.toList_ofList]

theorem Spells.slice?_string {lexeme : List Char} {next : Option Char} {body : String}
    (h : Spells lexeme next (.ok (.string body))) :
    slice? (String.ofList lexeme) 1 ((String.ofList lexeme).utf8ByteSize - 1) = some body := by
  have hlexeme : (String.ofList lexeme).toList = ['"'] ++ (body.toList ++ ['"']) := by
    rw [String.toList_ofList, h.eq_of_string]
    rfl
  have hquote : byteLength ['"'] = 1 := by decide
  have hslice := slice?_of_toList_eq hlexeme
  rw [String.ofList_toList, hquote] at hslice
  have hsize : (String.ofList lexeme).utf8ByteSize - 1 = 1 + byteLength body.toList := by
    rw [utf8ByteSize_of_toList hlexeme, byteLength_append, hquote]
    omega
  rw [hsize, hslice]

namespace Lexer

/-- A call that goes through. It works on sound cursors from the first operation to the last, its
span is in order, its kind and value make a token, and what it takes off a string literal are the
quotation marks. -/
structure SafeCall (s : String) (l : Lexer) (history : List Cursor.Move) (c : Cursor)
    (outcome : Outcome) : Prop where
  next_eq : l.next = .ok (outcome, ofCursor c)
  follow_eq : l.cursor.follow history = .ok c
  sound : ∀ k, ∃ d, l.cursor.follow (history.take k) = .ok d ∧ d.Sound s
  span_eq : c.span = .ok outcome.span
  token_eq : ∀ t, outcome = .ok t → Token.ofParts t.span t.kind t.value = .ok t
  body_eq : ∀ t body, outcome = .ok t → t.item = .string body →
    slice? c.content 1 (c.content.utf8ByteSize - 1) = some body

theorem content_of_span {c : Cursor} {before lexeme rest : List Char}
    (hsize : s.utf8ByteSize ≤ Cursor.sourceLimit) (hs : s.toList = before ++ (lexeme ++ rest))
    (hc : c.Sound s) (hspan : c.span = .ok (.cover (byteLength before) lexeme)) :
    c.content = String.ofList lexeme := by
  obtain ⟨hstart, hstop⟩ := Span.toNat_cover hsize hs
  have hends : Span.mk c.start c.stop = .cover (byteLength before) lexeme :=
    Except.ok.inj (hc.span_eq.symm.trans hspan)
  have hcontent : slice? s (Span.mk c.start c.stop).start.toNat
      (Span.mk c.start c.stop).stop.toNat = some c.content := hc.content_eq
  rw [hends, hstart, hstop, slice?_of_toList_eq hs] at hcontent
  exact (Option.some.inj hcontent).symm

theorem StandsIn.slice?_content (hsize : s.utf8ByteSize ≤ Cursor.sourceLimit) {l l' : Lexer}
    (h : l.StandsIn s) {t : Token} {body : String} (hnext : l.next = .ok (.ok t, l'))
    (hitem : t.item = .string body) {c : Cursor} (hc : c.Sound s) (hspan : c.span = .ok t.span) :
    slice? c.content 1 (c.content.utf8ByteSize - 1) = some body := by
  obtain ⟨hs⟩ := h
  rename_i before cs last
  have hlength := Cursor.byteLength_le_sourceLimit hsize hs
  rcases blank_or_exists_spells cs with hgap | ⟨gap, lexeme, rest, reading, rfl, hgap, hlexeme⟩
  · rw [next_of_blank last hgap hlength] at hnext
    cases hnext
    contradiction
  · rw [next_of_spells last hgap hlexeme (by simpa using hlength)] at hnext
    cases reading with
    | error cause => cases hnext
    | ok item =>
        cases hnext
        obtain rfl : item = .string body := hitem
        rw [content_of_span hsize (by simpa using hs) hc hspan]
        exact hlexeme.slice?_string

theorem StandsIn.exists_safeCall (hsize : s.utf8ByteSize ≤ Cursor.sourceLimit) {l : Lexer}
    (h : l.StandsIn s) : ∃ history ∈ histories, ∃ c outcome, l.SafeCall s history c outcome := by
  obtain ⟨outcome, l', hnext, -⟩ := h.next hsize
  obtain ⟨history, hmem, c, hfollow, rfl, hspan⟩ := exists_history_of_next hnext
  have hc : c.Sound s := (h.cursor.follow hsize hfollow).sound hsize
  refine ⟨history, hmem, c, outcome, hnext, hfollow, ?_, hspan, fun t _ => t.ofParts_self, ?_⟩
  · intro k
    obtain ⟨d, hd⟩ := Cursor.follow_take hfollow k
    exact ⟨d, hd, (h.cursor.follow hsize hd).sound hsize⟩
  · rintro t body rfl hitem
    exact h.slice?_content hsize hnext hitem hc hspan

end Lexer

theorem TokenStream.exists_next (hsize : s.utf8ByteSize ≤ Cursor.sourceLimit) {t : TokenStream}
    (h : t.lexer.StandsIn s) : ∃ element t', t.next = .ok (element, t') := by
  obtain ⟨l, finished⟩ := t
  cases finished with
  | true => exact ⟨none, _, rfl⟩
  | false =>
      obtain ⟨outcome, l', hnext, -⟩ := Lexer.StandsIn.next hsize h
      cases outcome with
      | error e => exact ⟨_, _, next_of_error hnext⟩
      | ok token =>
          cases htoken : token.isEndOfFile with
          | true => exact ⟨_, _, next_of_endOfFile hnext htoken⟩
          | false => exact ⟨_, _, next_of_token hnext htoken⟩

namespace Session

/-- The sessions that work on `s` leads to when it begins with a cursor at the front. Those that
begin with a lexer or a stream are one or two conversions away. -/
inductive Arises (s : String) : Session → Prop where
  | start : Arises s (.start (.cursor (.ofSource s)))
  | step {σ σ' : Session} {action : Action} {reply : Reply} (h : Arises s σ)
      (hstep : σ.step action = .ok (reply, σ')) : Arises s σ'

variable {σ σ' : Session} {action : Action}

theorem step_cases {reply : Reply} (h : σ.step action = .ok (reply, σ')) :
    (σ' = { σ with saved := σ.subject :: σ.saved }) ∨
      (∃ subject saved, σ.saved = subject :: saved ∧ σ' = ⟨subject, saved⟩) ∨
      ∃ subject, act σ.subject action = some (.ok (reply, subject)) ∧ σ' = { σ with subject } := by
  unfold step at h
  split at h
  · cases h
    exact .inl rfl
  · split at h
    · contradiction
    · rename_i subject saved hsaved
      cases h
      exact .inr (.inl ⟨subject, saved, hsaved, rfl⟩)
  · split at h
    · contradiction
    · contradiction
    · rename_i subject hact
      cases h
      exact .inr (.inr ⟨subject, hact, rfl⟩)

theorem step_eq_map_of_act {result : Checked (Reply × Subject)}
    (h : act σ.subject action = some result) :
    σ.step action = (result.map fun r => (r.1, { σ with subject := r.2 })).mapError .fault := by
  cases action with
  | save => cases hsubject : σ.subject <;> rw [hsubject] at h <;> contradiction
  | restore => cases hsubject : σ.subject <;> rw [hsubject] at h <;> contradiction
  | _ => cases result <;> simp only [step, h] <;> rfl

theorem step_of_act {reply : Reply} {subject : Subject}
    (h : act σ.subject action = some (.ok (reply, subject))) :
    σ.step action = .ok (reply, { σ with subject }) :=
  step_eq_map_of_act h

theorem step_eq_fault_iff {fault : Fault} :
    σ.step action = .error (.fault fault) ↔ act σ.subject action = some (.error fault) := by
  constructor
  · intro h
    unfold step at h
    split at h
    · cases h
    · split at h <;> cases h
    · split at h
      · cases h
      · rename_i hact
        cases h
        exact hact
      · cases h
  · intro h
    exact step_eq_map_of_act h

theorem Arises.reachable (h : Arises s σ) :
    ∀ subject ∈ σ.subject :: σ.saved, Reachable s subject := by
  induction h with
  | start =>
      intro subject hsubject
      obtain rfl := List.mem_singleton.mp hsubject
      exact .start
  | step _ hstep ih =>
      rename_i σ σ' action reply
      obtain rfl | ⟨subject, saved, hsaved, rfl⟩ | ⟨subject, hact, rfl⟩ := step_cases hstep
      · intro subject hsubject
        rcases List.mem_cons.mp hsubject with rfl | hsubject
        · exact ih _ List.mem_cons_self
        · exact ih subject hsubject
      · intro subject' hsubject
        rw [hsaved] at ih
        exact ih subject' (List.mem_cons_of_mem _ hsubject)
      · intro subject' hsubject
        rcases List.mem_cons.mp hsubject with rfl | hsubject
        · exact .act (ih _ List.mem_cons_self) hact
        · exact ih subject' (List.mem_cons_of_mem _ hsubject)

theorem act_eq_error_iff (hsize : s.utf8ByteSize ≤ Cursor.sourceLimit) {subject : Subject}
    (h : subject.StandsIn s) {fault : Fault} :
    act subject action = some (.error fault) ↔
      ∃ c m, subject = .cursor c ∧ action = .move m ∧ m.Refused c fault := by
  constructor
  · intro hact
    cases subject with
    | cursor c =>
        cases action with
        | move m =>
            refine ⟨c, m, rfl, rfl, (Cursor.StandsIn.move_eq_error_iff hsize h).mp ?_⟩
            cases hmove : c.move m with
            | error fault' =>
                rw [act, hmove] at hact
                cases hact
                rfl
            | ok result =>
                rw [act_cursor_move hmove] at hact
                cases hact
        | _ => cases hact
    | lexer l =>
        cases action with
        | next =>
            obtain ⟨outcome, l', hnext, -⟩ := Lexer.StandsIn.next hsize h
            rw [act_lexer_next hnext] at hact
            cases hact
        | _ => cases hact
    | stream t =>
        cases action with
        | next =>
            obtain ⟨element, t', hnext⟩ := TokenStream.exists_next hsize h
            rw [act_stream_next hnext] at hact
            cases hact
        | _ => cases hact
  · rintro ⟨c, m, rfl, rfl, hrefused⟩
    rw [act, (Cursor.StandsIn.move_eq_error_iff hsize h).mpr hrefused]
    rfl

theorem exists_step_next (hsize : s.utf8ByteSize ≤ Cursor.sourceLimit)
    (h : σ.subject.StandsIn s) (hcursor : ∀ c, σ.subject ≠ .cursor c) :
    ∃ element σ', σ.step .next = .ok (.element element, σ') := by
  obtain ⟨subject, saved⟩ := σ
  cases subject with
  | cursor c => exact absurd rfl (hcursor c)
  | lexer l =>
      obtain ⟨outcome, l', hnext, -⟩ := Lexer.StandsIn.next hsize h
      exact ⟨some outcome, _, step_of_act (act_lexer_next hnext)⟩
  | stream t =>
      obtain ⟨element, t', hnext⟩ := TokenStream.exists_next hsize h
      exact ⟨element, _, step_of_act (act_stream_next hnext)⟩

/-- A step of a session faults when the cursor refuses the operation and in no other case. All
cursors that a session holds are sound, and calls of its lexers and streams go through, also after
an error and behind the end. -/
theorem fault_iff_refused (s : String) (h : s.utf8ByteSize ≤ Cursor.sourceLimit) (σ : Session)
    (hσ : Arises s σ) :
    (∀ action fault, σ.step action = .error (.fault fault) ↔
      ∃ c m, σ.subject = .cursor c ∧ action = .move m ∧ m.Refused c fault) ∧
    ((∀ c, σ.subject ≠ .cursor c) → ∃ element σ', σ.step .next = .ok (.element element, σ')) ∧
    (∀ subject ∈ σ.subject :: σ.saved, subject.innerCursor.Sound s) ∧
    ∀ subject ∈ σ.subject :: σ.saved, ∀ l, subject.innerLexer? = some l →
      ∃ history ∈ Lexer.histories, ∃ c outcome, l.SafeCall s history c outcome := by
  have hstands : ∀ subject ∈ σ.subject :: σ.saved, subject.StandsIn s :=
    fun subject hsubject => (hσ.reachable subject hsubject).standsIn h
  have hsubject : σ.subject.StandsIn s := hstands _ List.mem_cons_self
  refine ⟨?_, exists_step_next h hsubject, ?_, ?_⟩
  · intro action fault
    rw [step_eq_fault_iff, act_eq_error_iff h hsubject]
  · intro subject hmem
    exact (hstands subject hmem).innerCursor.sound h
  · intro subject hmem l hl
    exact ((hstands subject hmem).innerLexer hl).exists_safeCall h

theorem fault_iff_refused_after_open_string :
    ∃ σ, Arises "x\"é" σ ∧ (∃ l, σ.subject = .lexer l) ∧ σ.saved.length = 1 ∧
      (∀ action fault, σ.step action = .error (.fault fault) ↔
        ∃ c m, σ.subject = .cursor c ∧ action = .move m ∧ m.Refused c fault) ∧
      ((∀ c, σ.subject ≠ .cursor c) →
        ∃ element σ', σ.step .next = .ok (.element element, σ')) ∧
      (∀ subject ∈ σ.subject :: σ.saved, subject.innerCursor.Sound "x\"é") ∧
      ∀ subject ∈ σ.subject :: σ.saved, ∀ l, subject.innerLexer? = some l →
        ∃ history ∈ Lexer.histories, ∃ c outcome, l.SafeCall "x\"é" history c outcome := by
  let taken : Cursor := ⟨"x\"é", 0, 1, ['x'], ['"', 'é'], some 'x'⟩
  let ahead : Lexer := ⟨⟨"x\"é", 1, 1, [], ['"', 'é'], some 'x'⟩⟩
  let behind : Lexer := ⟨⟨"x\"é", 4, 4, [], [], some 'é'⟩⟩
  have htake : (Cursor.ofSource "x\"é").move .take = .ok (some true, taken) := by decide +kernel
  have hsave : step ⟨.cursor taken, []⟩ .save =
      .ok (.silent, ⟨.cursor taken, [.cursor taken]⟩) := rfl
  have hconvert : step ⟨.cursor taken, [.cursor taken]⟩ .toLexer =
      .ok (.silent, ⟨.lexer ahead, [.cursor taken]⟩) := rfl
  have hnext : ahead.next = .ok (.error ⟨⟨1, 4⟩, .endOfInput⟩, behind) := by decide +kernel
  have hsaved := (Arises.start.step (step_of_act (act_cursor_move htake))).step hsave
  have harises := (hsaved.step hconvert).step (step_of_act (act_lexer_next hnext))
  exact ⟨_, harises, ⟨behind, rfl⟩, rfl, fault_iff_refused _ (by decide) _ harises⟩

end Session

end Lexis
