import Mathlib.Data.List.TakeWhile
import Lexis.Proofs.Cursor.History
import Lexis.Proofs.Session.Reachable

namespace Lexis.Text

/-- The longest front part of a text in which every character passes the test. -/
structure LongestFront (p : Char → Bool) (text front : String) : Prop where
  starts : front.toList <+: text.toList
  passes : ∀ ch ∈ front.toList, p ch = true
  longest : ∀ other : String, other.toList <+: text.toList →
    (∀ ch ∈ other.toList, p ch = true) → other.length ≤ front.length

theorem longestFront_takeWhile (p : Char → Bool) (cs : List Char) :
    LongestFront p (String.ofList cs) (String.ofList (cs.takeWhile p)) := by
  refine ⟨?_, ?_, ?_⟩
  · rw [String.toList_ofList, String.toList_ofList]
    exact List.takeWhile_prefix p
  · intro ch hch
    rw [String.toList_ofList] at hch
    exact List.mem_takeWhile_imp hch
  · rintro other ⟨more, hmore⟩ hpasses
    -- `other` passes as a whole, so cutting at the first failure cuts behind it.
    rw [String.toList_ofList] at hmore
    rw [← hmore, List.takeWhile_append_of_pos hpasses, String.length_ofList, List.length_append,
      String.length_toList]
    exact Nat.le_add_right _ _

end Lexis.Text

namespace Lexis.Cursor

open Text

/-- The loop that takes the character ahead as long as it passes the test begins at the first cursor
and ends at the second. -/
inductive TakesEach (p : Char → Bool) : Cursor → Cursor → Prop where
  | done {c : Cursor} (hstop : c.peekIs p = false) : TakesEach p c c
  | more {c d c' : Cursor} (hgo : c.peekIs p = true) (htake : c.take = .ok (true, d))
      (hlater : TakesEach p d c') : TakesEach p c c'

/-- Scanning from `c` on has gone over `front` and stands at `c'`, where the test fails or the
source ends. -/
structure Scans (s : String) (p : Char → Bool) (c : Cursor) (front : String) (c' : Cursor) :
    Prop where
  source_eq : c'.source = s
  front_eq : ∃ ahead, slice? s c.stop.toNat s.utf8ByteSize = some ahead ∧
    LongestFront p ahead front
  stop_eq : c'.stop.toNat = c.stop.toNat + front.utf8ByteSize
  peek_eq : c'.peek? = charAt? s c'.stop.toNat
  stops : ∀ ch, c'.peek? = some ch → p ch = false

/-- Scanning that takes what it goes over. -/
structure ScansTaking (s : String) (p : Char → Bool) (c : Cursor) (front : String) (c' : Cursor) :
    Prop extends Scans s p c front c' where
  stepwise : TakesEach p c c'
  start_eq : c'.start = c.start
  content_eq : c'.content = c.content ++ front
  last_eq : c'.last = front.toList.getLast?.or c.last

/-- Scanning that leaves what it goes over behind. -/
structure ScansSkipping (s : String) (p : Char → Bool) (c : Cursor) (front : String)
    (c' : Cursor) : Prop extends Scans s p c front c' where
  stepwise : ∃ d, TakesEach p c d ∧ c' = { d.advance with last := c.last }
  start_eq : c'.start = c'.stop
  content_eq : c'.content = ""
  last_eq : c'.last = c.last

variable {s : String} {c c' d : Cursor} {p : Char → Bool} {front taken rest : List Char}

theorem extend_window (h : c.extend taken rest = .ok c') :
    c'.content = c.content ++ String.ofList taken ∧ c'.last = taken.getLast?.or c.last := by
  obtain ⟨stop, -, h⟩ := Checked.bind_eq_ok_iff.mp h
  obtain rfl := Checked.pure_eq_ok_iff.mp h
  exact ⟨String.ofList_append, rfl⟩

theorem extend_extend {ahead : List Char} (h : c.extend front ahead = .ok d) :
    d.extend taken rest = c.extend (front ++ taken) rest := by
  obtain ⟨stop, hstop, h⟩ := Checked.bind_eq_ok_iff.mp h
  obtain rfl := Checked.pure_eq_ok_iff.mp h
  have hsum : addOffset stop (byteLength taken) =
      addOffset c.stop (byteLength (front ++ taken)) := by
    rw [addOffset, addOffset, addOffset_eq_ok_iff.mp hstop, byteLength_append, Nat.add_assoc]
  simp only [extend, hsum, List.append_assoc, List.getLast?_append, Option.or_assoc]

theorem exists_extend_of_append (h : c.extend (front ++ taken) rest = .ok c')
    (ahead : List Char) : ∃ d, c.extend front ahead = .ok d := by
  have hstop := (extend_ends h).2
  have hfits : c.stop.toNat + byteLength front < UInt32.size := by
    have hlt := c'.stop.toNat_lt
    rw [hstop, byteLength_append] at hlt
    simp only [UInt32.size]
    omega
  rw [extend, addOffset, if_pos hfits]
  exact ⟨_, rfl⟩

theorem takeWhile_of_peekIs_eq_false (h : c.peekIs p = false) : c.takeWhile p = .ok c := by
  have hnone : ∀ ch ∈ ([] : List Char), p ch = true := by simp
  have htake : c.rest.takeWhile p = [] := takeWhile_append_of_stop hnone h
  have hdrop : c.rest.dropWhile p = c.rest := dropWhile_append_of_stop hnone h
  rw [takeWhile, htake, hdrop, extend_nil]

/-- One round of the loop: the character ahead is taken, so that less lies ahead, and the loop goes
on from there. -/
theorem exists_take_of_takeWhile_eq_ok (hgo : c.peekIs p = true) (h : c.takeWhile p = .ok c') :
    ∃ d, c.take = .ok (true, d) ∧ d.rest.length < c.rest.length ∧ d.takeWhile p = .ok c' := by
  obtain ⟨ch, hch, hp⟩ := (Option.any_eq_true p c.rest.head?).mp hgo
  obtain ⟨rest, hrest⟩ := List.head?_eq_some_iff.mp hch
  rw [takeWhile, hrest, List.takeWhile_cons_of_pos hp, List.dropWhile_cons_of_pos hp,
    ← List.singleton_append] at h
  obtain ⟨d, hd⟩ := exists_extend_of_append h rest
  refine ⟨d, ?_, ?_, ?_⟩
  · rw [take, hrest]
    change (c.extend [ch] rest >>= _) = _
    rw [hd]
    rfl
  · rw [extend_rest hd, hrest, List.length_cons]
    exact Nat.lt_succ_self _
  · rw [takeWhile, extend_rest hd, extend_extend hd, h]

theorem takesEach_of_takeWhile_eq_ok {c : Cursor} (h : c.takeWhile p = .ok c') :
    TakesEach p c c' := by
  cases hgo : c.peekIs p with
  | false =>
      rw [takeWhile_of_peekIs_eq_false hgo] at h
      exact Except.ok.inj h ▸ .done hgo
  | true =>
      obtain ⟨d, htake, hless, hlater⟩ := exists_take_of_takeWhile_eq_ok hgo h
      exact .more hgo htake (takesEach_of_takeWhile_eq_ok hlater)
termination_by c.rest.length

theorem TakesEach.peekIs_eq_false (h : TakesEach p c c') : c'.peekIs p = false := by
  induction h with
  | done hstop => exact hstop
  | more _ _ _ ih => exact ih

theorem skipWhile_eq_takeWhile (h : c.start = c.stop) (p : Char → Bool) :
    c.skipWhile p = do
      let d ← c.takeWhile p
      return { d.advance with last := c.last } := by
  rw [skipWhile, if_pos h, takeWhile, extend]
  cases addOffset c.stop (byteLength (c.rest.takeWhile p)) <;> rfl

theorem StandsIn.peek?_eq (hsize : s.utf8ByteSize ≤ sourceLimit) (h : c.StandsIn s) :
    c.peek? = charAt? s c.stop.toNat := by
  rw [charAt?, h.slice?_stop hsize, Option.bind_some, String.toList_ofList]
  rfl

theorem StandsIn.scansTaking (hsize : s.utf8ByteSize ≤ sourceLimit) (h : c.StandsIn s)
    (p : Char → Bool) :
    ∃ front c', c.takeWhile p = .ok c' ∧ ScansTaking s p c front c' ∧ c'.takeWhile p = .ok c' := by
  obtain ⟨c', htake, hc'⟩ := h.takeWhile hsize p
  have hloop := takesEach_of_takeWhile_eq_ok htake
  have hstop := hloop.peekIs_eq_false
  obtain ⟨hstart, hend⟩ := extend_ends htake
  obtain ⟨hcontent, hlast⟩ := extend_window htake
  refine ⟨String.ofList (c.rest.takeWhile p), c', htake, ?_, takeWhile_of_peekIs_eq_false hstop⟩
  refine ⟨⟨(hc'.windowed hsize).source_eq, ?_, ?_, hc'.peek?_eq hsize, ?_⟩, hloop, hstart,
    hcontent, ?_⟩
  · exact ⟨_, h.slice?_stop hsize, longestFront_takeWhile p c.rest⟩
  · rw [hend, utf8ByteSize_ofList]
  · intro ch hch
    change c'.peek?.any p = false at hstop
    rwa [hch, Option.any_some] at hstop
  · rw [String.toList_ofList, hlast]

theorem StandsIn.scansSkipping (hsize : s.utf8ByteSize ≤ sourceLimit) (h : c.StandsIn s)
    (hempty : c.start = c.stop) (p : Char → Bool) :
    ∃ front c', c.skipWhile p = .ok c' ∧ ScansSkipping s p c front c' ∧
      c'.skipWhile p = .ok c' := by
  obtain ⟨front, d, htake, hscan, -⟩ := h.scansTaking hsize p
  refine ⟨front, { d.advance with last := c.last }, ?_, ?_, ?_⟩
  · rw [skipWhile_eq_takeWhile hempty, htake]
    rfl
  · exact ⟨⟨hscan.source_eq, hscan.front_eq, hscan.stop_eq, hscan.peek_eq, hscan.stops⟩,
      ⟨d, hscan.stepwise, rfl⟩, rfl, rfl, rfl⟩
  · have hstop : peekIs { d.advance with last := c.last } p = false :=
      hscan.stepwise.peekIs_eq_false
    rw [skipWhile_eq_takeWhile rfl, takeWhile_of_peekIs_eq_false hstop]
    rfl

/-- From every cursor that work on a source leads to, each loop goes over exactly the longest front
part of the text ahead that it is after, one character at a time, and to run it again changes
nothing. -/
theorem scans_longest_front (s : String) (h : s.utf8ByteSize ≤ sourceLimit) (c : Cursor)
    (hc : Session.Reachable s (.cursor c)) (p : Char → Bool) :
    (∃ front c', c.takeWhile p = .ok c' ∧ ScansTaking s p c front c' ∧
      c'.takeWhile p = .ok c') ∧
    (∃ front c', c.takeUntil p = .ok c' ∧ ScansTaking s (fun ch => !p ch) c front c' ∧
      c'.takeUntil p = .ok c') ∧
    (c.start = c.stop → ∃ front c', c.skipWhile p = .ok c' ∧ ScansSkipping s p c front c' ∧
      c'.skipWhile p = .ok c') := by
  have hstands : c.StandsIn s := hc.standsIn h
  refine ⟨hstands.scansTaking h p, hstands.scansTaking h fun ch => !p ch, ?_⟩
  intro hempty
  exact hstands.scansSkipping h hempty p

theorem scans_longest_front_behind_token :
    ∃ c, Session.Reachable "(éß日;x" (.cursor c) ∧ c.start = c.stop ∧ c.last = some '(' ∧
      (∃ front c', c.takeWhile (· != ';') = .ok c' ∧
        ScansTaking "(éß日;x" (· != ';') c front c' ∧ c'.takeWhile (· != ';') = .ok c' ∧
        c'.content = "éß日" ∧ c'.stop = 8 ∧ c'.last = some '日') ∧
      (∃ front c', c.takeUntil (· != ';') = .ok c' ∧
        ScansTaking "(éß日;x" (fun ch => !(ch != ';')) c front c' ∧
        c'.takeUntil (· != ';') = .ok c' ∧ c' = c) ∧
      ∃ front c', c.skipWhile (· != ';') = .ok c' ∧
        ScansSkipping "(éß日;x" (· != ';') c front c' ∧ c'.skipWhile (· != ';') = .ok c' ∧
        c'.stop = 8 ∧ c'.last = some '(' := by
  let lexer : Lexer := ⟨⟨"(éß日;x", 1, 1, [], ['é', 'ß', '日', ';', 'x'], some '('⟩⟩
  have hconvert : Session.act (.cursor (.ofSource "(éß日;x")) .toLexer =
      some (.ok (.silent, .lexer (.ofSource "(éß日;x"))) := rfl
  have hnext : (Lexer.ofSource "(éß日;x").next =
      .ok (.ok ⟨⟨0, 1⟩, .punctuation .leftParen⟩, lexer) := by
    decide +kernel
  have hback : Session.act (.lexer lexer) .toCursor =
      some (.ok (.silent, .cursor lexer.cursor)) := rfl
  have hlexer := (Session.Reachable.start.act hconvert).act (Session.act_lexer_next hnext)
  have hreachable := hlexer.act hback
  obtain ⟨⟨taken, c₁, htake, htaken⟩, ⟨kept, c₂, hkeep, hkept⟩, hskips⟩ :=
    scans_longest_front _ (by decide) _ hreachable (· != ';')
  obtain ⟨skipped, c₃, hskip, hskipped⟩ := hskips rfl
  have htake' : lexer.cursor.takeWhile (· != ';') =
      .ok ⟨"(éß日;x", 1, 8, ['é', 'ß', '日'], [';', 'x'], some '日'⟩ := by decide +kernel
  have hkeep' : lexer.cursor.takeUntil (· != ';') = .ok lexer.cursor := by decide +kernel
  have hskip' : lexer.cursor.skipWhile (· != ';') =
      .ok ⟨"(éß日;x", 8, 8, [], [';', 'x'], some '('⟩ := by decide +kernel
  obtain rfl := Except.ok.inj (htake.symm.trans htake')
  obtain rfl := Except.ok.inj (hkeep.symm.trans hkeep')
  obtain rfl := Except.ok.inj (hskip.symm.trans hskip')
  exact ⟨_, hreachable, rfl, rfl, ⟨taken, _, htake, htaken.1, htaken.2, by decide, rfl, rfl⟩,
    ⟨kept, _, hkeep, hkept.1, hkept.2, rfl⟩, skipped, _, hskip, hskipped.1, hskipped.2, rfl, rfl⟩

end Lexis.Cursor
