import Lexis.Cli
import Lexis.Proofs.Listing.Rows
import Lexis.Proofs.Report.Faultless

namespace Lexis.Cli

theorem Exit.code_failure_ne_zero (stderr : String) : (failure stderr).code ≠ 0 := by
  change (1 : UInt32) ≠ 0
  decide

theorem fromUTF8?_eq_some_iff {bytes : ByteArray} {s : String} :
    String.fromUTF8? bytes = some s ↔ bytes = s.toByteArray := by
  rw [String.fromUTF8?]
  constructor
  · intro h
    split at h
    · rw [← Option.some.inj h]
      rfl
    · contradiction
  · rintro rfl
    rw [dif_pos s.isValidUTF8]
    rfl

theorem Host.readText_eq_ok_iff {host : Host} {path s : String} :
    host.readText path = .ok s ↔ host.read path = .ok s.toByteArray := by
  rw [Host.readText]
  cases host.read path with
  | error e => simp
  | ok bytes =>
      simp only [Except.ok.injEq, ← fromUTF8?_eq_some_iff]
      cases String.fromUTF8? bytes with
      | none => simp
      | some text => simp

/-- The arguments ask for the file at `path`, with errors shown in `color`, and it holds `s`. -/
structure Opens (host : Host) (arguments : List String) (path : String) (color : ColorMode)
    (s : String) : Prop where
  options_eq : Options.parse arguments = .ok ⟨some path, color⟩
  read_eq : host.read path = .ok s.toByteArray

variable {host : Host} {arguments : List String} {path path' s s' : String}
  {color color' : ColorMode}

theorem Opens.unique (h : Opens host arguments path color s)
    (h' : Opens host arguments path' color' s') : path = path' ∧ color = color' ∧ s = s' := by
  have hoptions := h.options_eq.symm.trans h'.options_eq
  rw [Except.ok.injEq, Options.mk.injEq, Option.some.injEq] at hoptions
  obtain ⟨rfl, rfl⟩ := hoptions
  have hbytes := h.read_eq.symm.trans h'.read_eq
  rw [Except.ok.injEq] at hbytes
  exact ⟨rfl, rfl, String.toByteArray_inj.mp hbytes⟩

theorem list_of_opens (h : Opens host arguments path color s) :
    list host arguments = listSource host color path s := by
  have hread := Host.readText_eq_ok_iff.mpr h.read_eq
  rw [list, h.options_eq]
  simp only [hread]

theorem list_of_not_opens (h : ∀ path color s, ¬ Opens host arguments path color s) :
    ∃ message, list host arguments = .ok (.failure message) ∧ message ≠ "" := by
  rw [list]
  cases hparse : Options.parse arguments with
  | error e => exact ⟨_, rfl, by simp⟩
  | ok options =>
      rcases options with ⟨path, color⟩
      cases path with
      | none => exact ⟨_, rfl, by simp⟩
      | some path =>
          cases hread : host.readText path with
          | error e =>
              simp only [hread]
              exact ⟨_, rfl, by simp⟩
          | ok s => exact absurd ⟨hparse, Host.readText_eq_ok_iff.mp hread⟩ (h path color s)

theorem listSource_of_listing {listed : String} (h : listing s = .ok (.ok listed)) :
    listSource host color path s = .ok (.success listed) := by
  rw [listSource, h]
  rfl

/-- The reporter of a run, with the text at hand that the run has opened. -/
def reporter (host : Host) (color : ColorMode) (path s : String) : Reporter :=
  (Reporter.mk (color.useColors host.terminal) none).attach path s

theorem listSource_of_error {e : LexError} {report : String} (h : listing s = .ok (.error e))
    (hreport : (reporter host color path s).report (.ofLexError e) = .ok report) :
    listSource host color path s =
      .ok (.failure (report ++ (reporter host color path s).summarize 1)) := by
  have hfull : (reporter host color path s).reportLexError e =
      .ok (report ++ (reporter host color path s).summarize 1) := by
    rw [Reporter.reportLexError, Checked.bind_eq_ok_iff]
    exact ⟨(report, _), Reporter.emit_of_report hreport, rfl⟩
  rw [listSource, h]
  change (reporter host color path s).reportLexError e >>= _ = _
  rw [Checked.bind_eq_ok_iff]
  exact ⟨_, hfull, rfl⟩

/-- The ways in which a listing run can end: with the listing of a text, with the report of what is
wrong with it, or before there is a text. -/
inductive Ends (host : Host) (arguments : List String) : Exit → Prop where
  | listed {path s listed : String} {color : ColorMode} {ts : List Token} :
      Opens host arguments path color s → lex s = .ok (.ok ts) → listing s = .ok (.ok listed) →
      Ends host arguments (.success listed)
  | reported {path s report : String} {color : ColorMode} {e : LexError} :
      Opens host arguments path color s → lex s = .ok (.error e) →
      (reporter host color path s).report (.ofLexError e) = .ok report → report ≠ "" →
      Ends host arguments (.failure (report ++ (reporter host color path s).summarize 1))
  | refused {message : String} :
      (∀ path color s, ¬ Opens host arguments path color s) → message ≠ "" →
      Ends host arguments (.failure message)

theorem exists_ends (host : Host) (arguments : List String)
    (hsize : ∀ path bytes, host.read path = .ok bytes → bytes.size < UInt32.size - 2) :
    ∃ exit, list host arguments = .ok exit ∧ Ends host arguments exit := by
  by_cases hopens : ∃ path color s, Opens host arguments path color s
  · obtain ⟨path, color, s, h⟩ := hopens
    have hsize : s.utf8ByteSize < UInt32.size - 2 := hsize path _ h.read_eq
    obtain ⟨result, hlex, hlisting⟩ := exists_listing hsize
    rw [list_of_opens h]
    cases result with
    | ok ts => exact ⟨_, listSource_of_listing hlisting, .listed h hlex hlisting⟩
    | error e =>
        obtain ⟨report, hreport, hne⟩ :=
          (Reporter.mk (color.useColors host.terminal) none).exists_report_attach path hsize
            (.ofLexError e)
        exact ⟨_, listSource_of_error hlisting hreport, .reported h hlex hreport hne⟩
  · simp only [not_exists] at hopens
    obtain ⟨message, hmessage, hne⟩ := list_of_not_opens hopens
    exact ⟨_, hmessage, .refused hopens hne⟩

namespace Ends

variable {exit : Exit}

theorem code_eq_zero_iff (h : Ends host arguments exit) :
    exit.code = 0 ↔ ∃ path color s ts,
      Opens host arguments path color s ∧ lex s = .ok (.ok ts) := by
  cases h with
  | listed hopens hlex hlisting => exact iff_of_true rfl ⟨_, _, _, _, hopens, hlex⟩
  | reported hopens hlex hreport hne =>
      refine iff_of_false (Exit.code_failure_ne_zero _) ?_
      rintro ⟨path, color, s, ts, hopens', hlex'⟩
      obtain ⟨rfl, rfl, rfl⟩ := hopens.unique hopens'
      simp [hlex] at hlex'
  | refused hopens hne =>
      refine iff_of_false (Exit.code_failure_ne_zero _) ?_
      rintro ⟨path, color, s, ts, hopens', -⟩
      exact hopens path color s hopens'

theorem listing_of_code_eq_zero (h : Ends host arguments exit) (hcode : exit.code = 0) :
    ∃ path color s, Opens host arguments path color s ∧ listing s = .ok (.ok exit.stdout) ∧
      exit.stderr = "" := by
  cases h with
  | listed hopens hlex hlisting => exact ⟨_, _, _, hopens, hlisting, rfl⟩
  | reported => exact absurd hcode (Exit.code_failure_ne_zero _)
  | refused => exact absurd hcode (Exit.code_failure_ne_zero _)

theorem of_code_ne_zero (h : Ends host arguments exit) (hcode : exit.code ≠ 0) :
    exit.code = 1 ∧ exit.stdout = "" ∧ exit.stderr ≠ "" := by
  cases h with
  | listed => exact absurd rfl hcode
  | reported hopens hlex hreport hne =>
      refine ⟨rfl, rfl, ?_⟩
      simp [Exit.failure, hne]
  | refused hopens hne => exact ⟨rfl, rfl, hne⟩

theorem stderr_of_error (h : Ends host arguments exit) {e : LexError}
    (hopens : Opens host arguments path color s) (hlex : lex s = .ok (.error e)) :
    ∃ report, (reporter host color path s).report (.ofLexError e) = .ok report ∧
      exit.stderr = report ++ (reporter host color path s).summarize 1 := by
  cases h with
  | listed hopens' hlex' hlisting =>
      obtain ⟨rfl, rfl, rfl⟩ := hopens.unique hopens'
      simp [hlex] at hlex'
  | reported hopens' hlex' hreport hne =>
      obtain ⟨rfl, rfl, rfl⟩ := hopens.unique hopens'
      rw [hlex, Except.ok.injEq, Except.error.injEq] at hlex'
      subst hlex'
      exact ⟨_, hreport, rfl⟩
  | refused hopens' hne => exact absurd hopens (hopens' path color s)

end Ends

/-- A listing run ends with status zero exactly if the arguments open a text and the text can be
lexed. Then its listing is all that is written. Otherwise the status is one, nothing is listed
and the error output tells why; for a text with an error in it, by the report of the error and the
closing line. -/
theorem run_lex_outcome (host : Host) (arguments : List String) (hterminal : host.terminal = false)
    (hsize : ∀ path bytes, host.read path = .ok bytes → bytes.size < UInt32.size - 2) :
    ∃ exit, run host ("lex" :: arguments) = .ok exit ∧
      (exit.code = 0 ↔ ∃ path color s ts,
        Opens host arguments path color s ∧ lex s = .ok (.ok ts)) ∧
      (exit.code = 0 → ∃ path color s, Opens host arguments path color s ∧
        listing s = .ok (.ok exit.stdout) ∧ exit.stderr = "") ∧
      (exit.code ≠ 0 → exit.code = 1 ∧ exit.stdout = "" ∧ exit.stderr ≠ "") ∧
      ∀ path color s e, Opens host arguments path color s → lex s = .ok (.error e) →
        ∃ report summary,
          (Reporter.mk (color.useColors false) none).run
              [.attach path s, .report (.ofLexError e), .summarize 1] =
            [.ok "", .ok report, .ok summary] ∧
          exit.stderr = report ++ summary := by
  obtain ⟨exit, hexit, hends⟩ := exists_ends host arguments hsize
  refine ⟨exit, hexit, hends.code_eq_zero_iff, hends.listing_of_code_eq_zero,
    hends.of_code_ne_zero, ?_⟩
  intro path color s e hopens hlex
  obtain ⟨report, hreport, hstderr⟩ := hends.stderr_of_error hopens hlex
  rw [reporter, hterminal] at hreport hstderr
  exact ⟨report, _, Reporter.run_attach_report hreport 1, hstderr⟩

/-- A file with the given text, and nothing else to read. -/
def Host.ofFile (path text : String) : Host :=
  { read := fun asked => if asked = path then .ok text.toByteArray else .error .notFound
    terminal := false }

theorem Host.size_lt_of_ofFile {path text : String} (h : text.utf8ByteSize < UInt32.size - 2)
    (asked : String) (bytes : ByteArray) (hread : (ofFile path text).read asked = .ok bytes) :
    bytes.size < UInt32.size - 2 := by
  simp only [ofFile] at hread
  split at hread
  · rw [← Except.ok.inj hread]
    exact h
  · contradiction

theorem run_lex_outcome_of_open_string :
    run (.ofFile "a.why" "7") ["lex", "a.why"] =
        .ok (.success "1:1 Integer 7\n1:2 EndOfFile\n") ∧
      ∃ report summary,
        run (.ofFile "a.why" "7 \"é") ["lex", "a.why", "--color=always"] =
            .ok (.failure (report ++ summary)) ∧
          (Reporter.mk true none).run [.attach "a.why" "7 \"é",
              .report (.ofLexError ⟨⟨2, 5⟩, .endOfInput⟩), .summarize 1] =
            [.ok "", .ok report, .ok summary] := by
  constructor
  · have hopens : Opens (.ofFile "a.why" "7") ["a.why"] "a.why" .auto "7" :=
      ⟨by decide +kernel, rfl⟩
    have hlex : lex "7" = .ok (.ok [⟨⟨0, 1⟩, .integer 7⟩, ⟨⟨1, 1⟩, .endOfFile⟩]) := by decide +kernel
    have hlisting : listing "7" = .ok (.ok "1:1 Integer 7\n1:2 EndOfFile\n") := by decide +kernel
    obtain ⟨⟨code, stdout, stderr⟩, hrun, hcode, hsuccess, -, -⟩ :=
      run_lex_outcome (.ofFile "a.why" "7") ["a.why"] rfl (Host.size_lt_of_ofFile (by decide))
    obtain rfl : code = 0 := hcode.mpr ⟨_, _, _, _, hopens, hlex⟩
    obtain ⟨path, color, s, hopens', hlisting', rfl⟩ := hsuccess rfl
    obtain ⟨rfl, rfl, rfl⟩ := hopens.unique hopens'
    rw [hlisting, Except.ok.injEq, Except.ok.injEq] at hlisting'
    obtain rfl : _ = stdout := hlisting'
    exact hrun
  · have hopens : Opens (.ofFile "a.why" "7 \"é") ["a.why", "--color=always"] "a.why" .always
        "7 \"é" := ⟨by decide +kernel, rfl⟩
    have hlex : lex "7 \"é" = .ok (.error ⟨⟨2, 5⟩, .endOfInput⟩) := by decide +kernel
    obtain ⟨⟨code, stdout, stderr⟩, hrun, hcode, -, hfailure, herror⟩ :=
      run_lex_outcome (.ofFile "a.why" "7 \"é") ["a.why", "--color=always"] rfl
        (Host.size_lt_of_ofFile (by decide))
    have hne : code ≠ 0 := by
      intro hzero
      obtain ⟨path, color, s, ts, hopens', hlex'⟩ := hcode.mp hzero
      obtain ⟨rfl, rfl, rfl⟩ := hopens.unique hopens'
      simp [hlex] at hlex'
    obtain ⟨rfl, rfl, -⟩ := hfailure hne
    obtain ⟨report, summary, hreporter, rfl⟩ := herror _ _ _ _ hopens hlex
    exact ⟨report, summary, hrun, hreporter⟩

end Lexis.Cli
