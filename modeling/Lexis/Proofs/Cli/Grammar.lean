import Lexis.Cli.Options
import Mathlib.Data.List.Basic
import Mathlib.Data.List.Induction

namespace Lexis.Cli.Options

/-- The argument that sets a colour. -/
def setting (mode : ColorMode) : String :=
  "--color=" ++ mode.text

/-- The colour that an argument sets. -/
def setting? (argument : String) : Option ColorMode :=
  [ColorMode.auto, .always, .never].find? fun mode => argument == setting mode

def isPath (argument : String) : Bool :=
  argument.toList.head? != some '-'

def paths (arguments : List String) : List String :=
  arguments.filter isPath

def colors (arguments : List String) : List ColorMode :=
  arguments.filterMap setting?

structure Grammatical (arguments : List String) : Prop where
  each : ∀ a ∈ arguments, (∃ mode, a = setting mode) ∨ isPath a = true
  once : (paths arguments).length ≤ 1

/-- The only path of the arguments, and the colour set last. -/
def described (arguments : List String) : Options :=
  { path := (paths arguments).head?, color := (colors arguments).getLast?.getD .auto }

/-- What an argument that belongs does to the options. -/
inductive Adds (o : Options) : String → Options → Prop where
  | color (mode : ColorMode) : Adds o (setting mode) { o with color := mode }
  | path {a : String} : isPath a = true → o.path = none → Adds o a { o with path := some a }

/-- What is wrong with an argument, given whether there is a path already. -/
inductive Offends (seen : Prop) : String → Error → Prop where
  | badColor {value : String} :
      (∀ mode : ColorMode, value ≠ mode.text) → Offends seen ("--color=" ++ value) (.badColor value)
  | unknownOption {a : String} :
      isPath a = false → (∀ value, a ≠ "--color=" ++ value) → Offends seen a (.unknownOption a)
  | extraArgument {a : String} : isPath a = true → seen → Offends seen a (.extraArgument a)

theorem color_append_inj {value value' : String} (h : "--color=" ++ value = "--color=" ++ value') :
    value = value' :=
  String.append_right_inj _ |>.mp h

theorem isPath_color_append (value : String) : isPath ("--color=" ++ value) = false := by
  simp [isPath]

theorem setting?_setting (mode : ColorMode) : setting? (setting mode) = some mode := by
  cases mode <;> decide

theorem setting?_of_isPath {a : String} (h : isPath a = true) : setting? a = none := by
  rw [setting?, List.find?_eq_none]
  intro mode _ ha
  rw [eq_of_beq ha, setting, isPath_color_append] at h
  contradiction

theorem colorValue?_eq_some_iff {a value : String} :
    colorValue? a = some value ↔ a = "--color=" ++ value := by
  rw [colorValue?, Option.map_eq_some_iff]
  constructor
  · rintro ⟨cs, hcs, rfl⟩
    rw [List.isPrefixOf?_eq_some_iff_append_eq] at hcs
    rw [← String.toList_inj, String.toList_append, String.toList_ofList (l := cs), hcs]
  · rintro rfl
    refine ⟨value.toList, ?_, String.ofList_toList⟩
    rw [List.isPrefixOf?_eq_some_iff_append_eq, String.toList_append]

theorem colorValue?_eq_none_iff {a : String} :
    colorValue? a = none ↔ ∀ value, a ≠ "--color=" ++ value := by
  simp only [Option.eq_none_iff_forall_ne_some, ne_eq, colorValue?_eq_some_iff]

theorem isPath_eq_false_iff {a : String} : isPath a = false ↔ a.toList.head? = some '-' := by
  simp [isPath]

theorem ne_color_append_of_isPath {a : String} (h : isPath a = true) (value : String) :
    a ≠ "--color=" ++ value := by
  rintro rfl
  rw [isPath_color_append] at h
  contradiction

theorem add_of_isPath {a : String} (h : isPath a = true) (o : Options) :
    o.add a = if o.path = none then .ok { o with path := some a }
      else .error (.extraArgument a) := by
  have hvalue := colorValue?_eq_none_iff.mpr (ne_color_append_of_isPath h)
  have hhead : a.toList.head? ≠ some '-' := by
    rw [ne_eq, ← isPath_eq_false_iff, h]
    decide
  simp only [add, hvalue, hhead, if_false]
  cases o.path with
  | none => rfl
  | some path => rfl

theorem Adds.add_eq {o o' : Options} {a : String} (h : Adds o a o') : o.add a = .ok o' := by
  cases h with
  | color mode =>
      have hvalue : colorValue? (setting mode) = some mode.text := colorValue?_eq_some_iff.mpr rfl
      have hparse : ColorMode.parse? mode.text = some mode :=
        ColorMode.parse?_eq_some_iff.mpr rfl
      simp only [add, hvalue, hparse]
  | path hpath hnone => rw [add_of_isPath hpath, if_pos hnone]

theorem Offends.add_eq {o : Options} {a : String} {e : Error} (h : Offends (o.path ≠ none) a e) :
    o.add a = .error e := by
  cases h with
  | badColor hvalue =>
      rename_i value
      have hcolor : colorValue? ("--color=" ++ value) = some value :=
        colorValue?_eq_some_iff.mpr rfl
      have hparse : ColorMode.parse? value = none := by
        rw [Option.eq_none_iff_forall_ne_some]
        intro mode hmode
        exact hvalue mode (ColorMode.parse?_eq_some_iff.mp hmode)
      simp only [add, hcolor, hparse]
  | unknownOption hpath hvalue =>
      have hcolor := colorValue?_eq_none_iff.mpr hvalue
      have hhead := isPath_eq_false_iff.mp hpath
      simp only [add, hcolor, hhead, if_true]
  | extraArgument hpath hseen => rw [add_of_isPath hpath, if_neg hseen]

theorem adds_or_offends (o : Options) (a : String) :
    (∃ o', Adds o a o') ∨ ∃ e, Offends (o.path ≠ none) a e := by
  by_cases hcolor : ∃ value, a = "--color=" ++ value
  · obtain ⟨value, rfl⟩ := hcolor
    by_cases hmode : ∃ mode : ColorMode, value = mode.text
    · obtain ⟨mode, rfl⟩ := hmode
      exact .inl ⟨_, .color mode⟩
    · exact .inr ⟨_, .badColor (not_exists.mp hmode)⟩
  · cases hpath : isPath a with
    | false => exact .inr ⟨_, .unknownOption hpath (not_exists.mp hcolor)⟩
    | true =>
        by_cases hnone : o.path = none
        · exact .inl ⟨_, .path hpath hnone⟩
        · exact .inr ⟨_, .extraArgument hpath hnone⟩

theorem add_eq_ok_iff {o o' : Options} {a : String} : o.add a = .ok o' ↔ Adds o a o' := by
  refine ⟨fun h => ?_, Adds.add_eq⟩
  rcases adds_or_offends o a with ⟨o'', hadds⟩ | ⟨e, hoffends⟩
  · obtain rfl := Except.ok.inj (hadds.add_eq.symm.trans h)
    exact hadds
  · rw [hoffends.add_eq] at h
    contradiction

theorem add_eq_error_iff {o : Options} {a : String} {e : Error} :
    o.add a = .error e ↔ Offends (o.path ≠ none) a e := by
  refine ⟨fun h => ?_, Offends.add_eq⟩
  rcases adds_or_offends o a with ⟨o', hadds⟩ | ⟨e', hoffends⟩
  · rw [hadds.add_eq] at h
    contradiction
  · obtain rfl := Except.error.inj (hoffends.add_eq.symm.trans h)
    exact hoffends

section

variable (arguments : List String) {a : String}

theorem parse_append (more : List String) :
    parse (arguments ++ more) = parse arguments >>= fun o => more.foldlM add o :=
  List.foldlM_append

theorem parse_concat (a : String) :
    parse (arguments ++ [a]) = parse arguments >>= fun o => o.add a := by
  rw [parse_append]
  simp only [List.foldlM_cons, List.foldlM_nil, bind_pure]

theorem paths_concat_setting (mode : ColorMode) :
    paths (arguments ++ [setting mode]) = paths arguments := by
  simp [paths, setting, isPath_color_append]

theorem colors_concat_setting (mode : ColorMode) :
    colors (arguments ++ [setting mode]) = colors arguments ++ [mode] := by
  simp [colors, setting?_setting]

theorem paths_concat (h : isPath a = true) : paths (arguments ++ [a]) = paths arguments ++ [a] := by
  simp [paths, h]

theorem colors_concat (h : isPath a = true) : colors (arguments ++ [a]) = colors arguments := by
  simp [colors, setting?_of_isPath h]

theorem path_described_ne_none_iff :
    (described arguments).path ≠ none ↔ ∃ p ∈ arguments, isPath p = true := by
  rw [described, ne_eq, List.head?_eq_none_iff, paths, List.filter_eq_nil_iff]
  simp

end

variable {arguments good more : List String} {o : Options} {a bad : String} {e : Error}

theorem grammatical_nil : Grammatical [] where
  each := by simp
  once := by simp [paths]

theorem Grammatical.of_append (h : Grammatical (good ++ more)) : Grammatical good where
  each := fun a ha => h.each a (List.mem_append_left more ha)
  once := by
    have honce := h.once
    rw [paths, List.filter_append, List.length_append] at honce
    rw [paths]
    omega

theorem Grammatical.adds (h : Grammatical arguments) (hadds : Adds (described arguments) a o) :
    Grammatical (arguments ++ [a]) ∧ o = described (arguments ++ [a]) := by
  cases hadds with
  | color mode =>
      refine ⟨⟨?_, ?_⟩, ?_⟩
      · rw [List.forall_mem_append, List.forall_mem_singleton]
        exact ⟨h.each, .inl ⟨mode, rfl⟩⟩
      · rw [paths_concat_setting]
        exact h.once
      · simp only [described, paths_concat_setting, colors_concat_setting, List.getLast?_concat,
          Option.getD_some]
  | path hpath hnone =>
      have hpaths : paths arguments = [] := List.head?_eq_none_iff.mp hnone
      refine ⟨⟨?_, ?_⟩, ?_⟩
      · rw [List.forall_mem_append, List.forall_mem_singleton]
        exact ⟨h.each, .inr hpath⟩
      · rw [paths_concat _ hpath, hpaths]
        exact Nat.le_refl 1
      · simp only [described, paths_concat _ hpath, colors_concat _ hpath, hpaths, List.nil_append,
          List.head?_cons]

theorem grammatical_of_parse (h : parse arguments = .ok o) :
    Grammatical arguments ∧ o = described arguments := by
  induction arguments using List.reverseRecOn generalizing o with
  | nil =>
      obtain rfl := Except.ok.inj h
      exact ⟨grammatical_nil, rfl⟩
  | append_singleton arguments a ih =>
      rw [parse_concat] at h
      cases hfront : parse arguments with
      | error e =>
          rw [hfront] at h
          contradiction
      | ok o' =>
          rw [hfront] at h
          obtain ⟨hgrammatical, rfl⟩ := ih hfront
          exact hgrammatical.adds (add_eq_ok_iff.mp h)

theorem Offends.not_grammatical (h : Offends (∃ p ∈ good, isPath p = true) bad e) :
    ¬ Grammatical (good ++ [bad]) := by
  intro hgrammatical
  have hbad := hgrammatical.each bad (by simp)
  cases h with
  | badColor hvalue =>
      rcases hbad with ⟨mode, hmode⟩ | hpath
      · exact hvalue mode (color_append_inj hmode)
      · rw [isPath_color_append] at hpath
        contradiction
  | unknownOption hpath hvalue =>
      rcases hbad with ⟨mode, hmode⟩ | hpath'
      · exact hvalue _ hmode
      · rw [hpath] at hpath'
        contradiction
  | extraArgument hpath hseen =>
      obtain ⟨p, hp, hpath'⟩ := hseen
      have honce := hgrammatical.once
      have hpos : 0 < (paths good).length :=
        List.length_pos_of_mem (List.mem_filter.mpr ⟨hp, hpath'⟩)
      rw [paths_concat _ hpath, List.length_append, List.length_singleton] at honce
      omega

theorem parse_append_of_error (h : parse arguments = .error e) (more : List String) :
    parse (arguments ++ more) = .error e := by
  rw [parse_append, h]
  rfl

theorem parse_of_offends (hgood : parse good = .ok o)
    (hbad : Offends (∃ p ∈ good, isPath p = true) bad e) (rest : List String) :
    parse (good ++ bad :: rest) = .error e := by
  obtain ⟨-, rfl⟩ := grammatical_of_parse hgood
  rw [← path_described_ne_none_iff] at hbad
  rw [parse_append, hgood]
  change ((described good).add bad >>= _) = _
  rw [hbad.add_eq]
  rfl

theorem exists_offends_of_parse (h : parse arguments = .error e) :
    ∃ good bad rest, arguments = good ++ bad :: rest ∧ (∃ o, parse good = .ok o) ∧
      Offends (∃ p ∈ good, isPath p = true) bad e := by
  induction arguments using List.reverseRecOn with
  | nil => contradiction
  | append_singleton arguments a ih =>
      cases hfront : parse arguments with
      | error e' =>
          obtain rfl := Except.error.inj ((parse_append_of_error hfront [a]).symm.trans h)
          obtain ⟨good, bad, rest, rfl, hgood, hbad⟩ := ih hfront
          exact ⟨good, bad, rest ++ [a], by simp, hgood, hbad⟩
      | ok o =>
          obtain ⟨-, rfl⟩ := grammatical_of_parse hfront
          rw [parse_concat, hfront] at h
          have hbad := add_eq_error_iff.mp h
          rw [path_described_ne_none_iff] at hbad
          exact ⟨arguments, a, [], rfl, ⟨_, hfront⟩, hbad⟩

theorem exists_parse_iff : (∃ o, parse arguments = .ok o) ↔ Grammatical arguments := by
  constructor
  · rintro ⟨o, h⟩
    exact (grammatical_of_parse h).1
  · intro h
    cases hparse : parse arguments with
    | ok o => exact ⟨o, rfl⟩
    | error e =>
        obtain ⟨good, bad, rest, rfl, -, hbad⟩ := exists_offends_of_parse hparse
        rw [List.append_cons] at h
        exact absurd h.of_append hbad.not_grammatical

theorem parse_eq_error_iff :
    parse arguments = .error e ↔ ∃ good bad rest, arguments = good ++ bad :: rest ∧
      Grammatical good ∧ ¬ Grammatical (good ++ [bad]) ∧
      Offends (∃ p ∈ good, isPath p = true) bad e := by
  constructor
  · intro h
    obtain ⟨good, bad, rest, hsplit, hgood, hbad⟩ := exists_offends_of_parse h
    exact ⟨good, bad, rest, hsplit, exists_parse_iff.mp hgood, hbad.not_grammatical, hbad⟩
  · rintro ⟨good, bad, rest, rfl, hgood, -, hbad⟩
    obtain ⟨o, ho⟩ := exists_parse_iff.mpr hgood
    exact parse_of_offends ho hbad rest

theorem described_of_middle {before after : List String} {path : String}
    (h : Grammatical (before ++ path :: after)) (hpath : isPath path = true) :
    described (before ++ path :: after) =
      { path := some path, color := (colors (before ++ after)).getLast?.getD .auto } := by
  have hpaths : paths (before ++ path :: after) = paths before ++ path :: paths after := by
    simp [paths, hpath]
  have honce := h.once
  rw [hpaths, List.length_append, List.length_cons] at honce
  have hbefore : paths before = [] := List.eq_nil_of_length_eq_zero (by omega)
  have hcolors : colors (before ++ path :: after) = colors (before ++ after) := by
    simp [colors, setting?_of_isPath hpath]
  rw [described, hpaths, hbefore, hcolors]
  rfl

theorem parse_of_moved {before after before' after' : List String} {path : String}
    (h : parse (before ++ path :: after) = .ok o) (hpath : isPath path = true)
    (hothers : before' ++ after' = before ++ after) :
    parse (before' ++ path :: after') = .ok o := by
  obtain ⟨hgrammatical, rfl⟩ := grammatical_of_parse h
  have hperm : (before' ++ path :: after').Perm (before ++ path :: after) := by
    have hfront : (before' ++ path :: after').Perm (path :: (before' ++ after')) :=
      List.perm_middle
    rw [hothers] at hfront
    exact hfront.trans List.perm_middle.symm
  have hmoved : Grammatical (before' ++ path :: after') := by
    refine ⟨fun a ha => hgrammatical.each a (hperm.mem_iff.mp ha), ?_⟩
    rw [paths, (hperm.filter isPath).length_eq]
    exact hgrammatical.once
  obtain ⟨o, ho⟩ := exists_parse_iff.mpr hmoved
  obtain ⟨-, rfl⟩ := grammatical_of_parse ho
  rw [ho, described_of_middle hmoved hpath, described_of_middle hgrammatical hpath, hothers]

/-- The value or the argument that an error is about. -/
def Error.subject : Error → String
  | badColor value => value
  | unknownOption argument => argument
  | extraArgument argument => argument

theorem Error.exists_message (e : Error) :
    ∃ front back, e.message = front ++ "'" ++ e.subject ++ "'" ++ back := by
  cases e with
  | badColor value =>
      have hfront : "invalid --color value '" = "invalid --color value " ++ "'" := by decide
      have hback : "' (expected auto, always or never)" =
          "'" ++ " (expected auto, always or never)" := by decide
      refine ⟨"invalid --color value ", " (expected auto, always or never)", ?_⟩
      change "invalid --color value '" ++ value ++ "' (expected auto, always or never)" =
        "invalid --color value " ++ "'" ++ value ++ "'" ++ " (expected auto, always or never)"
      rw [hfront, hback, ← String.append_assoc]
  | unknownOption argument =>
      have hfront : "unknown option '" = "unknown option " ++ "'" := by decide
      refine ⟨"unknown option ", "", ?_⟩
      change "unknown option '" ++ argument ++ "'" =
        "unknown option " ++ "'" ++ argument ++ "'" ++ ""
      rw [hfront, String.append_empty]
  | extraArgument argument =>
      have hfront : "unexpected argument '" = "unexpected argument " ++ "'" := by decide
      refine ⟨"unexpected argument ", "", ?_⟩
      change "unexpected argument '" ++ argument ++ "'" =
        "unexpected argument " ++ "'" ++ argument ++ "'" ++ ""
      rw [hfront, String.append_empty]

/-- The arguments are accepted exactly if they follow the grammar. Then they give the only path
among them and the colour set last, wherever the path stands. Otherwise the error is the one of the
first argument with which they leave the grammar, tells what it is about, and is not changed by
anything that comes behind. -/
theorem parse_follows_grammar (arguments : List String) :
    ((∃ o, parse arguments = .ok o) ↔ Grammatical arguments) ∧
      (∀ o, parse arguments = .ok o →
        o.path = (paths arguments).head? ∧ o.color = (colors arguments).getLast?.getD .auto ∧
        ∀ before path after before' after', arguments = before ++ path :: after →
          isPath path = true → before' ++ after' = before ++ after →
          parse (before' ++ path :: after') = .ok o) ∧
      (∀ e, parse arguments = .error e ↔ ∃ good bad rest, arguments = good ++ bad :: rest ∧
        Grammatical good ∧ ¬ Grammatical (good ++ [bad]) ∧
        Offends (∃ p ∈ good, isPath p = true) bad e) ∧
      ∀ e, parse arguments = .error e →
        (∃ front back, e.message = front ++ "'" ++ e.subject ++ "'" ++ back) ∧
        ∀ more, parse (arguments ++ more) = .error e := by
  refine ⟨exists_parse_iff, fun o ho => ?_, fun e => parse_eq_error_iff, fun e he => ?_⟩
  · obtain ⟨-, hdescribed⟩ := grammatical_of_parse ho
    refine ⟨congrArg Options.path hdescribed, congrArg Options.color hdescribed, ?_⟩
    rintro before path after before' after' rfl hpath hothers
    exact parse_of_moved ho hpath hothers
  · exact ⟨e.exists_message, parse_append_of_error he⟩

end Lexis.Cli.Options
