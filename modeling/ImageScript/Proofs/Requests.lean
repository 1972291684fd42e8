-- What the program does for which arguments.  The arguments in front of the first
-- `--` are options, requests for help or scripts, all behind it are scripts.  An
-- option that is not understood comes before everything else, then help, then the
-- version, and a script is looked at only if it is the only one.
import ImageScript.CommandLine
import ImageScript.Prompt

namespace ImageScript.CommandLine

/-! ## What arguments are -/

/-- The arguments in front of the mark that ends the options. -/
def inFront (args : List String) : List String :=
  args.takeWhile (· ≠ "--")

/-- The arguments behind that mark. -/
def behind (args : List String) : List String :=
  (args.dropWhile (· ≠ "--")).drop 1

def asksForHelp (arg : String) : Bool :=
  arg = "--help" || arg = "help"

def asksForVersion (arg : String) : Bool :=
  arg = "-v" || arg = "--version"

/-- An argument that is neither a request for help nor an option. -/
def namesScript (arg : String) : Bool :=
  !asksForHelp arg && !looksLikeOption arg

/-- The scripts that are named, in front of the mark and behind it. -/
def scripts (args : List String) : List String :=
  (inFront args).filter namesScript ++ behind args

/-- Every option is one that the program knows, and behind a request for help there
is none but another one.  `help` tells whether help has been asked for before. -/
def Understood (help : Bool) (front : List String) : Prop :=
  ∀ before arg after, front = before ++ arg :: after → looksLikeOption arg = true →
    arg = "--help" ∨
      asksForVersion arg = true ∧ help = false ∧ ∀ b ∈ before, asksForHelp b = false

theorem understood_nil (help : Bool) : Understood help [] := by
  intro before arg after h
  simp at h

theorem understood_cons_iff {help : Bool} {arg : String} {front : List String} :
    Understood help (arg :: front) ↔
      (looksLikeOption arg = true →
        arg = "--help" ∨ asksForVersion arg = true ∧ help = false) ∧
      Understood (help || asksForHelp arg) front := by
  constructor
  · intro h
    refine ⟨?_, ?_⟩
    · intro hoption
      rcases h [] arg front rfl hoption with hhelp | ⟨hversion, hfalse, -⟩
      · exact Or.inl hhelp
      · exact Or.inr ⟨hversion, hfalse⟩
    · rintro before arg' after rfl hoption
      rcases h (arg :: before) arg' after rfl hoption with hhelp | ⟨hversion, hfalse, hbefore⟩
      · exact Or.inl hhelp
      · rw [List.forall_mem_cons] at hbefore
        exact Or.inr ⟨hversion, by rw [hfalse, hbefore.1]; rfl, hbefore.2⟩
  · rintro ⟨harg, h⟩ before arg' after heq hoption
    cases before with
    | nil =>
      obtain ⟨rfl, rfl⟩ := List.cons.inj heq
      rcases harg hoption with hhelp | ⟨hversion, hfalse⟩
      · exact Or.inl hhelp
      · exact Or.inr ⟨hversion, hfalse, by simp⟩
    | cons b before =>
      obtain ⟨rfl, rfl⟩ := List.cons.inj heq
      rcases h before arg' after rfl hoption with hhelp | ⟨hversion, hfalse, hbefore⟩
      · exact Or.inl hhelp
      · rw [Bool.or_eq_false_iff] at hfalse
        exact Or.inr ⟨hversion, hfalse.1, List.forall_mem_cons.2 ⟨hfalse.2, hbefore⟩⟩

/-- The arguments are understood up to the mark. -/
def AllUnderstood (args : List String) : Prop :=
  Understood false (inFront args)

/-- Help is asked for in front of the mark. -/
def helpAsked (args : List String) : Bool :=
  (inFront args).any asksForHelp

/-- The version is asked for in front of the mark. -/
def versionAsked (args : List String) : Bool :=
  (inFront args).any asksForVersion

/-! ## Reading arguments -/

theorem inFront_cons {arg : String} (h : arg ≠ "--") (args : List String) :
    inFront (arg :: args) = arg :: inFront args := by
  simp [inFront, h]

theorem behind_cons {arg : String} (h : arg ≠ "--") (args : List String) :
    behind (arg :: args) = behind args := by
  simp [behind, h]

theorem looksLikeOption_of_asksForVersion {arg : String} (h : asksForVersion arg = true) :
    looksLikeOption arg = true := by
  simp only [asksForVersion, Bool.or_eq_true, decide_eq_true_eq] at h
  rcases h with rfl | rfl <;> decide

theorem asksForVersion_of_asksForHelp {arg : String} (h : asksForHelp arg = true) :
    asksForVersion arg = false := by
  simp only [asksForHelp, Bool.or_eq_true, decide_eq_true_eq] at h
  rcases h with rfl | rfl <;> decide

namespace Arguments

/-- What has been gathered once one more argument is understood. -/
def taking (a : Arguments) (arg : String) : Arguments where
  help := a.help || asksForHelp arg
  version := a.version || asksForVersion arg
  scripts := a.scripts ++ [arg].filter namesScript

/-- What is gathered from arguments that are all understood. -/
def gathered (a : Arguments) (args : List String) : Arguments where
  help := a.help || helpAsked args
  version := a.version || versionAsked args
  scripts := a.scripts ++ CommandLine.scripts args

theorem gathered_cons (a : Arguments) {arg : String} (h : arg ≠ "--") (args : List String) :
    a.gathered (arg :: args) = (a.taking arg).gathered args := by
  have hfilter : (arg :: inFront args).filter namesScript =
      [arg].filter namesScript ++ (inFront args).filter namesScript := by
    rw [← List.filter_append, List.singleton_append]
  simp only [gathered, taking, helpAsked, versionAsked, CommandLine.scripts, inFront_cons h,
    behind_cons h, hfilter, List.any_cons, Bool.or_assoc, List.append_assoc]

/-- One argument in front of the mark is taken if it is understood. -/
theorem read_cons {a : Arguments} {arg : String} (hmark : arg ≠ "--")
    (h : looksLikeOption arg = true → arg = "--help" ∨ asksForVersion arg = true ∧ a.help = false)
    (args : List String) : a.read (arg :: args) = (a.taking arg).read args := by
  rw [read]
  by_cases hhelp : asksForHelp arg = true
  · have hversion := asksForVersion_of_asksForHelp hhelp
    have htaking : a.taking arg = { a with help := true } := by
      simp [taking, namesScript, hhelp, hversion]
    simp only [asksForHelp, Bool.or_eq_true, decide_eq_true_eq] at hhelp
    rw [if_pos hhelp, htaking]
  · have hnot : ¬ (arg = "--help" ∨ arg = "help") := by
      simpa only [asksForHelp, Bool.or_eq_true, decide_eq_true_eq] using hhelp
    rw [Bool.not_eq_true] at hhelp
    rw [if_neg hnot, if_neg hmark]
    by_cases hoption : looksLikeOption arg = true
    · obtain ⟨hversion, hfalse⟩ := (h hoption).resolve_left fun heq => hnot (Or.inl heq)
      have htaking : a.taking arg = { a with version := true } := by
        simp [taking, namesScript, hhelp, hversion, hoption]
      simp only [asksForVersion, Bool.or_eq_true, decide_eq_true_eq] at hversion
      rw [if_pos hoption, htaking, hfalse, if_neg Bool.false_ne_true, if_pos hversion]
    · have hversion : asksForVersion arg = false := by
        rw [Bool.eq_false_iff]
        exact fun hv => hoption (looksLikeOption_of_asksForVersion hv)
      have htaking : a.taking arg = a.addScripts [arg] := by
        rw [Bool.not_eq_true] at hoption
        simp [taking, addScripts, namesScript, hhelp, hversion, hoption]
      rw [if_neg hoption, htaking]

/-- One that is not understood is an error, whatever follows. -/
theorem exists_error_read_cons {a : Arguments} {arg : String} (hmark : arg ≠ "--")
    (hoption : looksLikeOption arg = true) (hhelp : arg ≠ "--help")
    (h : ¬ (asksForVersion arg = true ∧ a.help = false)) (args : List String) :
    ∃ e, a.read (arg :: args) = .error e := by
  have hword : arg ≠ "help" := by
    rintro rfl
    revert hoption
    decide
  have hnot : ¬ (arg = "--help" ∨ arg = "help") := by simp [hhelp, hword]
  rw [read, if_neg hnot, if_neg hmark, if_pos hoption]
  by_cases hfirst : a.help = true
  · exact ⟨_, if_pos hfirst⟩
  · rw [Bool.not_eq_true] at hfirst
    have hversion : ¬ (arg = "-v" ∨ arg = "--version") := by
      simpa [asksForVersion, hfirst] using h
    rw [hfirst, if_neg Bool.false_ne_true, if_neg hversion]
    exact ⟨_, rfl⟩

/-- The arguments are read if all options in front of the mark are understood, and
only then. -/
theorem read_spec (a : Arguments) (args : List String) :
    (Understood a.help (inFront args) → a.read args = .ok (a.gathered args)) ∧
      (¬ Understood a.help (inFront args) → ∃ e, a.read args = .error e) := by
  induction args generalizing a with
  | nil =>
    refine ⟨fun _ => ?_, fun h => absurd (understood_nil a.help) h⟩
    simp [read, gathered, helpAsked, versionAsked, inFront, behind, CommandLine.scripts]
  | cons arg args ih =>
    by_cases hmark : arg = "--"
    · subst hmark
      refine ⟨fun _ => ?_, fun h => absurd (understood_nil a.help) h⟩
      simp [read, gathered, addScripts, helpAsked, versionAsked, inFront, behind,
        CommandLine.scripts]
    · rw [inFront_cons hmark, understood_cons_iff]
      by_cases harg : looksLikeOption arg = true →
          arg = "--help" ∨ asksForVersion arg = true ∧ a.help = false
      · obtain ⟨hok, herror⟩ := ih (a.taking arg)
        rw [read_cons hmark harg, gathered_cons a hmark]
        exact ⟨fun h => hok h.2, fun h => herror fun hrest => h ⟨harg, hrest⟩⟩
      · refine ⟨fun h => absurd h.1 harg, fun _ => ?_⟩
        rw [Classical.not_imp, not_or] at harg
        obtain ⟨hoption, hhelp, hversion⟩ := harg
        exact exists_error_read_cons hmark hoption hhelp hversion args

end Arguments

/-- What arguments come to on their own. -/
theorem read_none_iff {args : List String} :
    (∃ a, Arguments.none.read args = .ok a) ↔ AllUnderstood args := by
  obtain ⟨hok, herror⟩ := Arguments.none.read_spec args
  constructor
  · rintro ⟨a, ha⟩
    refine Classical.byContradiction fun hnot => ?_
    obtain ⟨e, he⟩ := herror hnot
    rw [ha] at he
    cases he
  · intro h
    exact ⟨_, hok h⟩

/-! ## What is asked for -/

/-- Arguments that are understood ask for help before the version, and for the
version before any script. -/
theorem Request.ofArguments_eq {args : List String} (h : AllUnderstood args) :
    ofArguments args =
      if helpAsked args then .showHelp
      else if versionAsked args then .showVersion
      else match scripts args with
        | [] => .startPrompt
        | [path] => .scanScript path
        | _ => .showUsage := by
  have hread := (Arguments.none.read_spec args).1 h
  unfold ofArguments
  rw [hread]
  rfl

/-- Arguments that are not understood are explained, whatever else they ask for. -/
theorem Request.exists_ofArguments_eq_explain {args : List String} (h : ¬ AllUnderstood args) :
    ∃ e, ofArguments args = .explain e := by
  obtain ⟨e, hread⟩ := (Arguments.none.read_spec args).2 h
  refine ⟨e, ?_⟩
  unfold ofArguments
  rw [hread]

/-! ## Files -/

/-- Bytes are a text exactly if they are its encoding. -/
theorem fromUTF8?_eq_some_iff {bytes : ByteArray} {source : String} :
    String.fromUTF8? bytes = some source ↔ bytes = source.toUTF8 := by
  unfold String.fromUTF8?
  constructor
  · intro h
    split at h
    · rw [← Option.some.inj h]
      rfl
    · cases h
  · rintro rfl
    exact dif_pos source.isValidUTF8

theorem FileState.script_eq_ok_iff {state : FileState} {source : String} :
    state.script = .ok source ↔ state = .file source.toUTF8 := by
  cases state with
  | file bytes =>
    rw [FileState.file.injEq, ← fromUTF8?_eq_some_iff, script]
    cases String.fromUTF8? bytes <;> simp
  | _ => simp [script]

/-! ## How the program ends -/

/-- The program has printed on one of its channels only, and its exit code tells on
which. -/
structure Exit.Clean (e : Exit) : Prop where
  code : e.code = 0 ∨ e.code = 1
  errors : e.code = 1 ↔ e.errors ≠ ""
  output : e.code = 1 → e.output = ""

theorem Exit.clean_success (output : String) : (success output).Clean := by
  refine ⟨Or.inl rfl, ?_, ?_⟩ <;> simp [success]

theorem Exit.clean_failure (message : String) : (failure message).Clean := by
  refine ⟨Or.inr rfl, ?_, fun _ => rfl⟩
  simp [failure]

theorem clean_scan (source : String) : (scan source).Clean := by
  unfold scan
  cases lex source with
  | ok tokens => exact Exit.clean_success _
  | error e => exact Exit.clean_failure _

theorem clean_scanFile (state : FileState) : (scanFile state).Clean := by
  unfold scanFile
  cases state.script with
  | ok source => exact clean_scan source
  | error e => exact Exit.clean_failure _

theorem clean_respond (fileAt : String → FileState) (prompt : String) (request : Request) :
    (respond fileAt prompt request).Clean := by
  cases request with
  | explain e => exact Exit.clean_failure _
  | showHelp => exact Exit.clean_success _
  | showVersion => exact Exit.clean_success _
  | showUsage => exact Exit.clean_failure _
  | scanScript path => exact clean_scanFile _
  | startPrompt => exact Exit.clean_success _

/-- A file is scanned without failure if it holds the encoding of a script that is
lexed, and only then. -/
theorem code_scanFile_eq_zero_iff {state : FileState} :
    (scanFile state).code = 0 ↔
      ∃ source tokens, state = .file source.toUTF8 ∧ lex source = .ok tokens := by
  simp only [← FileState.script_eq_ok_iff]
  unfold scanFile
  cases state.script with
  | ok source =>
    simp only [scan, Except.ok.injEq]
    cases hlex : lex source with
    | ok tokens => simp [Exit.success, hlex]
    | error e => simp [Exit.failure, hlex]
  | error e => simp [Exit.failure]

theorem scanFile_eq {state : FileState} {source : String} {tokens : List Token}
    (hstate : state = .file source.toUTF8) (hlex : lex source = .ok tokens) :
    scanFile state = .success (Table.text tokens ++ "\n") := by
  rw [← FileState.script_eq_ok_iff] at hstate
  simp only [scanFile, hstate, scan, hlex]

/-! ## The law -/

/-- What the program answers to arguments when nothing is typed at its prompt. -/
def run (fileAt : String → FileState) (args : List String) : Exit :=
  respond fileAt (Prompt.session "") (.ofArguments args)

/-- Whatever the arguments are and whatever the paths name, the program ends with
code zero, or with code one, an error message and nothing else.  Arguments that are
not understood are an error.  Then a request for help is answered before one for
the version, and both before any file is looked at.  Without them more than one
script is an error, and a single one is lexed, which succeeds exactly if it is there,
is a text and has no fault. -/
theorem the_program_ends_cleanly (fileAt : String → FileState) (args : List String) :
    (run fileAt args).Clean ∧
    ((∃ a, Arguments.none.read args = .ok a) ↔ AllUnderstood args) ∧
    (¬ AllUnderstood args → (run fileAt args).code = 1) ∧
    (AllUnderstood args → helpAsked args = true → run fileAt args = .success helpText) ∧
    (AllUnderstood args → helpAsked args = false → versionAsked args = true →
      run fileAt args = .success versionText) ∧
    (AllUnderstood args → helpAsked args = false → versionAsked args = false →
      (scripts args = [] → run fileAt args = .success "") ∧
      (2 ≤ (scripts args).length →
        run fileAt args = .failure "Error: Usage: imagelex [script file]") ∧
      ∀ path, scripts args = [path] →
        ((run fileAt args).code = 0 ↔
          ∃ source tokens, fileAt path = .file source.toUTF8 ∧ lex source = .ok tokens) ∧
        ∀ source tokens, fileAt path = .file source.toUTF8 → lex source = .ok tokens →
          run fileAt args = .success (Table.text tokens ++ "\n")) := by
  refine ⟨clean_respond _ _ _, read_none_iff, ?_, ?_, ?_, ?_⟩
  · intro h
    obtain ⟨e, he⟩ := Request.exists_ofArguments_eq_explain h
    rw [run, he]
    rfl
  · intro h hhelp
    rw [run, Request.ofArguments_eq h, if_pos hhelp]
    rfl
  · intro h hhelp hversion
    rw [run, Request.ofArguments_eq h, hhelp, if_neg Bool.false_ne_true, if_pos hversion]
    rfl
  · intro h hhelp hversion
    have hrequest := Request.ofArguments_eq h
    rw [hhelp, if_neg Bool.false_ne_true, hversion, if_neg Bool.false_ne_true] at hrequest
    refine ⟨?_, ?_, ?_⟩
    · intro hnone
      rw [hnone] at hrequest
      rw [run, hrequest]
      rfl
    · intro hmany
      have husage : Request.ofArguments args = .showUsage := by
        rw [hrequest]
        split <;> simp_all
      rw [run, husage]
      rfl
    · intro path hone
      rw [hone] at hrequest
      have hrun : run fileAt args = scanFile (fileAt path) := by
        rw [run, hrequest]
        rfl
      rw [hrun]
      exact ⟨code_scanFile_eq_zero_iff, fun source tokens hstate hlex => scanFile_eq hstate hlex⟩

/-- Behind the mark even options and words for help are scripts, and nothing of that
counts if the version is asked for in front of it. -/
theorem a_version_behind_a_script_is_shown :
    let fileAt := fun path => if path = "-v" then FileState.file "if".toUTF8 else .missing
    run fileAt ["a", "-v", "--", "help"] = .success versionText ∧
    run fileAt ["a", "--", "-v"] = .failure "Error: Usage: imagelex [script file]" ∧
    run fileAt ["--", "-v"] = .success "1:1  RES_if  if\n1:3  EOF     \n\n" ∧
    (run fileAt ["--", "help"]).code ≠ 0 ∧
    (run fileAt ["help", "-v"]).code = 1 := by
  intro fileAt
  have hversion : AllUnderstood ["a", "-v", "--", "help"] := by
    refine understood_cons_iff.2 ⟨by decide, ?_⟩
    exact understood_cons_iff.2 ⟨by decide, understood_nil _⟩
  have hscript : AllUnderstood ["a", "--", "-v"] :=
    understood_cons_iff.2 ⟨by decide, understood_nil _⟩
  have hoption : ¬ AllUnderstood ["help", "-v"] := by
    intro h
    have hbehind := (understood_cons_iff.1 h).2
    exact absurd ((understood_cons_iff.1 hbehind).1 (by decide)) (by decide)
  have hlex : lex "if" = .ok
      [{ kind := .keyword .beginIf, start := .start, text := "if" },
       { kind := .endOfInput, start := { line := 1, column := 3, offset := 2 }, text := "" }] := by
    decide +kernel
  refine ⟨?_, ?_, ?_, ?_, ?_⟩
  · obtain ⟨-, -, -, -, hshown, -⟩ := the_program_ends_cleanly fileAt ["a", "-v", "--", "help"]
    exact hshown hversion (by decide) (by decide)
  · obtain ⟨-, -, -, -, -, hscripts⟩ := the_program_ends_cleanly fileAt ["a", "--", "-v"]
    exact (hscripts hscript (by decide) (by decide)).2.1 (by decide)
  · obtain ⟨-, -, -, -, -, hscripts⟩ := the_program_ends_cleanly fileAt ["--", "-v"]
    obtain ⟨-, -, hone⟩ := hscripts (understood_nil _) (by decide) (by decide)
    exact (hone "-v" (by decide)).2 "if" _ rfl hlex
  · obtain ⟨-, -, -, -, -, hscripts⟩ := the_program_ends_cleanly fileAt ["--", "help"]
    obtain ⟨-, -, hone⟩ := hscripts (understood_nil _) (by decide) (by decide)
    intro hzero
    obtain ⟨source, tokens, hmissing, -⟩ := (hone "help" (by decide)).1.1 hzero
    cases hmissing
  · obtain ⟨-, -, herror, -⟩ := the_program_ends_cleanly fileAt ["help", "-v"]
    exact herror hoption

end ImageScript.CommandLine
