import GlyphCanvas.CommandLine

/-!
# Arguments that ask for a session

* `CommandLine.Reads`: the arguments ask for a session, and the options add up to these. That is
  what the reader of the arguments accepts (`CommandLine.parseFrom_eq_session_iff`).
* `CommandLine.Reads.telling`: arguments that do not ask for messages leave room for an option that
  does.
* `CommandLine.Asks`: the arguments ask for a session from an input to an output, with messages or
  without.
* `CommandLine.Asks.telling`, `CommandLine.exists_asks`: any session without messages can be asked
  for with messages, and one can be asked for with any paths that are not empty.
-/

namespace GlyphCanvas.CommandLine

/-! ## Reading the arguments -/

/-- Read on top of some options, the arguments ask for a session with the resulting options. -/
inductive Reads : Options → List String → Options → Prop where
  | done {options : Options} : Reads options [] options
  | paths {options result : Options} {argument : String} {rest : List String}
      (hclass : classify argument = .endOfOptions)
      (hrest : parsePaths options rest = .session result) : Reads options (argument :: rest) result
  | messages {options result : Options} {argument : String} {rest : List String}
      (hclass : classify argument = .messages) (hplain : options.messages = false)
      (hrest : Reads { options with messages := true } rest result) :
      Reads options (argument :: rest) result
  | input {options next result : Options} {argument path : String} {rest : List String}
      (hclass : classify argument = .input path) (hnext : withFile .input options path = some next)
      (hrest : Reads next rest result) : Reads options (argument :: rest) result
  | outputJoined {options next result : Options} {argument path : String} {rest : List String}
      (hclass : classify argument = .output (some path))
      (hnext : withFile .output options path = some next) (hrest : Reads next rest result) :
      Reads options (argument :: rest) result
  | output {options next result : Options} {argument value path : String} {rest : List String}
      (hclass : classify argument = .output none) (hvalue : classify value = .input path)
      (hnext : withFile .output options path = some next) (hrest : Reads next rest result) :
      Reads options (argument :: value :: rest) result

/-- Behind a path, a session is asked for only if the file can be named. -/
theorem exists_of_named {named : Option Options} {next : Options → Request} {result : Options}
    (h : (match named with | some options => next options | none => .misuse) = .session result) :
    ∃ options, named = some options ∧ next options = .session result := by
  cases named with
  | none => cases h
  | some options => exact ⟨options, rfl, h⟩

theorem Reads.of_parseFrom {options result : Options} {arguments : List String}
    (h : parseFrom options arguments = .session result) : Reads options arguments result := by
  -- on the number of arguments, since an option may take the argument behind it
  induction hn : arguments.length using Nat.strongRecOn generalizing options arguments with
  | ind n ih =>
    subst hn
    cases arguments with
    | nil =>
      cases h
      exact .done
    | cons argument rest =>
      have hrest := Nat.lt_succ_self rest.length
      unfold parseFrom at h
      generalize hclass : classify argument = kind at h
      cases kind with
      | endOfOptions => exact .paths hclass h
      | version | help | unknown => cases h
      | messages =>
        dsimp only at h
        split at h
        · cases h
        · next hplain => exact .messages hclass (Bool.eq_false_iff.2 hplain) (ih _ hrest h rfl)
      | input path =>
        obtain ⟨next, hnext, h⟩ := exists_of_named h
        exact .input hclass hnext (ih _ hrest h rfl)
      | output value =>
        cases value with
        | some path =>
          obtain ⟨next, hnext, h⟩ := exists_of_named h
          exact .outputJoined hclass hnext (ih _ hrest h rfl)
        | none =>
          cases rest with
          | nil => cases h
          | cons value rest =>
            dsimp only at h
            split at h
            · next path hvalue =>
              obtain ⟨next, hnext, h⟩ := exists_of_named h
              exact .output hclass hvalue hnext (ih _ (Nat.lt_of_succ_lt hrest) h rfl)
            · cases h

theorem Reads.parseFrom_eq {options result : Options} {arguments : List String}
    (h : Reads options arguments result) : parseFrom options arguments = .session result := by
  induction h with
  | done => rfl
  | paths hclass hrest =>
    unfold parseFrom
    simp only [hclass, hrest]
  | messages hclass hplain _ ih =>
    unfold parseFrom
    simp only [hclass, hplain, ih, Bool.false_eq_true, if_false]
  | input hclass hnext _ ih =>
    unfold parseFrom
    simp only [hclass, hnext, ih]
  | outputJoined hclass hnext _ ih =>
    unfold parseFrom
    simp only [hclass, hnext, ih]
  | output hclass hvalue hnext _ ih =>
    unfold parseFrom
    simp only [hclass, hvalue, hnext, ih]

theorem parseFrom_eq_session_iff {options result : Options} {arguments : List String} :
    parseFrom options arguments = .session result ↔ Reads options arguments result :=
  ⟨.of_parseFrom, Reads.parseFrom_eq⟩

/-! ## Messages as well -/

/-- The options with messages. -/
def Options.telling (options : Options) : Options :=
  { options with messages := true }

theorem withFile_eq_some_iff {role : Role} {options next : Options} {path : String} :
    withFile role options path = some next ↔
      path ≠ "" ∧ options.file? role = none ∧ options.setFile path role = next := by
  rw [withFile, Option.ite_none_left_eq_some, not_or, Option.not_isSome_iff_eq_none,
    Option.some.injEq, and_assoc]

theorem withFile_telling {role : Role} {options next : Options} {path : String}
    (h : withFile role options path = some next) :
    withFile role options.telling path = some next.telling ∧ next.messages = options.messages := by
  obtain ⟨hpath, hnone, rfl⟩ := withFile_eq_some_iff.1 h
  have hfile : options.telling.file? role = none := by cases role <;> exact hnone
  rw [withFile_eq_some_iff]
  cases role with
  | input | output => exact ⟨⟨hpath, hfile, rfl⟩, rfl⟩

theorem parsePaths_telling {options result : Options} {paths : List String}
    (h : parsePaths options paths = .session result) :
    parsePaths options.telling paths = .session result.telling ∧
      result.messages = options.messages := by
  induction paths generalizing options with
  | nil =>
    cases h
    exact ⟨rfl, rfl⟩
  | cons path rest ih =>
    obtain ⟨next, hnext, h⟩ := exists_of_named h
    obtain ⟨htelling, hmessages⟩ := withFile_telling hnext
    obtain ⟨hrest, hresult⟩ := ih h
    rw [parsePaths, htelling]
    exact ⟨hrest, hresult.trans hmessages⟩

theorem Reads.messages_of_messages {options result : Options} {arguments : List String}
    (h : Reads options arguments result) (hmessages : options.messages = true) :
    result.messages = true := by
  induction h with
  | done => exact hmessages
  | paths _ hrest => exact (parsePaths_telling hrest).2.trans hmessages
  | messages _ _ _ ih => exact ih rfl
  | input _ hnext _ ih => exact ih ((withFile_telling hnext).2.trans hmessages)
  | outputJoined _ hnext _ ih | output _ _ hnext _ ih =>
    exact ih ((withFile_telling hnext).2.trans hmessages)

/-- Arguments that do not ask for messages leave room for an option that does. -/
theorem Reads.telling {options result : Options} {arguments : List String}
    (h : Reads options arguments result) (hplain : result.messages = false) :
    Reads options.telling arguments result.telling := by
  induction h with
  | done => exact .done
  | paths hclass hrest => exact .paths hclass (parsePaths_telling hrest).1
  | messages _ _ hrest =>
    rw [hrest.messages_of_messages rfl] at hplain
    cases hplain
  | input hclass hnext _ ih => exact .input hclass (withFile_telling hnext).1 (ih hplain)
  | outputJoined hclass hnext _ ih =>
    exact .outputJoined hclass (withFile_telling hnext).1 (ih hplain)
  | output hclass hvalue hnext _ ih =>
    exact .output hclass hvalue (withFile_telling hnext).1 (ih hplain)

/-! ## Asking for a session -/

/-- The arguments ask for a session from the input to the output, with messages or without. -/
def Asks (arguments : List String) (input : Option String) (output : String) (messages : Bool) :
    Prop :=
  ∃ options, parse arguments = .session options ∧ options.input = input ∧
    options.output.getD defaultOutput = output ∧ options.messages = messages

/-- Arguments that ask for a session without messages ask for the same one with messages if an
option in front of them says so. -/
theorem Asks.telling {arguments : List String} {input : Option String} {output : String}
    (h : Asks arguments input output false) :
    Asks ("--messages" :: arguments) input output true := by
  obtain ⟨options, hparse, hinput, houtput, hplain⟩ := h
  have hreads := (parseFrom_eq_session_iff.1 hparse).telling hplain
  have hclass : classify "--messages" = .messages := by decide
  exact ⟨options.telling, parseFrom_eq_session_iff.2 (.messages hclass rfl hreads), hinput, houtput,
    rfl⟩

theorem classify_output (path : String) : classify ("--output=" ++ path) = .output (some path) := by
  simp [classify, word, afterEquals?]

/-- Any paths can be asked for that are not empty. -/
theorem exists_asks {input : Option String} {output : String} (hinput : input ≠ some "")
    (houtput : output ≠ "") : ∃ arguments, Asks arguments input output false := by
  have hend : classify "--" = .endOfOptions := by decide
  have hnext : withFile .output ⟨none, none, false⟩ output = some ⟨none, some output, false⟩ :=
    withFile_eq_some_iff.2 ⟨houtput, rfl, rfl⟩
  have hclass := classify_output output
  cases input with
  | none =>
    have hreads := Reads.outputJoined hclass hnext .done
    exact ⟨_, _, parseFrom_eq_session_iff.2 hreads, rfl, rfl, rfl⟩
  | some path =>
    have hpath : path ≠ "" := fun h => hinput (congrArg some h)
    have hpaths : parsePaths ⟨none, some output, false⟩ [path] =
        .session ⟨some path, some output, false⟩ := by
      rw [parsePaths, withFile_eq_some_iff.2 ⟨hpath, rfl, rfl⟩]
      rfl
    have hreads := Reads.outputJoined hclass hnext (.paths hend hpaths)
    exact ⟨_, _, parseFrom_eq_session_iff.2 hreads, rfl, rfl, rfl⟩

end GlyphCanvas.CommandLine
