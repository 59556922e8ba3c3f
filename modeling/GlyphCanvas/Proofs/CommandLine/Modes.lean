import GlyphCanvas.Proofs.CommandLine.Arguments
import GlyphCanvas.Proofs.Message.OneLine
import GlyphCanvas.Proofs.Session.Posting

/-!
# With messages and without

* `CommandLine.run_plain`, `CommandLine.run_told`: what the program does without messages and with
  them, as the outcome of one and the same session.
* `CommandLine.Tells`: what is written without messages says what the last message says.
* `CommandLine.modes_agree`: the two leave the same directory and the same exit code, the one tells
  the last message and the other has every message on a line of its own.
-/

namespace GlyphCanvas.CommandLine

open Files

variable {input : Option String} {output : String}

theorem run_plain {arguments : List String} (h : Asks arguments input output false)
    (d : Directory) :
    (execute arguments : StateM Directory _).run d =
      let session := (Session.prepare input output : StateM Directory _).run d
      (reportOutcome session.1.2, session.2) := by
  obtain ⟨options, hparse, rfl, rfl, hmessages⟩ := h
  simp only [execute, hparse, runSession, hmessages, Bool.false_eq_true, if_false]
  rfl

theorem run_told {arguments : List String} (h : Asks arguments input output true)
    (d : Directory) :
    (execute arguments : StateM Directory _).run d =
      let session := (Session.prepare input output : StateM Directory _).run d
      (reportMessages (session.1.1.map .progress ++ [Session.closing session.1.2]), session.2) := by
  obtain ⟨options, hparse, rfl, rfl, hmessages⟩ := h
  simp only [execute, hparse, runSession, hmessages, if_true]
  rfl

/-- What is written without messages says what the last message says. -/
inductive Tells : Message → Outcome → Prop where
  | done {result url snapshot : String} :
      Tells (.done result url snapshot) { code := 0, stdout := snapshot ++ "\n", stderr := "" }
  | failed {error : String} :
      Tells (.failed error) { code := 1, stdout := "", stderr := error ++ "\n" }

theorem tells_closing (outcome : Except Session.Error Session.Prepared) :
    Tells (Session.closing outcome) (reportOutcome outcome) := by
  cases outcome with
  | error => exact .failed
  | ok => exact .done

theorem code_reportMessages (reports : List Float)
    (outcome : Except Session.Error Session.Prepared) :
    (reportMessages (reports.map .progress ++ [Session.closing outcome])).code =
      (reportOutcome outcome).code := by
  have hreports : (reports.map Message.progress).any isFailure = false := by
    simp [isFailure]
  simp only [reportMessages, List.any_append, hreports, Bool.false_or]
  cases outcome <;> rfl

/-- Without messages and with them the program comes to the same as a session that posts its
messages on the way. -/
structure SameSession (scene : Scene) (plain told : Outcome × Directory) : Prop where
  plain_directory : plain.2 = scene.directory
  told_directory : told.2 = scene.directory
  code_eq : told.1.code = plain.1.code
  /-- What is written without messages is what the last message says. -/
  last_tells : ∃ last, scene.posts.getLast?.map Post.message = some last ∧ Tells last plain.1
  /-- With messages, each one is a line of its own, and nothing is left behind the last line end. -/
  lines_eq : told.1.stdout.toList.splitOn '\n' =
    scene.posts.map (fun post => post.message.encode.toList) ++ [[]]
  told_stderr : told.1.stderr = ""

/-- Any input and output can be asked for without messages, and then with messages too. However the
arguments ask for the two, in every directory the program comes to the same. -/
theorem modes_agree (hinput : input ≠ some "") (houtput : output ≠ "") :
    (∃ arguments, Asks arguments input output false) ∧
    ∀ plain, Asks plain input output false →
      Asks ("--messages" :: plain) input output true ∧
      ∀ told, Asks told input output true → ∀ d : Directory,
        SameSession ((Session.live input output).run ⟨d, []⟩).2
          ((execute plain : StateM Directory _).run d)
          ((execute told : StateM Directory _).run d) := by
  refine ⟨exists_asks hinput houtput, fun plain hplain => ⟨hplain.telling, fun told htold d => ?_⟩⟩
  rw [run_plain hplain, run_told htold, Session.run_live]
  obtain ⟨⟨reports, outcome⟩, d'⟩ := (Session.prepare input output : StateM Directory _).run d
  constructor
  case plain_directory => rfl
  case told_directory => rfl
  case code_eq => exact code_reportMessages reports outcome
  case last_tells => exact ⟨_, by simp, tells_closing outcome⟩
  case lines_eq =>
    simp only [reportMessages, Message.splitOn_join_encode]
    simp [Session.progressPosts]
  case told_stderr => rfl

/-- A script with a line that is refused, and a session that names no output without messages and
names the usual one with them. -/
theorem modes_agree_default_output :
    let plain := ["in.txt"]
    let told := ["-o", "output.txt", "--messages", "--", "in.txt"]
    let d : Directory := ⟨[(["in.txt"], .file "C 3 2\nL 1 1 3 1\nB 9 9 o".toUTF8)]⟩
    (some "in.txt" ≠ some "" ∧ "output.txt" ≠ "" ∧ Asks plain (some "in.txt") "output.txt" false ∧
      Asks told (some "in.txt") "output.txt" true) ∧
    SameSession ((Session.live (some "in.txt") "output.txt").run ⟨d, []⟩).2
      ((execute plain : StateM Directory _).run d) ((execute told : StateM Directory _).run d) := by
  intro plain told d
  have hinput : some "in.txt" ≠ some "" := by decide
  have houtput : "output.txt" ≠ "" := by decide
  have hplain : Asks plain (some "in.txt") "output.txt" false :=
    ⟨⟨some "in.txt", none, false⟩, by decide, rfl, rfl, rfl⟩
  have htold : Asks told (some "in.txt") "output.txt" true :=
    ⟨⟨some "in.txt", some "output.txt", true⟩, by decide, rfl, rfl, rfl⟩
  exact ⟨⟨hinput, houtput, hplain, htold⟩,
    ((modes_agree hinput houtput).2 plain hplain).2 told htold d⟩

end GlyphCanvas.CommandLine
