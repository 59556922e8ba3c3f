import GlyphCanvas.Proofs.Script.Steps
import GlyphCanvas.Proofs.Session.Course

/-!
# Messages posted on the way

A session that posts every message as soon as it knows it: each percentage right after the step that
reports it, before the output is written, and what has come of the session at the very end.

* `Scene`: a directory and what has been posted so far, each message with the directory at the
  moment at which it was posted.
* `Session.follow`, `Session.attempt`, `Session.live`: a run, a session up to its outcome, and a
  session up to its last message, with all messages posted on the way.
* `Session.run_live`: what is posted is told by `Session.prepare`, the percentages in the directory
  as it was and the last message in the directory as it is left.
* `Session.messages_posted`: the messages of a session are its percentages and one message on its
  outcome behind them, and when that message is posted the result stands in the output file.
-/

namespace GlyphCanvas

open Files

/-- A message, and the directory at the moment at which it is posted. -/
structure Post where
  message : Message
  directory : Directory

/-- A directory, and what has been posted so far. -/
structure Scene where
  directory : Directory
  posts : List Post

instance Scene.access : FileAccess (StateM Scene) where
  readFile path := do return (← get).directory.read path
  writeFile path content := do
    match (← get).directory.write path content with
    | .ok d => modify fun scene => { scene with directory := d }; return .ok ()
    | .error error => return .error error

namespace Session

/-! ## A session that posts its messages -/

/-- Posts a message. -/
def post (message : Message) : StateM Scene Unit :=
  modify fun scene => { scene with posts := scene.posts ++ [⟨message, scene.directory⟩] }

/-- Posts percentages, one message each. -/
def postAll : List Float → StateM Scene Unit
  | [] => return
  | percentage :: rest => do
    post (.progress percentage)
    postAll rest

/-- Steps to the end of a run, and posts the percentages of each step after it. -/
def follow (r : Run Float) : StateM Scene (Except Script.Error Script.Output) := do
  postAll r.step.reports
  match _h : r.step.answer with
  | .error error => return .error error
  | .ok false => return .ok r.step.run.output
  | .ok true => follow r.step.run
termination_by r.remaining
decreasing_by exact Run.remaining_step_lt _h

/-- Writes the result of a run that has come to its end. -/
def deliver (output : String) :
    Except Script.Error Script.Output → StateM Scene (Except Error Prepared)
  | .error cause => return .error (.refused cause)
  | .ok produced => do
    match ← FileAccess.writeFile output produced.result.toUTF8 with
    | .error cause => return .error (.unwritable output cause)
    | .ok () => return .ok ⟨produced.result, output, produced.snapshot⟩

/-- Reads the script, runs it and writes the result. -/
def attempt (input : Option String) (output : String) : StateM Scene (Except Error Prepared) := do
  match ← readScript input with
  | .error error => return .error error
  | .ok script => deliver output (← follow (.start script))

/-- A whole session. -/
def live (input : Option String) (output : String) : StateM Scene Unit := do
  post (closing (← attempt input output))

/-! ## What is posted -/

/-- The percentages as they are posted while the directory is the given one. -/
def progressPosts (d : Directory) (reports : List Float) : List Post :=
  reports.map fun percentage => ⟨.progress percentage, d⟩

variable (d : Directory) (posts : List Post)

theorem run_post (message : Message) :
    (post message).run ⟨d, posts⟩ = ((), ⟨d, posts ++ [⟨message, d⟩]⟩) := rfl

theorem run_postAll (reports : List Float) :
    (postAll reports).run ⟨d, posts⟩ = ((), ⟨d, posts ++ progressPosts d reports⟩) := by
  induction reports generalizing posts with
  | nil =>
    rw [progressPosts, List.map_nil, List.append_nil]
    rfl
  | cons percentage rest ih =>
    rw [postAll, run_bind_eq (run_post d posts _), ih, List.append_assoc]
    rfl

theorem run_follow (r : Run Float) :
    (follow r).run ⟨d, posts⟩ = (r.finish.2, ⟨d, posts ++ progressPosts d r.finish.1⟩) := by
  induction hn : r.remaining using Nat.strongRecOn generalizing r posts with
  | ind n ih =>
    subst hn
    rw [follow, run_bind_eq (run_postAll d posts _)]
    split
    · next error ha =>
      rw [Run.finish_of_error ha]
      rfl
    · next ha =>
      rw [Run.finish_of_false ha]
      rfl
    · next ha =>
      rw [ih _ (Run.remaining_step_lt ha) _ _ rfl, Run.finish_of_true ha, progressPosts,
        progressPosts, progressPosts, List.map_append, List.append_assoc]

/-! ## What comes of it -/

/-- Reading and writing leave what has been posted as it is. -/
instance : HoldsDirectory Scene where
  directory scene := scene.directory
  replace scene d := { scene with directory := d }
  run_readFile _ _ := rfl
  run_writeFile scene path content := by
    simp only [FileAccess.writeFile, run_bind_eq (run_get scene)]
    cases scene.directory.write path content <;> rfl

/-- A script that can be read is run in the directory as it is, and then its result is written. -/
theorem attempt_of_run {path output script : String} {reports : List Float}
    {outcome : Except Script.Error Script.Output} (hread : d.read path = .ok script.toUTF8)
    (hrun : Script.run script = (reports, outcome)) :
    (attempt (some path) output).run ⟨d, posts⟩ =
      (deliver output outcome).run ⟨d, posts ++ progressPosts d reports⟩ := by
  have hfollow : (follow (.start script)).run ⟨d, posts⟩ =
      (outcome, ⟨d, posts ++ progressPosts d reports⟩) := by
    rw [run_follow, ← Script.run, hrun]
  rw [attempt, run_bind_eq (readScript_of_text (Scene.mk d posts) hread)]
  exact run_bind_eq hfollow

/-- What has come of a session, the directory and what was posted on the way. -/
theorem run_attempt (input : Option String) (output : String) :
    (attempt input output).run ⟨d, posts⟩ =
      let session := (prepare input output : StateM Directory _).run d
      (session.1.2, ⟨session.2, posts ++ progressPosts d session.1.1⟩) := by
  have hcourse := course_prepare d input output
  generalize (prepare input output : StateM Directory _).run d = session at hcourse
  have hsilent : posts ++ progressPosts d [] = posts := List.append_nil posts
  cases hcourse with
  | noInput hinput =>
    subst hinput
    simp only [hsilent]
    rfl
  | unreadable hinput hread =>
    subst hinput
    rw [attempt, run_bind_eq (readScript_of_unreadable (Scene.mk d posts) hread)]
    simp only [hsilent]
    rfl
  | notText hinput hread htext =>
    subst hinput
    rw [attempt, run_bind_eq (readScript_of_notText (Scene.mk d posts) hread htext)]
    simp only [hsilent]
    rfl
  | refused hinput hread hrun =>
    subst hinput
    rw [attempt_of_run d posts hread hrun]
    rfl
  | unwritable hinput hread hrun hwrite =>
    subst hinput
    rw [attempt_of_run d posts hread hrun, deliver,
      run_bind_eq (run_writeFile_of_error (Scene.mk d _) hwrite)]
    rfl
  | written hinput hread hrun hwrite =>
    subst hinput
    rw [attempt_of_run d posts hread hrun, deliver,
      run_bind_eq (run_writeFile_of_ok (Scene.mk d _) hwrite)]
    rfl

theorem run_live (input : Option String) (output : String) :
    (live input output).run ⟨d, posts⟩ =
      let session := (prepare input output : StateM Directory _).run d
      ((), ⟨session.2,
        posts ++ progressPosts d session.1.1 ++ [⟨closing session.1.2, session.2⟩]⟩) := by
  rw [live, run_bind_eq (run_attempt d posts input output)]
  rfl

theorem run_messages (input : Option String) (output : String) :
    (messages input output : StateM Directory _).run d =
      let session := (prepare input output : StateM Directory _).run d
      (session.1.1.map .progress ++ [closing session.1.2], session.2) := rfl

/-- The message tells what has come of a session. Of one that has succeeded it gives what was
produced, and the result is what the file at the path of the output holds. Of one that has failed
it gives the reasons, the outermost first. -/
inductive Closes (output : String) (d : Directory) : Except Error Prepared → Message → Prop where
  | done {result snapshot : String} (hstored : d.read output = .ok result.toUTF8) :
      Closes output d (.ok ⟨result, output, snapshot⟩) (.done result output snapshot)
  | failed {error : Error} : Closes output d (.error error) (.failed (": ".intercalate error.chain))

theorem Course.closes {d d' : Directory} {input : Option String} {output : String}
    {reports : List Float} {outcome : Except Error Prepared}
    (h : Course d input output ((reports, outcome), d')) :
    Closes output d' outcome (closing outcome) := by
  cases outcome with
  | error error => exact .failed
  | ok prepared =>
    obtain ⟨-, rfl, hwrote⟩ := h.of_ok
    exact .done hwrote.read_path

/-- The messages of a session are its percentages and then one message that tells what has come of
it, and they leave the directory that the session leaves. Posted on the way, every percentage is
posted in the directory as it was, and the last message in the directory as it is left. -/
theorem messages_posted (d : Directory) (input : Option String) (output : String) :
    let session := (prepare input output : StateM Directory _).run d
    ∃ last, Closes output session.2 session.1.2 last ∧
      (messages input output : StateM Directory _).run d =
        (session.1.1.map .progress ++ [last], session.2) ∧
      (live input output).run ⟨d, []⟩ =
        ((), ⟨session.2, session.1.1.map (fun p => ⟨.progress p, d⟩) ++ [⟨last, session.2⟩]⟩) :=
  ⟨_, (course_prepare d input output).closes, run_messages d input output,
    run_live d [] input output⟩

end Session

end GlyphCanvas
