import GlyphCanvas.Proofs.Files.Writing
import GlyphCanvas.Session

/-!
# The course of a session with a directory

* `Session.Course`: what a session can come to. Each case says what has succeeded before, so no two
  cases can occur together.
* `Session.HoldsDirectory`: the files that a state gives access to are those of a directory in it.
  What reading and writing come to then is stated once for all such states.
* `Session.course_prepare`: every session comes to one of them.
* `Session.output_changes_alone`: a session that fails leaves the directory as it was, and one that
  succeeds changes the file at the path of the output and nothing else.
-/

namespace GlyphCanvas

open Files

theorem fromUTF8?_eq_some_iff {bytes : ByteArray} {text : String} :
    String.fromUTF8? bytes = some text ↔ text.toUTF8 = bytes := by
  unfold String.fromUTF8?
  split
  · rw [Option.some.injEq, String.toUTF8_eq_toByteArray, ← String.toByteArray_inj]
    exact eq_comm
  · next h =>
    simp only [reduceCtorEq, false_iff]
    rintro rfl
    exact h text.isValidUTF8

theorem fromUTF8?_toUTF8 (text : String) : String.fromUTF8? text.toUTF8 = some text :=
  fromUTF8?_eq_some_iff.2 rfl

namespace Session

/-- What a session with a directory reports, what comes of it and the directory that it leaves. The
first thing that goes wrong decides: no input, an input that cannot be read, an input that is no
text, a script with a line that is refused, an output that cannot be written. -/
inductive Course (d : Directory) (input : Option String) (output : String) :
    (List Float × Except Error Prepared) × Directory → Prop where
  | noInput (hinput : input = none) : Course d input output (([], .error .noInput), d)
  | unreadable {path : String} {cause : FileError} (hinput : input = some path)
      (hread : d.read path = .error cause) :
      Course d input output (([], .error (.unreadable path cause)), d)
  | notText {path : String} {bytes : ByteArray} (hinput : input = some path)
      (hread : d.read path = .ok bytes) (htext : ∀ script : String, script.toUTF8 ≠ bytes) :
      Course d input output (([], .error .notText), d)
  | refused {path script : String} {reports : List Float} {cause : Script.Error}
      (hinput : input = some path) (hread : d.read path = .ok script.toUTF8)
      (hrun : Script.run script = (reports, .error cause)) :
      Course d input output ((reports, .error (.refused cause)), d)
  | unwritable {path script : String} {reports : List Float} {produced : Script.Output}
      {cause : FileError} (hinput : input = some path) (hread : d.read path = .ok script.toUTF8)
      (hrun : Script.run script = (reports, .ok produced))
      (hwrite : d.write output produced.result.toUTF8 = .error cause) :
      Course d input output ((reports, .error (.unwritable output cause)), d)
  | written {path script : String} {reports : List Float} {produced : Script.Output}
      {d' : Directory} (hinput : input = some path) (hread : d.read path = .ok script.toUTF8)
      (hrun : Script.run script = (reports, .ok produced))
      (hwrite : d.write output produced.result.toUTF8 = .ok d') :
      Course d input output ((reports, .ok ⟨produced.result, output, produced.snapshot⟩), d')

/-! ## States that hold a directory -/

theorem run_bind_eq {σ α β : Type} {x : StateM σ α} {f : α → StateM σ β} {s s' : σ} {a : α}
    (h : x.run s = (a, s')) : (x >>= f).run s = (f a).run s' := by
  rw [StateT.run_bind, h]
  rfl

theorem run_get {σ : Type} (s : σ) : (get : StateM σ σ).run s = (s, s) := rfl

/-- A state that gives access to the files of a directory in it. Reading leaves the state as it is,
and writing puts the directory that is left in place of the one before, or changes nothing. -/
class HoldsDirectory (σ : Type) [FileAccess (StateM σ)] where
  directory : σ → Directory
  replace : σ → Directory → σ
  run_readFile (s : σ) (path : String) :
    (FileAccess.readFile path : StateM σ _).run s = ((directory s).read path, s)
  run_writeFile (s : σ) (path : String) (content : ByteArray) :
    (FileAccess.writeFile path content : StateM σ _).run s =
      match (directory s).write path content with
      | .ok d => (.ok (), replace s d)
      | .error cause => (.error cause, s)

instance : HoldsDirectory Directory where
  directory d := d
  replace _ d := d
  run_readFile _ _ := rfl
  run_writeFile d path content := by
    simp only [FileAccess.writeFile, run_bind_eq (run_get d)]
    cases d.write path content <;> rfl

/-! ## The stages of a session -/

section

open HoldsDirectory

variable {σ : Type} [FileAccess (StateM σ)] [HoldsDirectory σ] (s : σ) {path : String}
  {bytes : ByteArray}

theorem run_writeFile_of_error {cause : FileError}
    (hwrite : (directory s).write path bytes = .error cause) :
    (FileAccess.writeFile path bytes : StateM σ _).run s = (.error cause, s) := by
  rw [run_writeFile, hwrite]

theorem run_writeFile_of_ok {d : Directory} (hwrite : (directory s).write path bytes = .ok d) :
    (FileAccess.writeFile path bytes : StateM σ _).run s = (.ok (), replace s d) := by
  rw [run_writeFile, hwrite]

theorem readScript_of_unreadable {cause : FileError}
    (hread : (directory s).read path = .error cause) :
    (readScript (some path) : StateM σ _).run s = (.error (.unreadable path cause), s) := by
  rw [readScript, run_bind_eq (run_readFile s path), hread]
  rfl

theorem readScript_of_notText (hread : (directory s).read path = .ok bytes)
    (htext : ∀ script : String, script.toUTF8 ≠ bytes) :
    (readScript (some path) : StateM σ _).run s = (.error .notText, s) := by
  have hnone : String.fromUTF8? bytes = none :=
    Option.eq_none_iff_forall_ne_some.2 fun script h => htext script (fromUTF8?_eq_some_iff.1 h)
  rw [readScript, run_bind_eq (run_readFile s path), hread]
  simp only [hnone]
  rfl

theorem readScript_of_text {script : String}
    (hread : (directory s).read path = .ok script.toUTF8) :
    (readScript (some path) : StateM σ _).run s = (.ok script, s) := by
  rw [readScript, run_bind_eq (run_readFile s path), hread]
  simp only [fromUTF8?_toUTF8]
  rfl

end

section

variable {d d' : Directory} {input : Option String} {output script : String}
  {reports : List Float} {produced : Script.Output}

theorem prepare_of_error {error : Error}
    (hscript : (readScript input : StateM Directory _).run d = (.error error, d)) :
    (prepare input output : StateM Directory _).run d = (([], .error error), d) := by
  rw [prepare, run_bind_eq hscript]
  rfl

theorem prepare_of_refused {cause : Script.Error}
    (hscript : (readScript input : StateM Directory _).run d = (.ok script, d))
    (hrun : Script.run script = (reports, .error cause)) :
    (prepare input output : StateM Directory _).run d =
      ((reports, .error (.refused cause)), d) := by
  rw [prepare, run_bind_eq hscript]
  simp only [hrun]
  rfl

theorem prepare_of_unwritable {cause : FileError}
    (hscript : (readScript input : StateM Directory _).run d = (.ok script, d))
    (hrun : Script.run script = (reports, .ok produced))
    (hwrite : d.write output produced.result.toUTF8 = .error cause) :
    (prepare input output : StateM Directory _).run d =
      ((reports, .error (.unwritable output cause)), d) := by
  rw [prepare, run_bind_eq hscript]
  simp only [hrun, run_bind_eq (run_writeFile_of_error d hwrite)]
  rfl

theorem prepare_of_written
    (hscript : (readScript input : StateM Directory _).run d = (.ok script, d))
    (hrun : Script.run script = (reports, .ok produced))
    (hwrite : d.write output produced.result.toUTF8 = .ok d') :
    (prepare input output : StateM Directory _).run d =
      ((reports, .ok ⟨produced.result, output, produced.snapshot⟩), d') := by
  rw [prepare, run_bind_eq hscript]
  simp only [hrun, run_bind_eq (run_writeFile_of_ok d hwrite)]
  rfl

end

theorem course_prepare (d : Directory) (input : Option String) (output : String) :
    Course d input output ((prepare input output : StateM Directory _).run d) := by
  cases hinput : input with
  | none => exact .noInput rfl
  | some path =>
    cases hread : d.read path with
    | error cause =>
      rw [prepare_of_error (readScript_of_unreadable d hread)]
      exact .unreadable rfl hread
    | ok bytes =>
      by_cases htext : ∃ script : String, script.toUTF8 = bytes
      · obtain ⟨script, rfl⟩ := htext
        have hscript := readScript_of_text d hread
        obtain ⟨⟨reports, outcome⟩, hrun⟩ :
            ∃ ran : List Float × Except Script.Error Script.Output, Script.run script = ran :=
          ⟨_, rfl⟩
        cases outcome with
        | error cause =>
          rw [prepare_of_refused hscript hrun]
          exact .refused rfl hread hrun
        | ok produced =>
          cases hwrite : d.write output produced.result.toUTF8 with
          | error cause =>
            rw [prepare_of_unwritable hscript hrun hwrite]
            exact .unwritable rfl hread hrun hwrite
          | ok d' =>
            rw [prepare_of_written hscript hrun hwrite]
            exact .written rfl hread hrun hwrite
      · have htext : ∀ script : String, script.toUTF8 ≠ bytes := not_exists.1 htext
        rw [prepare_of_error (readScript_of_notText d hread htext)]
        exact .notText rfl hread htext

/-! ## What a session changes -/

namespace Course

variable {d d' : Directory} {input : Option String} {output : String} {reports : List Float}

theorem of_error {error : Error} (h : Course d input output ((reports, .error error), d')) :
    d' = d ∧ (reports ≠ [] → (∃ cause, error = .refused cause) ∨
      ∃ cause, error = .unwritable output cause) := by
  cases h with
  | noInput | unreadable | notText => exact ⟨rfl, fun h => absurd rfl h⟩
  | refused => exact ⟨rfl, fun _ => .inl ⟨_, rfl⟩⟩
  | unwritable => exact ⟨rfl, fun _ => .inr ⟨_, rfl⟩⟩

theorem of_ok {prepared : Prepared} (h : Course d input output ((reports, .ok prepared), d')) :
    (∃ path script, input = some path ∧ d.read path = .ok script.toUTF8 ∧
      Script.run script = (reports, .ok ⟨prepared.result, prepared.snapshot⟩)) ∧
    prepared.url = output ∧ d.Wrote output prepared.result.toUTF8 d' := by
  cases h with
  | written hinput hread hrun hwrite =>
    exact ⟨⟨_, _, hinput, hread, hrun⟩, rfl, Directory.wrote_of_write hwrite⟩

end Course

/-- A session has one of six courses. One that fails leaves the directory as it was, and it has
reported percentages only if the script was run. One that succeeds has run the text in the file at
the path of the input, and has written its result to the file at the path of the output and changed
nothing else, also if the two paths are one. -/
theorem output_changes_alone (d : Directory) (input : Option String) (output : String) :
    let session := (prepare input output : StateM Directory _).run d
    Course d input output session ∧
      (∀ error, session.1.2 = .error error → session.2 = d ∧
        (session.1.1 ≠ [] → (∃ cause, error = .refused cause) ∨
          ∃ cause, error = .unwritable output cause)) ∧
      ∀ prepared, session.1.2 = .ok prepared →
        (∃ path script, input = some path ∧ d.read path = .ok script.toUTF8 ∧
          Script.run script = (session.1.1, .ok ⟨prepared.result, prepared.snapshot⟩)) ∧
        prepared.url = output ∧ d.Wrote output prepared.result.toUTF8 session.2 := by
  have hcourse := course_prepare d input output
  generalize (prepare input output : StateM Directory _).run d = session at hcourse
  obtain ⟨⟨reports, outcome⟩, d'⟩ := session
  refine ⟨hcourse, ?_, ?_⟩
  · rintro error rfl
    exact hcourse.of_error
  · rintro prepared rfl
    exact hcourse.of_ok

end Session

end GlyphCanvas
