import GlyphCanvas.Files.Directory
import GlyphCanvas.Proofs.Outcome

/-!
# What writing a file changes

* `Directory.locate_cases`: a path is followed by walking along its names, and nothing in the
  directory but the places to go into decides where the walk ends.
* `Directory.SameWays`: two directories have the same places to go into. A path then leads to the
  same target in both (`Directory.SameWays.locate_eq_ok_iff`).
* `Directory.read_eq_ok_iff`, `Directory.write_eq_ok_iff`: when a file is read or written, and what
  comes of it.
* `Directory.Wrote`: a directory after writing a file. One place has changed, the file at the path
  has the new content, and all paths that lead elsewhere are read as before.
* `Directory.wrote_of_write`: every write that succeeds is one.
-/

namespace GlyphCanvas.Files.Directory

variable {d d' : Directory}

/-! ## Following paths -/

theorem enter_eq_ok_iff {place next : Place} {name : String} :
    d.enter place name = .ok next ↔
      name = "." ∧ next = place ∨ name = ".." ∧ next = parent place ∨
        (name ≠ "." ∧ name ≠ "..") ∧ checkName name = .ok () ∧
          d.find? (name :: place) = some .directory ∧ next = name :: place := by
  unfold enter
  split
  · next h => simp [h, eq_comm]
  split
  · next h => simp [h, eq_comm]
  · next h h' =>
    rw [bind_eq_ok_iff]
    cases hf : d.find? (name :: place) with
    | none => simp [h, h']
    | some entry => cases entry <;> simp [h, h', eq_comm, pure, Except.pure, PUnit.eq_punit]

/-- A path is refused in every directory, or it has names to walk along, and where the walk ends
decides what the path leads to. -/
theorem locate_cases (path : String) :
    (∃ error, ∀ d : Directory, d.locate path = .error error) ∨
      ∃ (names : List String) (finish : Place → Target),
        (∀ place parent name slash, finish place = .name parent name slash → name ≠ "..") ∧
          ∀ d : Directory, d.locate path = (names.foldlM d.enter []).map finish := by
  by_cases hnul : path.toList.contains '\x00'
  · exact .inl ⟨.nulInPath, fun d => by rw [locate, if_pos hnul, throw_bind]⟩
  by_cases hlong : maxPath < path.utf8ByteSize
  · exact .inl ⟨.nameTooLong, fun d => by rw [locate, if_neg hnul, if_pos hlong, throw_bind]⟩
  by_cases hroot : path.toList = [] ∨ path.toList.head? = some '/'
  · refine .inl ⟨.notFound, fun d => ?_⟩
    rw [locate, if_neg hnul, if_neg hlong, if_pos hroot, throw_bind]
  let names := ((Text.pieces (· = '/') path.toList).filter (!·.isEmpty)).map String.ofList
  let finish (place : Place) : Target :=
    if names.getLastD "." = "." ∨ names.getLastD "." = ".." then .directory
    else .name place (names.getLastD ".") (path.toList.getLast? = some '/')
  refine .inr ⟨names.dropLast, finish, ?_, fun d => ?_⟩
  · intro place parent name slash h
    unfold finish at h
    split at h
    · cases h
    · next hlast =>
      cases h
      exact fun hname => hlast (.inr hname)
  · rw [locate, if_neg hnul, if_neg hlong, if_neg hroot]
    show (names.dropLast.foldlM d.enter [] >>= fun place => _) = _
    cases names.dropLast.foldlM d.enter [] with
    | error error => rfl
    | ok place => exact (apply_ite Except.ok _ _ _).symm

/-- A path that leads to a name does not lead upwards. -/
theorem all_up_of_locate {path name : String} {place : Place} {slash : Bool}
    (h : d.locate path = .ok (.name place name slash)) :
    (name :: place).all (· = "..") = false := by
  obtain ⟨error, he⟩ | ⟨names, finish, hname, hlocate⟩ := locate_cases path
  · rw [he] at h
    cases h
  · rw [hlocate, map_eq_ok_iff] at h
    obtain ⟨ending, -, hfinish⟩ := h
    simp [hname _ _ _ _ hfinish]

/-- Both directories have the same places to go into. -/
def SameWays (d d' : Directory) : Prop :=
  ∀ place, d'.find? place = some .directory ↔ d.find? place = some .directory

namespace SameWays

theorem enter_eq_ok_iff (h : d.SameWays d') {place next : Place} {name : String} :
    d'.enter place name = .ok next ↔ d.enter place name = .ok next := by
  rw [Directory.enter_eq_ok_iff, Directory.enter_eq_ok_iff, h]

theorem walk_eq_ok_iff (h : d.SameWays d') {names : List String} {place last : Place} :
    names.foldlM d'.enter place = .ok last ↔ names.foldlM d.enter place = .ok last := by
  induction names generalizing place with
  | nil => exact Iff.rfl
  | cons name rest ih => simp only [List.foldlM_cons, bind_eq_ok_iff, h.enter_eq_ok_iff, ih]

theorem locate_eq_ok_iff (h : d.SameWays d') {path : String} {target : Target} :
    d'.locate path = .ok target ↔ d.locate path = .ok target := by
  obtain ⟨error, he⟩ | ⟨names, finish, -, hlocate⟩ := locate_cases path
  · rw [he, he]
  · simp only [hlocate, map_eq_ok_iff, h.walk_eq_ok_iff]

end SameWays

/-! ## Whole files -/

theorem read_eq_ok_iff {path : String} {content : ByteArray} :
    d.read path = .ok content ↔
      ∃ place name, d.locate path = .ok (.name place name false) ∧ checkName name = .ok () ∧
        d.find? (name :: place) = some (.file content) := by
  unfold read
  rw [bind_eq_ok_iff]
  constructor
  · rintro ⟨target, htarget, h⟩
    cases target with
    | directory => cases h
    | name place name slash =>
      obtain ⟨⟨⟩, hcheck, h⟩ := bind_eq_ok_iff.1 h
      split at h
      · next hfind =>
        split at h
        · cases h
        · next hslash =>
          cases h
          rw [Bool.not_eq_true] at hslash
          exact ⟨place, name, hslash ▸ htarget, hcheck, hfind⟩
      · cases h
      · cases h
  · rintro ⟨place, name, htarget, hcheck, hfind⟩
    refine ⟨_, htarget, ?_⟩
    simp only [hcheck, hfind]
    rfl

theorem write_eq_ok_iff {path : String} {content : ByteArray} :
    d.write path content = .ok d' ↔
      ∃ place name, d.locate path = .ok (.name place name false) ∧ checkName name = .ok () ∧
        d.find? (name :: place) ≠ some .directory ∧ d' = d.insert (name :: place) (.file content) := by
  unfold write
  rw [bind_eq_ok_iff]
  constructor
  · rintro ⟨target, htarget, h⟩
    cases target with
    | directory => cases h
    | name place name slash =>
      cases slash with
      | true => cases h
      | false =>
        obtain ⟨⟨⟩, hcheck, h⟩ := bind_eq_ok_iff.1 h
        refine ⟨place, name, htarget, hcheck, ?_⟩
        split at h
        · cases h
        all_goals
          next hfind =>
          cases h
          simp [hfind]
  · rintro ⟨place, name, htarget, hcheck, hfind, rfl⟩
    refine ⟨_, htarget, bind_eq_ok_iff.2 ⟨(), hcheck, ?_⟩⟩
    split
    · next h => exact absurd h hfind
    · rfl
    · rfl

/-! ## After writing -/

/-- A file in place of a file or of nothing is no new place to go into. -/
theorem sameWays_insert {place : Place} (hup : place.all (· = "..") = false)
    (hfind : d.find? place ≠ some .directory) (content : ByteArray) :
    d.SameWays (d.insert place (.file content)) := by
  intro other
  rw [find?_insert d _ hup]
  split
  · next h => simp [h, hfind]
  · exact Iff.rfl

/-- The second directory is the first after the content was written to the file at the path. -/
structure Wrote (d : Directory) (path : String) (content : ByteArray) (d' : Directory) : Prop where
  /-- The path leads to a place that is no directory. The content is there now, and all other places
  are as they were. -/
  find?_eq : ∃ place name, d.locate path = .ok (.name place name false) ∧
    d.find? (name :: place) ≠ some .directory ∧
      ∀ other, d'.find? other =
        if other = name :: place then some (.file content) else d.find? other
  read_path : d'.read path = .ok content
  /-- Paths that lead elsewhere are read as before. -/
  read_other : ∀ other, d.locate other ≠ d.locate path →
    ∀ bytes, d'.read other = .ok bytes ↔ d.read other = .ok bytes

theorem wrote_of_write {path : String} {content : ByteArray}
    (h : d.write path content = .ok d') : d.Wrote path content d' := by
  obtain ⟨place, name, hlocate, hcheck, hfind, rfl⟩ := write_eq_ok_iff.1 h
  have hup := all_up_of_locate hlocate
  have hways := sameWays_insert hup hfind content
  refine
    { find?_eq := ⟨place, name, hlocate, hfind, fun other => find?_insert d _ hup⟩
      read_path := ?_, read_other := ?_ }
  · rw [read_eq_ok_iff]
    refine ⟨place, name, hways.locate_eq_ok_iff.2 hlocate, hcheck, ?_⟩
    rw [find?_insert d _ hup, if_pos rfl]
  · intro other hother bytes
    simp only [read_eq_ok_iff, hways.locate_eq_ok_iff, find?_insert d _ hup]
    refine exists_congr fun place' => exists_congr fun name' => and_congr_right fun hlocate' => ?_
    have hne : name' :: place' ≠ name :: place := by
      rintro ⟨⟩
      exact hother (hlocate'.trans hlocate.symm)
    rw [if_neg hne]

end GlyphCanvas.Files.Directory
