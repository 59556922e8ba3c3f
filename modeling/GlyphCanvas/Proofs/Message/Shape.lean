import GlyphCanvas.Message
import GlyphCanvas.Proofs.Json.Texts
import Mathlib.Data.List.Perm.Basic
import Mathlib.Data.Option.Basic

/-!
# The kind of a message is told by its shape

* `Json.Sole`: a key that an object has exactly once, and its value. `Message.only?_eq_some_iff`
  says that the reader of messages looks for nothing else.
* `Message.Fits`: an object has what a message asks for. Kinds of messages are tried in the order of
  `Message.rank`, and `Message.StandsFor` says that the first one which fits is taken.
* `Message.ofJson?_eq_some_iff`: a value is read as the message that it stands for.
* `Json.SameUnder`: two objects have the same members under some keys. Whether an object fits a
  message depends on the keys of its kind only (`Message.Fits.of_sameUnder`).
* `Message.decode_by_shape`: both for texts.
-/

namespace GlyphCanvas

namespace Json

/-- The text is a JSON value with nothing but white space behind it. -/
def Document (text : String) (value : Json) : Prop :=
  ∃ rest, read? text.toList = some (value, rest) ∧ rest.all isBlank = true

/-- Exactly one member has the key, and it has the value. -/
structure Sole (members : List (String × Json)) (key : String) (value : Json) : Prop where
  once : (members.map Prod.fst).count key = 1
  mem : (key, value) ∈ members

/-- The members with some of the keys are the same in both objects, in whatever order. -/
def SameUnder (keys : List String) (members members' : List (String × Json)) : Prop :=
  (members.filter (·.1 ∈ keys)).Perm (members'.filter (·.1 ∈ keys))

variable {members members' : List (String × Json)} {key : String} {keys : List String}
  {value : Json}

theorem SameUnder.symm (h : SameUnder keys members members') : SameUnder keys members' members :=
  List.Perm.symm h

theorem sole_iff_filter_eq :
    Sole members key value ↔ members.filter (·.1 = key) = [(key, value)] := by
  have hcount : (members.map Prod.fst).count key = (members.filter (·.1 = key)).length := by
    rw [List.count, List.countP_map, List.countP_eq_length_filter]
    rfl
  have hmem : (key, value) ∈ members ↔ (key, value) ∈ members.filter (·.1 = key) := by
    simp [List.mem_filter]
  constructor
  · rintro ⟨honce, hin⟩
    rw [hcount] at honce
    obtain ⟨sole, hsole⟩ := List.length_eq_one_iff.1 honce
    rw [hmem, hsole, List.mem_singleton] at hin
    rw [hsole, hin]
  · intro h
    refine ⟨?_, ?_⟩
    · rw [hcount, h, List.length_singleton]
    · rw [hmem, h]
      exact List.mem_singleton_self _

/-- Neither the order of the members nor those with other keys matter. -/
theorem Sole.of_sameUnder (h : SameUnder keys members members') (hkey : key ∈ keys)
    (hsole : Sole members key value) : Sole members' key value := by
  have hfilter : ∀ l : List (String × Json),
      (l.filter (·.1 ∈ keys)).filter (·.1 = key) = l.filter (·.1 = key) := by
    intro l
    rw [List.filter_filter]
    refine List.filter_congr fun member _ => ?_
    by_cases hm : member.1 = key <;> simp [hm, hkey]
  have hperm := h.filter (·.1 = key)
  rw [hfilter, hfilter, sole_iff_filter_eq.1 hsole] at hperm
  exact sole_iff_filter_eq.2 (List.singleton_perm.1 hperm).symm

end Json

namespace Message

open Json

variable {members members' : List (String × Json)} {key : String} {value : Json}
  {message : Message}

/-! ## What the kinds of messages ask for -/

theorem only?_eq_some_iff : only? key members = some value ↔ Sole members key value := by
  rw [sole_iff_filter_eq]
  unfold only?
  constructor
  · intro h
    split at h
    · next member hfilter =>
      have hkey : member.1 = key := by
        have hin : member ∈ members.filter (·.1 = key) := hfilter ▸ List.mem_singleton_self _
        simpa using (List.mem_filter.1 hin).2
      cases h
      rw [hfilter, ← hkey]
    · cases h
  · intro h
    rw [h]

theorem onlyText?_eq_some_iff {text : String} :
    onlyText? key members = some text ↔ Sole members key (.string text) := by
  rw [← only?_eq_some_iff]
  unfold onlyText?
  split
  · next h => simp [h]
  · next h => exact ⟨nofun, fun hvalue => (h _ hvalue).elim⟩

theorem onlyNumber?_eq_some_iff {number : Float} :
    onlyNumber? key members = some number ↔ Sole members key (.number number) := by
  rw [← only?_eq_some_iff]
  unfold onlyNumber?
  split
  · next h => simp [h]
  · next h => exact ⟨nofun, fun hvalue => (h _ hvalue).elim⟩

/-- The members have the keys of a message's kind exactly once each, with the message's values. -/
inductive Fits (members : List (String × Json)) : Message → Prop where
  | progress {percentage : Float} (hprogress : Sole members "progress" (.number percentage)) :
      Fits members (.progress percentage)
  | done {result url snapshot : String} (hresult : Sole members "result" (.string result))
      (hurl : Sole members "url" (.string url))
      (hsnapshot : Sole members "snapshot" (.string snapshot)) :
      Fits members (.done result url snapshot)
  | failed {error : String} (herror : Sole members "error" (.string error)) :
      Fits members (.failed error)

/-- The place of a message's kind in the order in which the kinds are tried. -/
def rank : Message → Nat
  | progress _ => 0
  | done .. => 1
  | failed _ => 2

theorem rank_cases (message : Message) :
    message.rank = 0 ∨ message.rank = 1 ∨ message.rank = 2 := by
  cases message with
  | progress => exact .inl rfl
  | done => exact .inr (.inl rfl)
  | failed => exact .inr (.inr rfl)

/-- The keys of a message's kind. -/
def keys : Message → List String
  | progress _ => ["progress"]
  | done .. => ["result", "url", "snapshot"]
  | failed _ => ["error"]

/-- The value is an object that fits the message and no message of a kind that is tried before. -/
inductive StandsFor : Json → Message → Prop where
  | object {members : List (String × Json)} {message : Message} (fits : Fits members message)
      (first : ∀ other : Message, other.rank < message.rank → ¬Fits members other) :
      StandsFor (.object members) message

theorem progress?_eq_some_iff :
    progress? members = some message ↔ message.rank = 0 ∧ Fits members message := by
  rw [progress?, Option.map_eq_some_iff]
  constructor
  · rintro ⟨percentage, h, rfl⟩
    exact ⟨rfl, .progress (onlyNumber?_eq_some_iff.1 h)⟩
  · rintro ⟨hrank, hfits⟩
    cases hfits with
    | progress h => exact ⟨_, onlyNumber?_eq_some_iff.2 h, rfl⟩
    | done => cases hrank
    | failed => cases hrank

theorem done?_eq_some_iff :
    done? members = some message ↔ message.rank = 1 ∧ Fits members message := by
  simp only [done?, Option.bind_eq_bind, Option.bind_eq_some_iff, onlyText?_eq_some_iff,
    Option.pure_def, Option.some.injEq]
  constructor
  · rintro ⟨result, hresult, url, hurl, snapshot, hsnapshot, rfl⟩
    exact ⟨rfl, .done hresult hurl hsnapshot⟩
  · rintro ⟨hrank, hfits⟩
    cases hfits with
    | progress => cases hrank
    | done hresult hurl hsnapshot => exact ⟨_, hresult, _, hurl, _, hsnapshot, rfl⟩
    | failed => cases hrank

theorem failed?_eq_some_iff :
    failed? members = some message ↔ message.rank = 2 ∧ Fits members message := by
  rw [failed?, Option.map_eq_some_iff]
  constructor
  · rintro ⟨error, h, rfl⟩
    exact ⟨rfl, .failed (onlyText?_eq_some_iff.1 h)⟩
  · rintro ⟨hrank, hfits⟩
    cases hfits with
    | progress => cases hrank
    | done => cases hrank
    | failed h => exact ⟨_, onlyText?_eq_some_iff.2 h, rfl⟩

/-- A kind that is tried in vain fits no message. -/
theorem eq_none_iff_not_fits {attempt : Option Message} {place : Nat}
    (h : ∀ other, attempt = some other ↔ other.rank = place ∧ Fits members other) :
    attempt = none ↔ ∀ other : Message, other.rank = place → ¬Fits members other := by
  simp only [Option.eq_none_iff_forall_ne_some, ne_eq, h, not_and]

theorem ofJson?_eq_some_iff : ofJson? value = some message ↔ StandsFor value message := by
  cases value with
  | object members =>
    simp only [ofJson?, Option.orElse_eq_some, progress?_eq_some_iff, done?_eq_some_iff,
      failed?_eq_some_iff, eq_none_iff_not_fits fun _ => progress?_eq_some_iff,
      eq_none_iff_not_fits fun _ => done?_eq_some_iff]
    constructor
    · rintro (⟨hrank, hfits⟩ | ⟨hprogress, ⟨hrank, hfits⟩ | ⟨hdone, hrank, hfits⟩⟩)
      · exact .object hfits fun other hother => by omega
      · exact .object hfits fun other hother => hprogress other (by omega)
      · refine .object hfits fun other hother => ?_
        obtain h | h : other.rank = 0 ∨ other.rank = 1 := by omega
        · exact hprogress other h
        · exact hdone other h
    · rintro ⟨hfits, hfirst⟩
      obtain h | h | h := message.rank_cases
      · exact .inl ⟨h, hfits⟩
      · exact .inr ⟨fun other hother => hfirst other (by omega), .inl ⟨h, hfits⟩⟩
      · exact .inr ⟨fun other hother => hfirst other (by omega),
          .inr ⟨fun other hother => hfirst other (by omega), h, hfits⟩⟩
  | _ => exact ⟨nofun, nofun⟩

/-! ## Texts -/

/-- An object that fits some message stands for one, of a kind that is tried no later. -/
theorem exists_standsFor_of_fits {message : Message} (h : Fits members message) :
    ∃ first : Message, first.rank ≤ message.rank ∧ StandsFor (.object members) first := by
  by_cases hbefore : ∃ other : Message, other.rank < message.rank ∧ Fits members other
  · obtain ⟨other, hlt, hother⟩ := hbefore
    obtain ⟨first, hle, hfirst⟩ := exists_standsFor_of_fits hother
    exact ⟨first, by omega, hfirst⟩
  · exact ⟨message, Nat.le_refl _, .object h fun other hlt hother => hbefore ⟨other, hlt, hother⟩⟩
termination_by message.rank

/-- Whether an object fits a message depends on the keys of its kind only. -/
theorem Fits.of_sameUnder (h : SameUnder message.keys members members')
    (hfits : Fits members message) : Fits members' message := by
  cases hfits with
  | progress hprogress => exact .progress (hprogress.of_sameUnder h (by simp [keys]))
  | done hresult hurl hsnapshot =>
    exact .done (hresult.of_sameUnder h (by simp [keys])) (hurl.of_sameUnder h (by simp [keys]))
      (hsnapshot.of_sameUnder h (by simp [keys]))
  | failed herror => exact .failed (herror.of_sameUnder h (by simp [keys]))

theorem decode_eq_ok_iff {text : String} (h : Document text value) :
    decode text = .ok message ↔ StandsFor value message := by
  obtain ⟨rest, hread, hrest⟩ := h
  rw [← ofJson?_eq_some_iff, decode, hread]
  cases hfound : ofJson? value with
  | none => simp [hfound]
  | some found => simp [hfound, hrest]

theorem decode_eq_noMessage_iff {text : String} (h : Document text value) :
    decode text = .error .noMessage ↔ ∀ message : Message, ¬StandsFor value message := by
  obtain ⟨rest, hread, hrest⟩ := h
  simp only [← ofJson?_eq_some_iff, decode, hread]
  cases hfound : ofJson? value with
  | none => simp
  | some found => simp [hrest]

/-- If no message of a kind that is tried before is in the way, a message is read from any object
with the same members under the keys of its kind. -/
theorem decode_of_sameUnder {text text' : String} (htext : Document text (.object members))
    (htext' : Document text' (.object members')) (h : SameUnder message.keys members members')
    (hfirst : ∀ other : Message, other.rank < message.rank → decode text' ≠ .ok other)
    (hdecode : decode text = .ok message) : decode text' = .ok message := by
  obtain ⟨hfits, -⟩ := (decode_eq_ok_iff htext).1 hdecode
  refine (decode_eq_ok_iff htext').2 (.object (hfits.of_sameUnder h) fun other hlt hother => ?_)
  obtain ⟨first, hle, hstands⟩ := exists_standsFor_of_fits hother
  exact hfirst first (by omega) ((decode_eq_ok_iff htext').2 hstands)

/-- A JSON value is read as the message whose shape it has. The kinds of messages are tried in a
fixed order: the value must be an object with the keys of the kind exactly once each and with values
of the right type. What else the object holds, and in which order, makes no difference. -/
theorem decode_by_shape :
    (∀ value message, ofJson? value = some message ↔ StandsFor value message) ∧
      (∀ text value, Document text value →
        (∀ message, decode text = .ok message ↔ StandsFor value message) ∧
          (decode text = .error .noMessage ↔ ∀ message, ¬StandsFor value message)) ∧
      ∀ text text' members members', Document text (.object members) →
        Document text' (.object members') → ∀ message : Message,
          SameUnder message.keys members members' →
          (∀ other : Message, other.rank < message.rank →
            decode text ≠ .ok other ∧ decode text' ≠ .ok other) →
          (decode text = .ok message ↔ decode text' = .ok message) := by
  refine ⟨fun _ _ => ofJson?_eq_some_iff, fun text value h => ?_, ?_⟩
  · exact ⟨fun _ => decode_eq_ok_iff h, decode_eq_noMessage_iff h⟩
  · intro text text' members members' htext htext' message hsame hfirst
    exact ⟨decode_of_sameUnder htext htext' hsame fun other hlt => (hfirst other hlt).2,
      decode_of_sameUnder htext' htext hsame.symm fun other hlt => (hfirst other hlt).1⟩

/-- The message of a run that came to nothing, beside a spoiled percentage, a half of another
message and nested members under an unknown key that occurs twice; and the same message alone. -/
theorem decode_by_shape_crowded :
    let text := "\x7b\"progress\":null,\"x\":[\x7b\"error\":[]\x7d,true]," ++
      "\"error\":\"e\",\"url\":\"u\",\"x\":\"\"\x7d\n"
    let members : List (String × Json) :=
      [("progress", .null), ("x", .array [.object [("error", .array [])], .boolean true]),
        ("error", .string "e"), ("url", .string "u"), ("x", .string "")]
    let alone := "\x7b\"error\":\"e\"\x7d"
    let message := failed "e"
    (Document text (.object members) ∧ Document alone (.object [("error", .string "e")]) ∧
        SameUnder message.keys members [("error", .string "e")] ∧
        ∀ other : Message, other.rank < message.rank →
          decode text ≠ .ok other ∧ decode alone ≠ .ok other) ∧
      (decode text = .ok message ↔ StandsFor (.object members) message) ∧
      (decode text = .error .noMessage ↔ ∀ message, ¬StandsFor (.object members) message) ∧
      (decode text = .ok message ↔ decode alone = .ok message) := by
  intro text members alone message
  have htext : Document text (.object members) := by
    refine ⟨['\n'], ?_, rfl⟩
    simp [text, members, read?, readOn_value, readOn_frame, readOn_end, beginning?, continuation?,
      key?, unquote?, skipBlanks, isBlank, List.dropWhile, maxDepth]
  have halone : Document alone (.object [("error", .string "e")]) := by
    refine ⟨[], ?_, rfl⟩
    simp [alone, read?, readOn_value, readOn_frame, readOn_end, beginning?, continuation?, key?,
      unquote?, skipBlanks, isBlank, List.dropWhile]
  have hsame : SameUnder message.keys members [("error", .string "e")] := .of_eq rfl
  have hread : decode text = .ok message :=
    (decode_eq_ok_iff htext).2 (ofJson?_eq_some_iff.1 rfl)
  have hread' : decode alone = .ok message :=
    (decode_eq_ok_iff halone).2 (ofJson?_eq_some_iff.1 rfl)
  have hfirst : ∀ other : Message, other.rank < message.rank →
      decode text ≠ .ok other ∧ decode alone ≠ .ok other := by
    intro other hlt
    rw [hread, hread']
    refine ⟨?_, ?_⟩ <;> rintro ⟨⟩ <;> exact Nat.lt_irrefl _ hlt
  obtain ⟨-, hshape, hothers⟩ := decode_by_shape
  exact ⟨⟨htext, halone, hsame, hfirst⟩, (hshape text _ htext).1 message, (hshape text _ htext).2,
    hothers text alone _ _ htext halone message hsame hfirst⟩

end Message

end GlyphCanvas
