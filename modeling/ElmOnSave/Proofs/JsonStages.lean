import ElmOnSave.Json.Reader
import Mathlib.Tactic.Lemma

/-!
# What a token does to what is open

The JSON reader answers a token by what may come next, and there are many combinations of the two.
What happens to the lists and objects that are open depends on the token nearly alone.  `Takes` says
what becomes of them by a token that is taken, and `Refuses` why a token is refused; by
`Stage.takes_of_feed` and `Stage.refuses_of_feed` nothing else happens.  What holds of every stage is
proved from these two and needs no look at the reader.
-/

namespace ElmOnSave.Json

/-- What a token that is taken makes of the lists and objects that are open. -/
inductive Takes [Platform] : List Frame → Token → Stage → Prop where
  /-- A text or another scalar is a value, which is complete. -/
  | string (fs : List Frame) (t : Text) : Takes fs (.string t) (deliver (.text t) fs)
  | scalar (fs : List Frame) (v : Value) : Takes fs (.scalar v) (deliver v fs)
  /-- A list or an object is opened if there is room. -/
  | openArray {fs : List Frame} (room : fs.length < Platform.jsonNesting) :
      Takes fs .openArray ⟨.array [] :: fs, .valueOrClose⟩
  | openObject {fs : List Frame} (room : fs.length < Platform.jsonNesting) :
      Takes fs .openObject ⟨.object [] default :: fs, .nameOrClose⟩
  /-- A text is the name of the next entry of an object. -/
  | name (entries : List (Text × Value)) (last t : Text) (fs : List Frame) :
      Takes (.object entries last :: fs) (.string t) ⟨.object entries t :: fs, .colon⟩
  /-- A name where no object is open, to which no text leads. -/
  | strayName (fs : List Frame) (t : Text) : Takes fs (.string t) ⟨fs, .colon⟩
  /-- What separates leaves everything open as it is. -/
  | colon (fs : List Frame) : Takes fs .colon ⟨fs, .value⟩
  | nextItem (items : List Value) (fs : List Frame) :
      Takes (.array items :: fs) .comma ⟨.array items :: fs, .value⟩
  | nextEntry (entries : List (Text × Value)) (last : Text) (fs : List Frame) :
      Takes (.object entries last :: fs) .comma ⟨.object entries last :: fs, .name⟩
  /-- A list or an object that has just begun is closed. -/
  | closeNewArray (f : Frame) (fs : List Frame) :
      Takes (f :: fs) .closeArray (deliver (.list []) fs)
  | closeNewObject (f : Frame) (fs : List Frame) :
      Takes (f :: fs) .closeObject (deliver (.table []) fs)
  /-- A list or an object is closed behind its last item or entry. -/
  | closeArray (items : List Value) (fs : List Frame) :
      Takes (.array items :: fs) .closeArray (deliver (.list items.reverse) fs)
  | closeObject (entries : List (Text × Value)) (last : Text) (fs : List Frame) :
      Takes (.object entries last :: fs) .closeObject (deliver (.table entries) fs)

/-- Why a token is refused. -/
inductive Refuses [Platform] (fs : List Frame) : Token → Objection → Prop where
  /-- The token is out of place. -/
  | misplaced (t : Token) (c : Complaint) (offset : Nat) : Refuses fs t (.complaint c offset)
  | longInteger (digits : Nat) : Refuses fs (.longInteger digits) (.integerTooLong digits)
  /-- There is no room for another list or object. -/
  | fullArray (full : Platform.jsonNesting ≤ fs.length) : Refuses fs .openArray .nestedTooDeep
  | fullObject (full : Platform.jsonNesting ≤ fs.length) : Refuses fs .openObject .nestedTooDeep

lemma push_eq_ok [Platform] {f : Frame} {next : Expecting} {fs : List Frame} {s : Stage}
    (h : push f next fs = .ok s) : fs.length < Platform.jsonNesting ∧ s = ⟨f :: fs, next⟩ := by
  unfold push at h
  split at h
  · cases h
  · rename_i room
    cases h
    exact ⟨Nat.lt_of_not_le room, rfl⟩

lemma push_eq_error [Platform] {f : Frame} {next : Expecting} {fs : List Frame} {o : Objection}
    (h : push f next fs = .error o) : Platform.jsonNesting ≤ fs.length ∧ o = .nestedTooDeep := by
  unfold push at h
  split at h
  · rename_i full
    cases h
    exact ⟨full, rfl⟩
  · cases h

lemma takes_of_takeValue [Platform] {fs : List Frame} {t : Token} {pos : Nat} {s : Stage}
    (h : takeValue fs pos t = .ok s) : Takes fs t s := by
  cases t with
  | string t =>
    cases h
    exact .string fs t
  | scalar v =>
    cases h
    exact .scalar fs v
  | openArray =>
    obtain ⟨room, rfl⟩ := push_eq_ok h
    exact .openArray room
  | openObject =>
    obtain ⟨room, rfl⟩ := push_eq_ok h
    exact .openObject room
  | _ => cases h

lemma refuses_of_takeValue [Platform] {fs : List Frame} {t : Token} {pos : Nat} {o : Objection}
    (h : takeValue fs pos t = .error o) : Refuses fs t o := by
  cases t with
  | string | scalar => cases h
  | openArray =>
    obtain ⟨full, rfl⟩ := push_eq_error h
    exact .fullArray full
  | openObject =>
    obtain ⟨full, rfl⟩ := push_eq_error h
    exact .fullObject full
  | longInteger digits =>
    cases h
    exact .longInteger digits
  | _ =>
    cases h
    exact .misplaced ..

lemma takes_of_takeName [Platform] {fs : List Frame} {t : Token} {pos : Nat} {s : Stage}
    (h : takeName fs pos t = .ok s) : Takes fs t s := by
  cases t with
  | string t =>
    simp only [takeName] at h
    split at h <;> cases h
    · exact .name _ _ t _
    · exact .strayName fs t
  | _ => cases h

lemma refuses_of_takeName [Platform] {fs : List Frame} {t : Token} {pos : Nat} {o : Objection}
    (h : takeName fs pos t = .error o) : Refuses fs t o := by
  cases t with
  | string t =>
    simp only [takeName] at h
    split at h <;> cases h
  | _ =>
    cases h
    exact .misplaced ..

lemma Stage.takes_of_feed [Platform] {s s' : Stage} {t : Token} {pos : Nat}
    (h : s.feed t pos = .ok s') :
    Takes s.stack t s' := by
  unfold Stage.feed at h
  split at h
  · exact takes_of_takeValue h
  · split at h
    · rename_i hstack
      cases h
      rw [hstack]
      exact .closeNewArray _ _
    · exact takes_of_takeValue h
  · split at h
    · rename_i hstack
      cases h
      rw [hstack]
      exact .closeNewObject _ _
    · exact takes_of_takeName h
  · exact takes_of_takeName h
  · split at h <;> cases h
    exact .colon s.stack
  · split at h
    all_goals cases h
    all_goals rename_i hstack
    all_goals rw [hstack]
    · exact .nextItem _ _
    · exact .nextEntry _ _ _
    · exact .closeArray _ _
    · exact .closeObject _ _ _
  · cases h

lemma Stage.refuses_of_feed [Platform] {s : Stage} {t : Token} {pos : Nat} {o : Objection}
    (h : s.feed t pos = .error o) : Refuses s.stack t o := by
  unfold Stage.feed at h
  split at h
  · exact refuses_of_takeValue h
  · split at h
    · cases h
    · exact refuses_of_takeValue h
  · split at h
    · cases h
    · exact refuses_of_takeName h
  · exact refuses_of_takeName h
  · split at h <;> cases h
    exact .misplaced ..
  · split at h <;> cases h
    exact .misplaced ..
  · cases h
    exact .misplaced ..

end ElmOnSave.Json
