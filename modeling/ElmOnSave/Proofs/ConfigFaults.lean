import ElmOnSave.Config.Load
import ElmOnSave.Proofs.ProjectLookup

/-!
# Configurations that cannot be loaded

Loading a configuration complains about the file: that it is absent, that it is no TOML, that its
table is none, or that its fields are not as expected.  Beside these complaints there are causes that
come from further down and are passed on as they are.  `load_raises_iff` says which: the path of the
file is too long to be asked about, its octets are no text, an integer in it is too long, it is
nested too deeply to be read, or it cannot be expanded.

The steps of loading are taken one by one.  A file that was found can be read
(`exists_content_of_isFile`), so that reading its table fails only for what it holds
(`readTable_eq_error`), and what keeps a value from being expanded stands somewhere inside it
(`obstacle?_eq_some`).
-/

namespace ElmOnSave.Config

/-! ## What cannot be expanded -/

/-- A text stands somewhere in a value. -/
inductive Holds (s : String) : Value → Prop where
  | text : Holds s (.text (.whole s))
  | list {items : List Value} {v : Value} (mem : v ∈ items) (holds : Holds s v) :
      Holds s (.list items)
  | table {entries : List (Text × Value)} {e : Text × Value} (mem : e ∈ entries)
      (holds : Holds s e.2) : Holds s (.table entries)

/-- More than so many lists and tables stand inside one another. -/
inductive NestedBeyond : Nat → Value → Prop where
  | list (items : List Value) : NestedBeyond 0 (.list items)
  | table (entries : List (Text × Value)) : NestedBeyond 0 (.table entries)
  | inList {n : Nat} {items : List Value} {v : Value} (mem : v ∈ items) (deep : NestedBeyond n v) :
      NestedBeyond (n + 1) (.list items)
  | inTable {n : Nat} {entries : List (Text × Value)} {e : Text × Value} (mem : e ∈ entries)
      (deep : NestedBeyond n e.2) : NestedBeyond (n + 1) (.table entries)

section Obstacles

variable {environment : List (String × String)}

lemma obstacleAmong?_eq (room : Nat) (items : List Value) :
    obstacleAmong? environment room items = items.findSome? (obstacle? environment room) := by
  induction items with
  | nil => rfl
  | cons v vs ih =>
    rw [obstacleAmong?, List.findSome?_cons, ih]
    cases obstacle? environment room v <;> rfl

lemma obstacleWithin?_eq (room : Nat) (entries : List (Text × Value)) :
    obstacleWithin? environment room entries =
      entries.findSome? fun e => obstacle? environment room e.2 := by
  induction entries with
  | nil => rfl
  | cons e es ih =>
    rw [obstacleWithin?, List.findSome?_cons, ih]
    cases obstacle? environment room e.2 <;> rfl

lemma obstacle?_text_eq_some {room : Nat} {t : Text} {f : Fault}
    (h : obstacle? environment room (.text t) = some f) :
    f = .nullByte ∧ ∃ s, Holds s (.text t) ∧
      Machine.namesNullAccount (expandVariables environment s) = true := by
  cases t with
  | whole s =>
    rw [obstacle?] at h
    split at h
    · rename_i hnull
      cases h
      exact ⟨rfl, s, .text, hnull⟩
    · cases h
  | halved points => cases h

/-- What keeps a value from being expanded is a text with a name that cannot be looked up behind
its tilde, or the nesting. -/
lemma obstacle?_eq_some {room : Nat} {v : Value} {f : Fault}
    (h : obstacle? environment room v = some f) :
    (f = .nullByte ∧ ∃ s, Holds s v ∧
        Machine.namesNullAccount (expandVariables environment s) = true) ∨
      (f = .nestedTooDeep ∧ NestedBeyond room v) := by
  -- The room shrinks with every list and table that is entered.
  induction room generalizing v with
  | zero =>
    cases v with
    | text t => exact .inl (obstacle?_text_eq_some h)
    | list items =>
      cases h
      exact .inr ⟨rfl, .list items⟩
    | table entries =>
      cases h
      exact .inr ⟨rfl, .table entries⟩
    | _ => cases h
  | succ room ih =>
    cases v with
    | text t => exact .inl (obstacle?_text_eq_some h)
    | list items =>
      rw [obstacle?, if_neg (Nat.succ_ne_zero room), Nat.add_sub_cancel, obstacleAmong?_eq] at h
      obtain ⟨v, hmem, hv⟩ := List.exists_of_findSome?_eq_some h
      rcases ih hv with ⟨rfl, s, hs, hnull⟩ | ⟨rfl, hdeep⟩
      · exact .inl ⟨rfl, s, .list hmem hs, hnull⟩
      · exact .inr ⟨rfl, .inList hmem hdeep⟩
    | table entries =>
      rw [obstacle?, if_neg (Nat.succ_ne_zero room), Nat.add_sub_cancel, obstacleWithin?_eq] at h
      obtain ⟨e, hmem, he⟩ := List.exists_of_findSome?_eq_some h
      rcases ih he with ⟨rfl, s, hs, hnull⟩ | ⟨rfl, hdeep⟩
      · exact .inl ⟨rfl, s, .table hmem hs, hnull⟩
      · exact .inr ⟨rfl, .inTable hmem hdeep⟩
    | _ => cases h

lemma tryExpand_eq_error_iff [Platform] {m : Machine} {v : Value} {f : Fault} :
    tryExpand m environment v = .error f ↔
      obstacle? environment Platform.expansionNesting v = some f := by
  unfold tryExpand
  cases obstacle? environment Platform.expansionNesting v <;> simp

end Obstacles

/-! ## Files -/

/-- A regular file with some content stands at a path. -/
structure FileHolds (m : Machine) (path : Path) (content : Octets) : Prop where
  found : m.isFile path = .ok true
  content : m.readFile path.text = .ok content

section Files

variable {m : Machine} {path : Path}

/-- A file that was found can be read. -/
lemma exists_content_of_isFile (h : m.isFile path = .ok true) :
    ∃ content, FileHolds m path content := by
  have hask := h
  unfold Machine.isFile Machine.ask at hask
  split at hask
  · rename_i node hstat
    cases node with
    | file content mode program =>
      refine ⟨content, h, ?_⟩
      rw [Machine.readFile, hstat]
    | directory => cases hask
    | device => cases hask
  · cases hask
  · cases hask

lemma readCharacters_of_fileHolds {content : Octets} (h : FileHolds m path content) :
    m.readCharacters path.text = (Utf8.decodeStrict content).mapError .undecodable := by
  rw [Machine.readCharacters, Machine.readOctets, h.content]

/-- Reading the table of a file fails for its octets, for its text or for its document. -/
lemma readTable_eq_error_iff [Platform] {content : Octets} (h : FileHolds m path content)
    {f : Fault} :
    readTable m path = .error f ↔
      (∃ cause, Utf8.decodeStrict content = .error cause ∧ .undecodable cause = f) ∨
        ∃ cs, Utf8.decodeStrict content = .ok cs ∧
          ((∃ e, Toml.read cs = .error e ∧ tomlFault path.text e = f) ∨
            ∃ document, Toml.read cs = .ok document ∧
              ∃ cause, sectionOf path document = .error cause ∧ .config path.text cause = f) := by
  unfold readTable
  dsimp only
  rw [readCharacters_of_fileHolds h]
  simp only [bind, bind_eq_error_iff, mapError_eq_error_iff, mapError_eq_ok_iff,
    exists_exists_and_eq_and, ReadFault.fault]

end Files

/-! ## What is raised -/

/-- The file that is loaded: the one named explicitly, or the project's own. -/
def candidate (root : Path) (path : Option Path) : Path :=
  path.getD (root.child fileName)

/-- What loading a configuration raises beside complaints about the file. -/
inductive Raises [Platform] (m : Machine) (environment : List (String × String)) (file : Path) :
    Fault → Prop where
  /-- The path of the file is too long to be asked about. -/
  | lookup (long : m.isFile file = .error ⟨.nameTooLong, file.text⟩) :
      Raises m environment file (.system ⟨.nameTooLong, file.text⟩)
  /-- The octets of the file are no text. -/
  | undecodable {content : Octets} {cause : Utf8.Fault} (holds : FileHolds m file content)
      (noText : Utf8.decodeStrict content = .error cause) :
      Raises m environment file (.undecodable cause)
  /-- An integer in the file has too many digits. -/
  | integer {content : Octets} {cs : List Char} {digits : Nat} (holds : FileHolds m file content)
      (text : Utf8.decodeStrict content = .ok cs)
      (refused : Toml.read cs = .error (.integerTooLong digits)) :
      Raises m environment file (.integerTooLong digits)
  /-- The file is nested too deeply to be read. -/
  | nesting {content : Octets} {cs : List Char} (holds : FileHolds m file content)
      (text : Utf8.decodeStrict content = .ok cs)
      (refused : Toml.read cs = .error .nestedTooDeep) :
      Raises m environment file .nestedTooDeep
  /-- The table is nested too deeply to be expanded. -/
  | expansion {entries : List (Text × Value)} (found : m.isFile file = .ok true)
      (table : readTable m file = .ok entries)
      (first : obstacle? environment Platform.expansionNesting (.table entries) =
        some .nestedTooDeep)
      (deep : NestedBeyond Platform.expansionNesting (.table entries)) :
      Raises m environment file .nestedTooDeep
  /-- A text of the table, its variables filled in, starts with a tilde and a name that cannot be
  looked up. -/
  | account {entries : List (Text × Value)} {s : String} (found : m.isFile file = .ok true)
      (table : readTable m file = .ok entries)
      (first : obstacle? environment Platform.expansionNesting (.table entries) = some .nullByte)
      (holds : Holds s (.table entries))
      (null : Machine.namesNullAccount (expandVariables environment s) = true) :
      Raises m environment file .nullByte

section Raises

variable {m : Machine} {environment : List (String × String)} {root : Path} {path : Option Path}
  {f : Fault}

/-- No complaint about the file is among them. -/
lemma Raises.family_ne_config [Platform] {file : Path} (h : Raises m environment file f) :
    f.family ≠ .config := by
  cases h <;> simp [Fault.family]

/-- What becomes of a path that cannot be asked about. -/
lemma load_of_lookup [Platform] {e : SystemFault}
    (lookup : m.isFile (candidate root path) = .error e) :
    load m environment root path = .error (.system e) := by
  unfold load
  rw [← candidate]
  dsimp only
  rw [lookup]
  rfl

/-- What becomes of a file that is missing. -/
lemma load_of_absent [Platform] (absent : m.isFile (candidate root path) = .ok false) :
    load m environment root path =
      if path.isNone then .ok standard
      else .error (.config (candidate root path).text .absent) := by
  unfold load
  rw [← candidate]
  dsimp only
  rw [absent]
  rfl

/-- What becomes of a file that was found. -/
lemma load_of_found [Platform] (found : m.isFile (candidate root path) = .ok true) :
    load m environment root path = (do
      let entries ← readTable m (candidate root path)
      let expanded ← tryExpand m environment (.table entries)
      (read expanded).mapError fun r => .config (candidate root path).text (.invalid r)) := by
  unfold load
  rw [← candidate]
  dsimp only
  rw [found]
  rfl

/-- Loading a file that was found fails for its table, for a value that cannot be expanded or for a
field. -/
lemma load_eq_error_iff_of_found [Platform] (found : m.isFile (candidate root path) = .ok true) :
    load m environment root path = .error f ↔
      readTable m (candidate root path) = .error f ∨
        ∃ entries, readTable m (candidate root path) = .ok entries ∧
          (tryExpand m environment (.table entries) = .error f ∨
            ∃ expanded, tryExpand m environment (.table entries) = .ok expanded ∧
              ∃ r, read expanded = .error r ∧
                .config (candidate root path).text (.invalid r) = f) := by
  rw [load_of_found found]
  simp only [bind, bind_eq_error_iff, mapError_eq_error_iff]

/-- Reading the table of a file that was found fails with a complaint about the file, or with
something that is raised. -/
lemma readTable_eq_error [Platform] {file : Path} (found : m.isFile file = .ok true)
    (h : readTable m file = .error f) :
    (∃ cause, f = .config file.text cause) ∨ Raises m environment file f := by
  obtain ⟨content, holds⟩ := exists_content_of_isFile found
  rcases (readTable_eq_error_iff holds).1 h with
    ⟨cause, hdecode, rfl⟩ | ⟨cs, hdecode, ⟨e, hread, rfl⟩ | ⟨document, -, cause, -, rfl⟩⟩
  · exact .inr (.undecodable holds hdecode)
  · cases e with
    | malformed c p => exact .inl ⟨_, rfl⟩
    | integerTooLong digits => exact .inr (.integer holds hdecode hread)
    | nestedTooDeep => exact .inr (.nesting holds hdecode hread)
  · exact .inl ⟨cause, rfl⟩

/-- Loading a file that was found fails with a complaint about it, or with something that is
raised. -/
lemma load_eq_error_of_found [Platform] (found : m.isFile (candidate root path) = .ok true)
    (h : load m environment root path = .error f) :
    (∃ cause, f = .config (candidate root path).text cause) ∨
      Raises m environment (candidate root path) f := by
  rcases (load_eq_error_iff_of_found found).1 h with
    htable | ⟨entries, htable, hexpand | ⟨expanded, -, r, -, rfl⟩⟩
  · exact readTable_eq_error found htable
  · have first := tryExpand_eq_error_iff.1 hexpand
    rcases obstacle?_eq_some first with ⟨rfl, s, holds, null⟩ | ⟨rfl, deep⟩
    · exact .inr (.account found htable first holds null)
    · exact .inr (.expansion found htable first deep)
  · exact .inl ⟨_, rfl⟩

/-- Loading fails with a complaint about the file, or with something that is raised. -/
lemma load_eq_error [Platform] (h : load m environment root path = .error f) :
    (∃ cause, f = .config (candidate root path).text cause) ∨
      Raises m environment (candidate root path) f := by
  cases hfile : m.isFile (candidate root path) with
  | error e =>
    rw [load_of_lookup hfile] at h
    cases h
    obtain rfl := ask_eq_error hfile
    exact .inr (.lookup hfile)
  | ok found =>
    cases found with
    | false =>
      rw [load_of_absent hfile] at h
      split at h
      · cases h
      · cases h
        exact .inl ⟨_, rfl⟩
    | true => exact load_eq_error_of_found hfile h

/-- What is raised ends the loading. -/
lemma Raises.load [Platform] (h : Raises m environment (candidate root path) f) :
    load m environment root path = .error f := by
  have htable : ∀ {f}, m.isFile (candidate root path) = .ok true →
      readTable m (candidate root path) = .error f →
      Config.load m environment root path = .error f :=
    fun found hf => (load_eq_error_iff_of_found found).2 (.inl hf)
  have hexpand : ∀ {entries f}, m.isFile (candidate root path) = .ok true →
      readTable m (candidate root path) = .ok entries →
      obstacle? environment Platform.expansionNesting (.table entries) = some f →
      Config.load m environment root path = .error f :=
    fun found hentries first => (load_eq_error_iff_of_found found).2
      (.inr ⟨_, hentries, .inl (tryExpand_eq_error_iff.2 first)⟩)
  cases h with
  | lookup long => exact load_of_lookup long
  | undecodable holds noText =>
    exact htable holds.found ((readTable_eq_error_iff holds).2 (.inl ⟨_, noText, rfl⟩))
  | integer holds text refused =>
    exact htable holds.found ((readTable_eq_error_iff holds).2
      (.inr ⟨_, text, .inl ⟨_, refused, rfl⟩⟩))
  | nesting holds text refused =>
    exact htable holds.found ((readTable_eq_error_iff holds).2
      (.inr ⟨_, text, .inl ⟨_, refused, rfl⟩⟩))
  | expansion found table first deep => exact hexpand found table first
  | account found table first holds null => exact hexpand found table first

end Raises

/-- **What loading a configuration raises.**  It yields a configuration or complains about the
file, unless one of the causes holds; then it is this cause that comes out.  The file is seen as a
superuser sees it: whether it is there can always be asked, and what is there can be read. -/
theorem load_raises_iff [Platform] (m : Machine) (environment : List (String × String))
    (root : Path) (path : Option Path) (f : Fault) :
    (load m environment root path = .error f ∧
        ∀ cause, f ≠ .config (candidate root path).text cause) ↔
      Raises m environment (candidate root path) f := by
  constructor
  · rintro ⟨h, hf⟩
    rcases load_eq_error h with ⟨cause, rfl⟩ | hraises
    · exact absurd rfl (hf cause)
    · exact hraises
  · intro h
    refine ⟨h.load, ?_⟩
    rintro cause rfl
    exact h.family_ne_config rfl

/-- A machine whose only file is a configuration that is one octet, which starts no character. -/
def undecodableMachine : Machine :=
  ⟨⟨[([fileName], .file [0xff] 0o644 none)]⟩, "/", [], []⟩

/-- Not every file is answered with a configuration or a complaint. -/
theorem not_forall_load_complains :
    ¬ ∀ (m : Machine) (environment : List (String × String)) (root : Path) (path : Option Path),
      (∃ c, load m environment root path = .ok c) ∨
        ∃ file cause, load m environment root path = .error (.config file cause) := by
  intro h
  have hload : load undecodableMachine [] (.ofString "/") none =
      .error (.undecodable ⟨[0xff], .invalidStart, 0⟩) := by
    decide +kernel
  rcases h undecodableMachine [] (.ofString "/") none with ⟨c, hc⟩ | ⟨file, cause, hcause⟩
  · rw [hload] at hc
    cases hc
  · rw [hload] at hcause
    cases hcause

end ElmOnSave.Config
