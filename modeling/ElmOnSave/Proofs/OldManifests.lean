import ElmOnSave.Proofs.LineEnds
import ElmOnSave.Proofs.PrintedReport
import ElmOnSave.Proofs.ReportLoading
import ElmOnSave.Proofs.TreeLookups

/-!
# The generation of an old manifest

An `elm-package.json` belongs to generation 0.19 if its version constraint starts with a lower bound
of at least 0.19, compared as a pair of numbers, and to 0.18 in every other case, whatever its
octets are.  There are two exceptions, in which no generation is told (`Defies`): the JSON text is
nested too deeply, or a number of the bound has too many digits.

A `LowerBound` is such a start in its parts.  `lowerBound?_eq_some_iff` says that exactly these are
recognised, `generationOfConstraint_written` what becomes of one.  With the text of the manifest
(`Demands`) this gives `generationOfManifest_iff`.
-/

namespace ElmOnSave

open AnalyzerReport (HoldsText)

/-! ## Lower bounds -/

namespace Text

/-- The digits of a script beyond ASCII are no blanks. -/
lemma isBlank_foreignDigit :
    ∀ z ∈ foreignZeros, ∀ k < 10, isBlank (Char.ofNat (z + k)) = false := by
  decide +kernel

/-- A digit is no blank. -/
lemma isBlank_eq_false_of_isDecimal {c : Char} (h : isDecimal c = true) : isBlank c = false := by
  unfold isDecimal digitValue? at h
  dsimp only at h
  split at h
  · split at h
    · rename_i hdigit
      simp only [Bool.and_eq_true, decide_eq_true_eq] at hdigit
      simp [isBlank]
      omega
    · cases h
  · rw [Option.isSome_map, List.find?_isSome] at h
    obtain ⟨z, hz, hrange⟩ := h
    simp only [Bool.and_eq_true, decide_eq_true_eq] at hrange
    obtain ⟨k, hk⟩ := Nat.exists_eq_add_of_le hrange.1
    rw [← Char.ofNat_toNat c, hk]
    exact isBlank_foreignDigit z hz k (by omega)

end Text

/-- The start of a version constraint: two runs of digits with a point between them, behind blanks.
-/
structure LowerBound where
  blanks : List Char
  major : List Char
  minor : List Char
  rest : List Char
  blank : ∀ c ∈ blanks, Text.isBlank c = true
  majorDigit : ∀ c ∈ major, Text.isDecimal c = true
  majorSome : major ≠ []
  minorDigit : ∀ c ∈ minor, Text.isDecimal c = true
  minorSome : minor ≠ []
  ended : ∀ c ∈ rest.head?, Text.isDecimal c = false

namespace LowerBound

/-- The constraint as it is written. -/
def written (b : LowerBound) : List Char :=
  b.blanks ++ (b.major ++ '.' :: (b.minor ++ b.rest))

/-- Both numbers are short enough to be read. -/
def Readable (b : LowerBound) : Prop :=
  b.major.length ≤ Decimal.digitLimit ∧ b.minor.length ≤ Decimal.digitLimit

/-- The pair of numbers, in lexical order. -/
def version (b : LowerBound) : ℕ ×ₗ ℕ :=
  toLex (Text.ofDigits b.major, Text.ofDigits b.minor)

end LowerBound

section Constraints

variable (b : LowerBound)

lemma LowerBound.lowerBound?_written : lowerBound? b.written = some (b.major, b.minor) := by
  have hdigits : ∀ c ∈ (b.major ++ '.' :: (b.minor ++ b.rest)).head?, Text.isBlank c = false := by
    intro c hc
    obtain ⟨d, ds, hmajor⟩ := List.exists_cons_of_ne_nil b.majorSome
    rw [hmajor, List.cons_append, List.head?_cons, Option.mem_some_iff] at hc
    subst hc
    exact Text.isBlank_eq_false_of_isDecimal (b.majorDigit d (by simp [hmajor]))
  have hpoint : ∀ c ∈ ('.' :: (b.minor ++ b.rest)).head?, Text.isDecimal c = false := by
    rintro c ⟨⟩
    decide
  have hmajor := takeWhile_run b.majorDigit hpoint
  have hminor := takeWhile_run b.minorDigit b.ended
  unfold lowerBound?
  simp only [written, dropWhile_run b.blank hdigits, hmajor, List.drop_left, hminor]
  simp [b.majorSome, b.minorSome]

/-- A constraint whose lower bound is recognised is written like one. -/
lemma exists_lowerBound {constraint major minor : List Char}
    (h : lowerBound? constraint = some (major, minor)) :
    ∃ b : LowerBound, b.written = constraint ∧ b.major = major ∧ b.minor = minor := by
  unfold lowerBound? at h
  dsimp only at h
  rw [drop_length_takeWhile] at h
  split at h
  · rename_i rest hrest
    split at h
    · cases h
    · rename_i hsome
      simp only [Bool.or_eq_true, List.isEmpty_iff, not_or] at hsome
      cases h
      refine ⟨⟨constraint.takeWhile Text.isBlank, _, _, rest.dropWhile Text.isDecimal,
        fun c hc => List.mem_takeWhile_imp hc, fun c hc => List.mem_takeWhile_imp hc, hsome.1,
        fun c hc => List.mem_takeWhile_imp hc, hsome.2,
        fun c hc => eq_false_of_mem_head?_dropWhile hc⟩, ?_, rfl, rfl⟩
      rw [LowerBound.written, List.takeWhile_append_dropWhile, ← hrest,
        List.takeWhile_append_dropWhile, List.takeWhile_append_dropWhile]
  · cases h

/-- What a version constraint is recognised to start with. -/
theorem lowerBound?_eq_some_iff {constraint major minor : List Char} :
    lowerBound? constraint = some (major, minor) ↔
      ∃ b : LowerBound, b.written = constraint ∧ b.major = major ∧ b.minor = minor := by
  refine ⟨exists_lowerBound, ?_⟩
  rintro ⟨b, rfl, rfl, rfl⟩
  exact b.lowerBound?_written

lemma generationOfConstraint_of_none {constraint : List Char}
    (h : ∀ b : LowerBound, b.written ≠ constraint) :
    generationOfConstraint constraint = .ok .issueArrays := by
  unfold generationOfConstraint
  split
  · rfl
  · rename_i major minor hbound
    obtain ⟨b, hb, -, -⟩ := exists_lowerBound hbound
    exact absurd hb (h b)

/-- The pair of numbers is at least (0, 19) if the first is not zero, or else by the second. -/
lemma LowerBound.le_version_iff : toLex (0, 19) ≤ b.version ↔
    0 < Text.ofDigits b.major ∨ 19 ≤ Text.ofDigits b.minor := by
  rw [version, Prod.Lex.toLex_le_toLex]
  dsimp only
  omega

lemma LowerBound.generationOfConstraint_written : generationOfConstraint b.written =
    if Decimal.digitLimit < b.major.length then .error (.integerTooLong b.major.length)
    else if Decimal.digitLimit < b.minor.length then .error (.integerTooLong b.minor.length)
    else if toLex (0, 19) ≤ b.version then .ok .reportDocuments
    else .ok .issueArrays := by
  unfold generationOfConstraint
  rw [b.lowerBound?_written]
  simp only [b.le_version_iff]
  by_cases hmajor : Decimal.digitLimit < b.major.length
  · rw [readNumber, if_pos hmajor, if_pos hmajor]
    rfl
  by_cases hminor : Decimal.digitLimit < b.minor.length
  · rw [readNumber, readNumber, if_neg hmajor, if_pos hminor, if_neg hmajor, if_pos hminor]
    rfl
  rw [readNumber, readNumber, if_neg hmajor, if_neg hminor, if_neg hmajor, if_neg hminor,
    ← apply_ite Except.ok]
  rfl

lemma LowerBound.generationOfConstraint_eq_reportDocuments_iff :
    generationOfConstraint b.written = .ok .reportDocuments ↔
      b.Readable ∧ toLex (0, 19) ≤ b.version := by
  rw [b.generationOfConstraint_written, Readable]
  split_ifs with hmajor hminor hversion
  · simp [hmajor]
  · simp [hminor]
  · simp [not_lt.1 hmajor, not_lt.1 hminor, hversion]
  · simp [hversion]

lemma LowerBound.generationOfConstraint_eq_issueArrays_iff :
    generationOfConstraint b.written = .ok .issueArrays ↔
      b.Readable ∧ ¬ toLex (0, 19) ≤ b.version := by
  rw [b.generationOfConstraint_written, Readable]
  split_ifs with hmajor hminor hversion
  · simp [hmajor]
  · simp [hminor]
  · simp [hversion]
  · simp [not_lt.1 hmajor, not_lt.1 hminor, hversion]

lemma LowerBound.generationOfConstraint_eq_error_iff {f : Fault} :
    generationOfConstraint b.written = .error f ↔
      (Decimal.digitLimit < b.major.length ∧ f = .integerTooLong b.major.length) ∨
        b.major.length ≤ Decimal.digitLimit ∧ Decimal.digitLimit < b.minor.length ∧
          f = .integerTooLong b.minor.length := by
  rw [b.generationOfConstraint_written]
  split_ifs with hmajor hminor hversion
  · simp [hmajor, eq_comm]
  · simp [hmajor, not_lt.1 hmajor, hminor, eq_comm]
  all_goals simp [hmajor, hminor]

end Constraints

/-! ## Manifests -/

section Manifests

variable {m : Machine} {manifest : Path}

/-- The file at a path is a JSON text of an object whose version constraint starts with a lower
bound. -/
inductive Demands [Platform] (m : Machine) (manifest : Path) (b : LowerBound) : Prop where
  | stated {text : List Char} {entries : List (Text × Value)} {constraint : Text}
      (holds : HoldsText m manifest text) (object : Json.read text = .ok (.table entries))
      (field : Entries.get? entries (.whole "elm-version") = some (.text constraint))
      (starts : b.written = constraint.shown.toList) : Demands m manifest b

/-- The file at a path is a text in which lists and objects are nested too deeply. -/
def NestsTooDeep [Platform] (m : Machine) (manifest : Path) : Prop :=
  ∃ text, HoldsText m manifest text ∧ Json.read text = .error .nestedTooDeep

/-- What reading the generation of a manifest raises. -/
inductive Defies [Platform] (m : Machine) (manifest : Path) : Fault → Prop where
  | nested (deep : NestsTooDeep m manifest) : Defies m manifest .nestedTooDeep
  | major {b : LowerBound} (demands : Demands m manifest b)
      (long : Decimal.digitLimit < b.major.length) :
      Defies m manifest (.integerTooLong b.major.length)
  | minor {b : LowerBound} (demands : Demands m manifest b)
      (short : b.major.length ≤ Decimal.digitLimit) (long : Decimal.digitLimit < b.minor.length) :
      Defies m manifest (.integerTooLong b.minor.length)

lemma readText_eq_ok_iff {text : List Char} :
    m.readText manifest.text = .ok text ↔ HoldsText m manifest text := by
  unfold Machine.readText Machine.readCharacters Machine.readOctets
  constructor
  · intro h
    cases octets : m.readFile manifest.text with
    | error e =>
      rw [octets] at h
      cases e <;> cases h
    | ok content =>
      rw [octets] at h
      dsimp only at h
      cases decoded : Utf8.decodeStrict content with
      | error cause =>
        rw [decoded] at h
        cases h
      | ok cs =>
        rw [decoded] at h
        cases h
        exact .decoded octets decoded
  · rintro ⟨octets, decoded⟩
    rw [octets]
    dsimp only
    rw [decoded]
    rfl

/-- The generation depends on the octets that are read only, wherever they are. -/
lemma generationOfManifest_congr [Platform] {m' : Machine} {manifest' : Path}
    (h : m'.readFile manifest'.text = m.readFile manifest.text) :
    generationOfManifest m' manifest' = generationOfManifest m manifest := by
  unfold generationOfManifest Machine.readText Machine.readCharacters Machine.readOctets
  rw [h]
  cases m.readFile manifest.text with
  | ok content => rfl
  | error e => cases e <;> rfl

/-- The generation of a manifest that is a text. -/
lemma generationOfManifest_of_holdsText [Platform] {text : List Char}
    (h : HoldsText m manifest text) :
    generationOfManifest m manifest = match Json.read text with
      | .error .nestedTooDeep => .error .nestedTooDeep
      | .error _ => .ok .issueArrays
      | .ok v => generationOfConstraint (constraintOf v) := by
  have htext := readText_eq_ok_iff.2 h
  unfold generationOfManifest
  exact htext ▸ rfl

lemma NestsTooDeep.generationOfManifest [Platform] (h : NestsTooDeep m manifest) :
    generationOfManifest m manifest = .error .nestedTooDeep := by
  obtain ⟨text, holds, deep⟩ := h
  rw [generationOfManifest_of_holdsText holds, deep]

lemma Demands.generationOfManifest [Platform] {b : LowerBound} (h : Demands m manifest b) :
    generationOfManifest m manifest = generationOfConstraint b.written := by
  obtain ⟨holds, object, field, starts⟩ := h
  rw [generationOfManifest_of_holdsText holds, object, starts]
  dsimp only
  rw [constraintOf, Value.get?, field]

/-- A manifest without a lower bound belongs to generation 0.18, whatever else is wrong with it. -/
lemma generationOfManifest_of_forall_not [Platform] (deep : ¬ NestsTooDeep m manifest)
    (h : ∀ b, ¬ Demands m manifest b) : generationOfManifest m manifest = .ok .issueArrays := by
  have hnone : generationOfConstraint [] = .ok .issueArrays := rfl
  cases htext : m.readText manifest.text with
  | error e => rw [ElmOnSave.generationOfManifest, htext]
  | ok text =>
    have holds := readText_eq_ok_iff.1 htext
    rw [generationOfManifest_of_holdsText holds]
    cases hread : Json.read text with
    | error f =>
      cases f with
      | nestedTooDeep => exact absurd ⟨text, holds, hread⟩ deep
      | _ => rfl
    | ok v =>
      dsimp only
      unfold constraintOf
      split
      · rename_i constraint field
        refine generationOfConstraint_of_none fun b starts => h b ?_
        cases v with
        | table entries => exact .stated holds hread field starts
        | _ => cases field
      · exact hnone

/-- What the generation of a manifest is told by: nothing, for its nesting; its lower bound; or that
it has none. -/
lemma generationOfManifest_cases [Platform] (m : Machine) (manifest : Path) :
    NestsTooDeep m manifest ∨ (∃ b, Demands m manifest b) ∨
      generationOfManifest m manifest = .ok .issueArrays := by
  by_cases deep : NestsTooDeep m manifest
  · exact .inl deep
  by_cases hdemands : ∃ b, Demands m manifest b
  · exact .inr (.inl hdemands)
  · exact .inr (.inr (generationOfManifest_of_forall_not deep (not_exists.1 hdemands)))

/-- **Which generation a manifest belongs to.**  Whatever the machine and whatever stands at the
path: the generation is 0.19 exactly if the file there is a JSON text of an object whose version
constraint starts with a lower bound of at least 0.19, as a pair of numbers.  It is 0.18 in every
other case, but for the two in which none is told: the text is nested too deeply, or a number of
the bound has too many digits. -/
theorem generationOfManifest_iff [Platform] (m : Machine) (manifest : Path) :
    (generationOfManifest m manifest = .ok .reportDocuments ↔
      ∃ b, Demands m manifest b ∧ b.Readable ∧ toLex (0, 19) ≤ b.version) ∧
    (generationOfManifest m manifest = .ok .issueArrays ↔ ¬ NestsTooDeep m manifest ∧
      ∀ b, Demands m manifest b → b.Readable ∧ ¬ toLex (0, 19) ≤ b.version) ∧
    ∀ f, generationOfManifest m manifest = .error f ↔ Defies m manifest f := by
  refine ⟨⟨fun h => ?_, ?_⟩, ⟨fun h => ⟨fun deep => ?_, fun b demands => ?_⟩, ?_⟩,
    fun f => ⟨fun h => ?_, ?_⟩⟩
  · obtain deep | ⟨b, demands⟩ | hother := generationOfManifest_cases m manifest
    · rw [deep.generationOfManifest] at h
      cases h
    · rw [demands.generationOfManifest, b.generationOfConstraint_eq_reportDocuments_iff] at h
      exact ⟨b, demands, h⟩
    · rw [hother] at h
      cases h
  · rintro ⟨b, demands, h⟩
    rw [demands.generationOfManifest, b.generationOfConstraint_eq_reportDocuments_iff]
    exact h
  · rw [deep.generationOfManifest] at h
    cases h
  · rwa [demands.generationOfManifest, b.generationOfConstraint_eq_issueArrays_iff] at h
  · rintro ⟨deep, hall⟩
    obtain hdeep | ⟨b, demands⟩ | hother := generationOfManifest_cases m manifest
    · exact absurd hdeep deep
    · rw [demands.generationOfManifest, b.generationOfConstraint_eq_issueArrays_iff]
      exact hall b demands
    · exact hother
  · obtain deep | ⟨b, demands⟩ | hother := generationOfManifest_cases m manifest
    · rw [deep.generationOfManifest] at h
      cases h
      exact .nested deep
    · rw [demands.generationOfManifest, b.generationOfConstraint_eq_error_iff] at h
      obtain ⟨long, rfl⟩ | ⟨short, long, rfl⟩ := h
      · exact .major demands long
      · exact .minor demands short long
    · rw [hother] at h
      cases h
  · rintro (deep | ⟨demands, long⟩ | ⟨demands, short, long⟩)
    · exact deep.generationOfManifest
    · rw [demands.generationOfManifest, LowerBound.generationOfConstraint_eq_error_iff]
      exact .inl ⟨long, rfl⟩
    · rw [demands.generationOfManifest, LowerBound.generationOfConstraint_eq_error_iff]
      exact .inr ⟨short, long, rfl⟩

end Manifests

/-! ## A manifest for every bound -/

lemma Utf8.strictFrom_of_forall_char (cs : List Char) (start : Nat) (acc : List Char) :
    strictFrom start acc (cs.map fun c => .char c 1) = .ok (acc.reverse ++ cs) := by
  induction cs generalizing start acc with
  | nil => simp [strictFrom]
  | cons c cs ih => simp [strictFrom, ih]

/-- Characters of ASCII are read back from the octets with their numbers. -/
lemma Utf8.decodeStrict_of_ascii {cs : List Char} (h : ∀ c ∈ cs, c.toNat < 128) :
    decodeStrict (cs.map fun c => UInt8.ofNat c.toNat) = .ok cs := by
  have hnumber : ∀ c ∈ cs, (UInt8.ofNat c.toNat).toNat = c.toNat := by
    intro c hc
    have hsmall := h c hc
    simp
    omega
  have hascii : ∀ b ∈ cs.map fun c => UInt8.ofNat c.toNat, b.toNat < 128 := by
    intro b hb
    obtain ⟨c, hc, rfl⟩ := List.mem_map.1 hb
    rw [hnumber c hc]
    exact h c hc
  have hpieces : (cs.map fun c => UInt8.ofNat c.toNat).map
      (fun b => Piece.char (Char.ofNat b.toNat) 1) = cs.map fun c => .char c 1 := by
    rw [List.map_map]
    refine List.map_congr_left fun c hc => ?_
    rw [Function.comp_apply, hnumber c hc, Char.ofNat_toNat]
  rw [decodeStrict, pieces_of_ascii hascii, hpieces, strictFrom_of_forall_char]
  rfl

/-- A manifest with nothing but a version constraint. -/
def bareManifest (constraint : List Char) : Value :=
  .table [(.whole "elm-version", .text (.whole (String.ofList constraint)))]

lemma readable_bareManifest [Platform] (constraint : List Char) :
    Json.Readable 0 (bareManifest constraint) := by
  have room : 0 < Platform.jsonNesting := Nat.lt_of_lt_of_le (by decide) Platform.reportFits
  refine .table room ?_ (by simp [Entries.keys]) ?_
  · simp
  · intro e he
    rw [List.mem_singleton.1 he]
    exact .text _ _

/-- A machine whose only file is this manifest. -/
def manifestMachine (constraint : List Char) : Machine :=
  ⟨⟨[([oldManifestName], .file ((Json.write 0 (bareManifest constraint)).map
    fun c => UInt8.ofNat c.toNat) 0o644 none)]⟩, "/", [], []⟩

/-- Where the manifest is. -/
def manifestPath : Path :=
  ⟨.root, [oldManifestName]⟩

lemma isDirect_manifestPath : manifestPath.IsDirect := by
  refine ⟨by decide, fun name hname => ?_, by decide⟩
  rw [List.mem_singleton.1 hname]
  decide

lemma isProper_manifestMachine (constraint : List Char) :
    (manifestMachine constraint).tree.IsProper := by
  refine ⟨fun e he => ?_, fun e he => ?_⟩ <;> rw [List.mem_singleton.1 he]
  · rfl
  · show ∀ name ∈ [oldManifestName], nullCharacter ∉ name.toList
    decide

lemma holdsText_manifestMachine (constraint : List Char) :
    HoldsText (manifestMachine constraint) manifestPath (Json.write 0 (bareManifest constraint)) := by
  have hclean := (readable_bareManifest constraint).clean_write 0
  have hascii : ∀ c ∈ Json.write 0 (bareManifest constraint), c.toNat < 128 := by
    intro c hc
    obtain rfl | ⟨-, hsmall⟩ := hclean c hc
    · decide
    · omega
  have hreturn : '\r' ∉ Json.write 0 (bareManifest constraint) := by
    intro hc
    have hprinted := hclean _ hc
    revert hprinted
    decide
  obtain ⟨b, answered⟩ := exists_answer isDirect_manifestPath (manifestMachine constraint)
    Node.isFile (by decide) (by decide)
  have octets := readFile_text (isProper_manifestMachine constraint) isDirect_manifestPath answered
    (by rfl)
  have holds := HoldsText.decoded octets (Utf8.decodeStrict_of_ascii hascii)
  rwa [Text.universalNewlines_of_not_mem hreturn] at holds

/-- Every lower bound is demanded by some manifest. -/
lemma demands_manifestMachine [Platform] (b : LowerBound) :
    Demands (manifestMachine b.written) manifestPath b := by
  have object := Json.read_write (readable_bareManifest b.written) 0
  have field : (bareManifest b.written).get? "elm-version" =
      some (.text (.whole (String.ofList b.written))) := rfl
  refine .stated (holdsText_manifestMachine b.written) object field ?_
  rw [Text.shown_whole, String.toList_ofList]

/-- A lower bound whose first number has one digit too many. -/
def overlongBound : LowerBound where
  blanks := []
  major := List.replicate (Decimal.digitLimit + 1) '1'
  minor := ['0']
  rest := []
  blank := nofun
  majorDigit c hc := by
    rw [List.eq_of_mem_replicate hc]
    decide
  majorSome := mt (List.replicate_eq_nil_iff _).1 (Nat.succ_ne_zero _)
  minorDigit c hc := by
    rw [List.mem_singleton.1 hc]
    decide
  minorSome := List.cons_ne_nil _ _
  ended := nofun

lemma generationOfManifest_overlongBound [Platform] :
    generationOfManifest (manifestMachine overlongBound.written) manifestPath =
      .error (.integerTooLong (Decimal.digitLimit + 1)) := by
  have hlength : overlongBound.major.length = Decimal.digitLimit + 1 := by
    rw [overlongBound, List.length_replicate]
  rw [(demands_manifestMachine overlongBound).generationOfManifest,
    overlongBound.generationOfConstraint_written, hlength, if_pos (Nat.lt_succ_self _)]

/-- The generation of a manifest is not always told. -/
theorem not_forall_generationOfManifest_ok :
    ¬ ∀ (m : Machine) (manifest : Path), ∃ g, generationOfManifest m manifest = .ok g := by
  intro h
  obtain ⟨g, hg⟩ := h (manifestMachine overlongBound.written) manifestPath
  rw [generationOfManifest_overlongBound] at hg
  cases hg

end ElmOnSave
