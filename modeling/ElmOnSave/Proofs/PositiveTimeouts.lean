import ElmOnSave.Config.Basic
import ElmOnSave.Proofs.ShortRegions

/-!
# Timeouts that are positive

A timeout is refused if it compares less than or equal to zero.  A number that does not is positive,
unless it is none at all (`Binary64.isNonpositive_eq_false_iff`); so an accepted timeout is none,
positive, or what is no number (`Config.Accepts`).

A configuration is read once and then written field by field.  A write that is refused might as
well not have been made (`Config.afterAssignments_of_error`), and it is refused for its field and
its value alone (`Config.assign_eq_error`).  A write to another field leaves the timeout as it is
(`Config.timeout_of_sparesTimeout`), which therefore is the one that was accepted last
(`Config.TimeoutFrom`): an induction on the writes, the last one first, in
`Config.timeoutFrom_afterAssignments`.
-/

namespace ElmOnSave

/-! ## Numbers that compare with zero -/

namespace Binary64

lemma powRatio_two_pos (e : Int) : 0 < (powRatio 2 e).1 := by
  unfold powRatio
  split
  · exact Nat.two_pow_pos _
  · exact Nat.one_pos

lemma magnitude_eq_zero_iff (m : Nat) (e : Int) : (magnitude m e).1 = 0 ↔ m = 0 := by
  have hpos := powRatio_two_pos e
  simp only [magnitude, Nat.mul_eq_zero]
  omega

section Finite

variable (negative : Bool) (m : Nat) (e : Int)

lemma isPositive_finite_iff :
    (finite negative m e).isPositive = true ↔ negative = false ∧ m ≠ 0 := by
  have hunit : magnitude 0 0 = (0, 1) := rfl
  have hzero := magnitude_eq_zero_iff m e
  simp only [isPositive, zero, lt, hunit]
  cases negative
  case false =>
    have hpositive : 0 < (magnitude m e).1 ↔ m ≠ 0 := by omega
    simpa using hpositive
  case true => simp

lemma isNonpositive_finite_iff :
    (finite negative m e).isNonpositive = true ↔ negative = true ∨ m = 0 := by
  have hunit : magnitude 0 0 = (0, 1) := rfl
  have hzero := magnitude_eq_zero_iff m e
  simp only [isNonpositive, isZero, zero, lt, hunit]
  cases negative
  case false => simp
  case true =>
    have hnegative : m = 0 ∨ 0 < (magnitude m e).1 := by omega
    simpa using hnegative

end Finite

/-- A number is less than or equal to zero, or greater, or none. -/
lemma isNonpositive_eq_false_iff (x : Binary64) :
    x.isNonpositive = false ↔ x.isPositive = true ∨ x = .nan := by
  cases x with
  | nan => decide
  | infinite negative => cases negative <;> decide
  | finite negative m e =>
    rw [Bool.eq_false_iff, Ne, isNonpositive_finite_iff, isPositive_finite_iff]
    simp

end Binary64

/-! ## Values that are accepted as a timeout -/

namespace Config

/-- The name of the field. -/
def timeoutName : String := "timeout"

/-- A value is accepted as a timeout. -/
inductive Accepts : Value → Option Binary64 → Prop where
  | null : Accepts .null none
  | positive {v : Value} {x : Binary64} (number : v.asFloat = .ok x)
      (positive : x.isPositive = true) : Accepts v (some x)
  /-- The value spells what is no number. -/
  | noNumber {v : Value} (number : v.asFloat = .ok .nan) : Accepts v (some .nan)

lemma readTimeout_eq_ok_iff {v : Value} {t : Option Binary64} :
    readTimeout v = .ok t ↔ Accepts v t := by
  constructor
  · intro h
    unfold readTimeout at h
    split at h
    · cases h
      exact .null
    · split at h
      · cases h
      · rename_i x number
        split at h
        · cases h
        · rename_i hpositive
          cases h
          obtain hpositive | rfl :=
            (Binary64.isNonpositive_eq_false_iff x).1 (Bool.eq_false_iff.2 hpositive)
          · exact .positive number hpositive
          · exact .noNumber number
  · have hread : ∀ {x : Binary64}, v.asFloat = .ok x → x.isPositive = true ∨ x = .nan →
        readTimeout v = .ok (some x) := by
      intro x number hx
      have hpositive := (Binary64.isNonpositive_eq_false_iff x).2 hx
      unfold readTimeout
      split
      · cases number
      · rw [number]
        dsimp only
        rw [hpositive]
        rfl
    intro h
    cases h with
    | null => rfl
    | positive number positive => exact hread number (.inl positive)
    | noNumber number => exact hread number (.inr rfl)

/-- A value is accepted as one timeout at most. -/
lemma Accepts.unique {v : Value} {t t' : Option Binary64} (h : Accepts v t) (h' : Accepts v t') :
    t = t' := by
  rw [← readTimeout_eq_ok_iff] at h h'
  rw [h] at h'
  exact Except.ok.inj h'

/-! ## The timeout that is read -/

/-- A field of a table that was read holds its value, or is missing and has its default. -/
lemma cases_of_scalarField {α : Type} {es : List (Text × Value)} {name : String} {default a : α}
    {read : Value → Except Mismatch α}
    (h : Value.scalarField es name (some default) read = .valid a) :
    (∃ v, Entries.get? es (.whole name) = some v ∧ read v = .ok a) ∨
      Entries.get? es (.whole name) = none ∧ a = default := by
  unfold Value.scalarField Value.field at h
  cases hget : Entries.get? es (.whole name) with
  | some v =>
    rw [hget] at h
    exact .inl ⟨v, rfl, Checked.ofExcept_eq_valid (Checked.within_eq_valid h)⟩
  | none =>
    rw [hget] at h
    cases h
    exact .inr ⟨rfl, rfl⟩

lemma scalarField_of_read {v : Value} {c : Config} (h : Config.read v = .ok c) :
    ∃ es, v = .table es ∧
      Value.scalarField es timeoutName (some standard.timeout) readTimeout = .valid c.timeout := by
  unfold Config.read at h
  have hvalid : ofValue v = .valid c := by
    cases hvalue : ofValue v with
    | valid c' =>
      rw [hvalue] at h
      exact congrArg _ (Except.ok.inj h)
    | invalid issues =>
      rw [hvalue] at h
      cases h
  unfold ofValue at hvalid
  cases v with
  | table es =>
    refine ⟨es, rfl, ?_⟩
    -- the fields are read from left to right, so the last one is peeled off first
    have hcolor := Checked.alsoWith_eq_valid hvalid
    obtain ⟨_, _, hemoji, -, rfl⟩ := Checked.seq_eq_valid hcolor
    obtain ⟨_, _, hpolicy, -, rfl⟩ := Checked.seq_eq_valid hemoji
    obtain ⟨_, _, htimeout, -, rfl⟩ := Checked.seq_eq_valid hpolicy
    obtain ⟨_, timeout, hdevice, hread, rfl⟩ := Checked.seq_eq_valid htimeout
    obtain ⟨_, _, hlinting, -, rfl⟩ := Checked.seq_eq_valid hdevice
    obtain ⟨_, _, htest, -, rfl⟩ := Checked.seq_eq_valid hlinting
    obtain ⟨_, _, hmake, -, rfl⟩ := Checked.seq_eq_valid htest
    obtain ⟨_, _, hcompiler, -, rfl⟩ := Checked.seq_eq_valid hmake
    obtain ⟨_, -, rfl⟩ := Checked.map_eq_valid hcompiler
    exact hread
  | _ => cases hvalid

/-- The timeout of a configuration that was read is the one that the value has, or there is none. -/
lemma timeout_of_read {v : Value} {c : Config} (h : Config.read v = .ok c) :
    (∃ w, v.get? timeoutName = some w ∧ Accepts w c.timeout) ∨
      v.get? timeoutName = none ∧ c.timeout = none := by
  obtain ⟨es, rfl, hfield⟩ := scalarField_of_read h
  refine (cases_of_scalarField hfield).imp_left ?_
  rintro ⟨w, hget, hread⟩
  exact ⟨w, hget, readTimeout_eq_ok_iff.1 hread⟩

/-! ## Writing fields -/

/-- A field and the value that it is to have. -/
abbrev Assignment : Type := String × Value

/-- The configuration after a field is written; a write that is refused changes nothing. -/
def afterAssignment (c : Config) (a : Assignment) : Config :=
  match c.assign a.1 a.2 with
  | .ok c' => c'
  | .error _ => c

/-- The configuration after several writes, one after the other. -/
def afterAssignments (c : Config) (as : List Assignment) : Config :=
  as.foldl afterAssignment c

/-- A write leaves the timeout as it is: it is for another field, or its value is refused. -/
def SparesTimeout (a : Assignment) : Prop :=
  a.1 = timeoutName → ∀ t, ¬ Accepts a.2 t

variable {c : Config} {a : Assignment}

lemma afterAssignment_of_error {r : Refusal} (h : c.assign a.1 a.2 = .error r) :
    c.afterAssignment a = c := by
  rw [afterAssignment, h]

/-- A write that one configuration refuses is refused by any other. -/
lemma assign_eq_error {c' : Config} {name : String} {v : Value} {r : Refusal}
    (h : c.assign name v = .error r) : c'.assign name v = .error r := by
  obtain ⟨m, hchecked, rfl⟩ := mapError_eq_error_iff.1 h
  refine mapError_eq_error_iff.2 ⟨m, ?_, rfl⟩
  unfold assignChecked at hchecked ⊢
  split at hchecked
  case h_10 => exact hchecked
  -- every field checks the value before the configuration comes in
  all_goals exact map_eq_error_iff.2 (map_eq_error_iff.1 hchecked)

/-- A write to the timeout that is accepted. -/
lemma timeout_of_accepts {v : Value} {t : Option Binary64} (h : Accepts v t) :
    (c.afterAssignment (timeoutName, v)).timeout = t := by
  have hassign : c.assign timeoutName v =
      ((readTimeout v).map fun t => { c with timeout := t }).mapError
        fun m => ⟨subject, [⟨[timeoutName], m⟩]⟩ := rfl
  rw [afterAssignment, hassign, readTimeout_eq_ok_iff.2 h]
  rfl

lemma timeout_of_map {α : Type} {r : Except Mismatch α} {f : α → Config}
    (hf : ∀ x, (f x).timeout = c.timeout) {c' : Config} (h : r.map f = .ok c') :
    c'.timeout = c.timeout := by
  cases r with
  | error m => cases h
  | ok x =>
    cases h
    exact hf x

/-- Another field that is written leaves the timeout as it is. -/
lemma timeout_of_assignChecked {name : String} {v : Value} {c' : Config} (hname : name ≠ timeoutName)
    (h : c.assignChecked name v = .ok c') : c'.timeout = c.timeout := by
  unfold assignChecked at h
  split at h
  case h_6 => exact absurd rfl hname
  case h_10 => cases h
  all_goals
    refine timeout_of_map ?_ h
    intro _
    rfl

lemma timeout_of_sparesTimeout (h : SparesTimeout a) :
    (c.afterAssignment a).timeout = c.timeout := by
  obtain ⟨name, v⟩ := a
  cases hassign : c.assign name v with
  | error r => rw [afterAssignment_of_error hassign]
  | ok c' =>
    rw [afterAssignment, hassign]
    rw [assign] at hassign
    cases hchecked : c.assignChecked name v with
    | error m =>
      rw [hchecked] at hassign
      cases hassign
    | ok c'' =>
      rw [hchecked] at hassign
      cases hassign
      by_cases hname : name = timeoutName
      · subst hname
        have hmap : (readTimeout v).map (fun t => { c with timeout := t }) = .ok c' := hchecked
        cases hread : readTimeout v with
        | error m =>
          rw [hread] at hmap
          cases hmap
        | ok t => exact absurd (readTimeout_eq_ok_iff.1 hread) (h rfl t)
      · exact timeout_of_assignChecked hname hchecked

/-! ## The timeout after several writes -/

lemma afterAssignments_append (c : Config) (as as' : List Assignment) :
    c.afterAssignments (as ++ as') = (c.afterAssignments as).afterAssignments as' :=
  List.foldl_append

/-- A course of writes goes on as if a write that is refused had not been made. -/
lemma afterAssignments_of_error {before after : List Assignment} {r : Refusal}
    (h : (c.afterAssignments before).assign a.1 a.2 = .error r) :
    c.afterAssignments (before ++ a :: after) = c.afterAssignments (before ++ after) := by
  rw [afterAssignments_append, afterAssignments_append]
  calc (c.afterAssignments before).afterAssignments (a :: after)
      = ((c.afterAssignments before).afterAssignment a).afterAssignments after := List.foldl_cons ..
    _ = (c.afterAssignments before).afterAssignments after := by rw [afterAssignment_of_error h]

lemma timeout_of_forall_sparesTimeout {as : List Assignment} (h : ∀ a ∈ as, SparesTimeout a) :
    (c.afterAssignments as).timeout = c.timeout := by
  induction as generalizing c with
  | nil => rfl
  | cons a as ih =>
    obtain ⟨ha, has⟩ := List.forall_mem_cons.1 h
    exact (ih has).trans (timeout_of_sparesTimeout ha)

/-- The timeout that was accepted last, of what a value has and what was written after it was
read. -/
inductive TimeoutFrom (v : Value) (as : List Assignment) : Option Binary64 → Prop where
  /-- The value has none, and none was accepted since. -/
  | missing (missing : v.get? timeoutName = none) (spared : ∀ a ∈ as, SparesTimeout a) :
      TimeoutFrom v as none
  /-- The value has one, and none was accepted since. -/
  | entry {w : Value} {t : Option Binary64} (entry : v.get? timeoutName = some w)
      (accepted : Accepts w t) (spared : ∀ a ∈ as, SparesTimeout a) : TimeoutFrom v as t
  /-- One was written, and none was accepted since. -/
  | written {before after : List Assignment} {w : Value} {t : Option Binary64}
      (split : as = before ++ (timeoutName, w) :: after) (accepted : Accepts w t)
      (spared : ∀ a ∈ after, SparesTimeout a) : TimeoutFrom v as t

/-- A write that leaves the timeout as it is leaves it with the one that was accepted last. -/
lemma TimeoutFrom.concat {v : Value} {as : List Assignment} {t : Option Binary64}
    (h : TimeoutFrom v as t) (ha : SparesTimeout a) : TimeoutFrom v (as ++ [a]) t := by
  have hconcat : ∀ {after : List Assignment}, (∀ b ∈ after, SparesTimeout b) →
      ∀ b ∈ after ++ [a], SparesTimeout b := by
    intro after hafter b hb
    obtain hb | hb := List.mem_append.1 hb
    · exact hafter b hb
    · exact List.mem_singleton.1 hb ▸ ha
  cases h with
  | missing missing spared => exact .missing missing (hconcat spared)
  | entry entry accepted spared => exact .entry entry accepted (hconcat spared)
  | written split accepted spared =>
    exact .written (by rw [split, List.append_assoc, List.cons_append]) accepted (hconcat spared)

lemma timeoutFrom_afterAssignments {v : Value} (read : Config.read v = .ok c)
    (as : List Assignment) : TimeoutFrom v as (c.afterAssignments as).timeout := by
  induction as using List.reverseRecOn with
  | nil =>
    obtain ⟨w, hentry, haccepts⟩ | ⟨hmissing, htimeout⟩ := timeout_of_read read
    · exact .entry hentry haccepts (by simp)
    · rw [afterAssignments, List.foldl_nil, htimeout]
      exact .missing hmissing (by simp)
  | append_singleton as a ih =>
    rw [afterAssignments_append]
    change TimeoutFrom v _ (afterAssignment _ a).timeout
    by_cases ha : SparesTimeout a
    · rw [timeout_of_sparesTimeout ha]
      exact ih.concat ha
    · obtain ⟨name, w⟩ := a
      simp only [SparesTimeout, not_forall, not_not] at ha
      obtain ⟨rfl, t, ha⟩ := ha
      rw [timeout_of_accepts ha]
      exact .written rfl ha (by simp)

/-- The timeout of a configuration that was read and then written is the one that was accepted
last. -/
lemma timeout_afterAssignments {v : Value} (read : Config.read v = .ok c) {as : List Assignment}
    {t : Option Binary64} : (c.afterAssignments as).timeout = t ↔ TimeoutFrom v as t := by
  constructor
  · rintro rfl
    exact timeoutFrom_afterAssignments read as
  · intro h
    have hread := timeout_of_read read
    cases h with
    | missing missing spared =>
      rw [timeout_of_forall_sparesTimeout spared]
      obtain ⟨w, hentry, -⟩ | ⟨-, htimeout⟩ := hread
      · rw [missing] at hentry
        cases hentry
      · exact htimeout
    | entry entry accepted spared =>
      rw [timeout_of_forall_sparesTimeout spared]
      obtain ⟨w, hentry, haccepts⟩ | ⟨hmissing, -⟩ := hread
      · rw [entry] at hentry
        cases hentry
        exact haccepts.unique accepted
      · rw [entry] at hmissing
        cases hmissing
    | written split accepted spared =>
      rw [split, afterAssignments_append]
      exact (timeout_of_forall_sparesTimeout spared).trans (timeout_of_accepts accepted)

lemma TimeoutFrom.isPositive_or_eq_nan {v : Value} {as : List Assignment} {x : Binary64}
    (h : TimeoutFrom v as (some x)) : x.isPositive = true ∨ x = .nan := by
  have haccepts : ∃ w, Accepts w (some x) := by
    cases h with
    | entry _ accepted _ => exact ⟨_, accepted⟩
    | written _ accepted _ => exact ⟨_, accepted⟩
  obtain ⟨w, haccepts⟩ := haccepts
  cases haccepts with
  | positive _ positive => exact .inl positive
  | noNumber _ => exact .inr rfl

end Config

/-- **Accepted timeouts.**  After a configuration is read and any number of its fields are written,
the timeout is none, or greater than zero, or no number at all.  It is the one that was accepted
last, and so it is no number exactly if that one was spelled so.  A write that was refused on the
way has left no trace in any field: the configuration is the one of the other writes alone.  What
refused it was its field and its value, so it is refused at any time and in the same words. -/
theorem timeout_positive_or_noNumber {v : Value} {c : Config} (read : Config.read v = .ok c)
    (as : List Config.Assignment) :
    (∀ x, (c.afterAssignments as).timeout = some x → x.isPositive = true ∨ x = .nan) ∧
      (∀ t, (c.afterAssignments as).timeout = t ↔ Config.TimeoutFrom v as t) ∧
      ∀ before a after r, as = before ++ a :: after →
        (c.afterAssignments before).assign a.1 a.2 = .error r →
        c.afterAssignments as = c.afterAssignments (before ++ after) ∧
          ∀ c' : Config, c'.assign a.1 a.2 = .error r := by
  refine ⟨?_, fun _ => Config.timeout_afterAssignments read, ?_⟩
  · intro x h
    exact ((Config.timeout_afterAssignments read).1 h).isPositive_or_eq_nan
  · rintro before a after r rfl h
    exact ⟨Config.afterAssignments_of_error h, fun _ => Config.assign_eq_error h⟩

/-- A table sets a timeout of a minute.  A truth value written later counts as one second, which
the two writes after it leave as it is: zero is refused, and the other is for another field. -/
theorem accepted_timeout_outlasts_refused_one :
    ∃ c, Config.read (.table [(.whole "timeout", .int 60)]) = .ok c ∧
      Config.TimeoutFrom (.table [(.whole "timeout", .int 60)])
        [("timeout", .bool true), ("timeout", .int 0), ("emoji", .bool false)]
        (some (.finite false (2 ^ 52) (-52))) := by
  have hread : Config.read (.table [(.whole "timeout", .int 60)]) =
      .ok { Config.standard with timeout := some (.finite false (15 * 2 ^ 49) (-47)) } := by
    decide +kernel
  refine ⟨_, hread, ((timeout_positive_or_noNumber hread _).2.1 _).1 ?_⟩
  decide +kernel

/-- A timeout that is no number is accepted: it does not compare less than or equal to zero. -/
theorem not_forall_timeout_positive :
    ¬ ∀ (v : Value) (c : Config), Config.read v = .ok c →
      ∀ (as : List Config.Assignment) (x : Binary64),
        (c.afterAssignments as).timeout = some x → x.isPositive = true := by
  intro h
  have hread : Config.read (.table [(.whole "timeout", .float .nan)]) =
      .ok { Config.standard with timeout := some .nan } := by
    decide +kernel
  have hpositive := h _ _ hread [] .nan rfl
  cases hpositive

end ElmOnSave
