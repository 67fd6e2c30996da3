import ElmOnSave.CommandLine
import ElmOnSave.Proofs.ReportRoundTrip

/-!
# The JSON report on standard output

What is printed is not the report itself: the codes that a terminal would act on are taken out of
it, and a new line is put behind it.  Neither does any harm.  `Json.write` puts out printable ASCII
and new lines only (`Json.Spellable.clean_write`), so there is no code to take out
(`Published.echo_reportText`), and white space behind a document is skipped
(`Json.read_write_newLine`).
-/

namespace ElmOnSave

namespace Json

/-! ## What is written -/

/-- A text of printable ASCII and new lines. -/
def Clean (cs : List Char) : Prop :=
  ∀ c ∈ cs, c = '\n' ∨ (32 ≤ c.toNat ∧ c.toNat < 127)

namespace Clean

variable {c : Char} {cs ds : List Char}

lemma nil : Clean [] := List.forall_mem_nil _

lemma cons (hc : 32 ≤ c.toNat ∧ c.toNat < 127) (h : Clean cs) : Clean (c :: cs) :=
  List.forall_mem_cons.2 ⟨.inr hc, h⟩

lemma append (hc : Clean cs) (hd : Clean ds) : Clean (cs ++ ds) :=
  List.forall_mem_append.2 ⟨hc, hd⟩

end Clean

lemma clean_unitEscape (n : Nat) : Clean (unitEscape n) := by
  have hdigit : ∀ m, 32 ≤ (Text.hexDigit (m % 16)).toNat ∧ (Text.hexDigit (m % 16)).toNat < 127 := by
    intro m
    have hm : m % 16 < 16 := Nat.mod_lt m (by decide)
    generalize m % 16 = d at hm
    interval_cases d <;> decide
  rw [unitEscape_eq]
  exact .cons (by decide) (.cons (by decide) (.cons (hdigit _) (.cons (hdigit _)
    (.cons (hdigit _) (.cons (hdigit _) .nil)))))

lemma clean_escaped (n : Nat) : Clean (escaped n) := by
  have hpair : ∀ {c : Char}, 32 ≤ c.toNat ∧ c.toNat < 127 → Clean ['\\', c] := fun hc =>
    .cons (by decide) (.cons hc .nil)
  unfold escaped
  split_ifs with _ _ _ _ _ _ _ hprintable
  · exact hpair (by decide)
  · exact hpair (by decide)
  · exact hpair (by decide)
  · exact hpair (by decide)
  · exact hpair (by decide)
  · exact hpair (by decide)
  · exact hpair (by decide)
  · have hvalid : n.isValidChar := .inl (by omega)
    rw [Char.ofNat, dif_pos hvalid]
    exact .cons hprintable .nil
  · exact clean_unitEscape n
  · exact .append (clean_unitEscape _) (clean_unitEscape _)

lemma clean_string (t : Text) : Clean (string t) := by
  refine .cons (by decide) (.append (fun c hc => ?_) (.cons (by decide) .nil))
  obtain ⟨n, -, hc⟩ := List.mem_flatMap.1 hc
  exact clean_escaped n c hc

lemma clean_newLine (level : Nat) : Clean (newLine level) := by
  rw [newLine, Clean, List.forall_mem_cons]
  refine ⟨.inl rfl, fun c hc => ?_⟩
  rw [List.eq_of_mem_replicate hc]
  exact .inr (by decide)

lemma clean_intText (i : Int) : Clean (Value.intText i) := by
  have hdigits : Clean (Text.natDigits i.natAbs) := by
    intro c hc
    have hdigit := isAsciiDigit_of_mem_natDigits hc
    simp only [Text.isAsciiDigit, Bool.and_eq_true, decide_eq_true_eq] at hdigit
    exact .inr (by omega)
  unfold Value.intText
  split
  · exact .cons (by decide) hdigits
  · exact hdigits

lemma clean_writeItems {level : Nat} {vs : List Value}
    (hvs : ∀ v ∈ vs, ∀ level, Clean (write level v)) : Clean (writeItems level vs) := by
  induction vs with
  | nil =>
    rw [writeItems]
    exact .append (clean_newLine level) (.cons (by decide) .nil)
  | cons v vs ih =>
    rw [List.forall_mem_cons] at hvs
    rw [writeItems]
    exact .cons (by decide) (.append (.append (clean_newLine _) (hvs.1 _)) (ih hvs.2))

lemma clean_writeEntries {level : Nat} {es : List (Text × Value)}
    (hes : ∀ e ∈ es, ∀ level, Clean (write level e.2)) : Clean (writeEntries level es) := by
  induction es with
  | nil =>
    rw [writeEntries]
    exact .append (clean_newLine level) (.cons (by decide) .nil)
  | cons e es ih =>
    obtain ⟨k, v⟩ := e
    rw [List.forall_mem_cons] at hes
    have hvalue : Clean (':' :: ' ' :: write (level + 1) v ++ writeEntries level es) :=
      .append (.cons (by decide) (.cons (by decide) (hes.1 _))) (ih hes.2)
    rw [writeEntries, List.append_assoc]
    exact .cons (by decide) (.append (.append (clean_newLine _) (clean_string k)) hvalue)

/-- Only printable ASCII and new lines are written for a value. -/
theorem Spellable.clean_write {limits : Limits} {depth : Nat} {v : Value}
    (hv : Spellable limits depth v) (level : Nat) : Clean (write level v) := by
  induction hv generalizing level with
  | null depth =>
    unfold Clean
    simp [write]
  | bool depth b =>
    unfold Clean
    cases b <;> simp [write]
  | int fits => exact clean_intText _
  | text depth s => exact clean_string _
  | @list depth items fits spellable ih =>
    cases items with
    | nil => exact .cons (by decide) (.cons (by decide) .nil)
    | cons v vs =>
      rw [List.forall_mem_cons] at ih
      rw [write]
      exact .cons (by decide) (.append (.append (clean_newLine _) (ih.1 _))
        (clean_writeItems ih.2))
  | @table depth entries fits names distinct spellable ih =>
    cases entries with
    | nil => exact .cons (by decide) (.cons (by decide) .nil)
    | cons e es =>
      obtain ⟨k, v⟩ := e
      rw [List.forall_mem_cons] at ih
      have hvalue : Clean (':' :: ' ' :: write (level + 1) v ++ writeEntries level es) :=
        .append (.cons (by decide) (.cons (by decide) (ih.1 _))) (clean_writeEntries ih.2)
      rw [write, List.append_assoc]
      exact .cons (by decide) (.append (.append (clean_newLine _) (clean_string k)) hvalue)

/-- A new line behind a document is no part of it. -/
theorem read_write_newLine [Platform] {v : Value} (hv : Readable 0 v) (level : Nat) :
    read (write level v ++ ['\n']) = .ok v := by
  have hspells : Spells .reader v (write level v ++ ['\n']) :=
    ⟨.none, .newLine 0, _, hv.spelling_write level, rfl⟩
  exact hspells.read

end Json

namespace CommandLine

/-! ## What is printed -/

/-- Nothing is taken out of a text without escape characters. -/
lemma withoutCodes_eq_self {cs : List Char} (h : ∀ c ∈ cs, c ≠ Char.ofNat 27) :
    withoutCodes cs = cs := by
  have hgo : ∀ acc, withoutCodes.go cs 0 acc = cs.reverse ++ acc := by
    induction cs with
    | nil => exact fun acc => rfl
    | cons c cs ih =>
      intro acc
      rw [List.forall_mem_cons] at h
      rw [withoutCodes.go, if_neg h.1, ih h.2, List.reverse_cons, List.append_assoc]
      rfl
  rw [withoutCodes, hgo, List.append_nil, List.reverse_reverse]

lemma withoutCodes_of_clean {cs : List Char} (h : Json.Clean cs) : withoutCodes cs = cs := by
  refine withoutCodes_eq_self fun c hc => ?_
  rintro rfl
  rcases h _ hc with heq | hprintable
  · revert heq
    decide
  · revert hprintable
    decide

end CommandLine

namespace Published

variable {p : Published} (short : ∀ r ∈ p.records, r.range.Short)

include short

/-- The report is printed as it is. -/
lemma echo_reportText : CommandLine.echo p.reportText = p.reportText ++ "\n" := by
  have hclean : Json.Clean p.reportText.toList := by
    rw [reportText, String.toList_ofList]
    exact (readable_toValue short).sorted.clean_write 0
  rw [CommandLine.echo, CommandLine.withoutCodes_of_clean hclean, String.ofList_toList]

/-- **What is printed for the collections is a document that holds them.** -/
theorem read_echo_reportText [Platform] :
    Json.read (CommandLine.echo p.reportText).toList = .ok (Json.sorted p.toValue) := by
  rw [echo_reportText short, String.toList_append, reportText, String.toList_ofList]
  exact Json.read_write_newLine (readable_toValue short).sorted 0

end Published

end ElmOnSave
