import ElmOnSave.Proofs.ConfigFaults
import ElmOnSave.Proofs.TomlTexts
import ElmOnSave.Proofs.VariableReferences

/-!
# Values with their texts expanded

A value is expanded text by text, wherever the texts stand in its lists and tables, and nothing else
of it changes: that is what it means for one value to be another one `Expanded`.  There is exactly
one such value (`Config.expanded_iff`).

It is not told for every value.  Expanding it is given up if its lists and tables are nested too
deeply, and if one of its texts, with its variables filled in, starts with a tilde and a name that
cannot be looked up (`Config.Hinders`); and for no other reason (`Config.isSome_obstacle?_iff`).
-/

namespace ElmOnSave

namespace Config

/-- A value is another one with its texts expanded. -/
inductive Expanded (m : Machine) (environment : List (String × String)) :
    Value → Value → Prop where
  /-- The variables of a text are filled in, and then a leading tilde is replaced. -/
  | text (s : String) :
      Expanded m environment (.text (.whole s))
        (.text (.whole (m.expandTilde (expandVariables environment s))))
  /-- A list has as many items as before, each of them expanded. -/
  | list {items items' : List Value} (length : items'.length = items.length)
      (each : ∀ {i : Nat} {v w : Value}, items[i]? = some v → items'[i]? = some w →
        Expanded m environment v w) :
      Expanded m environment (.list items) (.list items')
  /-- A table has the names it had, in the same order, and each value of it is expanded. -/
  | table {entries entries' : List (Text × Value)}
      (names : entries'.map Prod.fst = entries.map Prod.fst)
      (each : ∀ {i : Nat} {e e' : Text × Value}, entries[i]? = some e → entries'[i]? = some e' →
        Expanded m environment e.2 e'.2) :
      Expanded m environment (.table entries) (.table entries')
  | plain {v : Value} (plain : v.IsPlain) : Expanded m environment v v

section Expanded

variable {m : Machine} {environment : List (String × String)}

lemma expandItems_eq (items : List Value) :
    expandItems m environment items = items.map (expand m environment) := by
  induction items with
  | nil => rfl
  | cons v vs ih => rw [expandItems, ih, List.map_cons]

lemma expandEntries_eq (entries : List (Text × Value)) :
    expandEntries m environment entries =
      entries.map fun e => (e.1, expand m environment e.2) := by
  induction entries with
  | nil => rfl
  | cons e es ih => rw [expandEntries, ih, List.map_cons]

lemma expand_of_isPlain {v : Value} (h : v.IsPlain) : expand m environment v = v := by
  unfold expand
  split
  · exact h.elim
  · exact h.elim
  · exact h.elim
  · rfl

/-- What expanding a value yields is the value with its texts expanded. -/
lemma expanded_expand {v : Value} (h : v.IsWhole) :
    Expanded m environment v (expand m environment v) := by
  induction h with
  | text s =>
    rw [expand]
    exact .text s
  | list whole ih =>
    rw [expand, expandItems_eq]
    refine .list (List.length_map _) ?_
    intro i v w hv hw
    rw [List.getElem?_map, hv, Option.map_some, Option.some.injEq] at hw
    exact hw ▸ ih v (List.mem_of_getElem? hv)
  | table whole ih =>
    rw [expand, expandEntries_eq]
    refine .table (by rw [List.map_map]; rfl) ?_
    intro i e e' he he'
    rw [List.getElem?_map, he, Option.map_some, Option.some.injEq] at he'
    exact he' ▸ ih e (List.mem_of_getElem? he)
  | plain plain =>
    rw [expand_of_isPlain plain]
    exact .plain plain

/-- There is one way at most to expand the texts of a value. -/
lemma Expanded.eq_expand {v w : Value} (h : Expanded m environment v w) :
    w = expand m environment v := by
  induction h with
  | text s => rfl
  | @list items items' length each ih =>
    rw [expand, expandItems_eq]
    refine congrArg Value.list (List.ext_getElem? fun i => ?_)
    rw [List.getElem?_map]
    cases hv : items[i]? with
    | none =>
      rw [Option.map_none, List.getElem?_eq_none_iff, length, ← List.getElem?_eq_none_iff, hv]
    | some v =>
      have hlt : i < items'.length := length ▸ (List.getElem?_eq_some_iff.1 hv).1
      have hw := List.getElem?_eq_getElem hlt
      rw [hw, Option.map_some, ih hv hw]
  | @table entries entries' names each ih =>
    rw [expand, expandEntries_eq]
    refine congrArg Value.table (List.ext_getElem? fun i => ?_)
    have hname := congrArg (·[i]?) names
    simp only [List.getElem?_map] at hname ⊢
    cases he : entries[i]? with
    | none =>
      rw [he, Option.map_none, Option.map_eq_none_iff] at hname
      rw [hname, Option.map_none]
    | some e =>
      rw [he, Option.map_some, Option.map_eq_some_iff] at hname
      obtain ⟨e', he', hname⟩ := hname
      rw [he', Option.map_some, ← hname, ← ih he he']
  | plain plain => exact (expand_of_isPlain plain).symm

lemma expanded_iff {v w : Value} (hv : v.IsWhole) :
    Expanded m environment v w ↔ w = expand m environment v :=
  ⟨Expanded.eq_expand, fun h => h ▸ expanded_expand hv⟩

end Expanded

/-! ## Values that are not expanded -/

/-- What keeps a value from being expanded. -/
inductive Hinders [Platform] (environment : List (String × String)) (v : Value) : Fault → Prop where
  | nesting (deep : NestedBeyond Platform.expansionNesting v) : Hinders environment v .nestedTooDeep
  /-- A text of the value, its variables filled in, starts with a tilde and a name with a null
  character. -/
  | account {s : String} (holds : Holds s v)
      (null : Machine.namesNullAccount (expandVariables environment s) = true) :
      Hinders environment v .nullByte

section Hinders

variable {environment : List (String × String)} {room : Nat} {v : Value}

lemma isSome_obstacle?_list {items : List Value} (hv : v ∈ items)
    (h : (obstacle? environment (room - 1) v).isSome = true) :
    (obstacle? environment room (.list items)).isSome = true := by
  rw [obstacle?]
  split
  · rfl
  · rw [obstacleAmong?_eq, List.findSome?_isSome_iff]
    exact ⟨v, hv, h⟩

lemma isSome_obstacle?_table {entries : List (Text × Value)} {e : Text × Value} (he : e ∈ entries)
    (h : (obstacle? environment (room - 1) e.2).isSome = true) :
    (obstacle? environment room (.table entries)).isSome = true := by
  rw [obstacle?]
  split
  · rfl
  · rw [obstacleWithin?_eq, List.findSome?_isSome_iff]
    exact ⟨e, he, h⟩

lemma isSome_obstacle?_of_nestedBeyond (h : NestedBeyond room v) :
    (obstacle? environment room v).isSome = true := by
  induction h with
  | list items => rfl
  | table entries => rfl
  | inList mem deep ih => exact isSome_obstacle?_list mem ih
  | inTable mem deep ih => exact isSome_obstacle?_table mem ih

lemma isSome_obstacle?_of_holds {s : String} (h : Holds s v)
    (hnull : Machine.namesNullAccount (expandVariables environment s) = true) :
    (obstacle? environment room v).isSome = true := by
  induction h generalizing room with
  | text =>
    rw [obstacle?, if_pos hnull]
    rfl
  | list mem holds ih => exact isSome_obstacle?_list mem ih
  | table mem holds ih => exact isSome_obstacle?_table mem ih

lemma hinders_of_obstacle? [Platform] {f : Fault}
    (h : obstacle? environment Platform.expansionNesting v = some f) :
    Hinders environment v f := by
  obtain ⟨rfl, s, holds, null⟩ | ⟨rfl, deep⟩ := obstacle?_eq_some h
  · exact .account holds null
  · exact .nesting deep

lemma isSome_obstacle?_iff [Platform] :
    (obstacle? environment Platform.expansionNesting v).isSome = true ↔
      ∃ f, Hinders environment v f := by
  constructor
  · intro h
    obtain ⟨f, hf⟩ := Option.isSome_iff_exists.1 h
    exact ⟨f, hinders_of_obstacle? hf⟩
  · rintro ⟨f, deep | ⟨holds, null⟩⟩
    · exact isSome_obstacle?_of_nestedBeyond deep
    · exact isSome_obstacle?_of_holds holds null

end Hinders

/-- **Variables are filled in once.**  There is exactly one way to cut a text at its references, from
left to right, and in the result a value stands in the place of each one whose variable is defined,
and all the rest as it is written.  So only the variables that the text names count, and a text of
which none is defined stays as it is.

In the same way every text of a value is expanded, and then a leading tilde replaced, and nothing
else of the value changes, unless something hinders it; then that is raised.  A table that is read
from a file has no other texts than those of characters. -/
theorem variables_filled_in_once [Platform] (m : Machine) (environment : List (String × String)) :
    (∀ s : String, ∃ c : Cutting Reference,
      (∀ c', Reference.kind.IsCuttingOf c' s.toList ↔ c' = c) ∧
        expandVariables environment s =
          String.ofList (c.replaced (Reference.value environment)) ∧
        (∀ environment' : List (String × String),
          (∀ r ∈ c.tokens, environment'.lookup r.key = environment.lookup r.key) →
            expandVariables environment' s = expandVariables environment s) ∧
        ((∀ r ∈ c.tokens, environment.lookup r.key = none) → expandVariables environment s = s)) ∧
      (∀ v : Value, v.IsWhole →
        (∃ f, Hinders environment v f ∧ tryExpand m environment v = .error f) ∨
          (∀ f, ¬ Hinders environment v f) ∧
            ∃ w, tryExpand m environment v = .ok w ∧
              ∀ w', Expanded m environment v w' ↔ w' = w) ∧
      ∀ path entries, readTable m path = .ok entries → (Value.table entries).IsWhole := by
  refine ⟨?_, ?_, fun _ _ => isWhole_of_readTable⟩
  · intro s
    obtain ⟨c, hc⟩ := Reference.kind.exists_isCuttingOf s.toList
    exact ⟨c, hc.iff_eq, Reference.expandVariables_eq hc,
      fun _ h => Reference.expandVariables_congr hc h, Reference.expandVariables_of_undefined hc⟩
  · intro v hv
    cases hobstacle : obstacle? environment Platform.expansionNesting v with
    | some f =>
      exact .inl ⟨f, hinders_of_obstacle? hobstacle, tryExpand_eq_error_iff.2 hobstacle⟩
    | none =>
      refine .inr ⟨?_, expand m environment v, ?_, fun w' => expanded_iff hv⟩
      · intro f hf
        have hsome := isSome_obstacle?_iff.2 ⟨f, hf⟩
        rw [hobstacle] at hsome
        cases hsome
      · rw [tryExpand, hobstacle]

/-- A tilde and a name that no account has. -/
def nullAccount : String := "~\x00"

/-- Not every value is expanded. -/
theorem not_forall_expanded :
    ¬ ∀ (m : Machine) (environment : List (String × String)) (v : Value), v.IsWhole →
      ∃ w, tryExpand m environment v = .ok w ∧ Expanded m environment v w := by
  intro h
  obtain ⟨w, hw, -⟩ := h ⟨⟨[]⟩, "/", [], []⟩ [] (.text (.whole nullAccount)) (.text nullAccount)
  have hnull : obstacle? [] Platform.expansionNesting (.text (.whole nullAccount)) =
      some .nullByte := by
    decide +kernel
  rw [tryExpand_eq_error_iff.2 hnull] at hw
  cases hw

end Config

end ElmOnSave
