import ElmOnSave.Config.Expansion
import ElmOnSave.Proofs.Splitting
import ElmOnSave.Proofs.TokenCuts

/-!
# Variables are filled in once

A `Reference` is a kind of token (`Reference.kind`): a dollar sign with a name behind it, either the
longest run of word characters or anything in braces.  Where one begins, and only there, `reference?`
finds it (`Reference.begins_cons_iff`).  So the pieces of a text are those of the search for
references (`piecesOf_written`, `piecesOf_of_not_begins`), and filling in variables puts a value in
the place of each reference and keeps all the rest (`Reference.expandVariables_eq`).  The values are
not searched again, and no variable counts that the text does not name.
-/

namespace ElmOnSave.Config

/-- A reference to a variable. -/
inductive Reference where
  /-- The name stands behind the dollar sign. -/
  | bare (name : List Char) (isWord : ∀ c ∈ name, Text.isWord c = true) (named : name ≠ [])
  /-- The name stands in braces. -/
  | braced (name : List Char) (inside : ∀ c ∈ name, c ≠ '\x7d') (named : name ≠ [])

namespace Reference

/-- The name of the variable. -/
def name : Reference → List Char
  | bare name _ _ => name
  | braced name _ _ => name

/-- The name as the environment has it. -/
def key (r : Reference) : String :=
  String.ofList r.name

/-- What stands behind the dollar sign. -/
def covered : Reference → List Char
  | bare name _ _ => name
  | braced name _ _ => '\x7b' :: (name ++ ['\x7d'])

/-- The characters of the reference. -/
def written (r : Reference) : List Char :=
  '$' :: r.covered

/-- A name without braces does not go on in the text behind it. -/
def Ends : Reference → List Char → Prop
  | bare _ _ _, rest => ∀ c ∈ rest.head?, Text.isWord c = false
  | braced _ _ _, _ => True

/-! ## References as tokens -/

lemma reference?_covered {r : Reference} {rest : List Char} (h : r.Ends rest) :
    reference? (r.covered ++ rest) = some (r.covered, r.name) := by
  cases r with
  | bare name isWord named =>
    have hrun : (name ++ rest).takeWhile Text.isWord = name := takeWhile_run isWord h
    simp [reference?, covered, Reference.name, hrun, named]
  | braced name inside named =>
    have hbrace : Text.isWord '\x7b' = false := by decide
    have hinside : ∀ c ∈ name, (c != '\x7d') = true := fun c hc => by simp [inside c hc]
    have hclose : ∀ c ∈ ('\x7d' :: rest).head?, (c != '\x7d') = false := by
      rintro c ⟨⟩
      rfl
    have hrun : (name ++ '\x7d' :: rest).takeWhile (· != '\x7d') = name :=
      takeWhile_run hinside hclose
    simp [reference?, covered, Reference.name, hbrace, hrun, named]

/-- A name in front of a closing brace is that of a reference. -/
lemma exists_braced {inner : List Char} (named : inner.takeWhile (· != '\x7d') ≠ [])
    (closed : inner.dropWhile (· != '\x7d') ≠ []) :
    ∃ (r : Reference) (rest : List Char), r.Ends rest ∧ r.covered ++ rest = '\x7b' :: inner ∧
      r.covered = '\x7b' :: (inner.takeWhile (· != '\x7d') ++ ['\x7d']) ∧
      r.name = inner.takeWhile (· != '\x7d') := by
  obtain ⟨close, rest, hrest⟩ := List.exists_cons_of_ne_nil closed
  have hhead : close ∈ (inner.dropWhile (· != '\x7d')).head? := by
    rw [hrest]
    rfl
  have hclose := eq_false_of_mem_head?_dropWhile (p := (· != '\x7d')) hhead
  obtain rfl : close = '\x7d' := by simpa using hclose
  have hsplit := List.takeWhile_append_dropWhile (p := (· != '\x7d')) (l := inner)
  rw [hrest] at hsplit
  have hinside : ∀ c ∈ inner.takeWhile (· != '\x7d'), c ≠ '\x7d' := by
    intro c hc
    simpa using List.mem_takeWhile_imp hc
  refine ⟨.braced _ hinside named, rest, trivial, ?_, rfl, rfl⟩
  rw [covered, List.cons_append, List.append_assoc, List.singleton_append, hsplit]

lemma exists_of_reference? {cs covered name : List Char}
    (h : reference? cs = some (covered, name)) :
    ∃ (r : Reference) (rest : List Char), r.Ends rest ∧ r.covered ++ rest = cs ∧
      r.covered = covered ∧ r.name = name := by
  unfold reference? at h
  dsimp only at h
  split at h
  · rename_i hword
    cases h
    refine ⟨.bare (cs.takeWhile Text.isWord) (fun c hc => List.mem_takeWhile_imp hc) ?_,
      cs.dropWhile Text.isWord, fun c hc => eq_false_of_mem_head?_dropWhile hc,
      List.takeWhile_append_dropWhile, rfl, rfl⟩
    simpa using hword
  · split at h
    · rw [drop_length_takeWhile] at h
      split at h
      · cases h
      · rename_i hbraced
        cases h
        simp only [Bool.or_eq_true, List.isEmpty_iff, not_or] at hbraced
        exact exists_braced hbraced.1 hbraced.2
    · cases h

lemma eq_of_covered_eq {r r' : Reference} (hcovered : r.covered = r'.covered)
    (hname : r.name = r'.name) : r = r' := by
  have hlonger : ∀ name : List Char, name ≠ '\x7b' :: (name ++ ['\x7d']) := by
    intro name h
    have hlength := congrArg List.length h
    rw [List.length_cons, List.length_append] at hlength
    omega
  cases r with
  | bare name isWord named =>
    cases r' with
    | bare name' isWord' named' =>
      cases hname
      rfl
    | braced name' inside' named' =>
      cases hname
      exact absurd hcovered (hlonger name)
  | braced name inside named =>
    cases r' with
    | bare name' isWord' named' =>
      cases hname
      exact absurd hcovered.symm (hlonger name)
    | braced name' inside' named' =>
      cases hname
      rfl

/-- References are tokens where their name does not go on. -/
def kind : TokenKind Reference where
  written := written
  Ends := Ends
  written_ne_nil r := List.cons_ne_nil _ _
  unique {r r' rest rest'} hends hends' h := by
    have hread : reference? (r.covered ++ rest) = reference? (r'.covered ++ rest') :=
      congrArg reference? (List.cons.inj h).2
    rw [reference?_covered hends, reference?_covered hends', Option.some.injEq,
      Prod.mk.injEq] at hread
    exact eq_of_covered_eq hread.1 hread.2

@[simp] lemma written_kind : kind.written = written := rfl

lemma begins_cons_iff {c : Char} {cs : List Char} :
    kind.Begins (c :: cs) ↔ c = '$' ∧ (reference? cs).isSome := by
  constructor
  · rintro ⟨r, rest, hends, h⟩
    obtain ⟨rfl, hcs⟩ : '$' = c ∧ r.covered ++ rest = cs := List.cons.inj h
    refine ⟨rfl, ?_⟩
    rw [← hcs, reference?_covered hends]
    rfl
  · rintro ⟨rfl, hsome⟩
    obtain ⟨⟨covered, name⟩, hfound⟩ := Option.isSome_iff_exists.1 hsome
    obtain ⟨r, rest, hends, rfl, -, -⟩ := exists_of_reference? hfound
    exact ⟨r, rest, hends, rfl⟩

end Reference

/-! ## Pieces -/

section Pieces

variable {cs : List Char}

lemma cut_eq (fuel : Nat) (cs : List Char) (acc : List Piece) :
    cut fuel cs acc = acc.reverse ++ cut fuel cs [] := by
  induction fuel generalizing cs acc with
  | zero => simp [cut]
  | succ fuel ih =>
    cases cs with
    | nil => simp [cut]
    | cons c cs =>
      have hpush : ∀ (p : Piece) (rest : List Char),
          cut fuel rest (p :: acc) = acc.reverse ++ cut fuel rest [p] := by
        intro p rest
        rw [ih rest (p :: acc), ih rest [p], List.reverse_cons, List.append_assoc]
        rfl
      simp only [cut, hpush]
      split
      · split <;> rfl
      · rfl

/-- The fuel does not count as long as there is enough of it. -/
lemma cut_congr {fuel fuel' : Nat} (h : cs.length ≤ fuel) (h' : cs.length ≤ fuel') :
    cut fuel cs [] = cut fuel' cs [] := by
  induction fuel generalizing fuel' cs with
  | zero =>
    obtain rfl : cs = [] := List.length_eq_zero_iff.1 (Nat.le_zero.1 h)
    cases fuel' <;> rfl
  | succ fuel ih =>
    cases cs with
    | nil => cases fuel' <;> rfl
    | cons c cs =>
      rw [List.length_cons] at h h'
      obtain ⟨fuel', rfl⟩ : ∃ n, fuel' = n + 1 := ⟨fuel' - 1, by omega⟩
      have hrest : ∀ (p : Piece) (n : Nat),
          cut fuel (cs.drop n) [p] = cut fuel' (cs.drop n) [p] := by
        intro p n
        have hlength : (cs.drop n).length ≤ cs.length := by
          rw [List.length_drop]
          omega
        have hsame : cut fuel (cs.drop n) [] = cut fuel' (cs.drop n) [] := ih (by omega) (by omega)
        rw [cut_eq fuel, cut_eq fuel', hsame]
      have hnext : ∀ p : Piece, cut fuel cs [p] = cut fuel' cs [p] := fun p => hrest p 0
      simp only [cut, hrest, hnext]

lemma piecesOf_of_le {fuel : Nat} (h : cs.length ≤ fuel) : cut fuel cs [] = piecesOf cs :=
  cut_congr h le_rfl

lemma piecesOf_of_not_begins {c : Char} (h : ¬ Reference.kind.Begins (c :: cs)) :
    piecesOf (c :: cs) = .literal c :: piecesOf cs := by
  rw [Reference.begins_cons_iff] at h
  rw [piecesOf, List.length_cons, cut]
  by_cases hdollar : c = '$'
  · have hnone : reference? cs = none := by
      rw [← Option.not_isSome_iff_eq_none]
      exact fun hsome => h ⟨hdollar, hsome⟩
    rw [if_pos hdollar, hnone]
    exact cut_eq _ _ _
  · rw [if_neg hdollar]
    exact cut_eq _ _ _

lemma piecesOf_written {r : Reference} {rest : List Char} (h : r.Ends rest) :
    piecesOf (r.written ++ rest) = .reference r.written r.name :: piecesOf rest := by
  have hlength : rest.length ≤ (r.covered ++ rest).length := by
    rw [List.length_append]
    omega
  rw [piecesOf, Reference.written, List.cons_append, List.length_cons, cut,
    if_pos rfl, Reference.reference?_covered h]
  dsimp only
  rw [List.drop_left, cut_eq, piecesOf_of_le hlength]
  rfl

end Pieces

/-! ## Filling in -/

namespace Reference

variable (environment : List (String × String))

/-- What stands for a reference: the value of its variable, or the reference as it is written. -/
def value (r : Reference) : List Char :=
  match environment.lookup r.key with
  | some v => v.toList
  | none => r.written

variable {environment} {s : String} {c : Cutting Reference}

lemma expandVariables_eq (h : kind.IsCuttingOf c s.toList) :
    expandVariables environment s = String.ofList (c.replaced (value environment)) := by
  refine congrArg String.ofList (h.eq_replaced
    (F := fun cs => (piecesOf cs).flatMap (Piece.expand environment)) rfl ?_ ?_)
  · intro ch rest hbegins
    rw [piecesOf_of_not_begins hbegins, List.flatMap_cons]
    rfl
  · intro r rest hends
    rw [written_kind, piecesOf_written hends, List.flatMap_cons]
    rfl

/-- Only the variables that the text names count. -/
lemma expandVariables_congr {environment' : List (String × String)}
    (hc : kind.IsCuttingOf c s.toList)
    (h : ∀ r ∈ c.tokens, environment'.lookup r.key = environment.lookup r.key) :
    expandVariables environment' s = expandVariables environment s := by
  rw [expandVariables_eq hc, expandVariables_eq hc]
  refine congrArg String.ofList (Cutting.replaced_congr fun r hr => ?_)
  rw [value, value, h r hr]

/-- A text of which no variable is defined stays as it is. -/
lemma expandVariables_of_undefined (hc : kind.IsCuttingOf c s.toList)
    (h : ∀ r ∈ c.tokens, environment.lookup r.key = none) :
    expandVariables environment s = s := by
  have hwritten : c.replaced (value environment) = s.toList := by
    rw [← hc.text_eq]
    refine Cutting.replaced_congr fun r hr => ?_
    rw [value, h r hr]
    rfl
  rw [expandVariables_eq hc, hwritten, String.ofList_toList]

end Reference

end ElmOnSave.Config
