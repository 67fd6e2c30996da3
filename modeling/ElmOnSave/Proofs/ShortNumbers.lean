import ElmOnSave.Proofs.FailingSteps
import ElmOnSave.Proofs.JsonStages
import ElmOnSave.Proofs.JsonTokens
import ElmOnSave.Validation.Scalar

/-!
# The integers of a document are short

The JSON reader refuses integers of more than `Decimal.digitLimit` digits, and the other spellings
that count as an integer are bounded as well: a text by the same limit (`isWritable_of_parseInt`), a
binary number by 64 bits (`isWritable_of_integral`).

`Value.Short` says of a document that all its integers can be written again.  Whatever is read is
short (`Json.short_of_read`); the invariant is that of the machine, `Stage.Short`: what is held in
the lists and objects that are open, whatever a token makes of them (`Takes.short`).  What is then
taken for an integer can be written (`Value.Short.asInt`).
-/

namespace ElmOnSave

/-! ## Integers that are read -/

namespace Decimal

lemma isWritable_of_lt {i : Int} {n : Nat} (h : i.natAbs < Nat.pow 10 n) (hn : n ≤ digitLimit) :
    isWritable i = true := by
  have hpow : ∀ k, n ≤ k → Nat.pow 10 n ≤ Nat.pow 10 k := fun k => Nat.pow_le_pow_right (by decide)
  exact (isWritable_iff i).2 (Nat.lt_of_lt_of_le h (hpow digitLimit hn))

end Decimal

namespace Text

lemma digitValue?_lt {c : Char} {d : Nat} (h : digitValue? c = some d) : d < 10 := by
  unfold digitValue? at h
  simp only at h
  split at h
  · split at h
    · rename_i hc
      simp only [Bool.and_eq_true, decide_eq_true_eq] at hc
      cases h
      omega
    · cases h
  · obtain ⟨z, hz, rfl⟩ := Option.map_eq_some_iff.1 h
    have hfound := List.find?_some hz
    simp only [Bool.and_eq_true, decide_eq_true_eq] at hfound
    omega

/-- A run of digits spells a number of no more digits. -/
lemma ofDigits_lt (cs : List Char) : ofDigits cs < Nat.pow 10 cs.length := by
  have hfold : ∀ (cs : List Char) (m k : Nat), m < Nat.pow 10 k →
      (cs.map fun c => (digitValue? c).getD 0).foldl (fun n d => n * 10 + d) m <
        Nat.pow 10 (k + cs.length) := by
    intro cs
    induction cs with
    | nil => exact fun m k hm => hm
    | cons c cs ih =>
      intro m k hm
      have hdigit : (digitValue? c).getD 0 < 10 := by
        cases hc : digitValue? c with
        | none => decide
        | some d => exact digitValue?_lt hc
      have hstep : m * 10 + (digitValue? c).getD 0 < Nat.pow 10 (k + 1) := by
        have hpow : Nat.pow 10 (k + 1) = Nat.pow 10 k * 10 := rfl
        omega
      rw [List.map_cons, List.foldl_cons, List.length_cons, Nat.add_comm cs.length, ← Nat.add_assoc]
      exact ih _ _ hstep
  have h := hfold cs 0 0 (by decide)
  rwa [Nat.zero_add] at h

end Text

namespace Decimal

/-- A numeral with a sign is writable if it is no longer than is read. -/
lemma isWritable_ofDigits (negative : Bool) {cs : List Char} (h : cs.length ≤ digitLimit) :
    isWritable (if negative then -(Text.ofDigits cs : Int) else Text.ofDigits cs) = true := by
  refine isWritable_of_lt (n := cs.length) ?_ h
  have hlt := Text.ofDigits_lt cs
  cases negative <;> simpa using hlt

end Decimal

namespace Value

lemma isWritable_of_plainInt? {cs : List Char} {i : Int} (h : plainInt? cs = some i) :
    Decimal.isWritable i = true := by
  unfold plainInt? at h
  generalize hsplit : (if cs.head? = some '-' then (true, cs.drop 1) else (false, cs)) = p at h
  have hlength : p.2.length ≤ cs.length := by
    rw [← hsplit]
    split <;> simp
  obtain ⟨negative, ds⟩ := p
  simp only at h
  split at h
  · cases h
  · rename_i hshort
    simp only [Bool.or_eq_true, decide_eq_true_eq, not_or, Nat.not_lt] at hshort
    cases h
    exact Decimal.isWritable_ofDigits negative (Nat.le_trans hlength hshort.2)

lemma isWritable_of_parseInt {cs : List Char} {i : Int} (h : parseInt cs = .ok i) :
    Decimal.isWritable i = true := by
  unfold parseInt at h
  split at h
  · cases h
  · split at h
    · rename_i hread
      cases h
      obtain ⟨numeral, -, hplain⟩ := Option.bind_eq_some_iff.1 hread
      exact isWritable_of_plainInt? hplain
    · cases h

lemma isWritable_of_fits64 {i : Int} (h : fits64 i = true) : Decimal.isWritable i = true := by
  have hlt : i.natAbs < Nat.pow 10 19 :=
    Nat.lt_of_lt_of_le (of_decide_eq_true h) (by decide)
  exact Decimal.isWritable_of_lt hlt (by decide)

lemma isWritable_of_integral {x : Binary64} {i : Int} (h : integral x = .ok i) :
    Decimal.isWritable i = true := by
  unfold integral at h
  split at h
  · cases h
  · split at h
    · cases h
    · split at h
      · rename_i hfits
        cases h
        exact isWritable_of_fits64 hfits
      · cases h

/-- A value all of whose integers are short enough to be written. -/
inductive Short : Value → Prop where
  | null : Short .null
  | bool (b : Bool) : Short (.bool b)
  | int {i : Int} (writable : Decimal.isWritable i = true) : Short (.int i)
  | float (x : Binary64) : Short (.float x)
  | text (t : Text) : Short (.text t)
  | moment (spelling : String) : Short (.moment spelling)
  | list {items : List Value} (short : ∀ v ∈ items, Short v) : Short (.list items)
  | table {entries : List (Text × Value)} (short : ∀ e ∈ entries, Short e.2) :
      Short (.table entries)

/-- Whatever a short value is taken for an integer, it is one that can be written. -/
lemma Short.asInt {v : Value} (hv : v.Short) {i : Int} (h : v.asInt = .ok i) :
    Decimal.isWritable i = true := by
  cases hv with
  | int writable =>
    cases h
    exact writable
  | bool b =>
    cases h
    exact Decimal.isWritable_of_lt_ten (by cases b <;> decide)
  | float x => exact isWritable_of_integral h
  | text t =>
    cases t with
    | whole s => exact isWritable_of_parseInt h
    | halved ps => cases h
  | _ => cases h

lemma Short.getD {v : Value} (hv : v.Short) (key : String) : (v.getD key).Short := by
  rw [Value.getD]
  cases hget : v.get? key with
  | none => exact .null
  | some w =>
    cases hv with
    | table short => exact Entries.of_get? short hget
    | _ => cases hget

end Value

/-! ## Documents that are read -/

namespace Json

/-- A token that is no long integer. -/
def Token.Short : Token → Prop
  | .scalar v => v.Short
  | _ => True

lemma NumberParts.short_token (n : NumberParts) : n.token.Short := by
  unfold NumberParts.token
  split
  · split
    · trivial
    · rename_i hshort
      exact .int (Decimal.isWritable_ofDigits n.negative (Nat.not_lt.1 hshort))
  · exact .float _

lemma short_of_scalar? {cs : List Char} {t : Token} {width : Nat}
    (h : scalar? cs = some (t, width)) : t.Short := by
  unfold scalar? at h
  split at h
  · rename_i word v hfound
    cases h
    have hmem := List.mem_of_find?_eq_some hfound
    simp only [constants, List.mem_cons, Prod.mk.injEq, List.not_mem_nil, or_false] at hmem
    rcases hmem with ⟨-, rfl⟩ | ⟨-, rfl⟩ | ⟨-, rfl⟩ | ⟨-, rfl⟩ | ⟨-, rfl⟩ | ⟨-, rfl⟩ <;> constructor
  · obtain ⟨⟨n, width⟩, -, heq⟩ := Option.map_eq_some_iff.1 h
    cases heq
    exact n.short_token

lemma short_of_mem_tokens {cs : List Char} : ∀ e ∈ (tokens cs).1, e.1.Short := by
  refine forall_mem_scan ?_ (fun _ => trivial) (fun _ _ => trivial)
    (fun _ hscalar => short_of_scalar? hscalar) trivial (List.suffix_refl cs)
    (List.forall_mem_nil _)
  intro c t hmark
  unfold mark? at hmark
  split at hmark <;> cases hmark <;> trivial

/-- A list or object that is open and holds short values only. -/
def Frame.Short : Frame → Prop
  | .array items => ∀ v ∈ items, v.Short
  | .object entries _ => ∀ e ∈ entries, e.2.Short

/-- A stage at which only short values have been read. -/
structure Stage.Short (s : Stage) : Prop where
  stack : ∀ f ∈ s.stack, f.Short
  value : ∀ v, s.expecting = .nothing v → v.Short

lemma short_deliver {v : Value} (hv : v.Short) {fs : List Frame} (hfs : ∀ f ∈ fs, f.Short) :
    (deliver v fs).Short := by
  cases fs with
  | nil => exact ⟨nofun, fun w hw => by cases hw; exact hv⟩
  | cons f fs =>
    rw [List.forall_mem_cons] at hfs
    cases f with
    | array items =>
      exact ⟨List.forall_mem_cons.2 ⟨List.forall_mem_cons.2 ⟨hv, hfs.1⟩, hfs.2⟩, nofun⟩
    | object entries name =>
      exact ⟨List.forall_mem_cons.2 ⟨Entries.forall_put hfs.1 name hv, hfs.2⟩, nofun⟩

lemma Takes.short [Platform] {fs : List Frame} {t : Token} {s : Stage} (h : Takes fs t s)
    (hfs : ∀ f ∈ fs, f.Short) (ht : t.Short) : s.Short := by
  cases h with
  | string => exact short_deliver (.text _) hfs
  | scalar => exact short_deliver ht hfs
  | openArray | openObject =>
    exact ⟨List.forall_mem_cons.2 ⟨List.forall_mem_nil _, hfs⟩, nofun⟩
  | name =>
    rw [List.forall_mem_cons] at hfs
    exact ⟨List.forall_mem_cons.2 hfs, nofun⟩
  | strayName | colon | nextItem | nextEntry => exact ⟨hfs, nofun⟩
  | closeNewArray =>
    exact short_deliver (.list (List.forall_mem_nil _)) (List.forall_mem_cons.1 hfs).2
  | closeNewObject =>
    exact short_deliver (.table (List.forall_mem_nil _)) (List.forall_mem_cons.1 hfs).2
  | closeArray =>
    rw [List.forall_mem_cons] at hfs
    exact short_deliver (.list fun v hv => hfs.1 v (List.mem_reverse.1 hv)) hfs.2
  | closeObject =>
    rw [List.forall_mem_cons] at hfs
    exact short_deliver (.table hfs.1) hfs.2

lemma Stage.Short.feedAll [Platform] {s s' : Stage} (hs : s.Short) {ts : List (Token × Nat)}
    (hts : ∀ e ∈ ts, e.1.Short) (h : s.feedAll ts = .ok s') : s'.Short := by
  induction ts generalizing s with
  | nil =>
    cases h
    exact hs
  | cons e ts ih =>
    obtain ⟨t, pos⟩ := e
    rw [List.forall_mem_cons] at hts
    rw [Stage.feedAll] at h
    split at h
    · rename_i hfeed
      exact ih ((Stage.takes_of_feed hfeed).short hs.stack hts.1) hts.2 h
    · cases h

/-- Whatever is read from a JSON text is short. -/
theorem short_of_read [Platform] {cs : List Char} {v : Value} (h : read cs = .ok v) : v.Short := by
  have hreadAt : ∀ {cs : List Char} {v : Value}, readAt cs = .ok v → v.Short := by
    intro cs v h
    rw [readAt] at h
    simp only at h
    split at h
    · rename_i s hall
      have hstart : (⟨[], .value⟩ : Stage).Short := ⟨List.forall_mem_nil _, nofun⟩
      have hs : s.Short := hstart.feedAll short_of_mem_tokens hall
      unfold Stage.finish at h
      split at h
      · rename_i hvalue
        cases h
        exact hs.value v hvalue
      all_goals cases h
    · cases h
  unfold read at h
  split at h
  · cases h
  · exact hreadAt (mapError_eq_ok_iff.1 h)

end Json

end ElmOnSave
