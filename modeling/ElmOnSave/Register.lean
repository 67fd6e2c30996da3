/-!
# Registers

A register keeps one value per key and remembers the order in which its keys first came: writing a
present key leaves it in its place, writing a new one puts it last, and a key that was removed and
comes again is new.  Tables of a document, groups of diagnostics and the entries of a published
collection are all kept this way.

`Entries` holds the operations on bare lists of pairs; `Register` bundles a list with the fact that
no key occurs twice.
-/

namespace ElmOnSave

namespace Entries

variable {κ ν : Type} [DecidableEq κ]

/-- The keys in order. -/
def keys (es : List (κ × ν)) : List κ :=
  es.map Prod.fst

/-- The value of a key. -/
def get? (es : List (κ × ν)) (k : κ) : Option ν :=
  match es with
  | [] => none
  | (k', v) :: es => if k' = k then some v else get? es k

/-- Writes a value: in place when the key is present, at the end otherwise. -/
def put (es : List (κ × ν)) (k : κ) (v : ν) : List (κ × ν) :=
  match es with
  | [] => [(k, v)]
  | (k', v') :: es => if k' = k then (k, v) :: es else (k', v') :: put es k v

/-- Removes a key. -/
def remove (es : List (κ × ν)) (k : κ) : List (κ × ν) :=
  match es with
  | [] => []
  | (k', v) :: es => if k' = k then remove es k else (k', v) :: remove es k

/-- The entries written one after the other. -/
def ofList (es : List (κ × ν)) : List (κ × ν) :=
  es.foldl (fun acc e => put acc e.1 e.2) []

theorem keys_put (es : List (κ × ν)) (k : κ) (v : ν) :
    keys (put es k v) = if k ∈ keys es then keys es else keys es ++ [k] := by
  induction es with
  | nil => simp [put, keys]
  | cons e es ih =>
    obtain ⟨k', v'⟩ := e
    simp only [keys] at ih ⊢
    by_cases h : k' = k
    · simp [put, h]
    · have h' : ¬ k = k' := fun e => h e.symm
      by_cases hk : k ∈ es.map Prod.fst
      · simp [put, h, ih, hk]
      · simp [put, h, h', ih, hk]

theorem nodup_keys_put {es : List (κ × ν)} (h : (keys es).Nodup) (k : κ) (v : ν) :
    (keys (put es k v)).Nodup := by
  rw [keys_put]
  split
  · exact h
  · rename_i hk
    exact List.nodup_append.2 ⟨h, by simp, by
      intro a ha b hb e
      simp only [List.mem_singleton] at hb
      exact hk (hb ▸ e ▸ ha)⟩

theorem remove_sublist (es : List (κ × ν)) (k : κ) : (remove es k).Sublist es := by
  induction es with
  | nil => exact List.Sublist.refl _
  | cons e es ih =>
    rw [remove]
    split
    · exact ih.cons e
    · exact ih.cons_cons e

theorem nodup_keys_remove {es : List (κ × ν)} (h : (keys es).Nodup) (k : κ) :
    (keys (remove es k)).Nodup :=
  h.sublist ((remove_sublist es k).map _)

theorem keys_remove (es : List (κ × ν)) (k : κ) :
    keys (remove es k) = (keys es).filter (· ≠ k) := by
  induction es with
  | nil => rfl
  | cons e es ih =>
    obtain ⟨k', v⟩ := e
    simp only [keys] at ih ⊢
    by_cases h : k' = k
    · simp [remove, h, ih]
    · simp [remove, h, ih]

theorem get?_put (es : List (κ × ν)) (k k' : κ) (v : ν) :
    get? (put es k v) k' = if k = k' then some v else get? es k' := by
  induction es with
  | nil => simp [put, get?]
  | cons e es ih => grind [put, get?]

theorem get?_remove (es : List (κ × ν)) (k k' : κ) :
    get? (remove es k) k' = if k = k' then none else get? es k' := by
  induction es with
  | nil => simp [remove, get?]
  | cons e es ih => grind [remove, get?]

theorem get?_eq_none_iff (es : List (κ × ν)) (k : κ) : get? es k = none ↔ k ∉ keys es := by
  induction es with
  | nil => simp [get?, keys]
  | cons e es ih => grind [get?, keys]

variable {P : ν → Prop} {es : List (κ × ν)}

theorem of_get? (hes : ∀ e ∈ es, P e.2) {k : κ} {v : ν} (h : get? es k = some v) : P v := by
  induction es with
  | nil => cases h
  | cons e es ih =>
    rw [List.forall_mem_cons] at hes
    rw [get?] at h
    split at h
    · cases h
      exact hes.1
    · exact ih hes.2 h

theorem forall_put (hes : ∀ e ∈ es, P e.2) (k : κ) {v : ν} (hv : P v) :
    ∀ e ∈ put es k v, P e.2 := by
  induction es with
  | nil => simpa [put] using hv
  | cons e es ih =>
    rw [List.forall_mem_cons] at hes
    rw [put]
    split
    · exact List.forall_mem_cons.2 ⟨hv, hes.2⟩
    · exact List.forall_mem_cons.2 ⟨hes.1, ih hes.2⟩

end Entries

/-- One value per key, in the order in which the keys first came. -/
structure Register (κ ν : Type) [DecidableEq κ] where
  /-- The keys with their values, in order. -/
  entries : List (κ × ν)
  /-- No key occurs twice. -/
  nodup : (Entries.keys entries).Nodup

namespace Register

variable {κ ν : Type} [DecidableEq κ]

/-- The register without keys. -/
def empty : Register κ ν := ⟨[], List.nodup_nil⟩

instance : Inhabited (Register κ ν) := ⟨empty⟩

def get? (r : Register κ ν) (k : κ) : Option ν :=
  Entries.get? r.entries k

/-- Writes a value: a present key keeps its place, a new one comes last. -/
def put (r : Register κ ν) (k : κ) (v : ν) : Register κ ν :=
  ⟨Entries.put r.entries k v, Entries.nodup_keys_put r.nodup k v⟩

def remove (r : Register κ ν) (k : κ) : Register κ ν :=
  ⟨Entries.remove r.entries k, Entries.nodup_keys_remove r.nodup k⟩

def keys (r : Register κ ν) : List κ :=
  Entries.keys r.entries

def values (r : Register κ ν) : List ν :=
  r.entries.map Prod.snd

def isEmpty (r : Register κ ν) : Bool :=
  r.entries.isEmpty

/-- The register after writing the pairs one after the other. -/
def ofList (es : List (κ × ν)) : Register κ ν :=
  es.foldl (fun r e => r.put e.1 e.2) empty

theorem ext {r s : Register κ ν} (h : r.entries = s.entries) : r = s := by
  cases r; cases s; cases h; rfl

@[simp] theorem get?_empty (k : κ) : (empty : Register κ ν).get? k = none := rfl

theorem get?_put (r : Register κ ν) (k k' : κ) (v : ν) :
    (r.put k v).get? k' = if k = k' then some v else r.get? k' :=
  Entries.get?_put r.entries k k' v

theorem get?_remove (r : Register κ ν) (k k' : κ) :
    (r.remove k).get? k' = if k = k' then none else r.get? k' :=
  Entries.get?_remove r.entries k k'

theorem keys_put (r : Register κ ν) (k : κ) (v : ν) :
    (r.put k v).keys = if k ∈ r.keys then r.keys else r.keys ++ [k] :=
  Entries.keys_put r.entries k v

theorem keys_remove (r : Register κ ν) (k : κ) : (r.remove k).keys = r.keys.filter (· ≠ k) :=
  Entries.keys_remove r.entries k

theorem get?_eq_none_iff (r : Register κ ν) (k : κ) : r.get? k = none ↔ k ∉ r.keys :=
  Entries.get?_eq_none_iff r.entries k

theorem entries_eq_nil_iff (r : Register κ ν) : r.entries = [] ↔ ∀ k, r.get? k = none := by
  constructor
  · intro h k
    rw [get?, h]
    rfl
  · intro h
    refine List.eq_nil_iff_forall_not_mem.2 fun e he => ?_
    exact (r.get?_eq_none_iff e.1).1 (h e.1) (List.mem_map_of_mem he)

end Register

end ElmOnSave
