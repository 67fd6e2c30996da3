/-!
# The limit on digits

The time to read or write a decimal integer grows faster than its length, so an integer of more
than `digitLimit` digits is neither read nor written.
-/

namespace ElmOnSave.Decimal

/-- The greatest number of digits of an integer that is read or written. -/
def digitLimit : Nat := 4300

/-- Whether an integer has no more digits than are written. -/
def isWritable (i : Int) : Bool :=
  i.natAbs < Nat.pow 10 digitLimit

theorem isWritable_iff (i : Int) : isWritable i = true ↔ i.natAbs < Nat.pow 10 digitLimit :=
  decide_eq_true_iff

theorem isWritable_of_lt_ten {i : Int} (h : i.natAbs < 10) : isWritable i = true := by
  have hpow : ∀ n, 0 < n → 10 ≤ Nat.pow 10 n := fun n hn =>
    Nat.le_self_pow (Nat.ne_of_gt hn) 10
  exact (isWritable_iff i).2 (Nat.lt_of_lt_of_le h (hpow digitLimit (by decide)))

/-- The wording for an integer that has too many digits to be written. -/
def writingMessage : String :=
  "Exceeds the limit (" ++ toString digitLimit ++
    " digits) for integer string conversion; use sys.set_int_max_str_digits() to increase the limit"

/-- The wording for an integer that has too many digits to be read. -/
def limitMessage (digits : Nat) : String :=
  "Exceeds the limit (" ++ toString digitLimit ++
    " digits) for integer string conversion: value has " ++
    toString digits ++ " digits; use sys.set_int_max_str_digits() to increase the limit"

end ElmOnSave.Decimal
