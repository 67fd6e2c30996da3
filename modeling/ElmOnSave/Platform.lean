import ElmOnSave.Decimal.Binary64

/-!
# What no input decides

How far a reader follows nested lists and tables before it gives up, and how long a process takes
until its output arrives, is fixed by no text and no setting: it is different from one interpreter
and one machine to the next.  A `Platform` holds these numbers.  Whatever reads nested texts or runs
a process takes it as an inferred argument, and what is said of it is said for every platform.
-/

namespace ElmOnSave

/-- The numbers that depend on where the program runs. -/
class Platform where
  /-- How many lists and objects of a JSON text may be open at once. -/
  jsonNesting : Nat
  /-- The room that a TOML text has for lists and tables inside one another. -/
  tomlNesting : Nat
  /-- How many lists and tables inside one another are followed to expand their texts. -/
  expansionNesting : Nat
  /-- The time a process takes until its output arrives, in seconds. -/
  startupTime : Binary64
  /-- There is room for a report: its records lie in a list in a location in a collection, and their
  positions are objects in the object for the range. -/
  reportFits : 6 ≤ jsonNesting

/-- The platform of the program, unless another one is given. -/
instance (priority := low) Platform.usual : Platform where
  jsonNesting := 950
  tomlNesting := 960
  expansionNesting := 480
  startupTime := .ofDecimal false 1 (-2)
  reportFits := by decide

end ElmOnSave
