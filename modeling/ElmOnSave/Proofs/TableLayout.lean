import ElmOnSave.Proofs.CellLayout
import ElmOnSave.Proofs.FailingSteps
import ElmOnSave.Proofs.Splitting

/-!
# Tables that fit

A table is laid out in two steps.  The columns get the widths that their cells need
(`Table.neededWidths`), unless the terminal is too narrow for them; then each row puts the lines of
its cells side by side.  Here the terminal is wide enough (`Table.fullWidth`), so the widths are the
needed ones (`Table.sizedColumns_eq`), every cell fits into its column (`Table.fits_of_mem_zip`) and
is one line.

`Table.exists_lines` says that such a table is printed and that each text at the left of a plain row
makes a segment of its own, with nothing but blanks behind it; `Console.exists_printTable` that the
text therefore stands in what is printed, whether or not the console understands codes.
-/

namespace ElmOnSave.Terminal

/-! ## Widths of columns -/

lemma le_foldl_max (ns : List Nat) (m : Nat) : m ≤ ns.foldl max m := by
  induction ns generalizing m with
  | nil => exact Nat.le_refl m
  | cons n ns ih => exact (Nat.le_max_left m n).trans (ih (max m n))

lemma le_foldl_max_of_mem {ns : List Nat} {n : Nat} (h : n ∈ ns) (m : Nat) :
    n ≤ ns.foldl max m := by
  induction ns generalizing m with
  | nil => cases h
  | cons k ns ih =>
    rcases List.mem_cons.1 h with rfl | h
    · exact (Nat.le_max_right m n).trans (le_foldl_max ns _)
    · exact ih h (max m k)

lemma le_totalWidth {w : Nat} {ws : List Nat} (h : w ∈ ws) : w ≤ totalWidth ws := by
  induction ws with
  | nil => cases h
  | cons v ws ih =>
    rw [totalWidth]
    rcases List.mem_cons.1 h with rfl | h
    · exact Nat.le_add_right _ _
    · exact (ih h).trans (Nat.le_add_left _ _)

lemma naturalWidth_eq {t : StyledText} (h : IsPrintable t.chars) :
    naturalWidth t = width t.chars := by
  have hline : Text.splitAll endsMeasuredLine t.chars = [t.chars] :=
    Text.splitAll_of_forall_not fun c hc => endsMeasuredLine_of_isPrintable (h c hc)
  simp [naturalWidth, hline]

/-- The width that a column needs for its cells as they are. -/
def neededWidth (cells : List StyledText) : Nat :=
  (cells.map fun t => naturalWidth t + cellPadding).foldl max 1

lemma le_neededWidth {cells : List StyledText} {t : StyledText} (h : t ∈ cells) :
    naturalWidth t + cellPadding ≤ neededWidth cells :=
  le_foldl_max_of_mem (List.mem_map_of_mem (f := fun t => naturalWidth t + cellPadding) h) 1

/-- A column that has the room it needs takes it. -/
lemma columnWidth_eq {limit : Nat} {cells : List StyledText} (h : neededWidth cells ≤ limit) :
    columnWidth limit cells = neededWidth cells := by
  have hcells : ∀ t ∈ cells, cellWidth limit t = naturalWidth t + cellPadding := by
    intro t ht
    have hle := (le_neededWidth ht).trans h
    rw [cellWidth]
    split
    · omega
    · exact Nat.min_eq_left hle
  rw [columnWidth, List.map_congr_left hcells, neededWidth]

namespace Table

/-- The widths that the columns need for their cells as they are. -/
def neededWidths (t : Table) : List Nat :=
  t.columns.zipIdx.map fun c => neededWidth (t.cellsOf c.2 c.1)

/-- The width of a terminal in which no cell of a table has to break. -/
def fullWidth (t : Table) : Nat :=
  totalWidth t.neededWidths + t.borderWidth

/-- In a terminal that is wide enough every column has the width it needs. -/
lemma sizedColumns_eq {t : Table} {terminal : Nat} (wide : t.fullWidth ≤ terminal) :
    t.sizedColumns terminal = t.columns.zip t.neededWidths := by
  have htotal : totalWidth t.neededWidths ≤ terminal - t.borderWidth := by
    rw [fullWidth] at wide
    omega
  have hwanted : (t.columns.zipIdx.map fun c =>
      (c.1, columnWidth (terminal - t.borderWidth) (t.cellsOf c.2 c.1))).map Prod.snd =
        t.neededWidths := by
    rw [List.map_map, neededWidths]
    refine List.map_congr_left fun c hc => columnWidth_eq ?_
    exact (le_totalWidth (List.mem_map_of_mem
      (f := fun c : Column × Nat => neededWidth (t.cellsOf c.2 c.1)) hc)).trans htotal
  rw [sizedColumns, narrowed, hwanted, if_pos htotal]

@[simp] lemma getElem?_neededWidths (t : Table) (i : Nat) :
    t.neededWidths[i]? = t.columns[i]?.map fun c => neededWidth (t.cellsOf i c) := by
  simp [neededWidths, List.getElem?_zipIdx, Function.comp_def]

lemma mem_cellsOf_of_row {t : Table} {row : List StyledText} (hrow : row ∈ t.rows) (i : Nat)
    (c : Column) (x : StyledText) (_ : t.columns[i]? = some c) (hx : row[i]? = some x) :
    x ∈ t.cellsOf i c :=
  List.mem_cons_of_mem _ (List.mem_filterMap.2 ⟨row, hrow, hx⟩)

lemma mem_cellsOf_of_heading {t : Table} (i : Nat) (c : Column) (x : StyledText)
    (hc : t.columns[i]? = some c)
    (hx : (t.columns.map fun c => StyledText.unstyled c.heading)[i]? = some x) :
    x ∈ t.cellsOf i c := by
  rw [List.getElem?_map, hc] at hx
  cases hx
  exact List.mem_cons_self ..

end Table

/-! ## Rows -/

/-- A cell whose text stands on one line and has room for it beside its blanks. -/
structure Fits (n : Nat) (t : StyledText) : Prop where
  isPrintable : IsPrintable t.chars
  spans : t.spans = []
  room : cellPadding < n
  fits : width t.chars + cellPadding ≤ n

/-- A row whose cells fit can be printed. -/
lemma exists_rowLines {columns : List (Column × Nat)} {cells : List StyledText}
    (h : ∀ p ∈ columns.zip cells, Fits p.1.2 p.2) (style : Style) :
    ∃ lines, rowLines style columns cells = .ok lines := by
  have hblock : ∀ p ∈ columns.zip cells, ∃ block : Nat × List (List Segment),
      (do return (p.1.2, ← cellLines style p.1.1 p.1.2 p.2) : Except ColorFault _) = .ok block := by
    intro p hp
    obtain ⟨hprintable, hspans, hroom, hfits⟩ := h p hp
    obtain ⟨line, hline⟩ := exists_cellLines (c := p.1.1) hprintable hspans hfits hroom style
    exact ⟨_, by rw [hline]; rfl⟩
  obtain ⟨blocks, hblocks⟩ := mapM_ok hblock
  exact ⟨_, by rw [rowLines, hblocks]; rfl⟩

lemma mem_joinWith {α : Type} {a : α} {x : List α} {xs : List (List α)} (ha : a ∈ x) (h : x ∈ xs)
    (sep : List α) : a ∈ Text.joinWith sep xs := by
  match xs with
  | [] => cases h
  | [y] =>
    obtain rfl := List.mem_singleton.1 h
    exact ha
  | y :: z :: xs =>
    rw [Text.joinWith, List.mem_append]
    · rcases List.mem_cons.1 h with rfl | h
      · exact .inl ha
      · exact .inr (List.mem_flatMap.2 ⟨x, h, List.mem_append_right _ ha⟩)
    · exact nofun

/-- What stands in the first line of a cell stands in the first line of the row. -/
lemma mem_sideBySide {style : Style} {blocks : List (Nat × List (List Segment))} {n : Nat}
    {line : List Segment} {rest : List (List Segment)} (h : (n, line :: rest) ∈ blocks)
    {s : Segment} (hs : s ∈ line) : ∃ row ∈ sideBySide style blocks, s ∈ row := by
  refine ⟨_, List.mem_map.2 ⟨0, List.mem_range.2 (by omega), rfl⟩, ?_⟩
  dsimp only
  refine List.mem_cons_of_mem _ (List.mem_append_left _ (mem_joinWith hs ?_ _))
  exact List.mem_map.2 ⟨_, h, rfl⟩

/-- **A row shows its texts at the left.** -/
lemma exists_rowLines_showing {columns : List (Column × Nat)} {cells : List StyledText}
    (h : ∀ p ∈ columns.zip cells, Fits p.1.2 p.2) :
    ∃ lines, rowLines Style.plain columns cells = .ok lines ∧
      ∀ c n cs, ((c, n), { chars := cs }) ∈ columns.zip cells → c.right = false →
        ∃ line ∈ lines, ∃ k, ⟨Style.plain, cs ++ spaces k⟩ ∈ line := by
  obtain ⟨lines, hlines⟩ := exists_rowLines h Style.plain
  refine ⟨lines, hlines, fun c n cs hmem left => ?_⟩
  obtain ⟨hprintable, -, hroom, hfits⟩ := h _ hmem
  have hcell := cellLines_eq (c := c) hprintable left hfits hroom
  obtain ⟨blocks, hblocks, hlines⟩ := bind_eq_ok_iff.1 hlines
  obtain rfl := Except.ok.inj hlines
  obtain ⟨block, hblock, hvalue⟩ := mem_of_mapM_eq_ok hblocks hmem
  dsimp only at hvalue
  rw [hcell] at hvalue
  obtain rfl := Except.ok.inj hvalue
  obtain ⟨row, hrow, hs⟩ := mem_sideBySide hblock (s := ⟨Style.plain, _⟩)
    (List.mem_cons_of_mem _ (List.mem_cons_self ..))
  exact ⟨row, hrow, _, hs⟩

/-! ## Tables -/

/-- A table whose texts stand on one line and have no spans, under headings that do as well. -/
structure Table.IsSimple (t : Table) : Prop where
  headings : ∀ c ∈ t.columns, IsPrintable c.heading.toList ∧ 0 < width c.heading.toList
  cells : ∀ row ∈ t.rows, ∀ x ∈ row, IsPrintable x.chars ∧ x.spans = []

namespace Table

variable {t : Table} {terminal : Nat}

/-- What stands in a column fits, because the column has the width it needs. -/
lemma fits_of_mem_zip (simple : t.IsSimple) {cells : List StyledText}
    (hcells : ∀ i c x, t.columns[i]? = some c → cells[i]? = some x → x ∈ t.cellsOf i c)
    (hsimple : ∀ x ∈ cells, IsPrintable x.chars ∧ x.spans = [])
    {p : (Column × Nat) × StyledText} (hp : p ∈ (t.columns.zip t.neededWidths).zip cells) :
    Fits p.1.2 p.2 := by
  obtain ⟨⟨c, n⟩, x⟩ := p
  obtain ⟨i, hi⟩ := List.mem_iff_getElem?.1 hp
  obtain ⟨hcolumn, hx⟩ := List.getElem?_zip_eq_some.1 hi
  obtain ⟨hc, hn⟩ := List.getElem?_zip_eq_some.1 hcolumn
  dsimp only at hc hn hx ⊢
  rw [getElem?_neededWidths, hc, Option.map_some] at hn
  obtain rfl := Option.some.inj hn
  obtain ⟨hprintable, hspans⟩ := hsimple x (List.mem_of_getElem? hx)
  obtain ⟨hheading, hpos⟩ := simple.headings c (List.mem_of_getElem? hc)
  have hunstyled : (StyledText.unstyled c.heading).chars = c.heading.toList :=
    hheading.printable_eq
  have hx := le_neededWidth (hcells i c x hc hx)
  have hroom : naturalWidth (.unstyled c.heading) + cellPadding ≤ neededWidth (t.cellsOf i c) :=
    le_neededWidth (List.mem_cons_self ..)
  rw [naturalWidth_eq hprintable] at hx
  rw [naturalWidth_eq (hunstyled ▸ hheading), hunstyled] at hroom
  exact ⟨hprintable, hspans, by omega, hx⟩

lemma fits_of_row (simple : t.IsSimple) {row : List StyledText} (hrow : row ∈ t.rows) :
    ∀ p ∈ (t.columns.zip t.neededWidths).zip row, Fits p.1.2 p.2 := fun _ hp =>
  fits_of_mem_zip simple (mem_cellsOf_of_row hrow) (simple.cells row hrow) hp

lemma fits_of_heading (simple : t.IsSimple) :
    ∀ p ∈ (t.columns.zip t.neededWidths).zip (t.columns.map fun c => .unstyled c.heading),
      Fits p.1.2 p.2 := fun _ hp => by
  refine fits_of_mem_zip simple mem_cellsOf_of_heading (fun x hx => ?_) hp
  obtain ⟨c, hc, rfl⟩ := List.mem_map.1 hx
  obtain ⟨hheading, -⟩ := simple.headings c hc
  exact ⟨fun a ha => hheading a (List.mem_of_mem_filter ha), rfl⟩

/-- **A simple table is printed in a terminal that is wide enough**, and shows its texts at the
left. -/
theorem exists_lines (simple : t.IsSimple) (wide : t.fullWidth ≤ terminal) :
    ∃ lines, t.lines terminal = .ok lines ∧
      ∀ row ∈ t.rows, ∀ c cs, (c, { chars := cs }) ∈ t.columns.zip row → c.right = false →
        ∃ line ∈ lines, ∃ k, ⟨Style.plain, cs ++ spaces k⟩ ∈ line := by
  obtain ⟨headings, hheadings⟩ := exists_rowLines (fits_of_heading simple) headingStyle
  obtain ⟨rows, hrows⟩ := mapM_ok fun row hrow =>
    exists_rowLines (fits_of_row simple hrow) Style.plain
  refine ⟨_, by rw [lines, sizedColumns_eq wide, hheadings, hrows]; rfl, ?_⟩
  intro row hrow c cs hmem left
  obtain ⟨printed, hprinted, hvalue⟩ := mem_of_mapM_eq_ok hrows hrow
  obtain ⟨printed', hvalue', hshown⟩ := exists_rowLines_showing (fits_of_row simple hrow)
  obtain rfl : printed = printed' := Except.ok.inj (hvalue.symm.trans hvalue')
  have hplace : ∃ n, ((c, n), { chars := cs }) ∈ (t.columns.zip t.neededWidths).zip row := by
    obtain ⟨i, hi⟩ := List.mem_iff_getElem?.1 hmem
    obtain ⟨hc, hx⟩ := List.getElem?_zip_eq_some.1 hi
    refine ⟨neededWidth (t.cellsOf i c), List.mem_iff_getElem?.2 ⟨i, ?_⟩⟩
    refine List.getElem?_zip_eq_some.2 ⟨List.getElem?_zip_eq_some.2 ⟨hc, ?_⟩, hx⟩
    dsimp only at hc
    rw [getElem?_neededWidths, hc, Option.map_some]
  obtain ⟨n, hplace⟩ := hplace
  obtain ⟨line, hline, k, hs⟩ := hshown c n cs hplace left
  refine ⟨line, ?_, k, hs⟩
  simp only [List.mem_append, List.mem_flatten]
  exact .inl (.inr ⟨printed, hprinted, hline⟩)

end Table

/-! ## Printing -/

/-- The characters of a plain segment are printed as they are. -/
lemma infix_printed {coded : Bool} {cs : List Char} {k : Nat} {line : List Segment}
    (h : ⟨Style.plain, cs ++ spaces k⟩ ∈ line) : cs <:+: printed coded line := by
  have hpaint : (if coded then Style.plain.paint (cs ++ spaces k) else cs ++ spaces k) =
      cs ++ spaces k := by
    cases coded with
    | false => rfl
    | true => exact if_pos (Bool.or_true _)
  have hsegment : cs ++ spaces k <:+: printed coded line := by
    rw [← hpaint, printed, List.flatMap_def]
    exact List.infix_of_mem_flatten (List.mem_map.2 ⟨_, h, rfl⟩)
  exact (List.prefix_append _ _).isInfix.trans hsegment

namespace Console

variable {console : Console}

/-- A title on one line is printed. -/
lemma exists_print {t : StyledText} (h : IsPrintable t.chars) (hspans : t.spans = []) :
    ∃ text, console.print t = .ok text := by
  obtain ⟨segments, hsegments⟩ := StyledText.exists_segments hspans
  refine ⟨console.line segments, ?_⟩
  rw [print, StyledText.freeLines_eq h, List.mapM_cons, hsegments]
  show Except.ok _ = _
  simp

/-- **A simple table is printed on a console that is wide enough**, and its texts at the left are
printed as they are. -/
theorem exists_printTable {title : Option StyledText} {t : Table}
    (htitle : ∀ x ∈ title, IsPrintable x.chars ∧ x.spans = []) (simple : t.IsSimple)
    (wide : t.fullWidth ≤ console.width) :
    ∃ text, console.printTable title t = .ok text ∧
      ∀ row ∈ t.rows, ∀ c cs, (c, { chars := cs }) ∈ t.columns.zip row → c.right = false →
        cs <:+: text := by
  obtain ⟨lines, hlines, hshown⟩ := Table.exists_lines simple wide
  have hheading : ∃ heading, console.printTable title t = (do
      let lines ← t.lines console.width
      return heading ++ lines.flatMap console.line) := by
    cases title with
    | none => exact ⟨[], rfl⟩
    | some x =>
      obtain ⟨text, htext⟩ : ∃ text, console.print x = .ok text :=
        exists_print (htitle x rfl).1 (htitle x rfl).2
      refine ⟨text, ?_⟩
      show (console.print x >>= fun heading => t.lines console.width >>= fun lines =>
        pure (heading ++ lines.flatMap console.line)) = _
      rw [htext]
      rfl
  obtain ⟨heading, hheading⟩ := hheading
  refine ⟨heading ++ lines.flatMap console.line, ?_, fun row hrow c cs hmem left => ?_⟩
  · rw [hheading, hlines]
    rfl
  · obtain ⟨line, hline, k, hs⟩ := hshown row hrow c cs hmem left
    have hprinted : cs <:+: console.line line :=
      (infix_printed hs).trans (List.prefix_append _ _).isInfix
    have hall : console.line line <:+: lines.flatMap console.line := by
      rw [List.flatMap_def]
      exact List.infix_of_mem_flatten (List.mem_map_of_mem hline)
    exact (hprinted.trans hall).trans (List.suffix_append _ _).isInfix

end Console

end ElmOnSave.Terminal
