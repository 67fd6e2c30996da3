import ElmOnSave.Proofs.JsonRoundTrip
import ElmOnSave.Proofs.PlainMarkup
import ElmOnSave.Proofs.TableLayout
import ElmOnSave.ReportTable

/-!
# The terminal shows what was published

A table of records is handed file names and messages as plain strings, and a cell that is a plain
string is read as markup.  What the terminal shows is therefore what was published only as far as
nothing in it is markup.  `Published.IsPlain` says so of all titles, locations and messages and asks
for lines and columns that are not too long to be written; `Published.FitsIn` says that the console
has the width at which no cell breaks (`Table.fullWidth` of the table with its texts as they are,
`ReportTable.table`).

Under both conditions reading changes nothing (`ReportTable.printed_eq`), and what remains is the
layout of a table whose cells fit (`ReportTable.exists_printed`).  Where there is markup, nothing of
the kind holds: a message may name a style and lose the name, or close a tag that was never opened,
and then nothing is printed at all (`Published.exists_read_of_printed`).
`Published.printed_shows_records` puts the two together.
-/

namespace ElmOnSave

open Terminal

/-- A text that a console shows as it is: printable characters without any markup. -/
structure Terminal.Console.Shows (console : Console) (s : String) : Prop where
  isPrintable : IsPrintable s.toList
  verbatim : Verbatim console.emoji s.toList

lemma unstyled_eq {s : String} (h : IsPrintable s.toList) :
    StyledText.unstyled s = { chars := s.toList } := by
  rw [StyledText.unstyled, h.printable_eq]

lemma Terminal.Console.Shows.read_eq {console : Console} {s : String} (h : console.Shows s) :
    console.read s = .ok (.unstyled s) := by
  rw [unstyled_eq h.isPrintable]
  exact ofMarkup_of_verbatim h.verbatim h.isPrintable

lemma naturalWidth_of_ascii {s : String} (h : ∀ c ∈ s.toList, 32 ≤ c.toNat ∧ c.toNat < 127) :
    naturalWidth (.unstyled s) = s.toList.length := by
  have hprintable := isPrintable_of_ascii h
  rw [unstyled_eq hprintable, naturalWidth_eq hprintable, width_of_ascii h]

/-! ## Cells that are no markup -/

lemma isPrintable_natDigits (n : Nat) : IsPrintable (Text.natDigits n) := by
  refine isPrintable_of_ascii fun c hc => ?_
  have hdigit := Json.isAsciiDigit_of_mem_natDigits hc
  simp only [Text.isAsciiDigit, Bool.and_eq_true, decide_eq_true_eq] at hdigit
  omega

lemma isPrintable_toString (i : Int) : IsPrintable (toString i).toList := by
  cases i with
  | ofNat n => exact isPrintable_natDigits n
  | negSucc n =>
    have hsign : (toString (Int.negSucc n)).toList = '-' :: Text.natDigits (n + 1) := by
      show ("-" ++ toString (n + 1)).toList = _
      rw [String.toList_append]
      rfl
    rw [hsign]
    exact List.forall_mem_cons.2 ⟨rfl, isPrintable_natDigits (n + 1)⟩

lemma isPrintable_append {s t : String} (hs : IsPrintable s.toList) (ht : IsPrintable t.toList) :
    IsPrintable (s ++ t).toList := by
  rw [String.toList_append]
  exact fun c hc => (List.mem_append.1 hc).elim (hs c) (ht c)

lemma isPrintable_shown (p : EditorPosition) : IsPrintable p.shown.toList :=
  isPrintable_append
    (isPrintable_append (isPrintable_toString _) (isPrintable_of_ascii (by simp)))
    (isPrintable_toString _)

lemma isPrintable_name (s : EditorSeverity) : IsPrintable s.name.toList := by
  cases s <;> exact isPrintable_of_ascii (by simp [EditorSeverity.name])

namespace ReportTable

/-- The table with its texts as they are. -/
def table (colored : Bool) (t : ReportTable) : Table :=
  ⟨columns, ruleChar colored, t.rows.map fun r =>
    [.unstyled r.file, .unstyled r.position.shown, severityCell colored r.severity,
      .unstyled r.message]⟩

lemma roomForCells (colored : Bool) (t : ReportTable) :
    columns.length + 1 + cellPadding < (t.table colored).fullWidth := by
  have hfirst := (t.table colored).getElem?_neededWidths 0
  have hneeded : neededWidth ((t.table colored).cellsOf 0 { heading := "File" }) ≤
      totalWidth (t.table colored).neededWidths := le_totalWidth (List.mem_of_getElem? hfirst)
  have hheading : naturalWidth (.unstyled "File") + cellPadding ≤
      neededWidth ((t.table colored).cellsOf 0 { heading := "File" }) :=
    le_neededWidth (List.mem_cons_self ..)
  have hnatural : naturalWidth (.unstyled "File") = 4 := naturalWidth_of_ascii (by simp)
  rw [hnatural] at hheading
  show 4 + 1 + 2 < totalWidth (t.table colored).neededWidths + (4 + 1)
  simp only [cellPadding] at hheading
  omega

/-- Where no cell has to break, every cell is read. -/
lemma readCell_eq {console : Console} {colored : Bool} {t : ReportTable}
    (wide : (t.table colored).fullWidth ≤ console.width) (s : String) :
    readCell console s = console.read s := by
  have hcells := roomForCells colored t
  rw [readCell, if_neg (by omega)]

/-- **A table is printed only if its texts can be read as markup.** -/
lemma exists_read_of_printed {console : Console} {colored : Bool} {t : ReportTable}
    (wide : (t.table colored).fullWidth ≤ console.width) {text : List Char}
    (h : t.printed console colored = .ok text) {r : ReportRow} (hr : r ∈ t.rows) :
    (∃ x, console.read r.file = .ok x) ∧ ∃ x, console.read r.message = .ok x := by
  rw [printed] at h
  simp only [readCell_eq wide] at h
  cases hnumbers : t.rows.any fun r => !r.position.isWritable with
  | true => rw [hnumbers] at h; cases h
  | false =>
    rw [hnumbers] at h
    obtain ⟨files, hfiles, h⟩ := bind_eq_ok_iff.1 h
    obtain ⟨messages, hmessages, -⟩ := bind_eq_ok_iff.1 h
    obtain ⟨file, -, hfile⟩ := mem_of_mapM_eq_ok hfiles hr
    obtain ⟨message, -, hmessage⟩ := mem_of_mapM_eq_ok hmessages hr
    exact ⟨⟨file, hfile⟩, message, hmessage⟩

/-- What a console has to show as it is for a table, and which numbers have to be written. -/
structure Printable (console : Console) (t : ReportTable) : Prop where
  title : console.Shows t.title
  files : ∀ r ∈ t.rows, console.Shows r.file
  messages : ∀ r ∈ t.rows, console.Shows r.message
  numbers : ∀ r ∈ t.rows, r.position.isWritable = true

lemma printed_eq {console : Console} {colored : Bool} {t : ReportTable} (h : t.Printable console)
    (wide : (t.table colored).fullWidth ≤ console.width) :
    t.printed console colored =
      (console.printTable (if t.title.isEmpty then none
        else some { StyledText.unstyled t.title with base := some titleStyle })
        (t.table colored)).mapError MarkupFault.color := by
  have hcell : ∀ {s : String}, console.Shows s → readCell console s = .ok (.unstyled s) :=
    fun hs => by rw [readCell_eq wide, hs.read_eq]
  have hfiles := mapM_eq_map (f := fun r : ReportRow => readCell console r.file) fun r hr =>
    hcell (h.files r hr)
  have hmessages := mapM_eq_map (f := fun r : ReportRow => readCell console r.message) fun r hr =>
    hcell (h.messages r hr)
  have hnumbers : t.rows.any (fun r => !r.position.isWritable) = false := by
    simpa using h.numbers
  have hrows : ∀ rows : List ReportRow,
      (rows.zip ((rows.map fun r => StyledText.unstyled r.file).zip
        (rows.map fun r => StyledText.unstyled r.message))).map (fun r => [r.2.1,
          StyledText.unstyled r.1.position.shown, severityCell colored r.1.severity, r.2.2]) =
      rows.map fun r => [.unstyled r.file, .unstyled r.position.shown,
        severityCell colored r.severity, .unstyled r.message] := by
    intro rows
    induction rows with
    | nil => rfl
    | cons r rows ih => simp [ih]
  rw [printed, hnumbers, hfiles, hmessages, h.title.read_eq]
  show Except.mapError MarkupFault.color (console.printTable _ ⟨_, _, _⟩) = _
  rw [hrows]
  rfl

lemma isSimple {console : Console} {t : ReportTable} (h : t.Printable console) (colored : Bool) :
    (t.table colored).IsSimple := by
  refine ⟨?_, ?_⟩
  · intro c hc
    have hascii : ∀ c ∈ columns, ∀ a ∈ c.heading.toList, 32 ≤ a.toNat ∧ a.toNat < 127 := by
      simp [columns]
    have hlength : ∀ c ∈ columns, 0 < c.heading.toList.length := by
      simp [columns]
    exact ⟨isPrintable_of_ascii (hascii c hc), by
      rw [width_of_ascii (hascii c hc)]; exact hlength c hc⟩
  · intro row hrow x hx
    obtain ⟨r, hr, rfl⟩ := List.mem_map.1 hrow
    have hunstyled : ∀ {s : String}, IsPrintable s.toList →
        IsPrintable (StyledText.unstyled s).chars := fun hs => by
      rwa [unstyled_eq hs]
    simp only [List.mem_cons, List.not_mem_nil, or_false] at hx
    rcases hx with rfl | rfl | rfl | rfl
    · exact ⟨hunstyled (h.files r hr).isPrintable, rfl⟩
    · exact ⟨hunstyled (isPrintable_shown _), rfl⟩
    · have hname := hunstyled (isPrintable_name r.severity)
      cases colored <;> exact ⟨hname, rfl⟩
    · exact ⟨hunstyled (h.messages r hr).isPrintable, rfl⟩

/-- **A table without markup is printed** on a console that is wide enough, and shows its files and
messages as they are. -/
theorem exists_printed {console : Console} {colored : Bool} {t : ReportTable}
    (h : t.Printable console) (wide : (t.table colored).fullWidth ≤ console.width) :
    ∃ text, t.printed console colored = .ok text ∧
      ∀ r ∈ t.rows, r.file.toList <:+: text ∧ r.message.toList <:+: text := by
  have htitle : ∀ x ∈ (if t.title.isEmpty then none
      else some { StyledText.unstyled t.title with base := some titleStyle }),
      IsPrintable x.chars ∧ x.spans = [] := by
    intro x hx
    split at hx
    · cases hx
    · obtain rfl := Option.some.inj hx
      have hprintable := h.title.isPrintable
      exact ⟨by rwa [unstyled_eq hprintable], rfl⟩
  obtain ⟨text, htext, hshown⟩ :=
    Console.exists_printTable htitle (isSimple h colored) wide
  refine ⟨text, by rw [printed_eq h wide, htext]; rfl, fun r hr => ?_⟩
  have hrow : ∀ cs c, (c, { chars := cs }) ∈ columns.zip [.unstyled r.file,
      .unstyled r.position.shown, severityCell colored r.severity, .unstyled r.message] →
      c.right = false → cs <:+: text :=
    fun cs c hmem left => hshown _ (List.mem_map.2 ⟨r, hr, rfl⟩) c cs hmem left
  rw [unstyled_eq (h.files r hr).isPrintable, unstyled_eq (h.messages r hr).isPrintable] at hrow
  exact ⟨hrow _ { heading := "File" } (by simp [columns]) rfl,
    hrow _ { heading := "Message", wraps := true } (by simp [columns]) rfl⟩

end ReportTable

namespace Published

lemma mem_rowsOf_iff {files : Register String (List EditorRecord)} {row : ReportRow} :
    row ∈ rowsOf files ↔ ∃ f ∈ files.entries, ∃ r ∈ f.2, row = ReportRow.ofRecord f.1 r := by
  simp [rowsOf, List.mem_flatMap, eq_comm]

/-- A location with a record has a row in a table. -/
lemma exists_table {p : Published} {c : String × Register String (List EditorRecord)}
    (hc : c ∈ p.entries) {f : String × List EditorRecord} (hf : f ∈ c.2.entries) {r : EditorRecord}
    (hr : r ∈ f.2) : ∃ t ∈ p.tables, ReportRow.ofRecord f.1 r ∈ t.rows := by
  have hfiles : c.2.isEmpty = false := List.isEmpty_eq_false_iff_exists_mem.2 ⟨f, hf⟩
  refine ⟨⟨c.1, rowsOf c.2⟩, ?_, mem_rowsOf_iff.2 ⟨f, hf, r, hr, rfl⟩⟩
  exact List.mem_map.2 ⟨c, List.mem_filter.2 ⟨hc, by rw [hfiles]; rfl⟩, rfl⟩

/-- A record at a location of some collection. -/
def Holds (p : Published) (location : String) (r : EditorRecord) : Prop :=
  ∃ c ∈ p.entries, ∃ f ∈ c.2.entries, f.1 = location ∧ r ∈ f.2

/-- The console has the width at which no cell breaks. -/
def FitsIn (p : Published) (console : Console) (colored : Bool) : Prop :=
  ∀ t ∈ p.tables, (t.table colored).fullWidth ≤ console.width

/-- What is published is printable and holds no markup and no number that is too long to be
written. -/
structure IsPlain (p : Published) (console : Console) : Prop where
  titles : ∀ t ∈ p.tables, console.Shows t.title
  locations : ∀ location r, p.Holds location r → console.Shows location
  messages : ∀ location r, p.Holds location r → console.Shows r.message
  numbers : ∀ location r, p.Holds location r → r.range.start.isWritable = true

lemma IsPlain.printable {p : Published} {console : Console} (h : p.IsPlain console)
    {t : ReportTable} (ht : t ∈ p.tables) : t.Printable console := by
  have hrows : ∀ row ∈ t.rows, ∃ location r,
      p.Holds location r ∧ row = ReportRow.ofRecord location r := by
    obtain ⟨c, hc, rfl⟩ := List.mem_map.1 ht
    intro row hrow
    obtain ⟨f, hf, r, hr, hrow⟩ := mem_rowsOf_iff.1 hrow
    exact ⟨f.1, r, ⟨c, List.mem_of_mem_filter hc, f, hf, rfl, hr⟩, hrow⟩
  refine ⟨h.titles t ht, fun row hrow => ?_, fun row hrow => ?_, fun row hrow => ?_⟩
  all_goals obtain ⟨location, r, hr, rfl⟩ := hrows row hrow
  · exact h.locations location r hr
  · exact h.messages location r hr
  · exact h.numbers location r hr

section Printing

variable {p : Published} {console : Console} {colored : Bool} (wide : p.FitsIn console colored)

include wide

/-- **Nothing is printed unless all locations and messages can be read as markup.** -/
theorem exists_read_of_printed {out : String} (h : p.printed console colored = .ok out)
    {location : String} {r : EditorRecord} (hr : p.Holds location r) :
    (∃ x, console.read location = .ok x) ∧ ∃ x, console.read r.message = .ok x := by
  obtain ⟨c, hc, f, hf, rfl, hr⟩ := hr
  obtain ⟨t, ht, hrow⟩ := exists_table hc hf hr
  obtain ⟨texts, htexts, -⟩ := bind_eq_ok_iff.1 h
  obtain ⟨text, -, htext⟩ := mem_of_mapM_eq_ok htexts ht
  exact ReportTable.exists_read_of_printed (wide t ht) htext hrow

lemma exists_printed (plain : p.IsPlain console) :
    ∃ out, p.printed console colored = .ok out ∧ ∀ location r, p.Holds location r →
      location.toList <:+: out.toList ∧ r.message.toList <:+: out.toList := by
  have htables := fun t ht => ReportTable.exists_printed (plain.printable ht) (wide t ht)
  obtain ⟨texts, htexts⟩ := mapM_ok fun t ht => (htables t ht).imp fun text h => h.1
  refine ⟨String.ofList texts.flatten, by rw [printed, htexts]; rfl, ?_⟩
  rintro _ r ⟨c, hc, f, hf, rfl, hr⟩
  obtain ⟨t, ht, hrow⟩ := exists_table hc hf hr
  obtain ⟨text, hmem, htext⟩ := mem_of_mapM_eq_ok htexts ht
  obtain ⟨text', htext', hshown⟩ := htables t ht
  obtain rfl : text = text' := Except.ok.inj (htext.symm.trans htext')
  have hout : text <:+: (String.ofList texts.flatten).toList := by
    rw [String.toList_ofList]
    exact List.infix_of_mem_flatten hmem
  obtain ⟨hfile, hmessage⟩ := hshown _ hrow
  exact ⟨hfile.trans hout, hmessage.trans hout⟩

/-- **The terminal shows what was published**, as far as it holds no markup.  On a console that is
wide enough the collections are printed only if every location and every message can be read as
markup.  If there is no markup in them they are printed, and the location and the message of every
record stand in the output character for character. -/
theorem printed_shows_records :
    (∀ out, p.printed console colored = .ok out → ∀ location r, p.Holds location r →
      (∃ x, console.read location = .ok x) ∧ ∃ x, console.read r.message = .ok x) ∧
    (p.IsPlain console → ∃ out, p.printed console colored = .ok out ∧
      ∀ location r, p.Holds location r →
        location.toList <:+: out.toList ∧ r.message.toList <:+: out.toList) :=
  ⟨fun _ hout _ _ hr => exists_read_of_printed wide hout hr, fun plain => exists_printed wide plain⟩

end Printing

/-! ## A message with and one without markup -/

/-- One record of one file with the given message. -/
def ofMessage (message : String) : Published :=
  .ofList [("elm-make-diagnostics", .ofList [("/app/src/Main.elm",
    [⟨⟨⟨0, 0⟩, ⟨0, 0⟩⟩, message, .error, some "elm-make"⟩])])]

lemma holds_ofMessage {message location : String} {r : EditorRecord}
    (h : (ofMessage message).Holds location r) : location = "/app/src/Main.elm" ∧
      r = ⟨⟨⟨0, 0⟩, ⟨0, 0⟩⟩, message, .error, some "elm-make"⟩ := by
  obtain ⟨c, hc, f, hf, rfl, hr⟩ := h
  obtain rfl := List.mem_singleton.1 hc
  obtain rfl := List.mem_singleton.1 hf
  exact ⟨rfl, List.mem_singleton.1 hr⟩

lemma holds_record (message : String) : (ofMessage message).Holds "/app/src/Main.elm"
    ⟨⟨⟨0, 0⟩, ⟨0, 0⟩⟩, message, .error, some "elm-make"⟩ :=
  ⟨_, List.mem_singleton_self _, _, List.mem_singleton_self _, rfl, List.mem_singleton_self _⟩

lemma tables_ofMessage (message : String) : (ofMessage message).tables =
    [⟨"elm-make-diagnostics", [⟨"/app/src/Main.elm", ⟨0, 0⟩, .error, message⟩]⟩] := by
  show [ReportTable.mk _ ((List.mergeSort [("/app/src/Main.elm", [_])] _).flatMap _)] = _
  rw [List.mergeSort_singleton]
  rfl

lemma shown_zero : EditorPosition.shown ⟨0, 0⟩ = "1:1" := by rfl

lemma fullWidth_ofMessage {message : String}
    (h : ∀ c ∈ message.toList, 32 ≤ c.toNat ∧ c.toNat < 127) :
    (ReportTable.table false ⟨"elm-make-diagnostics",
      [⟨"/app/src/Main.elm", ⟨0, 0⟩, .error, message⟩]⟩).fullWidth =
        44 + max 9 (message.toList.length + 2) := by
  show totalWidth [neededWidth [.unstyled "File", .unstyled "/app/src/Main.elm"],
    neededWidth [.unstyled "Line:Col", .unstyled (EditorPosition.shown ⟨0, 0⟩)],
    neededWidth [.unstyled "Severity", .unstyled "error"],
    neededWidth [.unstyled "Message", .unstyled message]] + 5 = _
  have hfile : naturalWidth (.unstyled "File") = 4 := naturalWidth_of_ascii (by simp)
  have hpath : naturalWidth (.unstyled "/app/src/Main.elm") = 17 :=
    naturalWidth_of_ascii (by simp)
  have hplace : naturalWidth (.unstyled "Line:Col") = 8 := naturalWidth_of_ascii (by simp)
  have hfirst : naturalWidth (.unstyled (EditorPosition.shown ⟨0, 0⟩)) = 3 := by
    rw [shown_zero]
    exact naturalWidth_of_ascii (by simp)
  have hseverity : naturalWidth (.unstyled "Severity") = 8 := naturalWidth_of_ascii (by simp)
  have herror : naturalWidth (.unstyled "error") = 5 := naturalWidth_of_ascii (by simp)
  have hmessage : naturalWidth (.unstyled "Message") = 7 := naturalWidth_of_ascii (by simp)
  simp only [neededWidth, totalWidth, List.map_cons, List.map_nil, List.foldl_cons,
    List.foldl_nil, hfile, hpath, hplace, hfirst, hseverity, herror, hmessage,
    naturalWidth_of_ascii h, cellPadding]
  omega

lemma isWritable_zero : EditorPosition.isWritable ⟨0, 0⟩ = true := by
  rw [EditorPosition.isWritable, Decimal.isWritable_of_lt_ten (by decide)]
  rfl

lemma shows_of_ascii {console : Console} {s : String}
    (h : ∀ c ∈ s.toList, (32 ≤ c.toNat ∧ c.toNat < 127) ∧ c ≠ '[' ∧ c ≠ ':') :
    console.Shows s where
  isPrintable := isPrintable_of_ascii fun c hc => (h c hc).1
  verbatim := verbatim_of_not_mem (fun hc => (h _ hc).2.1 rfl) fun hc => (h _ hc).2.2 rfl

lemma fitsIn_ofMessage {message : String}
    (h : ∀ c ∈ message.toList, 32 ≤ c.toNat ∧ c.toNat < 127)
    (short : message.toList.length ≤ 150) : (ofMessage message).FitsIn {} false := by
  intro t ht
  rw [tables_ofMessage] at ht
  obtain rfl := List.mem_singleton.1 ht
  rw [fullWidth_ofMessage h]
  show _ ≤ 200
  omega

theorem message_without_markup_is_shown :
    (ofMessage "NAMING ERROR - I cannot find a foo variable").FitsIn {} false ∧
      (ofMessage "NAMING ERROR - I cannot find a foo variable").IsPlain {} ∧
      ∃ out, (ofMessage "NAMING ERROR - I cannot find a foo variable").printed {} false =
          .ok out ∧
        ∀ location r, (ofMessage "NAMING ERROR - I cannot find a foo variable").Holds location r →
          location.toList <:+: out.toList ∧ r.message.toList <:+: out.toList := by
  have hmessage : ∀ c ∈ "NAMING ERROR - I cannot find a foo variable".toList,
      (32 ≤ c.toNat ∧ c.toNat < 127) ∧ c ≠ '[' ∧ c ≠ ':' := by simp
  have hwide : (ofMessage "NAMING ERROR - I cannot find a foo variable").FitsIn {} false :=
    fitsIn_ofMessage (fun c hc => (hmessage c hc).1) (by simp)
  have hplain : (ofMessage "NAMING ERROR - I cannot find a foo variable").IsPlain {} := by
    refine ⟨?titles, ?locations, ?messages, ?numbers⟩
    case titles =>
      rw [tables_ofMessage]
      intro t ht
      obtain rfl := List.mem_singleton.1 ht
      exact shows_of_ascii (by simp)
    case locations =>
      intro location r h
      rw [(holds_ofMessage h).1]
      exact shows_of_ascii (by simp)
    case messages =>
      intro location r h
      rw [(holds_ofMessage h).2]
      exact shows_of_ascii hmessage
    case numbers =>
      intro location r h
      rw [(holds_ofMessage h).2]
      exact isWritable_zero
  exact ⟨hwide, hplain, (printed_shows_records hwide).2 hplain⟩

/-- That locations and messages are printable and the console is wide enough does not suffice: a
bracketed slash is read as a tag that closes nothing. -/
theorem not_forall_printed_shows_records :
    ¬ ∀ (console : Console) (colored : Bool) (p : Published),
      (∀ location r, p.Holds location r → location ≠ "" ∧ r.message ≠ "" ∧
        IsPrintable location.toList ∧ IsPrintable r.message.toList) →
      p.FitsIn console colored →
      ∃ out, p.printed console colored = .ok out ∧ ∀ location r, p.Holds location r →
        location.toList <:+: out.toList ∧ r.message.toList <:+: out.toList := by
  intro h
  have hascii : ∀ c ∈ "PARSE ERROR - I was not expecting [/] here".toList,
      32 ≤ c.toNat ∧ c.toNat < 127 := by simp
  have hwide : (ofMessage "PARSE ERROR - I was not expecting [/] here").FitsIn {} false :=
    fitsIn_ofMessage hascii (by simp)
  obtain ⟨out, hout, -⟩ := h {} false (ofMessage "PARSE ERROR - I was not expecting [/] here")
    (fun location r hr => by
      obtain ⟨rfl, rfl⟩ := holds_ofMessage hr
      exact ⟨by simp, by simp, isPrintable_of_ascii (by simp), isPrintable_of_ascii hascii⟩)
    hwide
  have hread : Console.read {} "PARSE ERROR - I was not expecting [/] here" =
      .error (.nothingToClose 34) := by rfl
  obtain ⟨-, x, hx⟩ := exists_read_of_printed hwide hout (holds_record _)
  rw [hread] at hx
  cases hx

end Published

end ElmOnSave
