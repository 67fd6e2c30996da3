import ElmOnSave.Command
import ElmOnSave.Proofs.Splitting

/-!
# Reading a command line back

A line is read back by cutting it at the blanks outside quotes and dropping the quotes
(`Command.readLine`); two blanks in a row have an empty word between them.  A part of a line reads
as one word if whatever follows it is read as if the word stood in its place (`ReadsAs`).  A text
between quotes reads as this text (`readsAs_inQuotes`), a text without blanks as itself
(`readsAs_self`), and so do the program and the file of a command for a shell, whatever blanks they
hold (`readsAs_program`).  Parts that read as words, with blanks between them, are read one after
the other (`cut_intercalate`).

The null device stands at the end of the line as it is configured, so it is cut at its blanks.
`Generation.readLine_line` says what becomes of the line, and `line_reads_back_iff` that it is read
back as the words of the command exactly if the null device has none.
-/

namespace ElmOnSave

namespace Command

/-- The pieces of a text between the blanks outside quotes, without the quotes.  It may start
between two quotes. -/
def cut (quoted : Bool) : List Char → List (List Char)
  | [] => [[]]
  | c :: cs =>
    if c = '"' then cut (!quoted) cs
    else if c = ' ' ∧ quoted = false then [] :: cut false cs
    else (cut quoted cs).modifyHead (c :: ·)

/-- The words of a line. -/
def readLine (line : String) : List String :=
  (cut false line.toList).map String.ofList

/-! ## Parts of a line -/

/-- A part of a line reads as a word. -/
def ReadsAs (part word : List Char) : Prop :=
  ∀ rest, cut false (part ++ rest) = (cut false rest).modifyHead (word ++ ·)

section Parts

variable {cs part word : List Char}

lemma cut_quote (quoted : Bool) (cs : List Char) : cut quoted ('"' :: cs) = cut (!quoted) cs := by
  rw [cut, if_pos rfl]

lemma cut_blank (cs : List Char) : cut false (' ' :: cs) = [] :: cut false cs := by
  rw [cut, if_neg (by decide), if_pos ⟨rfl, rfl⟩]

lemma cut_cons {quoted : Bool} {c : Char} (quote : c ≠ '"') (blank : c ≠ ' ' ∨ quoted = true)
    (cs : List Char) : cut quoted (c :: cs) = (cut quoted cs).modifyHead (c :: ·) := by
  have hblank : ¬ (c = ' ' ∧ quoted = false) := by
    rintro ⟨hc, hquoted⟩
    exact blank.elim (· hc) fun h => Bool.false_ne_true (hquoted.symm.trans h)
  rw [cut, if_neg quote, if_neg hblank]

/-- A run of characters that end no word. -/
lemma cut_append {quoted : Bool} (quote : '"' ∉ cs) (blank : ' ' ∉ cs ∨ quoted = true)
    (rest : List Char) : cut quoted (cs ++ rest) = (cut quoted rest).modifyHead (cs ++ ·) := by
  induction cs with
  | nil =>
    rw [List.nil_append]
    exact (congrFun List.modifyHead_id _).symm
  | cons c cs ih =>
    obtain ⟨hquote, hquotes⟩ := List.ne_and_not_mem_of_not_mem_cons quote
    have hblank : c ≠ ' ' ∨ quoted = true :=
      blank.imp_left fun h => (List.ne_and_not_mem_of_not_mem_cons h).1.symm
    have hblanks : ' ' ∉ cs ∨ quoted = true :=
      blank.imp_left fun h => (List.ne_and_not_mem_of_not_mem_cons h).2
    rw [List.cons_append, cut_cons hquote.symm hblank, ih hquotes hblanks,
      List.modifyHead_modifyHead]
    rfl

lemma readsAs_self (quote : '"' ∉ cs) (blank : ' ' ∉ cs) : ReadsAs cs cs :=
  cut_append quote (.inl blank)

/-- Quotes keep the blanks of what stands between them. -/
lemma readsAs_inQuotes (quote : '"' ∉ cs) : ReadsAs ('"' :: cs ++ ['"']) cs := by
  intro rest
  rw [List.append_assoc, List.cons_append, cut_quote]
  exact (cut_append quote (.inr rfl) _).trans (by rw [List.singleton_append, cut_quote]; rfl)

/-- A text without quotes is cut at its blanks. -/
lemma cut_eq_splitAll (quote : '"' ∉ cs) : cut false cs = Text.splitAll (· == ' ') cs := by
  rw [Text.splitAll_eq_splitOnP]
  induction cs with
  | nil => rfl
  | cons c cs ih =>
    obtain ⟨hquote, hquotes⟩ := List.ne_and_not_mem_of_not_mem_cons quote
    rw [List.splitOnP_cons_eq_if_modifyHead, ← ih hquotes]
    by_cases hblank : c = ' '
    · rw [hblank, cut_blank, if_pos (by rfl)]
    · rw [cut_cons hquote.symm (.inl hblank), if_neg (by simpa using hblank)]

/-- Parts that read as words, with blanks between them and before one more part. -/
lemma cut_intercalate {parts words : List (List Char)} (h : List.Forall₂ ReadsAs parts words)
    (last : List Char) :
    cut false ([' '].intercalate (parts ++ [last])) = words ++ cut false last := by
  induction h with
  | nil => rw [List.nil_append, List.intercalate_singleton, List.nil_append]
  | @cons part word parts words hpart _ ih =>
    obtain ⟨next, rest, hnext⟩ := List.exists_cons_of_ne_nil
      (List.append_ne_nil_of_right_ne_nil parts (List.cons_ne_nil last []))
    rw [hnext] at ih
    rw [List.cons_append, hnext, List.intercalate_cons_cons, List.append_assoc, hpart,
      List.singleton_append, cut_blank, ih, List.modifyHead_cons, List.append_nil,
      List.cons_append]

end Parts

/-- The program of a command is quoted if it holds a blank. -/
lemma readsAs_program {program : String} (quote : '"' ∉ program.toList) :
    ReadsAs (if program.toList.contains ' ' then inQuotes program else program).toList
      program.toList := by
  split
  · rw [inQuotes, String.toList_append, String.toList_append]
    exact readsAs_inQuotes quote
  · rename_i hblank
    exact readsAs_self quote (by simpa using hblank)

end Command

namespace Generation

/-- The words between the program and the null device. -/
def middleWords (g : Generation) (file : String) : List String :=
  match g with
  | issueArrays => [file, "--report", "json", "--output"]
  | reportDocuments => ["make", file, "--report", "json", "--output"]

lemma arguments_eq (g : Generation) (file : String) (config : Config) :
    g.arguments file config = g.middleWords file ++ [config.nullDevice] := by
  cases g <;> rfl

/-- Between quotes the file reads as itself, and the words around it hold no blank. -/
lemma readsAs_middleWords (g : Generation) {file : String} (quote : '"' ∉ file.toList) :
    List.Forall₂ Command.ReadsAs ((g.middleWords (inQuotes file)).map String.toList)
      ((g.middleWords file).map String.toList) := by
  have hfile : Command.ReadsAs (inQuotes file).toList file.toList := by
    rw [inQuotes, String.toList_append, String.toList_append]
    exact Command.readsAs_inQuotes quote
  have hflags : List.Forall₂ Command.ReadsAs (["--report", "json", "--output"].map String.toList)
      (["--report", "json", "--output"].map String.toList) :=
    .cons (Command.readsAs_self (by decide) (by decide))
      (.cons (Command.readsAs_self (by decide) (by decide))
        (.cons (Command.readsAs_self (by decide) (by decide)) .nil))
  cases g with
  | issueArrays => exact .cons hfile hflags
  | reportDocuments =>
    exact .cons (Command.readsAs_self (by decide) (by decide)) (.cons hfile hflags)

/-- The line for a shell reads as the words of the command, but the null device is cut at its
blanks. -/
lemma readLine_line (g : Generation) (config : Config) (file : String) (cwd : Path) (isTest : Bool)
    (program : '"' ∉ (g.program config isTest).toList) (quote : '"' ∉ file.toList)
    (device : '"' ∉ config.nullDevice.toList) :
    Command.readLine (g.command file cwd isTest config true).line =
      g.program config isTest :: g.middleWords file ++
        (Text.splitAll (· == ' ') config.nullDevice.toList).map String.ofList := by
  have hline : (g.command file cwd isTest config true).line.toList =
      [' '].intercalate ((if (g.program config isTest).toList.contains ' '
        then inQuotes (g.program config isTest) else g.program config isTest).toList ::
          (g.middleWords (inQuotes file)).map String.toList ++ [config.nullDevice.toList]) := by
    rw [Command.line, String.toList_intercalate, List.map_cons]
    simp only [command, if_true, arguments_eq, List.map_append, List.map_cons, List.map_nil]
    rfl
  rw [Command.readLine, hline,
    Command.cut_intercalate (.cons (Command.readsAs_program program) (g.readsAs_middleWords quote)),
    Command.cut_eq_splitAll device, List.map_append, List.map_cons, List.map_map,
    String.ofList_toList]
  simp [Function.comp_def]

end Generation

/-- **When a command line is read back.**  Program, file and null device hold no quotes.  Run word
by word, the command consists of the program, in generation 0.19 the word `make`, the file, the
flags and the null device.  The line for a shell is read back as these words, whatever blanks are in
the program and the file, except that the null device is cut at its blanks; so it is read back
exactly if the null device has none. -/
theorem line_reads_back_iff (g : Generation) (config : Config) (file : String) (cwd : Path)
    (isTest : Bool) (program : '"' ∉ (g.program config isTest).toList)
    (quote : '"' ∉ file.toList) (device : '"' ∉ config.nullDevice.toList) :
    let direct := g.command file cwd isTest config false
    let shell := g.command file cwd isTest config true
    direct.words = g.program config isTest :: g.middleWords file ++ [config.nullDevice] ∧
      Command.readLine shell.line = g.program config isTest :: g.middleWords file ++
        (Text.splitAll (· == ' ') config.nullDevice.toList).map String.ofList ∧
      (Command.readLine shell.line = direct.words ↔ ' ' ∉ config.nullDevice.toList) := by
  intro direct shell
  have hwords : direct.words =
      g.program config isTest :: g.middleWords file ++ [config.nullDevice] :=
    congrArg (g.program config isTest :: ·) (g.arguments_eq file config)
  have hread := g.readLine_line config file cwd isTest program quote device
  refine ⟨hwords, hread, ?_⟩
  rw [hread, hwords, List.append_cancel_left_eq]
  constructor
  · intro heq hblank
    obtain ⟨piece, hpieces, hpiece⟩ := List.map_eq_singleton_iff.1 heq
    have hmem : piece ∈ Text.splitAll (· == ' ') config.nullDevice.toList := by
      rw [hpieces]
      exact List.mem_singleton_self piece
    rw [← hpiece, String.toList_ofList] at hblank
    simpa using Text.not_of_mem_splitAll hmem ' ' hblank
  · intro hblank
    rw [Text.splitAll_of_forall_not, List.map_singleton, String.ofList_toList]
    intro c hc
    exact beq_eq_false_iff_ne.2 fun heq => hblank (heq ▸ hc)

/-- A configuration with a blank in the path of the compiler. -/
def spacedCompiler : Config :=
  { Config.standard with compiler := "C:/Program Files/elm.exe", nullDevice := "nul" }

/-- The blanks in the compiler and in the file are kept. -/
theorem spaced_command_reads_back :
    let shell := Generation.reportDocuments.command "C:/My Project/Main.elm" ⟨.root, []⟩ false
      spacedCompiler true
    '"' ∉ (Generation.reportDocuments.program spacedCompiler false).toList ∧
      '"' ∉ "C:/My Project/Main.elm".toList ∧ '"' ∉ spacedCompiler.nullDevice.toList ∧
      Command.readLine shell.line = ["C:/Program Files/elm.exe", "make", "C:/My Project/Main.elm",
        "--report", "json", "--output", "nul"] := by
  intro shell
  have program : '"' ∉ (Generation.reportDocuments.program spacedCompiler false).toList := by decide
  have quote : '"' ∉ "C:/My Project/Main.elm".toList := by decide
  have device : '"' ∉ spacedCompiler.nullDevice.toList := by decide
  obtain ⟨hwords, -, hread⟩ := line_reads_back_iff .reportDocuments spacedCompiler
    "C:/My Project/Main.elm" ⟨.root, []⟩ false program quote device
  exact ⟨program, quote, device, (hread.2 (by decide)).trans hwords⟩

/-- A configuration with a blank in the null device. -/
def spacedDevice : Config :=
  { Config.standard with nullDevice := "/tmp/my null" }

/-- Not every command line is read back: the null device is not quoted. -/
theorem not_forall_line_reads_back :
    ¬ ∀ (g : Generation) (config : Config) (file : String) (cwd : Path) (isTest : Bool),
      '"' ∉ (g.program config isTest).toList → '"' ∉ file.toList →
      '"' ∉ config.nullDevice.toList →
      Command.readLine (g.command file cwd isTest config true).line =
        (g.command file cwd isTest config false).words := by
  intro h
  have hread := h .reportDocuments spacedDevice "/p/Main.elm" ⟨.root, ["p"]⟩ false (by decide)
    (by decide) (by decide)
  revert hread
  decide

end ElmOnSave
