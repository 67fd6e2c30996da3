import ElmOnSave.AnalyzerReport
import ElmOnSave.Proofs.LineFaults
import ElmOnSave.Proofs.ProjectLookup
import ElmOnSave.Proofs.ShortNumbers

/-!
# The regions of diagnostics are short

Since the integers of a document are short, no diagnostic that was read, be it from the compiler or
from the analyzer, is located by a number that is too long to be written again.  Each lemma says it
of one step of the reading, from a place (`Position.short_of_ofValue`) to a line
(`yieldsShort_readLine`).  The results are `CompilerRun.short_of_run` for a run of the compiler and
`AnalyzerReport.short_of_load` for a report of the analyzer.
-/

namespace ElmOnSave

/-! ## Diagnostics that are read -/

namespace Checked

variable {α β : Type}

lemma map_eq_valid {f : α → β} {x : Checked α} {b : β} (h : f <$> x = .valid b) :
    ∃ a, x = .valid a ∧ f a = b := by
  cases x with
  | valid a =>
    cases h
    exact ⟨a, rfl, rfl⟩
  | invalid issues => cases h

lemma seq_eq_valid {f : Checked (α → β)} {x : Checked α} {b : β} (h : f <*> x = .valid b) :
    ∃ g a, f = .valid g ∧ x = .valid a ∧ g a = b := by
  cases f <;> cases x <;> cases h
  exact ⟨_, _, rfl, rfl, rfl⟩

lemma within_eq_valid {field : String} {x : Checked α} {a : α} (h : x.within field = .valid a) :
    x = .valid a := by
  cases x <;> cases h
  rfl

lemma alsoWith_eq_valid {x : Checked α} {extra : List Issue} {a : α}
    (h : x.alsoWith extra = .valid a) : x = .valid a := by
  cases x <;> cases extra <;> cases h
  rfl

lemma toExcept_eq_ok_iff {x : Checked α} {subject : String} {a : α} :
    x.toExcept subject = .ok a ↔ x = .valid a := by
  cases x <;> simp [toExcept]

lemma ofExcept_eq_valid {x : Except Mismatch α} {a : α} (h : ofExcept x = .valid a) :
    x = .ok a := by
  cases x <;> cases h
  rfl

end Checked

lemma Value.field_eq_valid {α : Type} {es : List (Text × Value)} {name : String}
    {default? : Option α} {check : Value → Checked α} {a : α}
    (h : field es name default? check = .valid a) :
    (∃ v, Entries.get? es (.whole name) = some v ∧ check v = .valid a) ∨ default? = some a := by
  unfold field at h
  split at h
  · rename_i v hget
    exact .inl ⟨v, hget, Checked.within_eq_valid h⟩
  · cases h
    exact .inr rfl
  · cases h

/-- A required integer of a short table can be written. -/
lemma isWritable_of_scalarField {es : List (Text × Value)} (hes : ∀ e ∈ es, e.2.Short)
    {name : String} {i : Int} (h : Value.scalarField es name none Value.asInt = .valid i) :
    Decimal.isWritable i = true := by
  obtain ⟨v, hget, hread⟩ := (Value.field_eq_valid h).resolve_right (by simp)
  exact (Entries.of_get? hes hget).asInt (Checked.ofExcept_eq_valid hread)

/-- A place whose line and column can be written. -/
def Position.Short (p : Position) : Prop :=
  Decimal.isWritable p.line = true ∧ Decimal.isWritable p.column = true

/-- A region whose lines and columns can be written. -/
def Region.Short (r : Region) : Prop :=
  r.start.Short ∧ r.stop.Short

lemma Region.short_whole : Region.whole.Short := by
  have hone : Decimal.isWritable 1 = true := Decimal.isWritable_of_lt_ten (by decide)
  exact ⟨⟨hone, hone⟩, ⟨hone, hone⟩⟩

lemma Diagnostic.short_ofProject (overview details file : String) :
    (Diagnostic.ofProject overview details file).region.Short := Region.short_whole

lemma Position.short_of_ofValue {v : Value} (hv : v.Short) {p : Position}
    (h : Position.ofValue v = .valid p) : p.Short := by
  unfold Position.ofValue at h
  cases hv with
  | table short =>
    obtain ⟨mk, column, hmk, hcolumn, rfl⟩ := Checked.seq_eq_valid h
    obtain ⟨line, hline, rfl⟩ := Checked.map_eq_valid hmk
    exact ⟨isWritable_of_scalarField short hline, isWritable_of_scalarField short hcolumn⟩
  | _ => cases h

lemma Region.short_of_ofValue {v : Value} (hv : v.Short) {r : Region}
    (h : Region.ofValue v = .valid r) : r.Short := by
  unfold Region.ofValue at h
  cases hv with
  | @table es short =>
    have hplace : ∀ {name p}, Value.field es name none Position.ofValue = .valid p → p.Short := by
      intro name p hfield
      obtain ⟨w, hget, hw⟩ := (Value.field_eq_valid hfield).resolve_right (by simp)
      exact Position.short_of_ofValue (Entries.of_get? short hget) hw
    obtain ⟨mk, stop, hmk, hstop, rfl⟩ := Checked.seq_eq_valid h
    obtain ⟨start, hstart, rfl⟩ := Checked.map_eq_valid hmk
    exact ⟨hplace hstart, hplace hstop⟩
  | _ => cases h

lemma Diagnostic.short_of_ofEntries {es : List (Text × Value)} (hes : ∀ e ∈ es, e.2.Short)
    {d : Diagnostic} (h : Diagnostic.ofEntries es = .valid d) : d.region.Short := by
  obtain ⟨_, file, htype, -, rfl⟩ := Checked.seq_eq_valid h
  obtain ⟨_, type, hmk, -, rfl⟩ := Checked.seq_eq_valid htype
  obtain ⟨_, region, hdetails, hregion, rfl⟩ := Checked.seq_eq_valid hmk
  obtain ⟨_, details, hsubregion, -, rfl⟩ := Checked.seq_eq_valid hdetails
  obtain ⟨_, subregion, hoverview, -, rfl⟩ := Checked.seq_eq_valid hsubregion
  obtain ⟨_, overview, htag, -, rfl⟩ := Checked.seq_eq_valid hoverview
  obtain ⟨tag, -, rfl⟩ := Checked.map_eq_valid htag
  rcases Value.field_eq_valid hregion with ⟨v, hget, hv⟩ | hdefault
  · exact Region.short_of_ofValue (Entries.of_get? hes hget) hv
  · cases hdefault
    exact Region.short_whole

namespace CompilerOutput

/-- A step of reading a line yields diagnostics whose regions can be written. -/
def YieldsShort (x : Except Fault (List Diagnostic)) : Prop :=
  ∀ ds, x = .ok ds → ∀ d ∈ ds, d.region.Short

lemma yieldsShort_refuse (line : String) (cause : OutputFault) :
    YieldsShort (refuse line cause) := nofun

lemma yieldsShort_nil : YieldsShort (.ok []) := by
  rintro ds ⟨⟩
  exact List.forall_mem_nil _

lemma accept_eq_ok {line : String} {x : Checked Diagnostic} {d : Diagnostic}
    (h : accept line x = .ok d) : x = .valid d := by
  cases x <;> cases h
  rfl

lemma short_of_readLine_value [Platform] {line : String} {v : Value} (h : readLine line = .ok v) :
    v.Short :=
  Json.short_of_read (mapError_eq_ok_iff.1 h)

lemma short_of_readIssue {target line : String} {v : Value} (hv : v.Short) {d : Diagnostic}
    (h : readIssue target line v = .ok d) : d.region.Short := by
  cases hv with
  | table short =>
    refine Diagnostic.short_of_ofEntries ?_ (accept_eq_ok h)
    unfold withTarget
    split
    · exact short
    · exact Entries.forall_put short _ (.text _)
  | _ => cases h

lemma yieldsShort_readIssueArray [Platform] (target line : String) :
    YieldsShort (readIssueArray target line) := by
  unfold readIssueArray
  split
  · exact yieldsShort_nil
  · split
    · exact nofun
    · rename_i issues hline
      rintro ds hds
      cases short_of_readLine_value hline with
      | list short => exact forall_mem_of_mapM (fun v hv d => short_of_readIssue (short v hv)) hds
    · exact yieldsShort_refuse _ _

lemma short_of_asObject {line field : String} {v w : Value} (hv : v.Short)
    (h : asObject line field v = .ok w) : w.Short := by
  cases hv <;> cases h
  rename_i short
  exact .table short

lemma short_of_asList {line field : String} {v : Value} (hv : v.Short) {items : List Value}
    (h : asList line field v = .ok items) : ∀ w ∈ items, w.Short := by
  cases hv <;> cases h
  · exact List.forall_mem_nil _
  · rename_i short
    exact short

lemma short_of_readProblemEntry {line : String} {path problem : Value} (hp : problem.Short)
    {d : Diagnostic} (h : readProblemEntry line path problem = .ok d) : d.region.Short := by
  rw [readProblemEntry_eq] at h
  obtain ⟨p, hobject, h⟩ := bind_eq_ok_iff.1 h
  have hshort := short_of_asObject hp hobject
  obtain ⟨_, file, hmk, -, rfl⟩ := Checked.seq_eq_valid (accept_eq_ok h)
  obtain ⟨_, region, htitle, hregion, rfl⟩ := Checked.seq_eq_valid hmk
  obtain ⟨overview, -, rfl⟩ := Checked.map_eq_valid htitle
  exact Region.short_of_ofValue (hshort.getD _) (Checked.within_eq_valid hregion)

lemma yieldsShort_readGroup (line : String) {group : Value} (hg : group.Short) :
    YieldsShort (readGroup line group) := by
  intro ds hds
  rw [readGroup_eq] at hds
  obtain ⟨g, hobject, hds⟩ := bind_eq_ok_iff.1 hds
  obtain ⟨problems, hlist, hds⟩ := bind_eq_ok_iff.1 hds
  have hproblems := short_of_asList ((short_of_asObject hg hobject).getD _) hlist
  exact forall_mem_of_mapM (fun p hp d => short_of_readProblemEntry (hproblems p hp)) hds

lemma yieldsShort_readCompileErrors (line : String) {report : Value} (hr : report.Short) :
    YieldsShort (readCompileErrors line report) := by
  intro ds hds d hd
  rw [readCompileErrors_eq] at hds
  obtain ⟨groups, hlist, hds⟩ := bind_eq_ok_iff.1 hds
  obtain ⟨dss, hall, rfl⟩ := map_eq_ok_iff.1 hds
  have hgroups := short_of_asList (hr.getD _) hlist
  have hdss : ∀ ds ∈ dss, ∀ d ∈ ds, d.region.Short :=
    forall_mem_of_mapM (fun g hg => yieldsShort_readGroup line (hgroups g hg)) hall
  obtain ⟨ds, hds, hd⟩ := List.mem_flatten.1 hd
  exact hdss ds hds d hd

lemma yieldsShort_readProjectError (target line : String) (report : Value) :
    YieldsShort ((accept line (readProjectError target report)).map fun d => [d]) := by
  intro ds hds
  obtain ⟨d, haccept, rfl⟩ := map_eq_ok_iff.1 hds
  obtain ⟨_, file, hmk, -, rfl⟩ := Checked.seq_eq_valid (accept_eq_ok haccept)
  obtain ⟨overview, -, rfl⟩ := Checked.map_eq_valid hmk
  exact List.forall_mem_singleton.2 (Diagnostic.short_ofProject ..)

lemma yieldsShort_readReport (target line : String) {report : Value} (hr : report.Short) :
    YieldsShort (readReport target line report) := by
  unfold readReport
  split
  · split
    · exact yieldsShort_readCompileErrors line hr
    · split
      · exact yieldsShort_readProjectError target line report
      · exact yieldsShort_nil
  · exact yieldsShort_nil

lemma yieldsShort_readReportDocument [Platform] (target line : String) :
    YieldsShort (readReportDocument target line) := by
  cases hblank : Text.isBlankText line.toList with
  | true =>
    rw [readReportDocument, hblank]
    exact yieldsShort_nil
  | false =>
    intro ds hds
    rw [readReportDocument_eq hblank] at hds
    obtain ⟨v, hline, hds⟩ := bind_eq_ok_iff.1 hds
    obtain ⟨report, hobject, hds⟩ := bind_eq_ok_iff.1 hds
    have hreport := short_of_asObject (short_of_readLine_value hline) hobject
    exact yieldsShort_readReport target line hreport ds hds

/-- The diagnostics on a line are located by numbers that can be written. -/
theorem yieldsShort_readLine [Platform] (g : Generation) (target line : String) :
    YieldsShort (g.readLine target line) := by
  cases g with
  | issueArrays => exact yieldsShort_readIssueArray target line
  | reportDocuments => exact yieldsShort_readReportDocument target line

lemma short_of_collectLines {read : String → Except Fault (List Diagnostic)}
    (hread : ∀ line, YieldsShort (read line)) (lines : List Octets) :
    ∀ d ∈ (collectLines read lines []).diagnostics, d.region.Short := by
  induction lines with
  | nil => exact List.forall_mem_nil _
  | cons line lines ih =>
    rw [collectLines]
    cases hline : read (lineText line) with
    | error f => exact List.forall_mem_nil _
    | ok ds =>
      simp only
      rw [collectLines_eq]
      intro d hd
      rcases List.mem_append.1 hd with hd | hd
      · exact hread _ ds hline d (by simpa using hd)
      · exact ih d hd

lemma short_of_collectChunks [Platform] (g : Generation) (target : String) (limit : Nat)
    (chunks : List Octets) (ended : Bool) :
    ∀ d ∈ (collectChunks g target limit chunks ended).diagnostics, d.region.Short := by
  rw [collectChunks]
  have hlines := short_of_collectLines (yieldsShort_readLine g target)
  split <;> exact hlines _

end CompilerOutput

/-! ## Runs and reports -/

open CompilerOutput

namespace CompilerRun

lemma yieldsShort_conclude [Platform] (g : Generation) (file : String)
    (report other : List Octets) :
    YieldsShort (conclude g file report other) := by
  intro ds hds
  unfold conclude at hds
  simp only at hds
  split at hds
  · cases hds
  · split at hds
    · rename_i d hfailure
      cases hds
      unfold projectFailure? at hfailure
      split at hfailure <;> cases hfailure
      exact List.forall_mem_singleton.2 (Diagnostic.short_ofProject ..)
    · cases hds
      exact short_of_collectChunks g file streamLineLimit report true

lemma yieldsShort_supervise [Platform] (g : Generation) (r : CompileRequest) (c : Command)
    (x : Execution) :
    YieldsShort (supervise g r c x) := by
  unfold supervise
  simp only
  split
  · exact nofun
  · split
    · exact nofun
    · exact yieldsShort_conclude _ _ _ _

/-- The diagnostics of a run are located by numbers that can be written. -/
theorem short_of_run [Platform] {m : Machine} {r : CompileRequest} {result : RunResult}
    (h : (run m r).result = .ok result) : ∀ d ∈ result.diagnostics, d.region.Short := by
  obtain ⟨c, g, -, rfl | ⟨x, ds, hsupervise, rfl⟩⟩ := run_eq_ok h
  · exact List.forall_mem_nil _
  · exact yieldsShort_supervise g r c x ds hsupervise

end CompilerRun

/-- The issues of an analyzer report are located by numbers that can be written. -/
theorem AnalyzerReport.short_of_load [Platform] {m : Machine} {path : Path} {ds : List Diagnostic}
    (h : AnalyzerReport.load m path = .ok ds) : ∀ d ∈ ds, d.region.Short := by
  have hentry : ∀ {p : String} {v : Value}, v.Short → ∀ d, readEntry p v = .ok d →
      d.region.Short := by
    intro p v hv d h
    cases hv with
    | table short =>
      simp only [readEntry] at h
      split at h
      · rename_i hd
        cases h
        exact Diagnostic.short_of_ofEntries short (Checked.toExcept_eq_ok_iff.1 hd)
      · cases h
    | _ => cases h
  have htext : ∀ {p : String} {cs : List Char}, ofText p cs = .ok ds →
      ∀ d ∈ ds, d.region.Short := by
    intro p cs h
    unfold ofText at h
    split at h
    · cases h
    · rename_i es hread
      cases Json.short_of_read hread with
      | list short => exact forall_mem_of_mapM (fun v hv => hentry (short v hv)) h
    · cases h
  obtain ⟨cs, -, h⟩ := bind_eq_ok_iff.1 h
  exact htext h

end ElmOnSave
