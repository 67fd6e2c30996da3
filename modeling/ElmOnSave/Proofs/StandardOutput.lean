import ElmOnSave.Proofs.CheckedSave
import ElmOnSave.Proofs.ConfigFaults
import ElmOnSave.Proofs.PrintedNotices

/-!
# What a check puts on standard output

With JSON, standard output belongs to the document with the records, and what the run has to say
goes to the other stream, among the records of the log.  Not everything that ends a check keeps to
this: that the save was skipped, that the run failed, or that a file of settings cannot be used is
told by a notice, and notices are printed on standard output.  `check_json_document_iff` says that
standard output holds a document exactly when something is published.

A notice is no document because of how it begins.  Its beginning survives the layout
(`NoticeTaste.isPrefix_printed`), and after a sign, or after the first characters of any of the
messages, no token starts (`foreignStart_of_mem`).  The messages are known because the causes that
end a check come from loading, and loading has words of its own for each (`HasOwnCauses`).
-/

namespace ElmOnSave

/-! ## Texts that are no document -/

/-- A beginning that the layout of a notice leaves as it is and that no document has. -/
structure ForeignStart [Platform] (start : List Char) : Prop where
  still : ∀ c ∈ start, Terminal.IsStill c
  unreadable : ∀ rest v, Json.read (start ++ rest) ≠ .ok v

/-- The beginnings of signs and messages. -/
def foreignStarts : List (List Char) :=
  [[Char.ofNat 0x26A0], [Char.ofNat 0x274C], ['A'], ['C'], ['S'], ['U'], ['I', 'n', 'v'],
    ['[', 't', 'o']]

lemma foreignStart_of_mem [Platform] {start : List Char} (h : start ∈ foreignStarts) :
    ForeignStart start := by
  have hstill : ∀ start ∈ foreignStarts, ∀ c ∈ start, Terminal.IsStill c := by
    simp only [foreignStarts, Terminal.IsStill, List.forall_mem_cons, List.not_mem_nil,
      false_implies, implies_true, and_true]
    decide
  have htokens : ∀ start ∈ foreignStarts, ∀ rest, ∃ ts offset finish,
      Json.tokens (start ++ rest) = (ts ++ [(.stray, offset)], finish) := by
    intro start h rest
    simp only [foreignStarts, List.mem_cons, List.not_mem_nil, or_false] at h
    -- Only the marks before the stray character differ: none, or the bracket of the last beginning.
    rcases h with rfl | rfl | rfl | rfl | rfl | rfl | rfl | rfl
    case inr.inr.inr.inr.inr.inr.inr => exact ⟨[(.openArray, 0)], 1, 1, rfl⟩
    all_goals exact ⟨[], 0, 0, rfl⟩
  refine ⟨hstill start h, fun rest v => ?_⟩
  obtain ⟨ts, offset, finish, htokens⟩ := htokens start h rest
  exact Json.read_ne_ok_of_tokens htokens v

/-- The message begins like no document. -/
def BeginsForeign (message : String) : Prop :=
  ∃ start ∈ foreignStarts, start <+: message.toList

lemma BeginsForeign.append {a : String} (h : BeginsForeign a) (b : String) :
    BeginsForeign (a ++ b) := by
  obtain ⟨start, hmem, hstart⟩ := h
  rw [BeginsForeign, String.toList_append]
  exact ⟨start, hmem, hstart.trans (List.prefix_append _ _)⟩

/-- A warning or a failure is no document, with its sign or without. -/
theorem NoticeTaste.read_printed_ne_ok [Platform] (taste : NoticeTaste) {kind : NoticeKind}
    {message : String}
    (hkind : kind = .warn ∨ kind = .fail) (hmessage : BeginsForeign message) (v : Value) :
    Json.read (taste.printed false kind message).toList ≠ .ok v := by
  obtain ⟨start, hmem, hstart⟩ : ∃ start ∈ foreignStarts,
      start <+: (if taste.emoji then kind.sign else []) ++ message.toList := by
    cases taste.emoji with
    | false => exact hmessage
    | true =>
      refine ⟨kind.sign.take 1, ?_, (List.take_prefix 1 _).trans (List.prefix_append _ _)⟩
      rcases hkind with rfl | rfl <;> decide
  have hforeign := foreignStart_of_mem hmem
  rcases taste.isPrefix_printed kind hforeign.still hstart with hempty | hprefix
  · rw [hempty]
    exact Json.read_nil_ne_ok v
  · obtain ⟨rest, hrest⟩ := hprefix
    rw [← hrest]
    exact hforeign.unreadable rest v

/-! ## Causes of loading -/

lemma ConfigFault.beginsForeign_message (path : String) (c : ConfigFault) :
    BeginsForeign (c.message path) := by
  have hstart : ∀ a ∈ ["Configuration file ", "Unable to read ", "Invalid TOML in ",
      "[tool.elmcheck] in ", "Invalid configuration in "], BeginsForeign a := by
    unfold BeginsForeign
    decide
  cases c with
  | absent => exact .append (.append (hstart _ (by decide)) _) _
  | unreadable r => exact .append (.append (.append (hstart _ (by decide)) _) _) _
  | malformed c p => exact .append (.append (.append (hstart _ (by decide)) _) _) _
  | sectionNotTable => exact .append (.append (hstart _ (by decide)) _) _
  | invalid r => exact .append (.append (.append (hstart _ (by decide)) _) _) _

lemma ReportFault.beginsForeign_message (path : String) (c : ReportFault) :
    BeginsForeign (c.message path) := by
  have hstart : ∀ a ∈ ["Unable to load analyzer report ", "Analyzer report ",
      "Invalid issue in "], BeginsForeign a := by
    unfold BeginsForeign
    decide
  cases c with
  | unreadable r => exact .append (.append (.append (hstart _ (by decide)) _) _) _
  | malformed c p o => exact .append (.append (.append (hstart _ (by decide)) _) _) _
  | notArray => exact .append (.append (hstart _ (by decide)) _) _
  | notObject => exact .append (.append (hstart _ (by decide)) _) _
  | invalid r => exact .append (.append (.append (hstart _ (by decide)) _) _) _

/-- The cause is one of the program's own, not one told by somebody else. -/
def Fault.IsOwn : Fault → Prop
  | reported .. => False
  | _ => True

lemma Fault.IsOwn.beginsForeign_message {f : Fault} (own : f.IsOwn)
    (h : f.family = .config ∨ f.family = .report) : BeginsForeign f.message := by
  cases f with
  | config p c => exact c.beginsForeign_message p
  | report p c => exact c.beginsForeign_message p
  | reported family text line command => exact own.elim
  | system e =>
    rw [family] at h
    split at h <;> simp at h
  | markup c => cases c <;> simp [family] at h
  | _ => simp [family] at h

/-- Whatever fails, fails for a cause of the program's own. -/
def HasOwnCauses {α : Type} (x : Except Fault α) : Prop :=
  ∀ f, x = .error f → f.IsOwn

namespace HasOwnCauses

variable {α β ε : Type} {x : Except Fault α} {next : α → Except Fault β}

lemma ok (a : α) : HasOwnCauses (.ok a) := nofun

lemma error {f : Fault} (own : f.IsOwn) : HasOwnCauses (.error f : Except Fault α) := by
  rintro _ ⟨⟩
  exact own

lemma bind (hx : HasOwnCauses x) (hnext : ∀ a, HasOwnCauses (next a)) :
    HasOwnCauses (x >>= next) := by
  cases x with
  | ok a => exact hnext a
  | error f => exact error (hx f rfl)

lemma mapError (y : Except ε α) {wrap : ε → Fault} (own : ∀ e, (wrap e).IsOwn) :
    HasOwnCauses (y.mapError wrap) := by
  cases y with
  | ok a => exact ok a
  | error e => exact error (own e)

lemma mapM {read : α → Except Fault β} (hread : ∀ a, HasOwnCauses (read a)) (as : List α) :
    HasOwnCauses (as.mapM read) := by
  induction as with
  | nil => exact ok []
  | cons a as ih =>
    rw [List.mapM_cons]
    exact (hread a).bind fun b => ih.bind fun bs => ok (b :: bs)

lemma readFault {y : Except ReadFault α} {wrap : SystemFault → Fault}
    (own : ∀ e, (wrap e).IsOwn) : HasOwnCauses (y.mapError (ReadFault.fault wrap)) := by
  refine mapError y fun e => ?_
  cases e with
  | system cause => exact own cause
  | nullByte => trivial
  | undecodable cause => trivial

end HasOwnCauses

section Loading

variable (m : Machine)

lemma hasOwnCauses_holdsManifest (directory : Path) : HasOwnCauses (holdsManifest m directory) := by
  have hask : ∀ p, HasOwnCauses ((m.isFile p).mapError Fault.system) := fun p =>
    .mapError _ fun _ => trivial
  refine (hask _).bind fun found => ?_
  cases found with
  | true => exact .ok true
  | false => exact hask _

lemma hasOwnCauses_firstWithManifest (ds : List Path) :
    HasOwnCauses (firstWithManifest m ds) := by
  induction ds with
  | nil => exact .ok none
  | cons d ds ih =>
    rw [firstWithManifest]
    split
    · rename_i f hf
      exact .error (hasOwnCauses_holdsManifest m d f hf)
    · exact .ok (some d)
    · exact ih

lemma hasOwnCauses_projectRoot? (path : Path) : HasOwnCauses (projectRoot? m path) := by
  rw [projectRoot?]
  split
  · exact .bind (.mapError _ fun _ => trivial) fun _ => hasOwnCauses_firstWithManifest m _
  · refine .error ?_
    unfold Fault.ofHome
    split_ifs <;> trivial

lemma Config.hasOwnCauses_readTable [Platform] (path : Path) : HasOwnCauses (readTable m path) := by
  refine .bind (.readFault fun _ => trivial) fun cs => .bind (.mapError _ fun e => ?_) fun document =>
    .mapError _ fun _ => trivial
  cases e <;> trivial

lemma Config.hasOwnCauses_tryExpand [Platform] (environment : List (String × String)) (v : Value) :
    HasOwnCauses (tryExpand m environment v) := by
  intro f h
  rcases obstacle?_eq_some (tryExpand_eq_error_iff.1 h) with ⟨rfl, -⟩ | ⟨rfl, -⟩ <;> trivial

lemma Config.hasOwnCauses_load [Platform] (environment : List (String × String)) (root : Path)
    (path : Option Path) : HasOwnCauses (load m environment root path) := by
  refine .bind (.mapError _ fun _ => trivial) fun found => ?_
  split
  · split
    · exact .ok standard
    · exact .error trivial
  · exact .bind (hasOwnCauses_readTable m _) fun entries =>
      .bind (hasOwnCauses_tryExpand m _ _) fun expanded => .mapError _ fun _ => trivial

lemma AnalyzerReport.hasOwnCauses_readEntry (path : String) (v : Value) :
    HasOwnCauses (readEntry path v) := by
  unfold readEntry
  split
  · split
    · exact .ok _
    · exact .error trivial
  · exact .error trivial

lemma AnalyzerReport.hasOwnCauses_load [Platform] (path : Path) : HasOwnCauses (load m path) := by
  refine .bind (.readFault fun _ => trivial) fun cs => ?_
  unfold ofText
  split
  · rename_i e _
    cases e <;> exact .error trivial
  · exact .mapM (hasOwnCauses_readEntry path.text) _
  · exact .error trivial

end Loading

/-- A save by itself is not cancelled. -/
lemma Publisher.save_ne_cancelled [Platform] (p : Publisher) (m : Machine) (d : SavedDocument) :
    (p.save m d).2.1 ≠ .cancelled := by
  cases handled : p.handles d with
  | false =>
    rw [save_of_not_handles m handled]
    exact nofun
  | true =>
    cases hroot : p.analyzerRoot m (Path.absText m.cwd d.path) with
    | error f =>
      rw [save_of_error handled hroot]
      exact nofun
    | ok root =>
      rw [end_of_save handled hroot]
      split
      · exact nofun
      · split <;> exact nofun

namespace CommandLine

lemma beginsForeign_skipped {file : Path} (rest : String) :
    BeginsForeign ("Skipped " ++ file.text ++ rest) :=
  have hstart : BeginsForeign "Skipped " := ⟨['S'], by decide, by decide⟩
  (hstart.append _).append _

lemma beginsForeign_failed (f : Fault) : BeginsForeign ("Compiler run failed: " ++ f.message) :=
  have hstart : BeginsForeign "Compiler run failed: " := ⟨['C'], by decide, by decide⟩
  hstart.append _

section Check

variable [Platform] {m : Machine} {file : Path} {s : Settings}

lemma hasOwnCauses_configFor (m : Machine) (file : Path) (s : Settings) :
    HasOwnCauses (configFor m file s) :=
  .bind (.bind (hasOwnCauses_projectRoot? m file) fun _ => .ok _) fun _ =>
    Config.hasOwnCauses_load m _ _ _

lemma hasOwnCauses_issuesFor (m : Machine) (s : Settings) : HasOwnCauses (issuesFor m s) := by
  unfold issuesFor
  split
  · exact AnalyzerReport.hasOwnCauses_load m _
  · exact .ok []

/-- The configuration for a file or the issues of the analyzer cannot be loaded. -/
def FailsToLoad (m : Machine) (file : Path) (s : Settings) (f : Fault) : Prop :=
  configFor m file s = .error f ∨
    ∃ config, configFor m file s = .ok config ∧ issuesFor m s = .error f

/-- A check that cannot load what it needs says so, or does not end. -/
lemma check_of_not_loaded {f : Fault} (h : FailsToLoad m file s f) :
    check m file s =
      if f.family = .config ∨ f.family = .report then
        refusal { emoji := s.emoji.getD false } (LogSetup.initial.configured s.debug) f
      else .raised f := by
  rcases h with hconfig | ⟨config, hconfig, hissues⟩
  · simp only [check, hconfig]
    rfl
  · simp only [check, hconfig, hissues]
    rfl

/-- A check whose save was left by a fault does not end. -/
lemma check_of_raised {config : Config} {issues : List Diagnostic}
    (hconfig : configFor m file s = .ok config) (hissues : issuesFor m s = .ok issues) {f : Fault}
    (raised : (saveFor config issues m file s).2.1 = .raised f) : check m file s = .raised f := by
  rw [check_of_loaded hconfig hissues]
  generalize saveFor config issues m file s = saved at raised
  obtain ⟨p, ending, notices, runs⟩ := saved
  obtain rfl : ending = .raised f := raised
  rfl

/-- However a check ends, it has set the log up as the settings ask for. -/
lemma log_of_check {e : Ending} (ended : check m file s = .ended e) :
    e.log = LogSetup.initial.configured s.debug := by
  have hrefused : ∀ {f : Fault}, FailsToLoad m file s f →
      e.log = LogSetup.initial.configured s.debug := by
    intro f h
    rw [check_of_not_loaded h] at ended
    split at ended <;> cases ended
    rfl
  cases hconfig : configFor m file s with
  | error f => exact hrefused (.inl hconfig)
  | ok config =>
    cases hissues : issuesFor m s with
    | error f => exact hrefused (.inr ⟨config, hconfig, hissues⟩)
    | ok issues =>
      rw [check_of_loaded hconfig hissues] at ended
      generalize saveFor config issues m file s = saved at ended
      obtain ⟨p, ending, notices, runs⟩ := saved
      cases ending with
      | reported report =>
        dsimp only at ended
        split at ended <;> cases ended
        rfl
      | raised f => cases ended
      | cancelled =>
        cases ended
        rfl

/-! ## The streams of a check -/

/-- The file's check comes to publishing: its configuration and the issues of the analyzer are
loaded, and the save is neither skipped nor does its run fail. -/
def Publishes (m : Machine) (file : Path) (s : Settings) : Prop :=
  ∃ config issues report, configFor m file s = .ok config ∧ issuesFor m s = .ok issues ∧
    (saveFor config issues m file s).2.1 = .reported report ∧ report.skipped = false ∧ report.error = none

/-- A notice that says why nothing is published. -/
def IsExcuse (text : String) : Prop :=
  ∃ (taste : NoticeTaste) (kind : NoticeKind) (message : String),
    (kind = .warn ∨ kind = .fail) ∧ BeginsForeign message ∧ text = taste.printed false kind message

lemma IsExcuse.read_ne_ok {text : String} (h : IsExcuse text) (v : Value) :
    Json.read text.toList ≠ .ok v := by
  obtain ⟨taste, kind, message, hkind, hmessage, rfl⟩ := h
  exact taste.read_printed_ne_ok hkind hmessage v

/-- A check that could not load what it needs publishes nothing. -/
lemma not_publishes_of_error {f : Fault} (h : FailsToLoad m file s f) :
    ¬ Publishes m file s := by
  rintro ⟨config, issues, report, hconfig, hissues, -⟩
  rcases h with hconfig' | ⟨config', -, hissues'⟩
  · rw [hconfig] at hconfig'
    cases hconfig'
  · rw [hissues] at hissues'
    cases hissues'

/-- A check that ends without what it needs says why. -/
lemma isExcuse_of_not_loaded {f : Fault} {e : Ending} (h : FailsToLoad m file s f)
    (ended : check m file s = .ended e) : IsExcuse e.stdout := by
  have hown : f.IsOwn := by
    rcases h with hconfig | ⟨config, -, hissues⟩
    · exact hasOwnCauses_configFor m file s f hconfig
    · exact hasOwnCauses_issuesFor m s f hissues
  rw [check_of_not_loaded h] at ended
  split at ended
  · rename_i hfamily
    cases ended
    exact ⟨_, .fail, f.message, .inr rfl, hown.beginsForeign_message hfamily, rfl⟩
  · cases ended

variable {config : Config} {issues : List Diagnostic} (hconfig : configFor m file s = .ok config)
  (hissues : issuesFor m s = .ok issues)

include hconfig hissues

/-- Whether a check publishes is told by the report of its save. -/
lemma publishes_iff {report : PublishReport}
    (returned : (saveFor config issues m file s).2.1 = .reported report) :
    Publishes m file s ↔ report.skipped = false ∧ report.error = none := by
  constructor
  · rintro ⟨config', issues', report', hconfig', hissues', returned', h⟩
    obtain rfl : config = config' := Except.ok.inj (hconfig.symm.trans hconfig')
    obtain rfl : issues = issues' := Except.ok.inj (hissues.symm.trans hissues')
    obtain rfl : report = report' := SaveEnd.reported.inj (returned.symm.trans returned')
    exact h
  · exact fun h => ⟨config, issues, report, hconfig, hissues, returned, h⟩

variable (json : s.json = true)

include json

/-- The streams of a check that ends after its save. -/
lemma streams_of_loaded {e : Ending} (ended : check m file s = .ended e) :
    (Publishes m file s ∧ (∃ v, Json.read e.stdout.toList = .ok v) ∨
        ¬ Publishes m file s ∧ IsExcuse e.stdout) ∧
      e.stderr = String.join ((saveFor config issues m file s).2.2.1.map echo) := by
  cases hending : (saveFor config issues m file s).2.1 with
  | cancelled => exact absurd hending (Publisher.save_ne_cancelled _ _ _)
  | raised f =>
    rw [check_of_raised hconfig hissues hending] at ended
    cases ended
  | reported report =>
    rw [publishes_iff hconfig hissues hending]
    cases hskipped : report.skipped with
    | true =>
      rw [check_of_reported hconfig hissues hending json (by rw [reportSave, if_pos hskipped])]
        at ended
      cases ended
      exact ⟨.inr ⟨by simp, _, .warn, _, .inl rfl, beginsForeign_skipped _, rfl⟩, rfl⟩
    | false =>
      cases herror : report.error with
      | some f =>
        rw [check_of_reported hconfig hissues hending json
          (by rw [reportSave, hskipped, herror]; rfl)] at ended
        cases ended
        exact ⟨.inr ⟨by simp, _, .fail, _, .inr rfl, beginsForeign_failed f, rfl⟩, rfl⟩
      | none =>
        rw [check_of_reported hconfig hissues hending json
          (by rw [reportSave, hskipped, herror]; rfl)] at ended
        cases ended
        obtain ⟨r, -, -, v, -, -, -, hread, -⟩ :=
          published_of_returned hissues hending hskipped herror
        exact ⟨.inl ⟨⟨rfl, rfl⟩, v, hread⟩, rfl⟩

end Check

/-- **With JSON, standard output holds a document exactly when something is published.**  Otherwise
it holds a notice for people, which says why nothing is.  What the run has to say is on the other
stream in any case, and apart from the records of the log (`log_of_check`) nothing else is written
there. -/
theorem check_json_document_iff [Platform] {m : Machine} {file : Path} {s : Settings} {e : Ending}
    (json : s.json = true) (ended : check m file s = .ended e) :
    ((∃ v, Json.read e.stdout.toList = .ok v) ↔ Publishes m file s) ∧
      (¬ Publishes m file s → IsExcuse e.stdout) ∧
      ∀ config issues, configFor m file s = .ok config → issuesFor m s = .ok issues →
        e.stderr = String.join ((saveFor config issues m file s).2.2.1.map echo) := by
  have hstdout : Publishes m file s ∧ (∃ v, Json.read e.stdout.toList = .ok v) ∨
      ¬ Publishes m file s ∧ IsExcuse e.stdout := by
    cases hconfig : configFor m file s with
    | error f =>
      have hnot : FailsToLoad m file s f := .inl hconfig
      exact .inr ⟨not_publishes_of_error hnot, isExcuse_of_not_loaded hnot ended⟩
    | ok config =>
      cases hissues : issuesFor m s with
      | error f =>
        have hnot : FailsToLoad m file s f := .inr ⟨config, hconfig, hissues⟩
        exact .inr ⟨not_publishes_of_error hnot, isExcuse_of_not_loaded hnot ended⟩
      | ok issues => exact (streams_of_loaded hconfig hissues json ended).1
  refine ⟨⟨?_, fun h => ?_⟩, fun h => ?_,
    fun config issues hconfig hissues => (streams_of_loaded hconfig hissues json ended).2⟩
  · rintro ⟨v, hv⟩
    rcases hstdout with ⟨hpublishes, -⟩ | ⟨-, hexcuse⟩
    · exact hpublishes
    · exact absurd hv (hexcuse.read_ne_ok v)
  · exact (hstdout.resolve_right fun hexcuse => hexcuse.1 h).2
  · exact (hstdout.resolve_left fun hpublished => h hpublished.1).2

/-- Without a compiler there is a document, and what the user is told is on the other stream. -/
theorem absent_compiler_document :
    let file : Path := ⟨.root, ["Main.elm"]⟩
    let s : Settings := { json := true }
    ∃ e, check bareMachine file s = .ended e ∧ (∃ v, Json.read e.stdout.toList = .ok v) ∧
      e.stderr ≠ "" := by
  intro file s
  have hconfig : configFor bareMachine file s = .ok .standard :=
    eq_ok_of_toOption (by decide +kernel)
  obtain ⟨report, hreport, hskipped, herror⟩ := exists_report_of_isPublishing
    (e := (saveFor .standard [] bareMachine file s).2.1) (by decide +kernel)
  have hnotices : String.join ((saveFor .standard [] bareMachine file s).2.2.1.map echo) ≠ "" := by
    decide +kernel
  have hended := check_of_reported hconfig rfl hreport rfl
    (by rw [reportSave, hskipped, herror]; rfl)
  obtain ⟨hdocument, -, hstderr⟩ := check_json_document_iff rfl hended
  refine ⟨_, hended, hdocument.2 ⟨.standard, [], report, hconfig, rfl, hreport, hskipped, herror⟩, ?_⟩
  rw [hstderr .standard [] hconfig rfl]
  exact hnotices

/-- Not every check with JSON puts a document on standard output: a skipped save is told there. -/
theorem not_forall_check_json_document :
    ¬ ∀ (m : Machine) (file : Path) (s : Settings) (e : Ending), s.json = true →
      check m file s = .ended e → ∃ v, Json.read e.stdout.toList = .ok v := by
  intro h
  let file : Path := ⟨.root, ["README.md"]⟩
  let s : Settings := { json := true }
  have hconfig : configFor bareMachine file s = .ok .standard :=
    eq_ok_of_toOption (by decide +kernel)
  have handled : (publisherFor .standard [] s).handles (.ofPath bareMachine.cwd file.text) = false := by
    decide +kernel
  have hsave : saveFor .standard [] bareMachine file s = _ :=
    Publisher.save_of_not_handles bareMachine handled
  have hcheck := check_of_reported hconfig rfl (by rw [hsave]) rfl (by rw [reportSave, if_pos rfl])
  obtain ⟨v, hv⟩ := h _ _ _ _ rfl hcheck
  exact NoticeTaste.read_printed_ne_ok _ (.inl rfl) (beginsForeign_skipped _) v hv

end CommandLine

end ElmOnSave
