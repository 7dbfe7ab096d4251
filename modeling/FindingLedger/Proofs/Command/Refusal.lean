/-
Comparisons whose results are refused.

Main statement: with results of tidy entries, a comparison refuses the results, before any
baseline is loaded, exactly when some entry is no finding with texts.  Otherwise it ends with a
status, or it breaks off where a broken text is to be shown.
-/
import FindingLedger.Proofs.Command.Gate
import FindingLedger.Proofs.Results

namespace FindingLedger

namespace Command

variable {s : Surroundings}

section Shown

/-- What keeps a finding with texts from being shown is a broken one. -/
theorem eq_notEncodable_of_hasStrings {file : String} {f : Finding} (hf : f.HasStrings)
    {fault : RunFault} (hfails : findingText file f = .error fault) : fault = .notEncodable := by
  have hprintable : ∀ v : Datum, v.isString = true → ∃ text?, printable v = .ok text? := by
    intro v hv
    unfold Datum.isString at hv
    split at hv
    · exact ⟨_, rfl⟩
    · exact ⟨_, rfl⟩
    · cases hv
  obtain ⟨detail, hdetail⟩ := hprintable _ hf.2
  obtain ⟨rule, hrule⟩ := hprintable _ hf.1
  rw [findingText, hdetail, hrule] at hfails
  cases detail <;> cases rule <;> cases hfails <;> rfl

theorem strayFault_of_hasStrings {f : Finding} (hf : f.HasStrings) :
    strayFault f = .notEncodable := by
  unfold strayFault
  split
  · next hfails => exact eq_notEncodable_of_hasStrings hf hfails
  · rfl

theorem findingLines_of_hasStrings {fs : List (String × Finding)}
    (hfs : ∀ e ∈ fs, e.2.HasStrings) :
    (findingLines fs).2 = none ∨ (findingLines fs).2 = some .notEncodable := by
  induction fs with
  | nil => exact Or.inl rfl
  | cons e rest ih =>
    obtain ⟨file, f⟩ := e
    rw [findingLines]
    cases hshown : findingText file f with
    | error fault =>
      have hfault := eq_notEncodable_of_hasStrings (hfs _ List.mem_cons_self) hshown
      exact Or.inr (congrArg some hfault)
    | ok text => exact ih fun e he => hfs e (List.mem_cons_of_mem _ he)

/-- The stray at which a comparison breaks off is one of the strays, and the finding is its. -/
theorem exists_of_firstStray? {r : Results} {name : BrokenText} {f : Finding}
    (hfirst : r.firstStray? = some (name, f)) : ∃ stray ∈ r.strays, f ∈ stray.2 := by
  have hmem := List.mem_mergeSort.1 (List.mem_of_head? hfirst)
  obtain ⟨stray, hstray, hhead⟩ := List.mem_filterMap.1 hmem
  obtain ⟨g, hg, hpair⟩ := Option.map_eq_some_iff.1 hhead
  cases hpair
  exact ⟨stray, hstray, List.mem_of_head? hg⟩

/-- Comparing findings with texts ends with status zero or one, or breaks off at a broken one. -/
theorem showDiff_ends {b : Baseline} (hb : b.files.HaveRuleIds) {found : Results}
    (hstrings : found.HaveStrings) (p : Progress) (isQuiet : Bool) :
    (showDiff p isQuiet b found).2 = .exit 0 ∨ (showDiff p isQuiet b found).2 = .exit 1 ∨
      (showDiff p isQuiet b found).2 = .crash .notEncodable := by
  obtain ⟨d, hd, hfresh⟩ := Baseline.exists_diff hb
    fun entry hentry f hf => (hstrings.files entry hentry f hf).1
  have hnew : ∀ entry ∈ byName d.fresh, ∀ f ∈ entry.2, f.HasStrings := by
    intro kept hkept f hf
    obtain ⟨entry, hentry, hmem⟩ := hfresh kept (List.mem_mergeSort.1 hkept) f hf
    exact hstrings.files entry hentry f hmem
  rw [showDiff, hd]
  dsimp only
  cases hfirst : found.firstStray? with
  | some first =>
    obtain ⟨name, f⟩ := first
    obtain ⟨stray, hstray, hmem⟩ := exists_of_firstStray? hfirst
    -- The findings of files before the stray may be broken themselves, which ends alike.
    have hbefore : ∀ e ∈ Findings.flatten ((byName d.fresh).filter
        fun e => e.1.toList.map Char.toNat < name.codes), e.2.HasStrings :=
      forall_mem_flatten fun entry hentry => hnew entry (List.mem_filter.1 hentry).1
    right
    right
    dsimp only
    rw [showUpTo]
    dsimp only
    rcases findingLines_of_hasStrings hbefore with hnone | hbroken
    · rw [hnone, Option.getD_none, strayFault_of_hasStrings (hstrings.strays stray hstray f hmem)]
    · rw [hbroken, Option.getD_some]
  | none =>
    have hall := forall_mem_flatten hnew
    dsimp only
    rcases hlines : findingLines (Findings.flatten (byName d.fresh)) with ⟨lines, _ | fault⟩
    · cases d.hasFresh
      · exact Or.inl rfl
      · exact Or.inr (Or.inl rfl)
    · rcases findingLines_of_hasStrings hall with hnone | hbroken
      · rw [hlines] at hnone
        cases hnone
      · rw [hlines] at hbroken
        cases hbroken
        exact Or.inr (Or.inr rfl)

end Shown

namespace Call

variable {t : FileTree} {args : List String}

/-- The bytes of the results are the text of a value. -/
def ReadsValue (c : Call .diff s t args) (v : Datum) : Prop :=
  ∃ bytes text, c.ready.read s.cwd (Path.ofString (c.line.words.head?.getD "")).text =
    .ok bytes ∧ Utf8.decodeLines bytes.toList = .ok text ∧ Json.read text = .ok v

/-- A comparison of results that can be shown runs its course. -/
def course (c : Call .diff s t args) (hanswers : c.Answers) (hvisible : c.IsVisible)
    {found : Results} (hresults : c.results = .ok found) (hshow : found.AreShowable) :
    Course s t args where
  toCall := c
  found := found
  path_not_blank := hvisible
  path_answers := hanswers
  reads_results := hresults
  showable := hshow

theorem ReadsValue.results_eq {c : Call .diff s t args} {v : Datum} (hreads : c.ReadsValue v) :
    c.results = Results.ofDatum v := by
  obtain ⟨bytes, text, hread, hdecode, hjson⟩ := hreads
  rw [results, Results.ofFile, hread]
  dsimp only
  rw [Results.ofBytes, hdecode]
  simp only [Except.mapError, bind, Except.bind, hjson]

/-- The end of a run that refuses the results: this is told, no baseline was loaded, and the
status is two. -/
def IsRefused (c : Call .diff s t args) (p : Progress) (outcome : Outcome) : Prop :=
  outcome.1.tree = c.ready ∧ ∃ fault, c.results = .error fault ∧
    outcome = ((c.started p).print
      s!"[red]Unable to read lint results:[/] {Markup.escape fault.message}", .exit 2)

/-- A run breaks off where a broken text is to be shown: the rule or the text for the reader of a
finding, or the name of its file. -/
def BreaksOff (found : Results) (outcome : Outcome) : Prop :=
  ¬ found.AreShowable ∧ outcome.2 = .crash .notEncodable

/-- A comparison of findings with texts ends with status zero or one, or breaks off at a broken
one. -/
theorem ends_of_haveStrings (c : Call .diff s t args) (hanswers : c.Answers)
    (hvisible : c.IsVisible) {found : Results} (hresults : c.results = .ok found)
    (hstrings : found.HaveStrings) {p : Progress} (hp : p.tree = t) :
    (run s p args).2 = .exit 0 ∨ (run s p args).2 = .exit 1 ∨
      BreaksOff found (run s p args) := by
  by_cases hshow : found.AreShowable
  · have hends := ((c.course hanswers hvisible hresults hshow).run_endsIn hp).ending
    rw [hends, Course.status]
    split
    · exact Or.inr (Or.inl rfl)
    · exact Or.inl rfl
  · rw [c.run_diff hanswers hp, hresults]
    dsimp only
    rw [c.loadBaseline_eq hvisible rfl]
    dsimp only
    rcases showDiff_ends (c.haveRuleIds_loaded hanswers) hstrings _ (c.program.has .quiet) with
      hgood | hnew | hbroken
    · exact Or.inl hgood
    · exact Or.inr (Or.inl hnew)
    · exact Or.inr (Or.inr ⟨hshow, hbroken⟩)

/-- Whatever value the results are, a comparison ends with status zero or one if this is
proper, unless it breaks off at a broken text.  If it is not proper, and every entry is tidy, the
results are refused.  Breaking off while they are read is due to an entry that is not. -/
theorem compares_or_refuses (c : Call .diff s t args) (hanswers : c.Answers)
    (hvisible : c.IsVisible) {v : Datum} (hreads : c.ReadsValue v) {p : Progress}
    (hp : p.tree = t) :
    (Results.AreProper v → ∃ found, c.results = .ok found ∧
      ((run s p args).2 = .exit 0 ∨ (run s p args).2 = .exit 1 ∨
        BreaksOff found (run s p args))) ∧
    ((∀ m ∈ Results.entriesOf v, Finding.isTidy m = true) → ¬ Results.AreProper v →
      c.IsRefused p (run s p args)) ∧
    (∀ fault, c.results = .error fault → fault.isExpected = false →
      run s p args = (c.started p, .crash (.results fault)) ∧
        ∃ m ∈ Results.entriesOf v, Finding.isTidy m = false) := by
  have hresults := hreads.results_eq
  have hrun := c.run_diff hanswers hp
  refine ⟨?_, ?_, ?_⟩
  · intro hproper
    obtain ⟨found, hfound, hstrings⟩ := Results.exists_ofDatum_iff.2 hproper
    have hread := hresults.trans hfound
    exact ⟨found, hread, c.ends_of_haveStrings hanswers hvisible hread hstrings hp⟩
  · intro htidy himproper
    cases hfound : Results.ofDatum v with
    | ok found => exact absurd (Results.areProper_of_isTidy htidy hfound) himproper
    | error fault =>
      rw [hresults, hfound] at hrun
      dsimp only at hrun
      rw [if_pos (Results.isExpected_of_isTidy htidy hfound)] at hrun
      rw [hrun]
      exact ⟨rfl, fault, hresults.trans hfound, rfl⟩
  · intro fault hfault hunexpected
    rw [hfault] at hrun
    dsimp only at hrun
    rw [hunexpected, if_neg Bool.false_ne_true] at hrun
    refine ⟨hrun, ?_⟩
    -- Tidy entries alone would have failed as expected.
    by_contra htidy
    have hexpected := Results.isExpected_of_isTidy (fun m hm => ?_) (hresults.symm.trans hfault)
    · rw [hunexpected] at hexpected
      cases hexpected
    · by_contra huntidy
      exact htidy ⟨m, hm, Bool.not_eq_true _ ▸ huntidy⟩

end Call

def resultWith (fields : String) : String :=
  "\x7b\"a.kt\": [\x7b\"line\": 1, \"col\": 2, " ++ fields ++ "\x7d]\x7d"

def plainRun (baseline results : String) : Outcome :=
  run here ⟨workTree baseline results, .unset, [], []⟩ ["diff", "results.json"]

/-- The value of a text, if it is the text of one. -/
def value? (results : String) : Option Datum :=
  (Utf8.decodeLines results.toUTF8.toList).toOption.bind fun text => (Json.read text).toOption

theorem plainCall_readsValue (baseline results : String) (test : Datum → Bool)
    (hany : (value? results).any test = true) :
    ∃ v, (plainCall baseline results).ReadsValue v ∧ test v = true := by
  cases hv : value? results with
  | none =>
    rw [hv] at hany
    cases hany
  | some v =>
    rw [hv] at hany
    obtain ⟨text, htext, hjson⟩ := Option.bind_eq_some_iff.1 hv
    refine ⟨v, ?_, hany⟩
    exact ⟨results.toUTF8, text, read_results baseline results, toOption_eq_some.1 htext,
      toOption_eq_some.1 hjson⟩

/-- A result with a word for its status that stands for none. -/
def unknownStatus : String := resultWith "\"rule_id\": \"rule-a\", \"status\": \"odd\""

/-- A result without a value for its status. -/
def nullStatus : String := resultWith "\"rule_id\": \"rule-a\", \"status\": null"

/-- A result with a number in place of the text for the reader. -/
def numberDetail : String := resultWith "\"rule_id\": \"rule-a\", \"detail\": 7"

/-- A word that stands for no status is refused, and the baseline stays whatever it is. -/
theorem refuses_unknownStatus :
    ∃ v, (plainCall "<broken" unknownStatus).ReadsValue v ∧
      (∀ m ∈ Results.entriesOf v, Finding.isTidy m = true) ∧ ¬ Results.AreProper v ∧
      (plainCall "<broken" unknownStatus).IsRefused
        ⟨workTree "<broken" unknownStatus, .unset, [], []⟩ (plainRun "<broken" unknownStatus) := by
  obtain ⟨v, hreads, hodd⟩ := plainCall_readsValue "<broken" unknownStatus
    (fun v => (Results.entriesOf v).all Finding.isTidy && !decide (Results.AreProper v))
    (by decide +kernel)
  obtain ⟨htidy, himproper⟩ := Bool.and_eq_true_iff.1 hodd
  have htidy := List.all_eq_true.1 htidy
  have himproper : ¬ Results.AreProper v := by simpa using himproper
  have hanswers := answers_plainCall "<broken" unknownStatus
  have hvisible := isVisible_plainCall "<broken" unknownStatus
  refine ⟨v, hreads, htidy, himproper, ?_⟩
  exact ((plainCall _ _).compares_or_refuses hanswers hvisible hreads rfl).2.1 htidy himproper

/-- The results are a value that is not proper, and nothing else is wrong with the call. -/
def IsImproper (baseline results : String) : Prop :=
  (plainCall baseline results).Answers ∧ (plainCall baseline results).IsVisible ∧
    ∃ v, (plainCall baseline results).ReadsValue v ∧ ¬ Results.AreProper v

theorem isImproper_of_any (baseline : String) {results : String}
    (hany : ((value? results).any fun v => !decide (Results.AreProper v)) = true) :
    IsImproper baseline results := by
  obtain ⟨v, hreads, himproper⟩ := plainCall_readsValue baseline results _ hany
  exact ⟨answers_plainCall baseline results, isVisible_plainCall baseline results, v, hreads,
    by simpa using himproper⟩

/-- A new result with half a pair for the reader. -/
def brokenDetail : String := resultWith "\"rule_id\": \"rule-b\", \"detail\": \"\\ud800\""

/-- Entries that are not tidy are needed to break this.  A status without a value makes reading
the results break off; a text for the reader that is a number is never looked at where the
baseline has the result; and where a new finding can not be shown, the file that is no
baseline is gone already.  A broken text is one that can not be shown. -/
theorem not_refuses_untidy :
    (IsImproper acceptingText nullStatus ∧
      (plainRun acceptingText nullStatus).2.status? = none) ∧
    (IsImproper acceptingText numberDetail ∧
      (plainRun acceptingText numberDetail).2 = .exit 0) ∧
    (IsImproper "<broken" numberDetail ∧
      (plainRun "<broken" numberDetail).2.status? = none ∧
      (plainRun "<broken" numberDetail).1.tree.node? ["w", "baseline.xml"] = none) ∧
    (∃ v, (plainCall acceptingText brokenDetail).ReadsValue v ∧ Results.AreProper v ∧
      (plainRun acceptingText brokenDetail).2.status? = none) := by
  refine ⟨⟨?_, ?_⟩, ⟨?_, ?_⟩, ⟨?_, ?_, ?_⟩, ?_⟩
  · exact isImproper_of_any _ (by decide +kernel)
  · decide +kernel
  · exact isImproper_of_any _ (by decide +kernel)
  · exact Ending.eq_exit (by decide +kernel)
  · exact isImproper_of_any _ (by decide +kernel)
  · decide +kernel
  · decide +kernel
  · obtain ⟨v, hreads, hproper⟩ := plainCall_readsValue acceptingText brokenDetail
      (fun v => decide (Results.AreProper v)) (by decide +kernel)
    exact ⟨v, hreads, of_decide_eq_true hproper, by decide +kernel⟩

end Command

end FindingLedger
