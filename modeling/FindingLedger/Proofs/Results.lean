/-
Which lint results are refused.

Results are those of a comparison when every entry of every file is a finding with texts for its
rule and for the reader.  All others are refused with a word to the user, unless an entry has a
status, a rule or a text for the reader that is no text, or an infinite position.
-/
import FindingLedger.Proofs.Finding.Twin
import FindingLedger.Results

namespace FindingLedger

/-- Whether a value is an infinite number. -/
def Datum.isInfinite : Datum → Bool
  | .scalar (.float x) => (Decimal.truncate? x).isNone && !x.isNaN
  | _ => false

/-- The rule and the text for the reader are texts, broken or not. -/
def Finding.HasStrings (f : Finding) : Prop :=
  f.rule.isString = true ∧ f.detail.isString = true

instance (f : Finding) : Decidable f.HasStrings := inferInstanceAs (Decidable (_ ∧ _))

/-- The findings of all files have texts for their rules and for the reader. -/
structure Results.HaveStrings (r : Results) : Prop where
  files : ∀ entry ∈ r.files, ∀ f ∈ entry.2, f.HasStrings
  strays : ∀ stray ∈ r.strays, ∀ f ∈ stray.2, f.HasStrings

instance (r : Results) : Decidable r.HaveStrings :=
  decidable_of_iff ((∀ entry ∈ r.files, ∀ f ∈ entry.2, f.HasStrings) ∧
      ∀ stray ∈ r.strays, ∀ f ∈ stray.2, f.HasStrings)
    ⟨fun h => ⟨h.1, h.2⟩, fun h => ⟨h.files, h.strays⟩⟩

namespace Finding

/-- The fields of which the values should be texts. -/
def textFields : List String := ["status", "rule_id", "detail"]

def positionFields : List String := ["line", "col"]

/-- Whether what stands for a finding gives texts where these belong, and no infinite
position.  It need not give anything at all. -/
def isTidy : Datum → Bool
  | .dict entries =>
    (textFields.all fun name => (Datum.find? (.text name) entries).all Datum.isString) &&
      positionFields.all fun name => (Datum.find? (.text name) entries).all (!·.isInfinite)
  | _ => true

section Tidy

variable {entries : List (Scalar × Datum)} {name : String} {v : Datum} {fault : FindingFault}

theorem isString_of_isTidy (htidy : isTidy (.dict entries) = true) (hname : name ∈ textFields)
    (hfound : Datum.find? (.text name) entries = some v) : v.isString = true := by
  have hall := List.all_eq_true.1 (Bool.and_eq_true_iff.1 htidy).1 name hname
  rw [hfound] at hall
  exact hall

theorem isInfinite_of_isTidy (htidy : isTidy (.dict entries) = true)
    (hname : name ∈ positionFields) (hfound : Datum.find? (.text name) entries = some v) :
    v.isInfinite = false := by
  have hall := List.all_eq_true.1 (Bool.and_eq_true_iff.1 htidy).2 name hname
  rw [hfound] at hall
  simpa using hall

theorem field_eq_ok (hfield : field entries name = .ok v) :
    Datum.find? (.text name) entries = some v := by
  unfold field at hfield
  split at hfield
  · rename_i hfound
    rw [hfound, Except.ok.inj hfield]
  · cases hfield

theorem fieldsOf_eq_ok (hfields : fieldsOf v = .ok entries) : v = .dict entries := by
  unfold fieldsOf at hfields
  split at hfields <;> cases hfields
  rfl

theorem isExpected_of_wholeLike {text quoted : String}
    (hfails : wholeLike text quoted = .error fault) :
    (ResultsFault.finding fault).isExpected = true := by
  unfold wholeLike at hfails
  split at hfails <;> cases hfails <;> rfl

/-- A field fails as expected when it is missing, or when its value fails so. -/
theorem isExpected_of_position (htidy : isTidy (.dict entries) = true)
    (hname : name ∈ positionFields)
    (hfails : (field entries name >>= wholeOf) = .error fault) :
    (ResultsFault.finding fault).isExpected = true := by
  rcases bind_eq_error.1 hfails with hmissing | ⟨v, hfield, hwhole⟩
  · unfold field at hmissing
    split at hmissing <;> cases hmissing
    rfl
  · have hfinite := isInfinite_of_isTidy htidy hname (field_eq_ok hfield)
    unfold wholeOf at hwhole
    split at hwhole
    · cases hwhole
    · cases hwhole
    · rename_i x
      split at hwhole
      · cases hwhole
      · rename_i hnone
        rw [Datum.isInfinite, hnone] at hfinite
        have hnan : x.isNaN = true := by simpa using hfinite
        rw [if_pos hnan] at hwhole
        cases hwhole
        rfl
    · obtain ⟨e, _, rfl⟩ := mapError_eq_error.1 hwhole
      rfl
    · exact isExpected_of_wholeLike hwhole
    · exact isExpected_of_wholeLike hwhole
    · cases hwhole
      rfl

/-- A text stands for a status, or it is a word that stands for none. -/
theorem isExpected_of_status (hstring : v.isString = true) (hfails : statusOf v = .error fault) :
    (ResultsFault.finding fault).isExpected = true := by
  unfold Datum.isString at hstring
  split at hstring
  · unfold statusOf at hfails
    dsimp only at hfails
    split at hfails <;> cases hfails
    rfl
  · cases hfails
    rfl
  · cases hstring

/-- What gives texts where these belong and no infinite position fails as expected, if it
is no finding. -/
theorem isExpected_of_isTidy (htidy : isTidy v = true) (hfails : ofDatum v = .error fault) :
    (ResultsFault.finding fault).isExpected = true := by
  unfold ofDatum at hfails
  rcases bind_eq_error.1 hfails with hfields | ⟨entries, hfields, hfails⟩
  · unfold fieldsOf at hfields
    split at hfields <;> cases hfields <;> rfl
  rw [fieldsOf_eq_ok hfields] at htidy
  rw [← bind_assoc] at hfails
  rcases bind_eq_error.1 hfails with hline | ⟨line, _, hfails⟩
  · exact isExpected_of_position htidy (by decide) hline
  rw [← bind_assoc] at hfails
  rcases bind_eq_error.1 hfails with hcolumn | ⟨column, _, hfails⟩
  · exact isExpected_of_position htidy (by decide) hcolumn
  rcases bind_eq_error.1 hfails with hrule | ⟨rule, _, hfails⟩
  · unfold field at hrule
    split at hrule <;> cases hrule
    rfl
  rcases bind_eq_error.1 hfails with hstatus | ⟨status, _, hnever⟩
  · apply isExpected_of_status _ hstatus
    cases hgiven : Datum.find? (.text "status") entries with
    | none => rfl
    | some v => exact isString_of_isTidy htidy (by decide) hgiven
  · cases hnever

/-- What gives texts where these belong has them, if it is a finding. -/
theorem hasStrings_of_isTidy {f : Finding} (htidy : isTidy v = true)
    (hfinding : ofDatum v = .ok f) : f.HasStrings := by
  unfold ofDatum at hfinding
  obtain ⟨entries, hfields, hfinding⟩ := bind_eq_ok.1 hfinding
  rw [fieldsOf_eq_ok hfields] at htidy
  obtain ⟨line, _, hfinding⟩ := bind_eq_ok.1 hfinding
  obtain ⟨line', _, hfinding⟩ := bind_eq_ok.1 hfinding
  obtain ⟨column, _, hfinding⟩ := bind_eq_ok.1 hfinding
  obtain ⟨column', _, hfinding⟩ := bind_eq_ok.1 hfinding
  obtain ⟨rule, hrule, hfinding⟩ := bind_eq_ok.1 hfinding
  obtain ⟨status, _, hfinding⟩ := bind_eq_ok.1 hfinding
  cases hfinding
  refine ⟨isString_of_isTidy htidy (by decide) (field_eq_ok hrule), ?_⟩
  dsimp only
  cases hgiven : Datum.find? (.text "detail") entries with
  | none => rfl
  | some v => exact isString_of_isTidy htidy (by decide) hgiven

end Tidy

end Finding

namespace Results

def entriesOf : Datum → List Datum
  | .dict files => files.flatMap fun e => ((membersOf e.2).toOption).getD []
  | _ => []

/-- What stands for the findings of a file has members, and each of these is a finding with
texts. -/
def ListsFindings (v : Datum) : Prop :=
  ∃ members, membersOf v = .ok members ∧
    ∀ m ∈ members, ∃ f, Finding.ofDatum m = .ok f ∧ f.HasStrings

/-- A value is an object that lists findings for every file. -/
def AreProper (v : Datum) : Prop :=
  ∃ files, v = .dict files ∧ ∀ e ∈ files, ListsFindings e.2

def ofEntry (e : Scalar × Datum) : Except ResultsFault (Scalar × List Finding) := do
  let members ← membersOf e.2
  let fs ← findingsOf members
  .ok (e.1, fs)

theorem findingsOf_eq (members : List Datum) :
    findingsOf members = members.mapM fun m => (Finding.ofDatum m).mapError .finding := by
  induction members with
  | nil => rfl
  | cons m rest ih =>
    rw [findingsOf, List.mapM_cons, ih]
    rfl

theorem ofEntries_eq (files : List (Scalar × Datum)) : ofEntries files = files.mapM ofEntry := by
  induction files with
  | nil => rfl
  | cons e rest ih =>
    obtain ⟨file, v⟩ := e
    rw [ofEntries, List.mapM_cons, ih, ofEntry]
    simp only [bind_assoc]
    rfl

/-- A key stands for the name of a file or for a broken one. -/
theorem name?_or_stray? (key : Scalar) :
    (∃ name, name? key = some name) ∨ ∃ t, stray? key = some t := by
  cases key with
  | broken t => exact Or.inr ⟨t, rfl⟩
  | _ => exact Or.inl ⟨_, rfl⟩

/-- The entries whose keys stand for names of one kind keep their findings. -/
theorem mem_named_iff {α : Type} {nameOf : Scalar → Option α} {fs : List (Scalar × List Finding)}
    {entry : α × List Finding} :
    entry ∈ (fs.filterMap fun e => (nameOf e.1).map (·, e.2)) ↔
      ∃ e ∈ fs, nameOf e.1 = some entry.1 ∧ e.2 = entry.2 := by
  rw [List.mem_filterMap]
  constructor
  · rintro ⟨e, he, hpair⟩
    obtain ⟨name, hname, rfl⟩ := Option.map_eq_some_iff.1 hpair
    exact ⟨e, he, hname, rfl⟩
  · rintro ⟨e, he, hname, hfindings⟩
    refine ⟨e, he, ?_⟩
    rw [hname, hfindings]
    rfl

/-- The findings of all files, be their names broken or not, are those of the results. -/
theorem haveStrings_ofFindings {fs : List (Scalar × List Finding)} :
    (ofFindings fs).HaveStrings ↔ ∀ e ∈ fs, ∀ f ∈ e.2, f.HasStrings := by
  constructor
  · intro hall e he
    rcases name?_or_stray? e.1 with ⟨name, hname⟩ | ⟨t, hbroken⟩
    · exact hall.files (name, e.2) (mem_named_iff.2 ⟨e, he, hname, rfl⟩)
    · exact hall.strays (t, e.2) (mem_named_iff.2 ⟨e, he, hbroken, rfl⟩)
  · intro hall
    constructor
    · intro entry hentry
      obtain ⟨e, he, _, hfindings⟩ := mem_named_iff.1 hentry
      rw [← hfindings]
      exact hall e he
    · intro stray hstray
      obtain ⟨e, he, _, hfindings⟩ := mem_named_iff.1 hstray
      rw [← hfindings]
      exact hall e he

variable {v : Datum} {e : Scalar × Datum} {files : List (Scalar × Datum)}

theorem ofEntry_eq_ok {fs : Scalar × List Finding} :
    ofEntry e = .ok fs ↔
      ∃ members, membersOf e.2 = .ok members ∧ findingsOf members = .ok fs.2 ∧ fs.1 = e.1 := by
  obtain ⟨file, findings⟩ := fs
  rw [ofEntry, bind_eq_ok]
  constructor
  · rintro ⟨members, hmembers, hrest⟩
    obtain ⟨_, hfindings, hpair⟩ := bind_eq_ok.1 hrest
    cases hpair
    exact ⟨members, hmembers, hfindings, rfl⟩
  · rintro ⟨members, hmembers, hfindings, rfl⟩
    exact ⟨members, hmembers, bind_eq_ok.2 ⟨_, hfindings, rfl⟩⟩

/-- The findings of a file all have texts exactly when what stands for them lists such. -/
theorem exists_ofEntry_iff :
    (∃ fs, ofEntry e = .ok fs ∧ ∀ f ∈ fs.2, f.HasStrings) ↔ ListsFindings e.2 := by
  constructor
  · rintro ⟨fs, hentry, hall⟩
    obtain ⟨members, hmembers, hfindings, _⟩ := ofEntry_eq_ok.1 hentry
    refine ⟨members, hmembers, ?_⟩
    rw [findingsOf_eq] at hfindings
    intro m hm
    obtain ⟨f, hf, hstrings⟩ := exists_mapM_iff.1 ⟨_, hfindings, hall⟩ m hm
    exact ⟨f, mapError_eq_ok.1 hf, hstrings⟩
  · rintro ⟨members, hmembers, hall⟩
    have heach : ∀ m ∈ members, ∃ f,
        (Finding.ofDatum m).mapError ResultsFault.finding = .ok f ∧ f.HasStrings := by
      intro m hm
      obtain ⟨f, hf, hstrings⟩ := hall m hm
      exact ⟨f, mapError_eq_ok.2 hf, hstrings⟩
    obtain ⟨fs, hfindings, hstrings⟩ := exists_mapM_iff.2 heach
    rw [← findingsOf_eq] at hfindings
    exact ⟨(e.1, fs), ofEntry_eq_ok.2 ⟨members, hmembers, hfindings, rfl⟩, hstrings⟩

/-- Results of which all findings have texts are those of a value that lists such for every
file. -/
theorem exists_ofDatum_iff :
    (∃ found, ofDatum v = .ok found ∧ found.HaveStrings) ↔ AreProper v := by
  constructor
  · rintro ⟨found, hresults, hall⟩
    unfold ofDatum at hresults
    split at hresults
    · rename_i files
      obtain ⟨fs, hentries, rfl⟩ := map_eq_ok.1 hresults
      rw [ofEntries_eq] at hentries
      refine ⟨files, rfl, ?_⟩
      intro e he
      exact exists_ofEntry_iff.1
        (exists_mapM_iff.1 ⟨fs, hentries, haveStrings_ofFindings.1 hall⟩ e he)
    · cases hresults
  · rintro ⟨files, rfl, hall⟩
    obtain ⟨fs, hentries, hstrings⟩ :=
      exists_mapM_iff.2 fun e he => exists_ofEntry_iff.2 (hall e he)
    rw [← ofEntries_eq] at hentries
    exact ⟨ofFindings fs, map_eq_ok.2 ⟨fs, hentries, rfl⟩, haveStrings_ofFindings.2 hstrings⟩

instance (v : Datum) : Decidable (AreProper v) :=
  decidable_of_iff ((ofDatum v).toOption.any fun found => found.HaveStrings) (by
    rw [← exists_ofDatum_iff]
    cases ofDatum v <;> simp [Except.toOption])

theorem mem_entriesOf {members : List Datum} {m : Datum} (he : e ∈ files)
    (hmembers : membersOf e.2 = .ok members) (hm : m ∈ members) : m ∈ entriesOf (.dict files) := by
  apply List.mem_flatMap.2
  refine ⟨e, he, ?_⟩
  rw [hmembers]
  exact hm

theorem areProper_of_isTidy {found : Results}
    (htidy : ∀ m ∈ entriesOf v, Finding.isTidy m = true) (hresults : ofDatum v = .ok found) :
    AreProper v := by
  unfold ofDatum at hresults
  split at hresults
  · rename_i files
    obtain ⟨all, hentries, _⟩ := map_eq_ok.1 hresults
    rw [ofEntries_eq] at hentries
    refine ⟨files, rfl, ?_⟩
    intro e he
    obtain ⟨fs, hentry, _⟩ := exists_mapM_iff.1 ⟨all, hentries, fun _ _ => trivial⟩ e he
    obtain ⟨members, hmembers, hfindings, _⟩ := ofEntry_eq_ok.1 hentry
    refine ⟨members, hmembers, ?_⟩
    rw [findingsOf_eq] at hfindings
    intro m hm
    obtain ⟨f, hf, _⟩ := exists_mapM_iff.1 ⟨_, hfindings, fun _ _ => trivial⟩ m hm
    have hfinding := mapError_eq_ok.1 hf
    exact ⟨f, hfinding,
      Finding.hasStrings_of_isTidy (htidy m (mem_entriesOf he hmembers hm)) hfinding⟩
  · cases hresults

theorem isExpected_of_isTidy {fault : ResultsFault}
    (htidy : ∀ m ∈ entriesOf v, Finding.isTidy m = true) (hfails : ofDatum v = .error fault) :
    fault.isExpected = true := by
  unfold ofDatum at hfails
  split at hfails
  · rename_i files
    have hentries := map_eq_error.1 hfails
    rw [ofEntries_eq] at hentries
    obtain ⟨e, he, hentry⟩ := exists_of_mapM_eq_error hentries
    rcases bind_eq_error.1 hentry with hmembers | ⟨members, hmembers, hrest⟩
    · unfold membersOf at hmembers
      split at hmembers <;> cases hmembers
      rfl
    rcases bind_eq_error.1 hrest with hfindings | ⟨fs, _, hnever⟩
    · rw [findingsOf_eq] at hfindings
      obtain ⟨m, hm, hfault⟩ := exists_of_mapM_eq_error hfindings
      obtain ⟨cause, hcause, rfl⟩ := mapError_eq_error.1 hfault
      exact Finding.isExpected_of_isTidy (htidy m (mem_entriesOf he hmembers hm)) hcause
    · cases hnever
  · cases hfails
    rfl

end Results

end FindingLedger
