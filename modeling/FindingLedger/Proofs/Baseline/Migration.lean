/-
Trees in which rule ids get the standard rule set that they left out.

Any of the error elements whose rule ids name no rule set may be given the standard one.  Main
statement: the findings stay the same, and so does what a baseline suppresses; only the number of
ids without a rule set falls, by one for each file element around each element that was changed.
When none is left, loading the baseline warns of nothing.
-/
import FindingLedger.Proofs.Baseline.Attempt
import FindingLedger.Proofs.Baseline.Likeness
import FindingLedger.Proofs.Baseline.Listing
import FindingLedger.Proofs.Baseline.Partition
import FindingLedger.Proofs.Xml.Address
import Mathlib.Data.Finset.Card

namespace FindingLedger

namespace Element

/-- An error element whose rule id names no rule set. -/
def isBareError (e : Element) : Bool := e.localName == "error" && e.isBare

/-- The attributes of an element whose rule id names the standard set. -/
def standardAttributes (e : Element) : List (String × String) :=
  Keyed.put "source" (RuleId.withStandardSet e.ruleId) e.attributes

mutual

/-- The tree in which the rule ids of the error elements at chosen addresses name the standard
set where they named none. -/
def migrate : Element → (Address → Bool) → Element
  | node tag attributes text children, chosen =>
    let e := node tag attributes text children
    node tag (if chosen [] && e.isBareError then e.standardAttributes else attributes) text
      (migrateFrom 0 children chosen)

/-- The same for elements that stand in a row, the first of which has a number. -/
def migrateFrom (i : Nat) : List Element → (Address → Bool) → List Element
  | [], _ => []
  | e :: rest, chosen =>
    e.migrate (fun a => chosen (i :: a)) :: migrateFrom (i + 1) rest chosen

end

/-- A file element, and inside of it an error element that is given the standard set. -/
structure IsMigrated (root : Element) (chosen : Address → Bool) (p : Address × Address) :
    Prop where
  file : ∃ f, root.at? p.1 = some f ∧ f.localName = "file"
  isInside : p.1 <+: p.2
  isChosen : chosen p.2 = true
  error : ∃ e, root.at? p.2 = some e ∧ e.isBareError = true

/-- All error elements inside of file elements whose rule ids name no rule set are chosen. -/
def ChoosesAll (root : Element) (chosen : Address → Bool) : Prop :=
  ∀ a b f e, root.at? a = some f → f.localName = "file" → root.at? (a ++ b) = some e →
    e.isBareError = true → chosen (a ++ b) = true

variable {root : Element} {chosen : Address → Bool}

theorem attributes_migrate (e : Element) (chosen : Address → Bool) :
    (e.migrate chosen).attributes =
      if chosen [] && e.isBareError then e.standardAttributes else e.attributes := by
  cases e
  rw [migrate]
  rfl

theorem children_migrate (e : Element) (chosen : Address → Bool) :
    (e.migrate chosen).children = migrateFrom 0 e.children chosen := by
  cases e
  rw [migrate]
  rfl

theorem localName_migrate (e : Element) (chosen : Address → Bool) :
    (e.migrate chosen).localName = e.localName := by
  cases e
  rw [migrate]
  rfl

/-- Only the rule id changes. -/
theorem attribute?_migrate (e : Element) (chosen : Address → Bool) {name : String}
    (hname : name ≠ "source") : (e.migrate chosen).attribute? name = e.attribute? name := by
  rw [attribute?, attributes_migrate]
  split
  · exact Keyed.lookup_put_of_ne hname _ _
  · rfl

theorem ruleId_migrate (e : Element) (chosen : Address → Bool) :
    (e.migrate chosen).ruleId =
      if chosen [] && e.isBareError then RuleId.withStandardSet e.ruleId else e.ruleId := by
  rw [ruleId, attribute?, attributes_migrate]
  split
  · rw [standardAttributes, Keyed.lookup_put_self]
    rfl
  · rfl

theorem normalize_withStandardSet {id : String} (hbare : RuleId.hasSet id = false) :
    RuleId.normalize (RuleId.withStandardSet id) = RuleId.normalize id := by
  have hid : RuleId.normalize id = RuleId.withStandardSet id := by
    rw [RuleId.normalize, hbare]
    rfl
  rw [← hid, RuleId.normalize_normalize]

theorem hasSet_eq_false {e : Element} (hbare : e.isBareError = true) :
    RuleId.hasSet e.ruleId = false := by
  have hflag := (Bool.and_eq_true_iff.1 hbare).2
  rwa [← Baseline.Document.not_hasSet, Bool.not_eq_true'] at hflag

/-- The finding that an error element records stays the same. -/
theorem recordsLike_migrate (e : Element) (chosen : Address → Bool) :
    e.RecordsLike (e.migrate chosen) := by
  constructor
  · exact attribute?_migrate e chosen (by decide)
  · exact attribute?_migrate e chosen (by decide)
  · rw [ruleId_migrate]
    split
    · rename_i hmigrated
      exact normalize_withStandardSet (hasSet_eq_false (Bool.and_eq_true_iff.1 hmigrated).2)
    · rfl

/-- What is chosen names a rule set afterwards, and nothing else changes in that. -/
theorem isBareError_migrate (e : Element) (chosen : Address → Bool) :
    (e.migrate chosen).isBareError = (e.isBareError && !chosen []) := by
  have hset : ∀ id, RuleId.hasSet (RuleId.withStandardSet id) = true := fun id => by
    simp [RuleId.hasSet, RuleId.withStandardSet, RuleId.standardSet, RuleId.delimiter]
  rw [isBareError, localName_migrate, ← Baseline.Document.not_hasSet, ruleId_migrate]
  by_cases hmigrated : (chosen [] && e.isBareError) = true
  · obtain ⟨hchosen, hbare⟩ := Bool.and_eq_true_iff.1 hmigrated
    rw [if_pos hmigrated, hset, hchosen]
    simp
  · rw [if_neg hmigrated, Baseline.Document.not_hasSet]
    change e.isBareError = _
    rw [Bool.and_eq_true_iff, not_and, Bool.not_eq_true] at hmigrated
    cases hchosen : chosen [] with
    | true => rw [hmigrated hchosen]; rfl
    | false => rw [Bool.not_false, Bool.and_true]

theorem addressedFrom_migrateFrom {es : List Element}
    (hall : ∀ e ∈ es, ∀ chosen, (e.migrate chosen).addressed =
      e.addressed.map fun p => (p.1, p.2.migrate fun b => chosen (p.1 ++ b)))
    (i : Nat) (chosen : Address → Bool) :
    addressedFrom i (migrateFrom i es chosen) =
      (addressedFrom i es).map fun p => (p.1, p.2.migrate fun b => chosen (p.1 ++ b)) := by
  induction es generalizing i with
  | nil =>
    rw [migrateFrom, addressedFrom]
    rfl
  | cons e rest ih =>
    obtain ⟨hfirst, hrest⟩ := List.forall_mem_cons.1 hall
    rw [migrateFrom, addressedFrom, addressedFrom, List.map_append, ih hrest, hfirst]
    rw [List.map_map, List.map_map]
    rfl

/-- Every element stays where it is, and so do those inside of it. -/
theorem addressed_migrate (e : Element) (chosen : Address → Bool) :
    (e.migrate chosen).addressed =
      e.addressed.map fun p => (p.1, p.2.migrate fun b => chosen (p.1 ++ b)) := by
  induction e using children_induction generalizing chosen with
  | hstep e ih =>
    rw [addressed_eq, children_migrate, addressedFrom_migrateFrom ih, addressed_eq e]
    rfl

def addressedNamed (name : String) (e : Element) : List (Address × Element) :=
  e.addressed.filter fun p => p.2.localName == name

theorem map_snd_addressedNamed (name : String) (e : Element) :
    (e.addressedNamed name).map Prod.snd = e.named name := by
  rw [named, ← map_snd_addressed, List.filter_map]
  rfl

theorem named_migrate (name : String) (e : Element) (chosen : Address → Bool) :
    (e.migrate chosen).named name =
      (e.addressedNamed name).map fun p => p.2.migrate fun b => chosen (p.1 ++ b) := by
  have hkeep : ∀ p ∈ e.addressed,
      ((p.2.migrate fun b => chosen (p.1 ++ b)).localName == name) = (p.2.localName == name) :=
    fun p _ => by rw [localName_migrate]
  rw [named, ← map_snd_addressed, addressed_migrate, List.map_map, List.filter_map, addressedNamed,
    ← List.filter_congr hkeep]
  rfl

/-- What holds of each element with a local name and what it becomes holds of all in turn. -/
theorem forall₂_named_migrate {R : Element → Element → Prop} (name : String) (e : Element)
    (chosen : Address → Bool) (hall : ∀ d chosen, R d (d.migrate chosen)) :
    List.Forall₂ R (e.named name) ((e.migrate chosen).named name) := by
  rw [named_migrate, ← map_snd_addressedNamed, List.forall₂_map_left_iff,
    List.forall₂_map_right_iff, List.forall₂_same]
  exact fun p _ => hall _ _

/-- A file element stands for the same file, with error elements that record alike. -/
theorem filesLike_migrate (e : Element) (chosen : Address → Bool) :
    e.FilesLike (e.migrate chosen) := by
  constructor
  · rw [fileName, attribute?_migrate e chosen (by decide)]
    rfl
  · exact forall₂_named_migrate "error" e chosen recordsLike_migrate

/-- The number of elements inside of an element that are given the standard set. -/
def migratedCount (e : Element) (chosen : Address → Bool) : Nat :=
  e.addressed.countP fun p => p.2.isBareError && chosen p.1

theorem bareCount_eq_countP (e : Element) :
    e.bareCount = e.addressed.countP fun p => p.2.isBareError := by
  rw [bareCount, named, ← map_snd_addressed, List.countP_filter, List.countP_map]
  exact List.countP_congr fun p _ => by rw [Function.comp_apply, Bool.and_comm, isBareError]

/-- The elements inside of an element whose ids name no rule set are fewer by those that are given
the standard set. -/
theorem bareCount_migrate (e : Element) (chosen : Address → Bool) :
    (e.migrate chosen).bareCount + e.migratedCount chosen = e.bareCount := by
  have hleft : (e.migrate chosen).bareCount =
      e.addressed.countP fun p => p.2.isBareError && !chosen p.1 := by
    rw [bareCount_eq_countP, addressed_migrate, List.countP_map]
    refine List.countP_congr fun p _ => ?_
    rw [Function.comp_apply, isBareError_migrate, List.append_nil]
  have hsplit := List.countP_eq_countP_filter_add e.addressed (fun p => p.2.isBareError)
    fun p => chosen p.1
  simp only [List.countP_filter] at hsplit
  rw [hleft, migratedCount, bareCount_eq_countP, hsplit, Nat.add_comm]

/-- The pairs of a file element and an error element inside of it that is given the standard
set. -/
def migratedPairs (root : Element) (chosen : Address → Bool) : List (Address × Address) :=
  (root.addressedNamed "file").flatMap fun f =>
    (f.2.addressed.filter fun p => p.2.isBareError && chosen (f.1 ++ p.1)).map
      fun p => (f.1, f.1 ++ p.1)

theorem mem_addressedNamed {name : String} {e d : Element} {a : Address} :
    (a, d) ∈ e.addressedNamed name ↔ e.at? a = some d ∧ d.localName = name := by
  rw [addressedNamed, List.mem_filter, mem_addressed, beq_iff_eq]

theorem mem_migratedPairs {p : Address × Address} :
    p ∈ root.migratedPairs chosen ↔ root.IsMigrated chosen p := by
  rw [migratedPairs, List.mem_flatMap]
  constructor
  · rintro ⟨⟨a, f⟩, hfile, hmem⟩
    obtain ⟨hat, hname⟩ := mem_addressedNamed.1 hfile
    obtain ⟨⟨b, e⟩, hkept, rfl⟩ := List.mem_map.1 hmem
    obtain ⟨hinside, hboth⟩ := List.mem_filter.1 hkept
    obtain ⟨hbare, hchosen⟩ := Bool.and_eq_true_iff.1 hboth
    refine ⟨⟨f, hat, hname⟩, List.prefix_append a b, hchosen, e, ?_, hbare⟩
    rw [at?_append, hat]
    exact mem_addressed.1 hinside
  · obtain ⟨a, _⟩ := p
    rintro ⟨⟨f, hat, hname⟩, ⟨b, heq⟩, hchosen, e, herror, hbare⟩
    dsimp only at hat heq hchosen herror
    subst heq
    rw [at?_append, hat] at herror
    refine ⟨(a, f), mem_addressedNamed.2 ⟨hat, hname⟩, List.mem_map.2 ⟨(b, e), ?_, rfl⟩⟩
    exact List.mem_filter.2 ⟨mem_addressed.2 herror, Bool.and_eq_true_iff.2 ⟨hbare, hchosen⟩⟩

theorem nodup_migratedPairs (root : Element) (chosen : Address → Bool) :
    (root.migratedPairs chosen).Nodup := by
  have hfiles : (root.addressedNamed "file").Pairwise fun f g => f.1 ≠ g.1 :=
    (List.pairwise_map.1 root.nodup_addressed).filter _
  rw [migratedPairs, List.nodup_flatMap]
  constructor
  · intro f _
    refine List.Nodup.map_on ?_ ((List.Nodup.of_map _ f.2.nodup_addressed).filter _)
    intro p hp q hq heq
    have haddress : p.1 = q.1 := List.append_cancel_left (Prod.mk.inj heq).2
    -- What stands at one address is one element.
    have hp' := mem_addressed.1 (List.mem_of_mem_filter hp)
    have hq' := mem_addressed.1 (List.mem_of_mem_filter hq)
    rw [haddress] at hp'
    exact Prod.ext haddress (Option.some.inj (hp'.symm.trans hq'))
  · refine hfiles.imp fun {f g} hne p hf hg => hne ?_
    obtain ⟨_, _, rfl⟩ := List.mem_map.1 hf
    obtain ⟨_, _, heq⟩ := List.mem_map.1 hg
    exact (Prod.mk.inj heq).1.symm

/-- The ids without a rule set below all file elements are fewer by the number of the pairs. -/
theorem sum_bareCount_migrate (root : Element) (chosen : Address → Bool) :
    (((root.migrate chosen).named "file").map bareCount).sum +
      (root.migratedPairs chosen).length = ((root.named "file").map bareCount).sum := by
  rw [named_migrate, ← map_snd_addressedNamed, migratedPairs]
  induction root.addressedNamed "file" with
  | nil => rfl
  | cons f rest ih =>
    have hfile := bareCount_migrate f.2 fun b => chosen (f.1 ++ b)
    rw [migratedCount, List.countP_eq_length_filter] at hfile
    simp only [List.map_cons, List.sum_cons, List.flatMap_cons, List.length_append,
      List.length_map]
    omega

/-- Where all are chosen, there is no id without a rule set any more. -/
theorem sum_bareCount_of_choosesAll (hall : root.ChoosesAll chosen) :
    (((root.migrate chosen).named "file").map bareCount).sum = 0 := by
  rw [named_migrate, List.map_map, List.sum_eq_zero_iff_forall_eq_nat]
  intro n hn
  obtain ⟨⟨a, f⟩, hfile, rfl⟩ := List.mem_map.1 hn
  obtain ⟨hat, hname⟩ := mem_addressedNamed.1 hfile
  change (f.migrate fun b => chosen (a ++ b)).bareCount = 0
  rw [bareCount_eq_countP, List.countP_eq_zero, addressed_migrate]
  intro p hp
  obtain ⟨⟨b, e⟩, hinside, rfl⟩ := List.mem_map.1 hp
  dsimp only
  rw [isBareError_migrate, List.append_nil]
  cases hbare : e.isBareError with
  | false => exact Bool.false_ne_true
  | true =>
    have hat' : root.at? (a ++ b) = some e := by
      rw [at?_append, hat]
      exact mem_addressed.1 hinside
    rw [hall a b f e hat hname hat' hbare]
    exact Bool.false_ne_true

end Element

namespace Baseline

namespace Document

variable (root : Element) (chosen : Element.Address → Bool)

/-- What becomes of the document of a tree when rule ids are given the standard set. -/
structure IsMigration (d d' : Document) : Prop where
  files : d'.files = d.files
  /-- Every pair of a file element and an error element that is changed inside of it counts. -/
  legacy : ∃ pairs : Finset (Element.Address × Element.Address),
    (∀ p, p ∈ pairs ↔ root.IsMigrated chosen p) ∧ d'.legacy + pairs.card = d.legacy
  legacy_of_choosesAll : root.ChoosesAll chosen → d'.legacy = 0

/-- A tree and the one whose rule ids are given the standard set both hold a document, or are
refused for the same reason. -/
theorem ofElement_migrate :
    (∃ fault, ofElement root = .error fault ∧ ofElement (root.migrate chosen) = .error fault) ∨
      ∃ d d', ofElement root = .ok d ∧ ofElement (root.migrate chosen) = .ok d' ∧
        IsMigration root chosen d d' := by
  have hlike := Element.forall₂_named_migrate "file" root chosen Element.filesLike_migrate
  rcases map_eq_map_iff.1 (ofElement_like hlike) with ⟨f, hf', hf⟩ | ⟨d', d, hd', hd, hfiles⟩
  · exact Or.inl ⟨f, hf, hf'⟩
  · obtain ⟨_, _, _, hlegacy⟩ := ofElement_eq_ok hd
    obtain ⟨_, _, _, hlegacy'⟩ := ofElement_eq_ok hd'
    refine Or.inr ⟨d, d', hd, hd', hfiles, ?_, fun hall => ?_⟩
    · refine ⟨⟨root.migratedPairs chosen, root.nodup_migratedPairs chosen⟩, fun p => ?_, ?_⟩
      · exact Element.mem_migratedPairs
      · rw [hlegacy, hlegacy', ← root.sum_bareCount_migrate chosen]
        rfl
    · rw [hlegacy', Element.sum_bareCount_of_choosesAll hall]

end Document

section Loading

variable {σ : Type} {st : Storage σ} {s : σ} {path : String} {root : Element}

/-- A storage has, at a path that is not blank, a file whose bytes are those of a tree. -/
structure Keeps (st : Storage σ) (s : σ) (path : String) (root : Element) : Prop where
  isVisible : Text.isBlankText path = false
  isThere : st.holds s (Path.ofString path).text = .ok true
  isRead : ∃ bytes, st.read s (Path.ofString path).text = .ok (.whole bytes) ∧
    Xml.read bytes = .ok root

theorem Keeps.ofStorage_eq (hkeeps : Keeps st s path root) :
    Document.ofStorage st s (Path.ofString path) =
      (Document.ofElement root).mapError DocumentFault.message := by
  obtain ⟨bytes, hbytes, htree⟩ := hkeeps.isRead
  rw [Document.ofStorage, hbytes]
  dsimp only [Document.ofContent]
  rw [Document.ofBytes, htree]

/-- A tree that holds a document is loaded. -/
theorem Keeps.attempt?_of_ok {d : Document} (hkeeps : Keeps st s path root)
    (hread : Document.ofElement root = .ok d) :
    attempt? st s path = some (ofDocument s path d) := by
  rw [attempt?, hkeeps.isVisible, attempt, hkeeps.isThere, hkeeps.ofStorage_eq, hread]
  rfl

/-- A tree that is refused leaves no findings. -/
theorem Keeps.attempt?_of_error {fault : DocumentFault} (hkeeps : Keeps st s path root)
    (hread : Document.ofElement root = .error fault) :
    attempt? st s path = some (ofReason st s path fault.message) := by
  rw [attempt?, hkeeps.isVisible, attempt, hkeeps.isThere, hkeeps.ofStorage_eq, hread]
  rfl

theorem files_ofReason (st : Storage σ) (s : σ) (path reason : String) :
    (ofReason st s path reason).baseline.files = [] := by
  rw [ofReason]
  cases st.unlink s (Path.ofString path).text <;> rfl

/-- What is noted about a tree that is refused are errors, and no warning. -/
theorem level_ofReason_ne (st : Storage σ) (s : σ) (path reason : String) :
    ∀ n ∈ (ofReason st s path reason).notes, n.level ≠ .warning := by
  rw [ofReason]
  cases st.unlink s (Path.ofString path).text with
  | ok s' => simp [ofDeleted, unparsedNote]
  | error refusal => simp [ofUndeleted, unparsedNote]

theorem diagnostics_of_legacy {d : Document} (hnone : d.legacy = 0) :
    (ofDocument s path d).baseline.diagnostics = [] := by
  simp only [ofDocument, valid, hnone, Nat.lt_irrefl, if_false]

/-- Without ids that name no rule set, nothing above a debug note is made. -/
theorem level_of_legacy (s : σ) (path : String) {d : Document} (hnone : d.legacy = 0) :
    ∀ n ∈ (ofDocument s path d).notes, n.level = .debug := by
  simp [ofDocument, hnone]

/-- Live findings are compared with the status and the findings of a baseline, and with nothing
else of it. -/
theorem diff_congr {b b' : Baseline} (hstatus : b'.status = b.status) (hfiles : b'.files = b.files)
    (live : Findings) : b'.diff live = b.diff live := by
  have hsuppressed : ∀ file, b'.suppressed file = b.suppressed file := fun file => by
    rw [suppressed, suppressed, findingsOf, findingsOf, hstatus, hfiles]
  induction live with
  | nil => rfl
  | cons entry rest ih => rw [diff, diff, hsuppressed, ih]

/-- Two baselines part all live findings whose rules are texts, and part them alike. -/
def PartAlike (b b' : Baseline) : Prop :=
  ∀ live : Findings, live.HaveRuleIds → ∃ d, b.diff live = .ok d ∧ b'.diff live = .ok d

theorem partAlike_of_files {b b' : Baseline} (hids : b.files.HaveRuleIds)
    (hstatus : b'.status = b.status) (hfiles : b'.files = b.files) : PartAlike b b' := by
  intro live hlive
  have hdiff := diff_eq_ok hids hlive
  exact ⟨_, hdiff, (diff_congr hstatus hfiles live).trans hdiff⟩

end Loading

/-- Giving error elements the standard rule set, where they name none, is seen in the number of
such ids alone.  The tree before and the tree after hold the same findings or are refused for one
reason, the number falls by one for every file element around every changed element, and the
baselines that are loaded from them part all live findings alike.  When all such ids inside of file
elements are changed, there is no warning, and no diagnostic unless the tree is refused. -/
theorem attempt?_migrate (root : Element) (chosen : Element.Address → Bool) :
    ((∃ fault, Document.ofElement root = .error fault ∧
        Document.ofElement (root.migrate chosen) = .error fault) ∨
      ∃ d d', Document.ofElement root = .ok d ∧
        Document.ofElement (root.migrate chosen) = .ok d' ∧ d'.files = d.files ∧
        ∃ pairs : Finset (Element.Address × Element.Address),
          (∀ p, p ∈ pairs ↔ root.IsMigrated chosen p) ∧ d'.legacy + pairs.card = d.legacy) ∧
    (∀ {σ σ' : Type} (st : Storage σ) (s : σ) (st' : Storage σ') (s' : σ') (path path' : String),
      Keeps st s path root → Keeps st' s' path' (root.migrate chosen) →
        ∃ a a', attempt? st s path = some a ∧ attempt? st' s' path' = some a' ∧
          PartAlike a.baseline a'.baseline) ∧
    (root.ChoosesAll chosen → ∀ {σ : Type} (st : Storage σ) (s : σ) (path : String),
      Keeps st s path (root.migrate chosen) →
        ∃ a, attempt? st s path = some a ∧ (∀ n ∈ a.notes, n.level ≠ .warning) ∧
          ((∃ d, Document.ofElement root = .ok d) →
            a.baseline.status = .valid ∧ a.baseline.legacy = 0 ∧ a.baseline.diagnostics = [] ∧
              ∀ n ∈ a.notes, n.level = .debug)) := by
  -- All three parts follow from what is read of the two trees.
  rcases Document.ofElement_migrate root chosen with ⟨fault, hf, hf'⟩ | ⟨d, d', hd, hd', hmigration⟩
  · refine ⟨Or.inl ⟨fault, hf, hf'⟩, ?_, ?_⟩
    · intro _ _ st s st' s' path path' hkeeps hkeeps'
      refine ⟨_, _, hkeeps.attempt?_of_error hf, hkeeps'.attempt?_of_error hf', ?_⟩
      refine partAlike_of_files ?_ ?_ ?_
      · rw [files_ofReason]
        exact fun entry hentry => absurd hentry List.not_mem_nil
      · rw [status_ofReason, status_ofReason]
      · rw [files_ofReason, files_ofReason]
    · intro _ _ st s path hkeeps'
      refine ⟨_, hkeeps'.attempt?_of_error hf', level_ofReason_ne st s path _, ?_⟩
      rintro ⟨d, hd⟩
      cases hd.symm.trans hf
  · refine ⟨Or.inr ⟨d, d', hd, hd', hmigration.files, hmigration.legacy⟩, ?_, ?_⟩
    · intro _ _ st s st' s' path path' hkeeps hkeeps'
      refine ⟨_, _, hkeeps.attempt?_of_ok hd, hkeeps'.attempt?_of_ok hd', ?_⟩
      exact partAlike_of_files (Document.haveRuleIds_of_ofElement hd) rfl hmigration.files
    · intro hall _ st s path hkeeps'
      have hnone := hmigration.legacy_of_choosesAll hall
      have hquiet := level_of_legacy s path hnone
      refine ⟨_, hkeeps'.attempt?_of_ok hd', fun n hn => ?_, fun _ => ⟨rfl, ?_, ?_, hquiet⟩⟩
      · rw [hquiet n hn]
        decide
      · exact congrArg Int.ofNat hnone
      · exact diagnostics_of_legacy hnone

/-- An error element without a rule id, inside of two file elements. -/
def twiceHeldRoot : Element :=
  .node "file" [] "" [.node "file" [] "" [.node "error" [("line", "1"), ("column", "2")] "" []]]

/-- The element names the standard set. -/
def standardRoot : Element :=
  .node "file" [] "" [.node "file" [] ""
    [.node "error" [("line", "1"), ("column", "2"), ("source", "standard:")] "" []]]

/-- The text of the first tree. -/
def twiceHeldText : String := "<file><file><error line=\"1\" column=\"2\"/></file></file>"

/-- The text of the second tree. -/
def standardText : String :=
  "<file><file><error line=\"1\" column=\"2\" source=\"standard:\"/></file></file>"

/-- A storage in which every path leads to one text. -/
def textStorage (text : String) : Storage Unit :=
  ⟨fun _ _ => .ok true, fun _ _ => .ok (.whole (Utf8.encode text)), fun _ _ => .error "Read-only"⟩

/-- The empty id counts twice, and not at all when it is given the standard set. -/
theorem attempt?_twiceHeldRoot :
    ∃ a a', attempt? (textStorage twiceHeldText) () "b" = some a ∧
      attempt? (textStorage standardText) () "b" = some a' ∧
      a.baseline.legacy = 2 ∧ a'.baseline.legacy = 0 ∧ a'.baseline.diagnostics = [] ∧
      PartAlike a.baseline a'.baseline := by
  have hvisible : Text.isBlankText "b" = false := by decide +kernel
  have hread : Xml.read (Utf8.encode twiceHeldText) = .ok twiceHeldRoot := by
    with_unfolding_all rfl
  have hread' : Xml.read (Utf8.encode standardText) = .ok standardRoot := by
    with_unfolding_all rfl
  have hmigrate : (twiceHeldRoot.migrate fun _ => true) = standardRoot := rfl
  have hkeeps : Keeps (textStorage twiceHeldText) () "b" twiceHeldRoot :=
    ⟨hvisible, rfl, _, rfl, hread⟩
  have hkeeps' : Keeps (textStorage standardText) () "b" (twiceHeldRoot.migrate fun _ => true) :=
    ⟨hvisible, rfl, _, rfl, hmigrate ▸ hread'⟩
  obtain ⟨_, hdiffs, hquiet⟩ := attempt?_migrate twiceHeldRoot fun _ => true
  obtain ⟨a, a', ha, ha', halike⟩ := hdiffs _ _ _ _ _ _ hkeeps hkeeps'
  obtain ⟨_, hb', _, hnone⟩ := hquiet (fun _ _ _ _ _ _ _ _ => rfl) _ _ _ hkeeps'
  cases ha'.symm.trans hb'
  obtain ⟨_, hlegacy', hdiagnostics, _⟩ := hnone ⟨_, rfl⟩
  refine ⟨a, a', ha, ha', ?_, hlegacy', hdiagnostics, halike⟩
  rw [hkeeps.attempt?_of_ok (rfl : Document.ofElement twiceHeldRoot = .ok _)] at ha
  cases ha
  rfl

end Baseline

end FindingLedger
