/-
Settings that are read from files.

What a file holds is a dictionary of its document, no two keys of which are the same.  Where
such a dictionary is plain to look at, it is a plain dictionary of sections, and can be laid
over another one.
-/
import FindingLedger.Proofs.Settings.Plain
import FindingLedger.Proofs.Yaml.Keys
import FindingLedger.Proofs.Yaml.Unfolding

namespace FindingLedger

namespace Settings

open Datum

/-- Whether an entry of a section has a text for its key and no mapping for its value. -/
def isLeaf : Scalar × Datum → Bool
  | (.text _, v) => !v.isMapping
  | _ => false

/-- Whether entries are sections that settings have, with texts for keys and without
mappings. -/
def looksPlain (entries : List (Scalar × Datum)) : Bool :=
  entries.all fun e => match e with
    | (.text name, .dict inner) => sectionNames.contains name && inner.all isLeaf
    | _ => false

/-- A sheet that was read: it is blank, or it is the dictionary of a document. -/
def Sheet.IsRead (s : Sheet) : Prop :=
  s = .blank ∨ ∃ a entries, s = ⟨entries, some a⟩ ∧ a.IsKeyed ∧ a.value = .dict entries

theorem isRead_of_ofBytes {name : String} {bytes : List UInt8} {s : Sheet}
    (hread : ofBytes name bytes = .ok s) : s.IsRead := by
  obtain ⟨a?, hdocument, hread⟩ := bind_eq_ok.1 hread
  cases a? with
  | none =>
    cases hread
    exact Or.inl rfl
  | some a =>
    obtain ⟨source, _, hsource⟩ := bind_eq_ok.1 (mapError_eq_ok.1 hdocument)
    have hkeyed := Yaml.isKeyed_read? hsource
    dsimp only at hread
    split at hread
    · cases hread
      exact Or.inl rfl
    · split at hread
      · next entries hvalue =>
        cases hread
        exact Or.inr ⟨a, entries, rfl, hkeyed, hvalue⟩
      · cases hread

theorem isRead_of_ofFile {t : FileTree} {cwd : Location} {path : Path} {s : Sheet}
    (hfile : ofFile t cwd path = .ok s) : s.IsRead := by
  rw [ofFile] at hfile
  split at hfile
  · cases hfile
  · cases hfile
    exact Or.inl rfl
  · split at hfile
    · cases hfile
    · exact isRead_of_ofBytes hfile

section Plain

variable {entries : List (Scalar × Datum)}

/-- Texts that are different keys of a document are different. -/
theorem isTextKeyed_of_areApart {R : Yaml.Key × Yaml.Part → Scalar × Datum → Prop}
    {es : List (Yaml.Key × Yaml.Part)} (hall : List.Forall₂ R es entries)
    (hR : ∀ e f, R e f → e.1.scalar = f.1) (hapart : Yaml.AreApart es)
    (htext : ∀ f ∈ entries, ∃ s, f.1 = .text s) :
    IsTextKeyed entries := by
  refine ⟨htext, ?_⟩
  induction hall with
  | nil => exact List.nodup_nil
  | @cons e f es entries hhead htail ih =>
    rw [Yaml.AreApart, List.pairwise_cons] at hapart
    have hrest := ih hapart.2 fun g hg => htext g (List.mem_cons_of_mem _ hg)
    refine List.nodup_cons.2 ⟨?_, hrest⟩
    intro hmem
    obtain ⟨g, hg, hsame⟩ := List.mem_map.1 hmem
    obtain ⟨e', he', hpair⟩ := Yaml.exists_of_forall₂ htail.flip hg
    obtain ⟨s, hs⟩ := htext f List.mem_cons_self
    have hfirst : e.1.scalar = .text s := (hR e f hhead).trans hs
    have hother : e'.1.scalar = .text s := (hR e' g hpair).trans (hsame.trans hs)
    have hdifferent := hapart.1 e' he'
    have htwice : (Scalar.text s).sameAs (.text s) = true := Scalar.sameAs_text.2 rfl
    rw [Yaml.Key.sameAs, hfirst, hother] at hdifferent
    exact Bool.noConfusion (htwice.symm.trans hdifferent)

theorem looksPlain_cases (hlooks : looksPlain entries = true) {e : Scalar × Datum}
    (he : e ∈ entries) :
    ∃ name inner, e = (.text name, .dict inner) ∧ name ∈ sectionNames ∧
      ∀ f ∈ inner, (∃ key, f.1 = .text key) ∧ f.2.isMapping = false := by
  have hsection := List.all_eq_true.1 hlooks e he
  split at hsection
  · next name inner =>
    obtain ⟨hname, hinner⟩ := Bool.and_eq_true_iff.1 hsection
    refine ⟨name, inner, rfl, List.contains_iff_mem.1 hname, ?_⟩
    intro f hf
    have hleaf := List.all_eq_true.1 hinner f hf
    rw [isLeaf.eq_def] at hleaf
    split at hleaf
    · next key v => exact ⟨⟨key, rfl⟩, by simpa using hleaf⟩
    · cases hleaf
  · cases hsection

theorem isPlain_of_isRead {s : Sheet} (hread : s.IsRead) (hlooks : looksPlain s.entries = true) :
    IsPlain s.entries := by
  rcases hread with rfl | ⟨a, entries, rfl, hkeyed, hvalue⟩
  · exact isPlain_nil
  · obtain ⟨i, es, hes, hall⟩ := Yaml.Assembly.entries_of_value hvalue
    obtain ⟨_, hholding⟩ := Yaml.holding_of_entries? hes
    have hapart : Yaml.AreApart es := by
      have hi := hkeyed i
      rw [hholding] at hi
      exact hi
    constructor
    · apply isTextKeyed_of_areApart hall (fun _ _ h => h.1) hapart
      intro f hf
      obtain ⟨name, _, rfl, _⟩ := looksPlain_cases hlooks hf
      exact ⟨name, rfl⟩
    · intro name v hmem
      obtain ⟨_, inner, heq, hname, hinner⟩ := looksPlain_cases hlooks hmem
      cases heq
      obtain ⟨e, _, _, hmirrors⟩ := Yaml.exists_of_forall₂ hall.flip hmem
      obtain ⟨j, settings, hsettings, hentries⟩ := Yaml.entries_of_mirrors hmirrors
      obtain ⟨_, hinside⟩ := Yaml.holding_of_entries? hsettings
      have hdistinct : Yaml.AreApart settings := by
        have hj := hkeyed j
        rw [hinside] at hj
        exact hj
      refine ⟨hname, inner, rfl, ?_, fun f hf => (hinner f hf).2⟩
      -- The keys of a mapping that was read are apart, in each section as on top.
      apply isTextKeyed_of_areApart hentries (fun _ _ h => h.1) hdistinct
      exact fun f hf => (hinner f hf).1

theorem isFlat_of_looksPlain (hlooks : looksPlain entries = true) :
    Yaml.IsFlat (.dict entries) := by
  intro entries' heq e he inner hinner f hf
  cases heq
  obtain ⟨name, inner', rfl, _, hvalues⟩ := looksPlain_cases hlooks he
  cases hinner
  cases hvalue : f.2 with
  | dict below =>
    have hmapping := (hvalues f hf).2
    rw [hvalue] at hmapping
    cases hmapping
  | _ => rfl

/-- A plain sheet can have any other laid over it. -/
theorem isEndlessUnder_of_isRead {s : Sheet} (hread : s.IsRead)
    (hlooks : looksPlain s.entries = true) (upper : Sheet) : s.isEndlessUnder upper = false := by
  rcases hread with rfl | ⟨a, entries, rfl, _, hvalue⟩
  · rfl
  · rw [Sheet.isEndlessUnder]
    split
    · next a' b ha _ =>
      cases ha
      apply Yaml.isEndlessUnder_eq_false
      left
      rw [hvalue]
      exact isFlat_of_looksPlain hlooks
    · rfl

end Plain

end Settings

end FindingLedger
