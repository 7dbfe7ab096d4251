/-
What loading baselines does to a file system.

Main statement: however many baselines are loaded, no file changes its bytes, no link its
target, nothing is made and no directory goes.  A single load takes away the name at the end of
its own path, never what a link of that name leads to, and does so exactly when it reports
nothing but a file that is no baseline document.  The next load then finds nothing; after any
other load it comes to the same baseline again.
-/
import FindingLedger.Proofs.Baseline.Attempt
import FindingLedger.Proofs.FileTree.Sound

namespace FindingLedger

namespace FileTree

/-- What is there was there before, and no directory is gone. -/
structure Pruned (t t' : FileTree) : Prop where
  contents : t'.contents = t.contents
  next : t'.next = t.next
  node : ∀ k n, t'.node? k = some n → t.node? k = some n
  directory : ∀ k, t.node? k = some .directory → t'.node? k = some .directory

theorem Pruned.refl (t : FileTree) : Pruned t t :=
  ⟨rfl, rfl, fun _ _ h => h, fun _ h => h⟩

theorem Pruned.trans {t t' t'' : FileTree} (h : Pruned t t') (h' : Pruned t' t'') :
    Pruned t t'' := by
  constructor
  · exact h'.contents.trans h.contents
  · exact h'.next.trans h.next
  · intro k n hk
    exact h.node k n (h'.node k n hk)
  · intro k hk
    exact h'.directory k (h.directory k hk)

/-- A path names the file or the link at a location.  A link at the end of the path is not
followed. -/
def Names (t : FileTree) (cwd : Location) (path : String) (l : Location) : Prop :=
  ∃ n, n ≠ .directory ∧ t.node? l = some n ∧ t.locate cwd .name path = .ok (.node l n)

/-- Nothing but the name at a location is gone. -/
structure Lacks (t t' : FileTree) (l : Location) : Prop where
  gone : t'.node? l = none
  others : ∀ k, k ≠ l → t'.node? k = t.node? k
  contents : t'.contents = t.contents
  next : t'.next = t.next

variable {t t' : FileTree} {cwd l : Location} {path : String}

theorem lacks_erase (hl : l ≠ []) : Lacks t (t.erase l) l :=
  ⟨node?_erase_self hl, fun _ hk => node?_erase_of_ne hk, rfl, rfl⟩

/-- Names of directories are never removed. -/
theorem exists_names_of_unlink (hunlink : t.unlink cwd path = .ok t') :
    ∃ l, t.Names cwd path l ∧ Lacks t t' l := by
  obtain ⟨l, n, hfound, hn, rfl⟩ := unlink_eq_ok.1 hunlink
  have hnode := locate_node hn hfound
  refine ⟨l, ⟨n, hn, hnode, hfound⟩, lacks_erase ?_⟩
  rintro rfl
  exact hn (Option.some.inj hnode).symm

theorem Names.eq {k : Location} (hl : t.Names cwd path l) (hk : t.Names cwd path k) : k = l := by
  obtain ⟨n, _, _, hfound⟩ := hl
  obtain ⟨m, _, _, hfound'⟩ := hk
  exact (Target.node.inj (Except.ok.inj (hfound'.symm.trans hfound))).1

theorem pruned_of_names (hnames : t.Names cwd path l) (hlacks : Lacks t t' l) :
    Pruned t t' := by
  obtain ⟨n, hn, hnode, _⟩ := hnames
  constructor
  · exact hlacks.contents
  · exact hlacks.next
  · intro k m hk
    by_cases hkl : k = l
    · rw [hkl, hlacks.gone] at hk
      cases hk
    · rw [← hlacks.others k hkl]
      exact hk
  · intro k hk
    rw [hlacks.others k, hk]
    rintro rfl
    exact hn (Option.some.inj (hnode.symm.trans hk))

section Content

/-- A way to what stands at the end of a path never ends at a link. -/
theorem descend_ne_link {dir : Location} {names : List String} {target : String} :
    t.descend .content dir names ≠ .ok (.inl (.node l (.link target))) := by
  intro hfound
  fun_induction t.descend .content dir names with
  | case2 dir name rest hpoint ih => exact ih hfound
  | case3 dir name rest hpoint hup ih => exact ih hfound
  | case8 dir name rest hpoint hup hnew hlong k hnode ih => exact ih hfound
  | case11 dir name rest hpoint hup hnew hlong k other hnode hend =>
    exact absurd hend (by simp)
  | _ => simp at hfound

theorem walk_ne_link {links : Nat} {dir : Location} {names : List String} {target : String} :
    t.walk .content links dir names ≠ .ok (.node l (.link target)) := by
  intro hwalk
  obtain ⟨_, _, hdown⟩ := exists_descend_of_walk hwalk
  exact descend_ne_link hdown

theorem status_ne_link {target : String} : t.status cwd path ≠ .ok (l, .link target) := by
  intro hstatus
  rw [status] at hstatus
  rcases hfound : t.locate cwd .content path with fault | found <;> rw [hfound] at hstatus
  · cases hstatus
  cases found with
  | absent k => cases hstatus
  | node k n =>
    obtain ⟨rfl, rfl⟩ := Prod.mk.inj (Except.ok.inj hstatus)
    have hwalk := hfound.symm.trans (locate_eq_walk hfound)
    exact walk_ne_link hwalk.symm

/-- When a link is removed, what stands at its end stays. -/
theorem node?_target {k : Location} {target : String} {n : Node}
    (hlink : t.node? l = some (.link target)) (hlacks : Lacks t t' l)
    (hstatus : t.status cwd path = .ok (k, n)) (hnode : t.node? k = some n) :
    t'.node? k = some n := by
  rw [hlacks.others k, hnode]
  rintro rfl
  obtain rfl : n = .link target := Option.some.inj (hnode.symm.trans hlink)
  exact status_ne_link hstatus

end Content

end FileTree

namespace Baseline

open FileTree

/-- A load reports nothing but a file that is no baseline document. -/
def Attempt.Deletes {σ : Type} (a : Attempt σ) : Prop :=
  a.baseline.status = .invalid ∧ a.baseline.diagnostics.length = 1

/-- What one load does to a file system. -/
structure Attempt.Frames (t : FileTree) (cwd : Location) (path : String) (a : Loaded) :
    Prop where
  deletes_iff : a.Deletes ↔ ∃ l, t.Names cwd (Path.ofString path).text l ∧ Lacks t a.tree l
  tree_eq : ¬ a.Deletes → a.tree = t
  target : ∀ l target k n, t.Names cwd (Path.ofString path).text l →
    t.node? l = some (.link target) →
    t.status cwd (Path.ofString path).text = .ok (k, n) → t.node? k = some n →
    a.tree.node? k = some n

/-- What the next load of the same path comes to. -/
structure Attempt.Recurs (cwd : Location) (path : String) (a : Loaded) : Prop where
  shape : (a.baseline.status = .valid ∨ a.baseline.status = .notFound) ∨ a.Deletes ∨
    a.baseline.status = .invalid ∧ a.baseline.diagnostics.length = 2
  again : a.baseline.status = .valid ∨ a.baseline.status = .notFound →
    (load? a.tree cwd path).map (·.baseline) = some a.baseline
  deleted : a.Deletes →
    (load? a.tree cwd path).map (·.baseline) = some (notFound path)
  undeleted : a.baseline.status = .invalid ∧ a.baseline.diagnostics.length = 2 →
    (load? a.tree cwd path).map (·.baseline) = some a.baseline

section Step

variable (t : FileTree) (cwd : Location) (path : String)

/-- A load leaves the file system as it is, or it removes what its path names. -/
theorem loadAt_tree :
    (loadAt t cwd path).tree = t ∧ ¬ (loadAt t cwd path).Deletes ∧
      ((loadAt t cwd path).baseline.status = .invalid →
        (loadAt t cwd path).baseline.diagnostics.length = 2) ∨
    (loadAt t cwd path).Deletes ∧
      t.unlink cwd (Path.ofString path).text = .ok (loadAt t cwd path).tree := by
  have hfits := fits_attempt (FileTree.storage cwd) t path
  rw [← loadAt] at hfits
  rcases hfits.status_cases with hstatus | hstatus | hstatus
  · left
    refine ⟨(hfits.absence hstatus).tree, ?_, ?_⟩
    · rintro ⟨hinvalid, _⟩
      cases hstatus.symm.trans hinvalid
    · intro hinvalid
      cases hstatus.symm.trans hinvalid
  · obtain ⟨_, d, hdocument⟩ := hfits.valid_iff.1 hstatus
    left
    refine ⟨(hfits.document d hstatus hdocument).tree, ?_, ?_⟩
    · rintro ⟨hinvalid, _⟩
      cases hstatus.symm.trans hinvalid
    · intro hinvalid
      cases hstatus.symm.trans hinvalid
  · obtain ⟨_, reason, hreason⟩ := hfits.invalid_iff.1 hstatus
    -- A baseline that can not be removed has a second diagnostic, and is no deletion.
    rcases (hfits.removal reason hstatus hreason).removal with
      ⟨t', hunlink, htree, hone⟩ | ⟨refusal, _, htree, htwo⟩
    · right
      refine ⟨⟨hstatus, by rw [hone]; rfl⟩, ?_⟩
      rw [htree]
      exact mapError_eq_ok.1 hunlink
    · left
      refine ⟨htree, ?_, fun _ => by rw [htwo]; rfl⟩
      rintro ⟨_, hone⟩
      rw [htwo] at hone
      cases hone

theorem frames_loadAt : (loadAt t cwd path).Frames t cwd path := by
  rcases loadAt_tree t cwd path with ⟨htree, hkeeps, _⟩ | ⟨hdeletes, hunlink⟩
  · constructor
    · refine ⟨fun h => absurd h hkeeps, ?_⟩
      rintro ⟨l, ⟨n, _, hnode, _⟩, hlacks⟩
      -- A name that is gone was there, so the file system would not be the same.
      rw [htree] at hlacks
      cases hlacks.gone.symm.trans hnode
    · exact fun _ => htree
    · intro l target k n _ _ _ hnode
      rw [htree]
      exact hnode
  · obtain ⟨l, hnames, hlacks⟩ := exists_names_of_unlink hunlink
    constructor
    · exact ⟨fun _ => ⟨l, hnames, hlacks⟩, fun _ => hdeletes⟩
    · exact fun h => absurd hdeletes h
    · intro k target m n hk hlink hstatus hnode
      obtain rfl := hnames.eq hk
      exact node?_target hlink hlacks hstatus hnode

theorem load?_of_visible {path : String} (hpath : Text.isBlankText path = false) :
    load? t cwd path = some (loadAt t cwd path) := by
  rw [load?, attempt?, hpath]
  rfl

/-- Once the name at the end of a path is removed, no baseline is found there. -/
theorem loadAt_of_unlink {t t' : FileTree} {cwd : Location} {path : String}
    (hunlink : t.unlink cwd (Path.ofString path).text = .ok t') :
    (loadAt t' cwd path).baseline = notFound path := by
  have hholds : t'.holds cwd (Path.ofString path).text = .ok false := by
    rw [FileTree.holds, status_of_unlink hunlink]
    rfl
  rw [loadAt_eq, hholds]
  rfl

/-- Loading again comes to the same, save for a file that was removed. -/
theorem recurs_loadAt {path : String} (hpath : Text.isBlankText path = false) :
    (loadAt t cwd path).Recurs cwd path := by
  rcases loadAt_tree t cwd path with ⟨htree, hkeeps, htwo⟩ | ⟨hdeletes, hunlink⟩
  · have hagain : (load? (loadAt t cwd path).tree cwd path).map (·.baseline) =
        some (loadAt t cwd path).baseline := by
      rw [htree, load?_of_visible t cwd hpath]
      rfl
    constructor
    · have hfits := fits_attempt (FileTree.storage cwd) t path
      rw [← loadAt] at hfits
      rcases hfits.status_cases with hstatus | hstatus | hstatus
      · exact Or.inl (Or.inr hstatus)
      · exact Or.inl (Or.inl hstatus)
      · exact Or.inr (Or.inr ⟨hstatus, htwo hstatus⟩)
    · exact fun _ => hagain
    · exact fun h => absurd h hkeeps
    · exact fun _ => hagain
  · constructor
    · exact Or.inr (Or.inl hdeletes)
    · rintro (hvalid | habsent)
      · cases hdeletes.1.symm.trans hvalid
      · cases hdeletes.1.symm.trans habsent
    · intro _
      rw [load?_of_visible _ cwd hpath, Option.map_some, loadAt_of_unlink hunlink]
    · rintro ⟨_, htwo⟩
      cases hdeletes.2.symm.trans htwo

theorem pruned_loadAt : Pruned t (loadAt t cwd path).tree := by
  rcases loadAt_tree t cwd path with ⟨htree, _⟩ | ⟨_, hunlink⟩
  · rw [htree]
    exact Pruned.refl t
  · obtain ⟨l, hnames, hlacks⟩ := exists_names_of_unlink hunlink
    exact pruned_of_names hnames hlacks

/-- There is something at a path that is no baseline document, and the path names the file or the
link at a location, so that it can be removed. -/
structure Discards (t : FileTree) (cwd : Location) (path : Path) (l : Location) : Prop where
  isThere : t.holds cwd path.text = .ok true
  isFaulty : ∃ fault, Document.ofFile t cwd path = .error fault
  names : t.Names cwd path.text l

/-- Loading removes the name at the end of such a path, and nothing at any other. -/
theorem loadAt_discards :
    (∃ l, Discards t cwd (Path.ofString path) l ∧ (loadAt t cwd path).tree = t.erase l) ∨
    (∀ l, ¬ Discards t cwd (Path.ofString path) l) ∧ (loadAt t cwd path).tree = t := by
  rw [loadAt_eq]
  rcases hholds : t.holds cwd (Path.ofString path).text with fault | isThere
  · refine Or.inr ⟨fun l hl => ?_, rfl⟩
    cases hl.isThere.symm.trans hholds
  cases isThere with
  | false =>
    refine Or.inr ⟨fun l hl => ?_, rfl⟩
    cases hl.isThere.symm.trans hholds
  | true =>
    dsimp only
    rcases hfile : Document.ofFile t cwd (Path.ofString path) with fault | d
    · dsimp only
      rw [ofFault_eq]
      rcases hunlink : t.unlink cwd (Path.ofString path).text with refusal | t'
      · refine Or.inr ⟨fun l hl => ?_, rfl⟩
        obtain ⟨n, hn, _, hfound⟩ := hl.names
        have hremoved := unlink_eq_ok.2 ⟨l, n, hfound, hn, rfl⟩
        cases hremoved.symm.trans hunlink
      · obtain ⟨l, n, hfound, hn, rfl⟩ := unlink_eq_ok.1 hunlink
        exact Or.inl ⟨l, ⟨hholds, ⟨fault, hfile⟩, n, hn, locate_node hn hfound, hfound⟩, rfl⟩
    · refine Or.inr ⟨fun l hl => ?_, rfl⟩
      obtain ⟨fault, hfault⟩ := hl.isFaulty
      cases hfault.symm.trans hfile

end Step

section Run

/-- What a file system becomes when the baselines at some paths are loaded in turn.  A blank
path is refused and changes nothing. -/
def afterLoads (t : FileTree) (cwd : Location) (paths : List String) : FileTree :=
  paths.foldl (fun t path => ((load? t cwd path).map (·.tree)).getD t) t

/-- A load in the middle of others took the name at a location away. -/
structure DeletedBy (t : FileTree) (cwd : Location) (before : List String) (path : String)
    (l : Location) : Prop where
  deletes : ∃ a, load? (afterLoads t cwd before) cwd path = some a ∧ a.Deletes
  names : (afterLoads t cwd before).Names cwd (Path.ofString path).text l

variable (t : FileTree) (cwd : Location)

theorem afterLoads_snoc (paths : List String) (path : String) :
    afterLoads t cwd (paths ++ [path]) =
      ((load? (afterLoads t cwd paths) cwd path).map (·.tree)).getD
        (afterLoads t cwd paths) := by
  rw [afterLoads, List.foldl_append]
  rfl

/-- One more load, which is none at a blank path. -/
theorem afterLoads_snoc_cases (paths : List String) (path : String) :
    afterLoads t cwd (paths ++ [path]) = afterLoads t cwd paths ∨
    load? (afterLoads t cwd paths) cwd path = some (loadAt (afterLoads t cwd paths) cwd path) ∧
      afterLoads t cwd (paths ++ [path]) = (loadAt (afterLoads t cwd paths) cwd path).tree := by
  rw [afterLoads_snoc]
  cases hblank : Text.isBlankText path with
  | true =>
    left
    rw [load?, attempt?, hblank]
    rfl
  | false =>
    right
    rw [load?_of_visible _ cwd hblank]
    exact ⟨rfl, rfl⟩

/-- However many baselines are loaded, nothing but names of files and links is gone. -/
theorem pruned_afterLoads (paths : List String) : Pruned t (afterLoads t cwd paths) := by
  induction paths using List.reverseRecOn with
  | nil => exact Pruned.refl t
  | append_singleton paths path ih =>
    rcases afterLoads_snoc_cases t cwd paths path with heq | ⟨_, heq⟩
    · rw [heq]
      exact ih
    · rw [heq]
      exact ih.trans (pruned_loadAt _ cwd path)

/-- Every name that is gone was taken away by a load of a path that ends in it. -/
theorem deletedBy_of_ne {paths : List String} {l : Location}
    (hne : (afterLoads t cwd paths).node? l ≠ t.node? l) :
    ∃ before path after, paths = before ++ path :: after ∧ DeletedBy t cwd before path l := by
  induction paths using List.reverseRecOn with
  | nil => exact absurd rfl hne
  | append_singleton paths path ih =>
    by_cases hbefore : (afterLoads t cwd paths).node? l = t.node? l
    · -- The name goes with the last load.
      rcases afterLoads_snoc_cases t cwd paths path with heq | ⟨hload, heq⟩
      · rw [heq] at hne
        exact absurd hbefore hne
      · rw [heq, ← hbefore] at hne
        have hframes := frames_loadAt (afterLoads t cwd paths) cwd path
        have hdeletes : (loadAt (afterLoads t cwd paths) cwd path).Deletes := by
          by_contra hkeeps
          rw [hframes.tree_eq hkeeps] at hne
          exact hne rfl
        obtain ⟨k, hnames, hlacks⟩ := hframes.deletes_iff.1 hdeletes
        have hkl : l = k := by
          by_contra hlk
          exact hne (hlacks.others l hlk)
        refine ⟨paths, path, [], rfl, ⟨_, hload, hdeletes⟩, ?_⟩
        rw [hkl]
        exact hnames
    · obtain ⟨before, p, after, hsplit, hdeleted⟩ := ih hbefore
      refine ⟨before, p, after ++ [path], ?_, hdeleted⟩
      rw [hsplit, List.append_assoc]
      rfl

/-- After any number of loads, only names are gone, each through a load of its own path; and
the next load removes and repeats as a load does. -/
theorem afterLoads_frames (paths : List String) (path : String)
    (hpath : Text.isBlankText path = false) :
    Pruned t (afterLoads t cwd paths) ∧
    (∀ l, (afterLoads t cwd paths).node? l ≠ t.node? l →
      ∃ before p after, paths = before ++ p :: after ∧ DeletedBy t cwd before p l) ∧
    ∃ a, load? (afterLoads t cwd paths) cwd path = some a ∧
      a.Frames (afterLoads t cwd paths) cwd path ∧ a.Recurs cwd path := by
  refine ⟨pruned_afterLoads t cwd paths, fun l hne => deletedBy_of_ne t cwd hne, ?_⟩
  refine ⟨_, load?_of_visible _ cwd hpath, ?_, ?_⟩
  · exact frames_loadAt _ cwd path
  · exact recurs_loadAt _ cwd hpath

/-- An empty file, a link to it and a link to the link. -/
def linkedTree : FileTree where
  nodes := [(["a.xml"], .file 0), (["b.xml"], .link "a.xml"), (["c.xml"], .link "b.xml")]
  contents := [(0, ByteArray.empty)]
  next := 1

/-- With the second link gone, the first one goes and the file stays. -/
theorem afterLoads_frames_linkedTree :
    Text.isBlankText "b.xml" = false ∧
    ∃ a, load? (afterLoads linkedTree [] ["c.xml"]) [] "b.xml" = some a ∧ a.Deletes ∧
      a.tree.node? ["b.xml"] = none ∧ a.tree.node? ["a.xml"] = some (.file 0) ∧
      (load? a.tree [] "b.xml").map (·.baseline) = some (notFound "b.xml") := by
  have hvisible : Text.isBlankText "b.xml" = false := by decide +kernel
  obtain ⟨_, _, a, hload, hframes, hrecurs⟩ :=
    afterLoads_frames linkedTree [] ["c.xml"] "b.xml" hvisible
  have hshape : (load? (afterLoads linkedTree [] ["c.xml"]) [] "b.xml").map
      (fun a => (a.baseline.status, a.baseline.diagnostics.length)) = some (.invalid, 1) := by
    decide +kernel
  have hlink : (afterLoads linkedTree [] ["c.xml"]).locate [] .name "b.xml" =
      .ok (.node ["b.xml"] (.link "a.xml")) := by
    decide +kernel
  rw [hload] at hshape
  have hdeletes : a.Deletes := Prod.mk.inj (Option.some.inj hshape)
  obtain ⟨l, ⟨n, _, _, hfound⟩, hlacks⟩ := hframes.deletes_iff.1 hdeletes
  obtain ⟨rfl, _⟩ := Target.node.inj (Except.ok.inj (hfound.symm.trans hlink))
  refine ⟨hvisible, a, hload, hdeletes, hlacks.gone, ?_, hrecurs.deleted hdeletes⟩
  rw [hlacks.others ["a.xml"] (by decide)]
  decide +kernel

end Run

end Baseline

end FindingLedger
