/-
What a journal does to the file system.

Setting a journal up changes the bytes of no file.  Taking records changes those of the
files that the journal writes to, and of no others, whatever is put aside on the way.
-/
import FindingLedger.Journal.Basic
import FindingLedger.Proofs.FileTree.Sound

namespace FindingLedger

def Sink.openFile? : Sink → Option Nat
  | .console _ _ => none
  | .file f => some f.id

namespace Journal

def openFiles (j : Journal) : List Nat := j.sinks.filterMap Sink.openFile?

/-- Whatever journal there was before, setting one up succeeds, with this outcome. -/
def SetsUp (t : FileTree) (cwd : Location) (setup : JournalSetup) (t' : FileTree)
    (j' : Journal) : Prop :=
  ∀ j : Journal, j.setUp t cwd setup = (t', j', none)

/-- The files that are written to while a journal takes records. -/
def written (now : Moment) (j : Journal) (t : FileTree) : List Record → List Nat
  | [] => []
  | r :: rest =>
    let (t, j, _) := j.take now r t
    j.openFiles ++ written now j t rest

/-- The file system is sound, and the files that are open are among its files. -/
structure IsFit (j : Journal) (t : FileTree) : Prop where
  sound : t.IsSound
  open_lt : ∀ id ∈ j.openFiles, id < t.next

variable {t t' : FileTree} {cwd : Location} {now : Moment}

theorem grown_openFile (ht : t.IsSound) {s : JournalSetup} {p : Path} {f : JournalFile}
    (hopen : openFile t cwd s p = .ok (t', f)) : t.Grown t' ∧ f.id < t'.next := by
  rw [openFile] at hopen
  have hmade := FileTree.grown_makeDirectories ht cwd p.parent
  rcases hdirs : t.makeDirectories cwd p.parent with ⟨t₁, fault?⟩
  rw [hdirs] at hmade
  rw [hdirs] at hopen
  cases fault? with
  | some e => cases hopen
  | none =>
    dsimp only at hopen
    rcases hfile : t₁.openFile cwd (absolute cwd p) with fault | ⟨t₂, id⟩ <;>
      rw [hfile] at hopen <;> cases hopen
    obtain ⟨hgrown, hid⟩ := FileTree.grown_openFile hmade.sound hfile
    exact ⟨hmade.trans hgrown, hid⟩

/-- Of a journal that could be set up, nothing is left of the one before. -/
theorem setsUp_of_setUp {j j' : Journal} {setup : JournalSetup}
    (hset : j.setUp t cwd setup = (t', j', none)) : SetsUp t cwd setup t' j' := by
  intro other
  rw [← hset, setUp, setUp]
  rw [setUp] at hset
  cases hfile : setup.file with
  | none => rfl
  | some path =>
    rw [hfile] at hset
    dsimp only at hset ⊢
    rcases hopen : openFile t cwd setup path with ⟨t₁, e⟩ | ⟨t₁, f⟩
    · rw [hopen] at hset
      cases hset
    · rfl

theorem SetsUp.grown {setup : JournalSetup} {j' : Journal} (ht : t.IsSound)
    (hup : SetsUp t cwd setup t' j') : t.Grown t' ∧ j'.IsFit t' := by
  have hset := hup .unset
  rw [setUp] at hset
  cases hfile : setup.file with
  | none =>
    rw [hfile] at hset
    cases hset
    exact ⟨FileTree.Grown.refl ht, ht, fun id hid => nomatch hid⟩
  | some p =>
    rw [hfile] at hset
    dsimp only at hset
    rcases hopen : openFile t cwd setup p with ⟨t₁, e⟩ | ⟨t₁, f⟩ <;> rw [hopen] at hset
    · cases hset
    · cases hset
      obtain ⟨hgrown, hid⟩ := grown_openFile ht hopen
      refine ⟨hgrown, hgrown.sound, ?_⟩
      intro id hmem
      rw [show id = f.id from List.mem_singleton.1 hmem]
      exact hid

/-- A journal still fits what its file system has become. -/
theorem IsFit.grown {j : Journal} (hfit : j.IsFit t) (hgrown : t.Grown t') : j.IsFit t' :=
  ⟨hgrown.sound, fun id hid => Nat.lt_of_lt_of_le (hfit.open_lt id hid) hgrown.next_le⟩

/-- The name of a log file, and the names that it gets when it is put aside once, twice and so
on. -/
def logName (path : String) : Nat → String
  | 0 => path
  | n + 1 => asideName path (n + 1)

/-- Steps that may break off have come to a file system. -/
def Reaches (steps : Except FileTree FileTree) (t : FileTree) : Prop :=
  steps = .ok t ∨ steps = .error t

theorem reaches_ok : Reaches (.ok t) t' ↔ t' = t := by
  simp [Reaches, eq_comm]

theorem reaches_error : Reaches (.error t) t' ↔ t' = t := by
  simp [Reaches, eq_comm]

section Induction

variable {P : FileTree → Prop} {path : String} {backups : Int}
  (hclear : ∀ (i : Nat) (t t' : FileTree), i < backups → P t →
    clear t (logName path (i + 1)) = .ok t' → P t')
  (hmove : ∀ (i : Nat) (t t' : FileTree), i < backups → P t →
    t.move [] (logName path i) (logName path (i + 1)) = .ok t' → P t')

include hclear hmove

/-- Moving files aside clears names and moves files to them. -/
theorem moveAside_induction {n : Nat} (hn : n < backups) (ht : P t)
    (hreaches : Reaches (moveAside path n t) t') : P t' := by
  induction n generalizing t with
  | zero =>
    rw [reaches_ok.1 hreaches]
    exact ht
  | succ n ih =>
    rw [moveAside] at hreaches
    have hnext : (n : Int) < backups := by omega
    split at hreaches
    · rcases hcleared : clear t (asideName path (n + 2)) with fault | t₁ <;>
        rw [hcleared] at hreaches
      · rw [reaches_error.1 hreaches]
        exact ht
      have ht₁ := hclear (n + 1) t t₁ hn ht hcleared
      dsimp only at hreaches
      rcases hmoved : t₁.move [] (asideName path (n + 1)) (asideName path (n + 2)) with
        fault | t₂ <;> rw [hmoved] at hreaches
      · rw [reaches_error.1 hreaches]
        exact ht₁
      · exact ih hnext (hmove (n + 1) t₁ t₂ hn ht₁ hmoved) hreaches
    · exact ih hnext ht hreaches

theorem putAside_induction {f : JournalFile} (hpath : f.path = path)
    (hbackups : f.backups = backups) (hsome : 0 < backups) (ht : P t)
    (hreaches : Reaches (putAside t f) t') : P t' := by
  subst hpath hbackups
  rw [putAside] at hreaches
  have hlast : ((f.backups.toNat - 1 : Nat) : Int) < f.backups := by omega
  rcases hmoved : moveAside f.path (f.backups.toNat - 1) t with t₁ | t₁ <;>
    rw [hmoved] at hreaches
  · rw [reaches_error.1 hreaches]
    exact moveAside_induction hclear hmove hlast ht (Or.inr hmoved)
  have ht₁ := moveAside_induction hclear hmove hlast ht (Or.inl hmoved)
  dsimp only at hreaches
  rcases hcleared : clear t₁ (asideName f.path 1) with fault | t₂ <;> rw [hcleared] at hreaches
  · rw [reaches_error.1 hreaches]
    exact ht₁
  have ht₂ := hclear 0 t₁ t₂ hsome ht₁ hcleared
  dsimp only at hreaches
  split at hreaches
  · rcases hput : t₂.move [] f.path (asideName f.path 1) with fault | t₃ <;> rw [hput] at hreaches
    · rw [reaches_error.1 hreaches]
      exact ht₂
    · rw [reaches_ok.1 hreaches]
      exact hmove 0 t₂ t₃ hsome ht₂ hput
  · rw [reaches_ok.1 hreaches]
    exact ht₂

/-- A file is opened again when it was put aside, or this has broken off. -/
theorem rotate_cases {f : JournalFile} (hpath : f.path = path) (hbackups : f.backups = backups)
    (ht : P t) :
    (∃ t', P t' ∧ rotate t f = .error t') ∨
    ∃ t₁ t' id, P t₁ ∧ t₁.openFile [] path = .ok (t', id) ∧
      rotate t f = .ok (t', { f with id }) := by
  have hput : ∀ t', Reaches (if 0 < f.backups then putAside t f else .ok t) t' → P t' := by
    intro t' hreaches
    split at hreaches
    · exact putAside_induction hclear hmove hpath hbackups (by omega) ht hreaches
    · rw [reaches_ok.1 hreaches]
      exact ht
  rw [rotate]
  rcases hset : (if 0 < f.backups then putAside t f else .ok t) with t₁ | t₁
  · exact Or.inl ⟨t₁, hput t₁ (Or.inr hset), rfl⟩
  have ht₁ := hput t₁ (Or.inl hset)
  dsimp only
  rcases hopen : t₁.openFile [] f.path with fault | ⟨t₂, id⟩
  · exact Or.inl ⟨t₁, ht₁, rfl⟩
  · exact Or.inr ⟨t₁, t₂, id, ht₁, hpath ▸ hopen, rfl⟩

/-- A line is written to the file as it is or to the one that takes its place, unless this can
not be had. -/
theorem append_cases {f : JournalFile} (hpath : f.path = path) (hbackups : f.backups = backups)
    (ht : P t) (line : String) :
    (∃ t', P t' ∧ append t f line = (t', f)) ∨
    append t f line = (t.setBytes f.id (t.bytesOf f.id ++ line.toUTF8), f) ∨
    ∃ t₁ t' id, P t₁ ∧ t₁.openFile [] path = .ok (t', id) ∧
      append t f line = (t'.setBytes id (t'.bytesOf id ++ line.toUTF8), { f with id }) := by
  rw [append]
  by_cases hfull : isFull t f line = true
  · rw [if_pos hfull]
    rcases rotate_cases hclear hmove hpath hbackups ht with
      ⟨t', ht', hlost⟩ | ⟨t₁, t', id, ht₁, hopen, hnew⟩
    · rw [hlost]
      exact Or.inl ⟨t', ht', rfl⟩
    · rw [hnew]
      exact Or.inr (Or.inr ⟨t₁, t', id, ht₁, hopen, rfl⟩)
  · rw [if_neg hfull]
    exact Or.inr (Or.inl rfl)

end Induction

theorem grown_clear {path : String} (ht : t.IsSound) (hclear : clear t path = .ok t') :
    t.Grown t' := by
  rw [clear] at hclear
  split at hclear
  · exact FileTree.grown_unlink ht hclear
  · cases hclear
    exact FileTree.Grown.refl ht

/-- What writing to files leaves behind: a sound file system that is no smaller, where
only these files have other bytes. -/
structure WritesOnly (t t' : FileTree) (ids : List Nat) : Prop where
  sound : t'.IsSound
  next_le : t.next ≤ t'.next
  lt : ∀ id ∈ ids, id < t'.next
  bytes : ∀ id, id ∉ ids → t'.bytesOf id = t.bytesOf id

theorem writesOnly_nil (ht : t.IsSound) : WritesOnly t t [] :=
  ⟨ht, Nat.le_refl _, fun _ hid => absurd hid List.not_mem_nil, fun _ _ => rfl⟩

theorem WritesOnly.trans {t'' : FileTree} {ids ids' : List Nat} (h : WritesOnly t t' ids)
    (h' : WritesOnly t' t'' ids') : WritesOnly t t'' (ids ++ ids') := by
  refine ⟨h'.sound, Nat.le_trans h.next_le h'.next_le, ?_, ?_⟩
  · intro id hid
    rcases List.mem_append.1 hid with hfirst | hsecond
    · exact Nat.lt_of_lt_of_le (h.lt id hfirst) h'.next_le
    · exact h'.lt id hsecond
  · intro id hid
    rw [List.mem_append, not_or] at hid
    exact (h'.bytes id hid.2).trans (h.bytes id hid.1)

/-- Where the bytes of one file are set in what a file system has become, no other has other
bytes. -/
theorem writesOnly_setBytes (hgrown : t.Grown t') {id : Nat} (hid : id < t'.next)
    (bytes : ByteArray) : WritesOnly t (t'.setBytes id bytes) [id] := by
  refine ⟨FileTree.isSound_setBytes hgrown.sound hid _, hgrown.next_le, ?_, ?_⟩
  · intro other hmem
    rw [List.mem_singleton.1 hmem]
    exact hid
  · intro other hmem
    rw [FileTree.bytesOf_setBytes_of_ne (mt List.mem_singleton.2 hmem)]
    exact hgrown.bytes other

theorem writesOnly_append (ht : t.IsSound) {f : JournalFile} (hf : f.id < t.next)
    (line : String) : WritesOnly t (append t f line).1 [(append t f line).2.id] := by
  have hclear : ∀ (i : Nat) (t₁ t₂ : FileTree), i < f.backups → t.Grown t₁ →
      clear t₁ (logName f.path (i + 1)) = .ok t₂ → t.Grown t₂ :=
    fun _ _ _ _ hgrown hcleared => hgrown.trans (grown_clear hgrown.sound hcleared)
  have hmove : ∀ (i : Nat) (t₁ t₂ : FileTree), i < f.backups → t.Grown t₁ →
      t₁.move [] (logName f.path i) (logName f.path (i + 1)) = .ok t₂ → t.Grown t₂ :=
    fun _ _ _ _ hgrown hmoved => hgrown.trans (FileTree.grown_move hgrown.sound hmoved)
  rcases append_cases hclear hmove rfl rfl (FileTree.Grown.refl ht) line with
    ⟨t', hgrown, heq⟩ | heq | ⟨t₁, t', id, hgrown, hopen, heq⟩ <;> rw [heq]
  · refine ⟨hgrown.sound, hgrown.next_le, ?_, fun id _ => hgrown.bytes id⟩
    intro id hmem
    rw [List.mem_singleton.1 hmem]
    exact Nat.lt_of_lt_of_le hf hgrown.next_le
  · exact writesOnly_setBytes (FileTree.Grown.refl ht) hf _
  · obtain ⟨hopened, hid⟩ := FileTree.grown_openFile hgrown.sound hopen
    exact writesOnly_setBytes (hgrown.trans hopened) hid _

theorem writesOnly_write (now : Moment) (ht : t.IsSound) (r : Record) {s : Sink}
    (hs : ∀ id ∈ s.openFile?, id < t.next) :
    WritesOnly t (write now r t s).1 (write now r t s).2.1.openFile?.toList := by
  cases s with
  | console rank json => exact writesOnly_nil ht
  | file f => exact writesOnly_append ht (hs f.id rfl) _

/-- One sink after the other writes, and leaves alone what the others have written to. -/
theorem writesOnly_writeAll (ht : t.IsSound) (r : Record) {sinks : List Sink}
    (hs : ∀ id ∈ sinks.filterMap Sink.openFile?, id < t.next) :
    WritesOnly t (writeAll now r t sinks).1
      ((writeAll now r t sinks).2.1.filterMap Sink.openFile?) := by
  induction sinks generalizing t with
  | nil => exact writesOnly_nil ht
  | cons s rest ih =>
    have hfirst := writesOnly_write now ht r (s := s) fun id hid =>
      hs id (List.mem_filterMap.2 ⟨s, List.mem_cons_self, hid⟩)
    have hrest := ih hfirst.sound fun id hid => by
      obtain ⟨other, hother, hopen⟩ := List.mem_filterMap.1 hid
      exact Nat.lt_of_lt_of_le
        (hs id (List.mem_filterMap.2 ⟨other, List.mem_cons_of_mem _ hother, hopen⟩))
        hfirst.next_le
    have hboth := hfirst.trans hrest
    have hids : ∀ (s : Sink) (rest : List Sink),
        s.openFile?.toList ++ rest.filterMap Sink.openFile? =
          (s :: rest).filterMap Sink.openFile? := by
      intro s rest
      cases s <;> rfl
    rw [hids] at hboth
    exact hboth

theorem writesOnly_take (now : Moment) {j : Journal} (hfit : j.IsFit t) (r : Record) :
    WritesOnly t (j.take now r t).1 (j.take now r t).2.1.openFiles := by
  have hstay : WritesOnly t t j.openFiles :=
    ⟨hfit.sound, Nat.le_refl _, hfit.open_lt, fun _ _ => rfl⟩
  rw [take]
  split
  · exact hstay
  split
  · exact hstay
  · exact writesOnly_writeAll hfit.sound r hfit.open_lt

theorem takeAll_cons (j : Journal) (r : Record) (rest : List Record) (t : FileTree) :
    (j.takeAll now (r :: rest) t).1 =
      ((j.take now r t).2.1.takeAll now rest (j.take now r t).1).1 := by
  have hshown : ∀ (rs : List Record) (t : FileTree) (j : Journal) (shown shown' : List String),
      (rs.foldl (fun (t, j, shown) r =>
        let (t, j, more) := j.take now r t
        (t, j, shown ++ more)) (t, j, shown)).1 =
      (rs.foldl (fun (t, j, shown) r =>
        let (t, j, more) := j.take now r t
        (t, j, shown ++ more)) (t, j, shown')).1 := by
    intro rs
    induction rs with
    | nil => exact fun _ _ _ _ => rfl
    | cons r rest ih => exact fun t j shown shown' => ih _ _ _ _
  exact hshown rest _ _ _ _

/-- Taking records changes the bytes of no file but those that are written to. -/
theorem writesOnly_takeAll {j : Journal} (hfit : j.IsFit t) (rs : List Record) :
    WritesOnly t (j.takeAll now rs t).1 (j.written now t rs) := by
  induction rs generalizing t j with
  | nil => exact writesOnly_nil hfit.sound
  | cons r rest ih =>
    have hfirst := writesOnly_take now hfit r
    rw [takeAll_cons]
    exact hfirst.trans (ih ⟨hfirst.sound, hfirst.lt⟩)

theorem SetsUp.of_no_file {setup : JournalSetup} {j' : Journal} (hfile : setup.file = none)
    (hup : SetsUp t cwd setup t' j') : t' = t ∧ j'.openFiles = [] := by
  have hset := hup .unset
  rw [setUp, hfile] at hset
  cases hset
  exact ⟨rfl, rfl⟩

theorem exists_setsUp_of_no_file (t : FileTree) (cwd : Location) {setup : JournalSetup}
    (hfile : setup.file = none) : ∃ j', SetsUp t cwd setup t j' := by
  refine ⟨(unset.setUp t cwd setup).2.1, ?_⟩
  intro j
  rw [setUp, setUp, hfile]

/-- Of a setup, only the file matters to the file system. -/
theorem setUp_fst (j : Journal) (t : FileTree) (cwd : Location) {setup setup' : JournalSetup}
    (hfile : setup'.file = setup.file) :
    (j.setUp t cwd setup').1 = (j.setUp t cwd setup).1 := by
  rw [setUp, setUp, hfile]
  cases setup.file with
  | none => rfl
  | some p =>
    dsimp only
    rw [openFile, openFile]
    rcases t.makeDirectories cwd p.parent with ⟨t₁, fault?⟩
    cases fault? with
    | some e => rfl
    | none =>
      dsimp only
      rcases t₁.openFile cwd (absolute cwd p) with fault | ⟨t₂, id⟩ <;> rfl

/-- Journals with the same file leave the same file system when they are set up. -/
theorem SetsUp.tree_eq {setup setup' : JournalSetup} {t'' : FileTree} {j' j'' : Journal}
    (hup : SetsUp t cwd setup t' j') (hup' : SetsUp t cwd setup' t'' j'')
    (hfile : setup'.file = setup.file) : t'' = t' := by
  have htree := setUp_fst .unset t cwd hfile
  rw [hup .unset, hup' .unset] at htree
  exact htree

theorem writeAll_of_no_files {r : Record} {sinks : List Sink}
    (hsinks : sinks.filterMap Sink.openFile? = []) :
    (writeAll now r t sinks).1 = t ∧
      (writeAll now r t sinks).2.1.filterMap Sink.openFile? = [] := by
  induction sinks with
  | nil => exact ⟨rfl, rfl⟩
  | cons s rest ih =>
    cases s with
    | console rank json => exact ih hsinks
    | file f => cases hsinks

theorem take_of_no_files (now : Moment) (t : FileTree) (r : Record) {j : Journal}
    (hfiles : j.openFiles = []) : (j.take now r t).1 = t ∧ (j.take now r t).2.1.openFiles = [] := by
  rw [take]
  split
  · exact ⟨rfl, hfiles⟩
  split
  · exact ⟨rfl, hfiles⟩
  · exact writeAll_of_no_files hfiles

/-- A journal without files leaves the file system alone. -/
theorem takeAll_of_no_files {j : Journal} {rs : List Record} (hfiles : j.openFiles = []) :
    (j.takeAll now rs t).1 = t ∧ j.written now t rs = [] := by
  induction rs generalizing j with
  | nil => exact ⟨rfl, rfl⟩
  | cons r rest ih =>
    obtain ⟨htree, hstill⟩ := take_of_no_files now t r hfiles
    obtain ⟨hrest, hwritten⟩ := ih hstill
    constructor
    · rw [takeAll_cons, htree, hrest]
    · rw [written]
      dsimp only
      rw [htree, hstill, hwritten]
      rfl

end Journal

end FindingLedger
