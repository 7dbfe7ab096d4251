/-
What operations leave as it was.

In a sound file system every file has a number below the next one, and numbers from
there on hold nothing.  Making directories, opening files and moving or removing names keeps
it so, and keeps the bytes of all files.
-/
import FindingLedger.Proofs.FileTree.Way
import FindingLedger.Proofs.Outcome
import Mathlib.Logic.Function.Iterate

namespace FindingLedger

namespace FileTree

/-- The files have numbers below the next one, and nothing is kept under others. -/
structure IsSound (t : FileTree) : Prop where
  file_lt : ∀ l id, t.nodes.lookup l = some (.file id) → id < t.next
  blank : ∀ id, t.next ≤ id → t.bytesOf id = ByteArray.empty

/-- A node is no file, or one with a number below a bound. -/
def isFileBelow (bound : Nat) : Node → Bool
  | .file id => id < bound
  | _ => true

theorem isSound_of_all {t : FileTree} (hnodes : ∀ e ∈ t.nodes, isFileBelow t.next e.2 = true)
    (hcontents : ∀ e ∈ t.contents, e.1 < t.next) : t.IsSound := by
  constructor
  · intro l id hfile
    obtain ⟨before, after, hsplit, _⟩ := List.lookup_eq_some_iff.1 hfile
    have hbelow := hnodes (l, .file id) (by rw [hsplit]; simp)
    exact of_decide_eq_true hbelow
  · intro id hid
    have hnone : t.contents.lookup id = none := by
      rw [List.lookup_eq_none_iff]
      intro e he
      have hlt := hcontents e he
      exact bne_iff_ne.2 (by omega)
    rw [bytesOf, hnone]
    rfl

/-- What a sound file system became without the bytes of any file being changed. -/
structure Grown (t t' : FileTree) : Prop where
  sound : t'.IsSound
  next_le : t.next ≤ t'.next
  bytes : ∀ id, t'.bytesOf id = t.bytesOf id

theorem Grown.refl {t : FileTree} (ht : t.IsSound) : Grown t t :=
  ⟨ht, Nat.le_refl _, fun _ => rfl⟩

theorem Grown.trans {t t' t'' : FileTree} (h : Grown t t') (h' : Grown t' t'') : Grown t t'' :=
  ⟨h'.sound, Nat.le_trans h.next_le h'.next_le, fun id => (h'.bytes id).trans (h.bytes id)⟩

variable {t t' : FileTree} {cwd : Location}

/-- Only the nodes have changed, and no file is new. -/
theorem grown_of_nodes (ht : t.IsSound) (nodes : List (Location × Node))
    (hfiles : ∀ l id, nodes.lookup l = some (.file id) → ∃ k, t.nodes.lookup k = some (.file id)) :
    Grown t { t with nodes } := by
  refine ⟨⟨?_, ht.blank⟩, Nat.le_refl _, fun _ => rfl⟩
  intro l id hfile
  obtain ⟨k, hk⟩ := hfiles l id hfile
  exact ht.file_lt k id hk

theorem bytesOf_setBytes_of_ne {id other : Nat} (hne : other ≠ id) (bytes : ByteArray) :
    (t.setBytes id bytes).bytesOf other = t.bytesOf other := by
  rw [bytesOf, bytesOf, setBytes, Keyed.lookup_put_of_ne hne]

theorem isSound_setBytes (ht : t.IsSound) {id : Nat} (hid : id < t.next) (bytes : ByteArray) :
    (t.setBytes id bytes).IsSound := by
  refine ⟨ht.file_lt, ?_⟩
  intro other hother
  have hne : other ≠ id := by
    have : t.next ≤ other := hother
    omega
  rw [bytesOf_setBytes_of_ne hne]
  exact ht.blank other hother

/-- A new file is empty, as its number was before. -/
theorem grown_create (ht : t.IsSound) (l : Location) : Grown t (t.create l).1 := by
  have hbytes : ∀ id, (t.create l).1.bytesOf id = t.bytesOf id := by
    intro id
    rw [bytesOf, create]
    by_cases hid : id = t.next
    · subst hid
      rw [Keyed.lookup_put_self, ht.blank _ (Nat.le_refl _)]
      rfl
    · rw [Keyed.lookup_put_of_ne hid]
      rfl
  refine ⟨⟨?_, ?_⟩, Nat.le_succ _, hbytes⟩
  · intro k id hfile
    change id < t.next + 1
    rw [create] at hfile
    by_cases hk : k = l
    · subst hk
      rw [Keyed.lookup_put_self] at hfile
      cases hfile
      exact Nat.lt_succ_self _
    · rw [Keyed.lookup_put_of_ne hk] at hfile
      exact Nat.lt_succ_of_lt (ht.file_lt k id hfile)
  · intro id hid
    rw [hbytes id]
    exact ht.blank id (Nat.le_of_succ_le hid)

theorem grown_erase (ht : t.IsSound) (l : Location) : Grown t (t.erase l) := by
  apply grown_of_nodes ht
  intro k id hfile
  by_cases hk : k = l
  · rw [hk, Keyed.lookup_erase_self] at hfile
    cases hfile
  · rw [Keyed.lookup_erase_of_ne hk] at hfile
    exact ⟨k, hfile⟩

theorem grown_unlink (ht : t.IsSound) {path : String} (hunlink : t.unlink cwd path = .ok t') :
    Grown t t' := by
  obtain ⟨l, n, _, _, rfl⟩ := unlink_eq_ok.1 hunlink
  exact grown_erase ht l

theorem renamed_cases (source target l : Location) :
    (∃ names, l = source ++ names ∧ renamed source target l = target ++ names) ∨
      ¬ source <+: l ∧ renamed source target l = l := by
  rw [renamed]
  cases hbelow : source.isPrefixOf? l with
  | some names =>
    exact Or.inl ⟨names, (List.isPrefixOf?_eq_some_iff_append_eq.1 hbelow).symm, rfl⟩
  | none =>
    refine Or.inr ⟨?_, rfl⟩
    rintro ⟨names, happend⟩
    have hsome := List.isPrefixOf?_eq_some_iff_append_eq.2 happend
    rw [hbelow] at hsome
    cases hsome

/-- A renaming touches what stands at the two locations and below them. -/
theorem node?_rename {source target l : Location} (hsource : ¬ source <+: l)
    (htarget : ¬ target <+: l) : (t.rename source target).node? l = t.node? l := by
  have hkeep : (l != target) = true := by
    rw [bne_iff_ne]
    rintro rfl
    exact htarget (List.prefix_refl l)
  have hstays : ∀ k : Location, (k != target) = true → (renamed source target k = l ↔ k = l) := by
    intro k _
    rcases renamed_cases source target k with ⟨names, hk, hnew⟩ | ⟨_, hnew⟩ <;> rw [hnew]
    · refine iff_of_false (fun heq => htarget ⟨names, heq⟩) (fun heq => hsource ⟨names, ?_⟩)
      rw [← hk, heq]
  have hlookup : (t.rename source target).nodes.lookup l = t.nodes.lookup l :=
    Keyed.lookup_rekey_eq (· != target) (renamed source target) hkeep hstays t.nodes
  rw [node?, node?, hlookup]

theorem grown_rename (ht : t.IsSound) (source target : Location) :
    Grown t (t.rename source target) := by
  apply grown_of_nodes ht
  intro k id hfile
  obtain ⟨l, _, _, hfound⟩ :=
    Keyed.exists_lookup_of_rekey (· != target) (renamed source target) hfile
  exact ⟨l, hfound⟩

/-- What is moved gets the name of a location where there is no directory. -/
theorem move_eq_ok {source target : String} (hmove : t.move cwd source target = .ok t') :
    ∃ l n found, t.locate cwd .name source = .ok (.node l n) ∧
      t.locate cwd .name target = .ok found ∧ t' = t.rename l found.location := by
  rw [move] at hmove
  split at hmove <;> cases hmove
  · exact ⟨_, _, _, ‹_›, ‹_›, rfl⟩
  · exact ⟨_, _, _, ‹_›, ‹_›, rfl⟩

theorem grown_move (ht : t.IsSound) {source target : String}
    (hmove : t.move cwd source target = .ok t') : Grown t t' := by
  obtain ⟨l, n, found, _, _, rfl⟩ := move_eq_ok hmove
  exact grown_rename ht l found.location

theorem node?_put_of_ne {k l : Location} {n : Node} {contents : List (Nat × ByteArray)}
    {next : Nat} (hne : k ≠ l) :
    node? ⟨Keyed.put l n t.nodes, contents, next⟩ k = t.node? k := by
  rw [node?, node?, Keyed.lookup_put_of_ne hne]

theorem grown_putDirectory (ht : t.IsSound) (l : Location) :
    Grown t { t with nodes := Keyed.put l .directory t.nodes } := by
  apply grown_of_nodes ht
  intro k id hfile
  by_cases hk : k = l
  · rw [hk, Keyed.lookup_put_self] at hfile
    cases hfile
  · rw [Keyed.lookup_put_of_ne hk] at hfile
    exact ⟨k, hfile⟩

/-- A directory is made where there is nothing. -/
theorem makeDirectory_eq_ok {path : String} :
    t.makeDirectory cwd path = .ok t' ↔
      ∃ l, t.locate cwd .name path = .ok (.absent l) ∧
        t' = { t with nodes := Keyed.put l .directory t.nodes } := by
  rw [makeDirectory]
  rcases t.locate cwd .name path with fault | target
  · simp
  · cases target with
    | node l n => simp
    | absent l => simp [eq_comm]

theorem grown_makeDirectory (ht : t.IsSound) {path : String}
    (hmade : t.makeDirectory cwd path = .ok t') : Grown t t' := by
  obtain ⟨l, _, rfl⟩ := makeDirectory_eq_ok.1 hmade
  exact grown_putDirectory ht l

theorem keepDirectory_fst (t : FileTree) (cwd : Location) (p : Path) (fault : FileFault) :
    (t.keepDirectory cwd p fault).1 = t := by
  rw [keepDirectory]
  rcases t.holdsDirectory cwd p.text with fault' | isThere
  · rfl
  · cases isThere <;> rfl

/-- Directories are made from the top, each in what the ones above it left. -/
theorem makeDirectoriesFrom_induction {P : FileTree → Prop} {p : Path}
    (hmake : ∀ (k : Nat) (t t' : FileTree), P t →
      t.makeDirectory cwd (Path.parent^[k] p).text = .ok t' → P t')
    (fuel k : Nat) (ht : P t) :
    P (makeDirectoriesFrom cwd fuel t (Path.parent^[k] p)).1 := by
  induction fuel generalizing k with
  | zero => exact ht
  | succ fuel ih =>
    rw [makeDirectoriesFrom]
    rcases hmade : t.makeDirectory cwd (Path.parent^[k] p).text with fault | t'
    · cases fault with
      -- Something above is missing: it is made first, and then the directory is tried again.
      | missing =>
        dsimp only
        split
        · exact ht
        · have habove := ih (k + 1)
          rw [Function.iterate_succ_apply'] at habove
          rcases hrest : makeDirectoriesFrom cwd fuel t (Path.parent^[k] p).parent with
            ⟨t₁, fault?⟩
          rw [hrest] at habove
          cases fault? with
          | some e => exact habove
          | none =>
            dsimp only
            rcases hagain : t₁.makeDirectory cwd (Path.parent^[k] p).text with fault | t₂
            · cases fault with
              | missing => exact habove
              | _ =>
                dsimp only
                rw [keepDirectory_fst]
                exact habove
            · exact hmake k t₁ t₂ habove hagain
      | _ =>
        dsimp only
        rw [keepDirectory_fst]
        exact ht
    · exact hmake k t t' ht hmade

theorem grown_makeDirectories (ht : t.IsSound) (cwd : Location) (p : Path) :
    Grown t (t.makeDirectories cwd p).1 :=
  makeDirectoriesFrom_induction (P := t.Grown)
    (fun _ _ _ hgrown hmade => hgrown.trans (grown_makeDirectory hgrown.sound hmade))
    (p.segments.length + 1) 0 (Grown.refl ht)

theorem node?_eq_lookup {l : Location} {id : Nat} (hnode : t.node? l = some (.file id)) :
    t.nodes.lookup l = some (.file id) := by
  rw [node?] at hnode
  split at hnode
  · cases hnode
  · exact hnode

/-- A way down that ends at a file or at a link ends at a node. -/
theorem descend_node {purpose : Purpose} {dir l : Location} {names : List String} {n : Node}
    (hn : n ≠ .directory) (hfound : t.descend purpose dir names = .ok (.inl (.node l n))) :
    t.node? l = some n := by
  fun_induction t.descend purpose dir names with
  | case1 dir =>
    obtain ⟨_, hdirectory⟩ := Target.node.inj (Sum.inl.inj (Except.ok.inj hfound))
    exact absurd hdirectory.symm hn
  | case2 dir name rest hpoint ih => exact ih hfound
  | case3 dir name rest hpoint hup ih => exact ih hfound
  | case8 dir name rest hpoint hup hnew hlong k hnode ih => exact ih hfound
  | case9 dir name rest hpoint hup hnew hlong k other hnode hend =>
    obtain ⟨hk, hid⟩ := Target.node.inj (Sum.inl.inj (Except.ok.inj hfound))
    rw [← hk, ← hid]
    exact hnode
  | case11 dir name rest hpoint hup hnew hlong k target hnode hend =>
    obtain ⟨hk, htarget⟩ := Target.node.inj (Sum.inl.inj (Except.ok.inj hfound))
    rw [← hk, ← htarget]
    exact hnode
  | _ => simp at hfound

theorem walk_node {purpose : Purpose} {links : Nat} {dir l : Location} {names : List String}
    {n : Node} (hn : n ≠ .directory)
    (hfound : t.walk purpose links dir names = .ok (.node l n)) : t.node? l = some n := by
  obtain ⟨_, _, hdown⟩ := exists_descend_of_walk hfound
  exact descend_node hn hdown

/-- A path that leads to a file or to a link leads to a node. -/
theorem locate_node {purpose : Purpose} {path : String} {l : Location} {n : Node}
    (hn : n ≠ .directory) (hfound : t.locate cwd purpose path = .ok (.node l n)) :
    t.node? l = some n := by
  have hwalk := hfound.symm.trans (locate_eq_walk hfound)
  exact walk_node hn hwalk.symm

theorem locate_file {purpose : Purpose} {path : String} {l : Location} {id : Nat}
    (hfound : t.locate cwd purpose path = .ok (.node l (.file id))) :
    t.nodes.lookup l = some (.file id) :=
  node?_eq_lookup (locate_node nofun hfound)

/-- The file that is opened was there, or it is new and empty. -/
theorem grown_openFile (ht : t.IsSound) {path : String} {id : Nat}
    (hopen : t.openFile cwd path = .ok (t', id)) : Grown t t' ∧ id < t'.next := by
  rw [openFile] at hopen
  rcases hfound : t.locate cwd .creation path with fault | target <;> rw [hfound] at hopen
  · cases hopen
  cases target with
  | absent l =>
    cases hopen
    exact ⟨grown_create ht l, Nat.lt_succ_self _⟩
  | node l n =>
    cases n with
    | directory => cases hopen
    | link target => cases hopen
    | file other =>
      cases hopen
      exact ⟨Grown.refl ht, ht.file_lt l id (locate_file hfound)⟩

/-- What a path leads to is none of some files. -/
def Avoids (t : FileTree) (cwd : Location) (path : String) (ids : List Nat) : Prop :=
  ∀ l id, t.status cwd path = .ok (l, .file id) → id ∉ ids

theorem avoids_iff {path : String} {ids : List Nat} :
    t.Avoids cwd path ids ↔
      (match t.status cwd path with
        | .ok (_, .file id) => !ids.contains id
        | _ => true) = true := by
  rw [Avoids]
  rcases t.status cwd path with fault | ⟨l, n⟩
  · simp
  · cases n <;> simp

instance (path : String) (ids : List Nat) : Decidable (t.Avoids cwd path ids) :=
  decidable_of_iff _ avoids_iff.symm

/-- Reading depends on the way to a file and on its bytes alone. -/
theorem read_eq {path : String} {ids : List Nat} (hway : KeepsWay t t' cwd path)
    (havoids : t.Avoids cwd path ids)
    (hbytes : ∀ id, id ∉ ids → t'.bytesOf id = t.bytesOf id) :
    t'.read cwd path = t.read cwd path := by
  rw [read, read, status_eq_of_keepsWay hway]
  rcases hfound : t.status cwd path with fault | ⟨l, n⟩
  · rfl
  · cases n with
    | directory => rfl
    | link target => rfl
    | file id => simp only [hbytes id (havoids l id hfound)]

theorem avoids_nil (t : FileTree) (cwd : Location) (path : String) : t.Avoids cwd path [] :=
  fun _ _ _ => List.not_mem_nil

end FileTree

end FindingLedger
