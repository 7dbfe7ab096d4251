/-
Settings that are given by variables, one by one.

Main statement: where all variables with the prefix are those of single settings, in capital
letters, what they say about the settings is a dictionary that has for each of them the value
of its variable.
-/
import FindingLedger.Proofs.Keyed
import FindingLedger.Proofs.Settings.Plain

namespace FindingLedger

namespace Settings

open Datum

/-- Whether the name of a variable starts like those for settings, whatever the case of its
letters. -/
def isForSettings (name : String) : Bool :=
  (Text.lower variablePrefix).toList.isPrefixOf (Text.lower name).toList

/-- Whether all variables for settings are those of single settings, in capital letters. -/
def namesSettings (env : Environment) : Bool :=
  env.all fun e => !isForSettings e.1 || names.any fun n => e.1 == variableName n.1 n.2

/-- The value of a variable; of several with one name the last counts. -/
def value? (env : Environment) (name : String) : Option String :=
  (Keyed.ofList env).lookup name

-- The names of variables are in capital letters throughout.
example : variableName "logging" "max_file_size_mb" = "LINTBASELINE_LOGGING__MAX_FILE_SIZE_MB" := by
  decide

/-- The name of the variable for a setting in small letters. -/
def smallName (n : String × String) : String :=
  Text.lower variablePrefix ++ n.1 ++ variableDelimiter ++ n.2

/-- A name that does not start like those for settings, or the name for a setting, in small
letters. -/
def IsSmall (name : String) : Prop :=
  (Text.lower variablePrefix).toList.isPrefixOf name.toList = false ∨
    ∃ n ∈ names, name = smallName n

section Names

theorem lower_variableName {n : String × String} (hn : n ∈ names) :
    Text.lower (variableName n.1 n.2) = smallName n := by
  have hall : ∀ n ∈ names, Text.lowerFrom [] []
      ((variablePrefix ++ n.1 ++ variableDelimiter ++ n.2).toList.flatMap Text.upperChar) =
        (smallName n).toList := by
    decide
  rw [variableName, Text.upper, Text.lower, String.toList_ofList, hall n hn, String.ofList_toList]

theorem isPrefixOf_smallName (n : String × String) :
    (Text.lower variablePrefix).toList.isPrefixOf (smallName n).toList = true := by
  rw [List.isPrefixOf_iff_prefix, smallName, String.toList_append, String.toList_append,
    String.toList_append, List.append_assoc, List.append_assoc]
  exact List.prefix_append _ _

theorem ne_smallName_of_not_isPrefixOf {name : String} (n : String × String)
    (hname : (Text.lower variablePrefix).toList.isPrefixOf name.toList = false) :
    name ≠ smallName n := by
  rintro rfl
  rw [isPrefixOf_smallName] at hname
  cases hname

def keyIn (sectionName name : String) : Option (List Char) :=
  (Text.lower variablePrefix ++ sectionName ++ variableDelimiter).toList.isPrefixOf? name.toList

theorem keyIn_smallName {n : String × String} (hn : n ∈ names) {sectionName : String}
    (hsection : sectionName ∈ sectionNames) :
    keyIn sectionName (smallName n) = if n.1 = sectionName then some n.2.toList else none := by
  have hall : ∀ n ∈ names, ∀ s ∈ sectionNames,
      keyIn s (smallName n) = if n.1 = s then some n.2.toList else none := by
    decide
  exact hall n hn sectionName hsection

theorem fst_mem_sectionNames {n : String × String} (hn : n ∈ names) : n.1 ∈ sectionNames := by
  obtain ⟨e, he, hfield⟩ := List.mem_flatMap.1 hn
  obtain ⟨f, _, rfl⟩ := List.mem_map.1 hfield
  exact List.mem_map_of_mem he

theorem smallName_injOn {n m : String × String} (hn : n ∈ names) (hm : m ∈ names)
    (heq : smallName n = smallName m) : n = m := by
  have hsection := fst_mem_sectionNames hn
  have hkey := keyIn_smallName hn hsection
  rw [if_pos rfl, heq, keyIn_smallName hm hsection] at hkey
  split at hkey
  · next hname => exact Prod.ext hname.symm (String.toList_inj.1 (Option.some.inj hkey)).symm
  · cases hkey

theorem smallName_ne_section {n : String × String} (hn : n ∈ names) {sectionName : String}
    (hsection : sectionName ∈ sectionNames) :
    Text.lower variablePrefix ++ sectionName ≠ smallName n := by
  have hnone : ∀ s ∈ sectionNames, ∀ s' ∈ sectionNames,
      keyIn s (Text.lower variablePrefix ++ s') = none := by
    decide
  intro heq
  have hin := fst_mem_sectionNames hn
  have hkey := keyIn_smallName hn hin
  rw [if_pos rfl, ← heq, hnone n.1 hin sectionName hsection] at hkey
  cases hkey

theorem keyIn_eq_none {sectionName name : String}
    (hname : (Text.lower variablePrefix).toList.isPrefixOf name.toList = false) :
    keyIn sectionName name = none := by
  rw [keyIn, Option.eq_none_iff_forall_not_mem]
  intro rest hrest
  rw [Option.mem_def, List.isPrefixOf?_eq_some_iff_append_eq] at hrest
  rw [String.toList_append, String.toList_append, List.append_assoc, List.append_assoc] at hrest
  rw [← Bool.not_eq_true, List.isPrefixOf_iff_prefix] at hname
  exact hname ⟨_, hrest⟩

theorem splitDelimited_key {n : String × String} (hn : n ∈ names) :
    splitDelimited [] n.2.toList = [n.2] := by
  have hall : ∀ n ∈ names, splitDelimited [] n.2.toList = [n.2] := by decide
  exact hall n hn

end Names

section Nested

variable {sectionName : String}

theorem nestedVariables_snoc (sectionName : String) (env : Environment) (e : String × String) :
    nestedVariables sectionName (env ++ [e]) =
      match keyIn sectionName e.1 with
      | some rest =>
        setUnder (.text e.2) (splitDelimited [] rest) (nestedVariables sectionName env)
      | none => nestedVariables sectionName env := by
  rw [nestedVariables, List.foldl_append]
  rfl

/-- A variable adds the value of its setting, or nothing. -/
theorem nestedVariables_snoc_cases (env : Environment) {e : String × String}
    (hsection : sectionName ∈ sectionNames) (he : IsSmall e.1) :
    (∃ n ∈ names, n.1 = sectionName ∧ e.1 = smallName n ∧
      nestedVariables sectionName (env ++ [e]) =
        put (.text n.2) (.text e.2) (nestedVariables sectionName env)) ∨
    (∀ n ∈ names, n.1 = sectionName → e.1 ≠ smallName n) ∧
      nestedVariables sectionName (env ++ [e]) = nestedVariables sectionName env := by
  rw [nestedVariables_snoc]
  rcases he with hother | ⟨n, hn, hname⟩
  · right
    rw [keyIn_eq_none hother]
    exact ⟨fun n _ _ => ne_smallName_of_not_isPrefixOf n hother, rfl⟩
  · rw [hname, keyIn_smallName hn hsection]
    by_cases hin : n.1 = sectionName
    · left
      refine ⟨n, hn, hin, rfl, ?_⟩
      rw [if_pos hin]
      dsimp only
      rw [splitDelimited_key hn, setUnder]
    · right
      rw [if_neg hin]
      refine ⟨?_, rfl⟩
      intro m hm hmin heq
      rw [smallName_injOn hn hm heq] at hin
      exact hin hmin

/-- By induction on the variables: the settings of a section that they name are kept, each
with the value that was given last. -/
theorem nestedVariables_spec {env : Environment} (hsection : sectionName ∈ sectionNames)
    (hsmall : ∀ e ∈ env, IsSmall e.1) :
    IsTextKeyed (nestedVariables sectionName env) ∧
    (∀ e ∈ nestedVariables sectionName env,
      ∃ n ∈ names, n.1 = sectionName ∧ e.1 = .text n.2) ∧
    ∀ n ∈ names, n.1 = sectionName →
      find? (.text n.2) (nestedVariables sectionName env) =
        ((Keyed.ofList env).lookup (smallName n)).map fun v => .text v := by
  induction env using List.reverseRecOn with
  | nil => exact ⟨isTextKeyed_nil, nofun, fun _ _ _ => rfl⟩
  | append_singleton env e ih =>
    obtain ⟨hkeyed, hkeys, hvalues⟩ := ih fun e he => hsmall e (List.mem_append_left _ he)
    have hlookup : ∀ name, (Keyed.ofList (env ++ [e])).lookup name =
        (Keyed.put e.1 e.2 (Keyed.ofList env)).lookup name := by
      intro name
      rw [Keyed.ofList, List.foldl_append]
      rfl
    have he := hsmall e (List.mem_append_right _ List.mem_cons_self)
    -- The last variable sets a key of the section, or it is none of its variables.
    rcases nestedVariables_snoc_cases env hsection he with
      ⟨n, hn, hin, hname, hput⟩ | ⟨hother, hsame⟩
    · rw [hput]
      refine ⟨isTextKeyed_put hkeyed, ?_, ?_⟩
      · intro f hf
        rw [put_eq_alter] at hf
        rcases mem_alter _ hf with hold | rfl | ⟨_, _, rfl⟩
        · exact hkeys f hold
        · exact ⟨n, hn, hin, rfl⟩
        · exact ⟨n, hn, hin, rfl⟩
      · intro m hm hmin
        rw [find?_put, hlookup, hname]
        -- Different keys have different names, so the last variable is about one key only.
        by_cases hkey : m.2 = n.2
        · have heq : m = n := Prod.ext (hmin.trans hin.symm) hkey
          rw [if_pos hkey, heq, Keyed.lookup_put_self]
          rfl
        · have hne : smallName m ≠ smallName n := fun heq =>
            hkey (congrArg Prod.snd (smallName_injOn hm hn heq))
          rw [if_neg hkey, hvalues m hm hmin, Keyed.lookup_put_of_ne hne]
    · rw [hsame]
      refine ⟨hkeyed, hkeys, ?_⟩
      intro m hm hmin
      rw [hvalues m hm hmin, hlookup, Keyed.lookup_put_of_ne fun heq => hother m hm hmin heq.symm]

theorem properNames_of_known {e : String × List (String × Scalar)} (he : e ∈ default.sections)
    {entries : List (Scalar × Datum)} (hkeyed : IsTextKeyed entries)
    (hknown : ∀ f ∈ entries, ∃ n ∈ names, n.1 = e.1 ∧ f.1 = .text n.2) :
    properNames (e.2.map (·.1)) entries = entries := by
  have hfound : ∀ e ∈ default.sections, ∀ n ∈ names, n.1 = e.1 →
      (e.2.map (·.1)).find? (fun k => Text.lower k == Text.lower n.2) = some n.2 := by
    decide
  refine (congrArg Datum.ofEntries ?_).trans (ofEntries_of_isTextKeyed hkeyed)
  refine (List.map_congr_left fun f hf => ?_).trans (List.map_id entries)
  obtain ⟨n, hn, hin, hkey⟩ := hknown f hf
  obtain ⟨k, v⟩ := f
  obtain rfl : k = .text n.2 := hkey
  dsimp only
  rw [hfound e he n hn hin]
  rfl

end Nested

section Given

/-- What variables say about a section, if anything. -/
def sectionGiven? (env : Environment) (sectionName : String) : Option Datum :=
  let nested := nestedVariables sectionName (smallNames env)
  if nested.isEmpty then none else some (.dict nested)

/-- What variables say about the settings, one by one. -/
def given (env : Environment) : List (Scalar × Datum) :=
  default.sections.filterMap fun e => (sectionGiven? env e.1).map fun v => (.text e.1, v)

variable {env : Environment}

theorem isSmall_of_mem_smallNames (henv : namesSettings env = true) {e : String × String}
    (he : e ∈ smallNames env) : IsSmall e.1 := by
  have hkey : e.1 ∈ (smallNames env).map Prod.fst := List.mem_map_of_mem he
  rw [smallNames, Keyed.keys_ofList, List.mem_eraseDups, List.map_map] at hkey
  obtain ⟨f, hf, hlower⟩ := List.mem_map.1 hkey
  have hlower : Text.lower f.1 = e.1 := hlower
  rw [← hlower]
  rcases Bool.or_eq_true_iff.1 (List.all_eq_true.1 henv f hf) with hother | hown
  · exact Or.inl (by simpa [isForSettings] using hother)
  · obtain ⟨n, hn, hname⟩ := List.any_eq_true.1 hown
    refine Or.inr ⟨n, hn, ?_⟩
    rw [eq_of_beq hname, lower_variableName hn]

/-- Among such variables, the name of a setting is only spelled in capital letters. -/
theorem lower_eq_smallName_iff (henv : namesSettings env = true) {e : String × String}
    (he : e ∈ env) {n : String × String} (hn : n ∈ names) :
    (Text.lower e.1 == smallName n) = (e.1 == variableName n.1 n.2) := by
  rw [Bool.eq_iff_iff, beq_iff_eq, beq_iff_eq]
  constructor
  · intro hlower
    rcases Bool.or_eq_true_iff.1 (List.all_eq_true.1 henv e he) with hother | hown
    · rw [isForSettings, hlower, isPrefixOf_smallName] at hother
      cases hother
    · obtain ⟨m, hm, hname⟩ := List.any_eq_true.1 hown
      have hname := eq_of_beq hname
      rw [hname, lower_variableName hm] at hlower
      rw [hname, smallName_injOn hm hn hlower]
  · intro hname
    rw [hname, lower_variableName hn]

theorem lookup_smallNames (henv : namesSettings env = true) {n : String × String}
    (hn : n ∈ names) :
    (Keyed.ofList (smallNames env)).lookup (smallName n) = value? env (variableName n.1 n.2) := by
  have hsmall : Keyed.ofList (smallNames env) = smallNames env :=
    Keyed.ofList_of_nodup (Keyed.nodup_keys_ofList _)
  have hsame : (env.filter fun e => Text.lower e.1 == smallName n) =
      env.filter fun e => e.1 == variableName n.1 n.2 :=
    List.filter_congr fun e he => lower_eq_smallName_iff henv he hn
  rw [hsmall, smallNames, value?, Keyed.lookup_ofList, Keyed.lookup_ofList, List.filter_map,
    List.getLast?_map, Option.map_map, ← hsame]
  rfl

theorem lookup_section_eq_none (henv : namesSettings env = true) {sectionName : String}
    (hsection : sectionName ∈ sectionNames) :
    (smallNames env).lookup (Text.lower variablePrefix ++ sectionName) = none := by
  rw [List.lookup_eq_none_iff]
  intro e he
  rw [bne_iff_ne]
  intro heq
  rcases isSmall_of_mem_smallNames henv he with hother | ⟨n, hn, hname⟩
  · rw [← heq, ← Bool.not_eq_true, List.isPrefixOf_iff_prefix, String.toList_append] at hother
    exact hother (List.prefix_append _ _)
  · exact smallName_ne_section hn hsection (heq.trans hname)

theorem variablesOf_eq (henv : namesSettings env = true) {e : String × List (String × Scalar)}
    (he : e ∈ default.sections) :
    variablesOf e.1 (e.2.map (·.1)) (smallNames env) = .ok (sectionGiven? env e.1) := by
  have hsection : e.1 ∈ sectionNames := List.mem_map_of_mem he
  obtain ⟨hkeyed, hkeys, _⟩ := nestedVariables_spec hsection
    fun e he => isSmall_of_mem_smallNames henv he
  rw [variablesOf, lookup_section_eq_none henv hsection, sectionGiven?]
  dsimp only
  rw [properNames_of_known he hkeyed hkeys]

/-- What the variables say can be read, and is what they say one by one. -/
theorem ofVariables_eq (henv : namesSettings env = true) :
    ofVariables env = .ok (given env) := by
  rw [ofVariables, given]
  rw [foldlM_eq_filterMap (g := fun e => (sectionGiven? env e.1).map fun v => (.text e.1, v)),
    List.nil_append]
  intro e he done
  rw [variablesOf_eq henv he]
  cases sectionGiven? env e.1 with
  | none => exact congrArg Except.ok (List.append_nil done).symm
  | some v => rfl

theorem find?_given (env : Environment) {sectionName : String}
    (hsection : sectionName ∈ sectionNames) :
    find? (.text sectionName) (given env) = sectionGiven? env sectionName := by
  rw [given, find?_filterMap (sectionGiven? env)]
  exact if_pos hsection

theorem hasSections_given (env : Environment) : HasSections (given env) := by
  intro e he v hfound
  rw [find?_given env (List.mem_map_of_mem he), sectionGiven?] at hfound
  split at hfound
  · cases hfound
  · exact ⟨_, (Option.some.inj hfound).symm⟩

theorem raw?_given (henv : namesSettings env = true) {n : String × String} (hn : n ∈ names) :
    raw? (given env) n.1 n.2 = (value? env (variableName n.1 n.2)).map fun v => .text v := by
  have hsection := fst_mem_sectionNames hn
  obtain ⟨_, _, hvalues⟩ := nestedVariables_spec hsection
    fun e he => isSmall_of_mem_smallNames henv he
  rw [← lookup_smallNames henv hn, ← hvalues n hn rfl, raw?, find?_given env hsection,
    sectionGiven?]
  cases nestedVariables n.1 (smallNames env) <;> rfl

end Given

end Settings

end FindingLedger
