import Gundrak.Database.UpdateFetcher

/-!
# What an update leaves

`GetFileList` finds every update file (`GetFileList_filled`).  The loop of `Update` is followed by what holds of the
table and of `applied` between its turns (`Sound`): a file that has been checked has a row that the next update leaves
alone (`Settled`), unless another new file with the same content took the row of the file that is gone before it.
`hashToName` still has the name of that row then; the second file is taken for a renamed one and gets no row, though
`RenameEntry` finds none to rename.

**`updated_iff`** says that this is all that can go wrong.
-/

namespace Gundrak.Database

variable {Content : Type}

/-! ## The list of the files -/

mutual

/-- The `.sql` files that an item leads to, in a directory at a depth. -/
def DirectoryItem.sqlFiles (state : State) (depth : ℕ) : DirectoryItem Content → List (LocaleFileEntry Content)
  | .directory items => if depth < MAX_DEPTH then sqlFiles state (depth + 1) items else []
  | .file filename content => if ".sql".toList.isSuffixOf filename.toList then [⟨filename, content, state⟩] else []

/-- The `.sql` files that the items of a directory lead to. -/
def sqlFiles (state : State) (depth : ℕ) : List (DirectoryItem Content) → List (LocaleFileEntry Content)
  | [] => []
  | item :: items => item.sqlFiles state depth ++ sqlFiles state depth items

end

/-- The files have been put into the storage, if all their names are different. -/
def Gathers (storage : LocaleFileStorage Content) (files : List (LocaleFileEntry Content))
    (result : Option (LocaleFileStorage Content)) : Prop :=
  (result.isSome ↔ ((storage.entries ++ files).map (·.filename)).Nodup) ∧
    ∀ storage', result = some storage' → storage'.entries.Perm (storage.entries ++ files)

theorem Gathers.none (storage : LocaleFileStorage Content) : Gathers storage [] (some storage) := by
  refine ⟨iff_of_true rfl ?_, fun storage' h ↦ ?_⟩
  · rw [List.append_nil, List.nodup_iff_pairwise_ne, List.pairwise_map]
    exact storage.sorted.imp fun hlt ↦ ne_of_lt hlt
  · rw [List.append_nil, Option.some_inj.mp h]

/-- First some files, and then others. -/
theorem Gathers.bind {storage : LocaleFileStorage Content} {files files' : List (LocaleFileEntry Content)}
    {result : Option (LocaleFileStorage Content)} {f : LocaleFileStorage Content → Option (LocaleFileStorage Content)}
    (h : Gathers storage files result) (hf : ∀ storage', Gathers storage' files' (f storage')) :
    Gathers storage (files ++ files') (result.bind f) := by
  cases hresult : result with
  | none =>
    have hdup := h.1.not.mp (by simp [hresult])
    refine ⟨iff_of_false (by simp) fun hnodup ↦ hdup ?_, by simp⟩
    rw [← List.append_assoc, List.map_append] at hnodup
    exact hnodup.of_append_left
  | some storage' =>
    have hperm := (h.2 storage' hresult).append_right files'
    rw [List.append_assoc] at hperm
    obtain ⟨hsome, hentries⟩ := hf storage'
    exact ⟨hsome.trans (hperm.map _).nodup_iff, fun storage'' h ↦ (hentries storage'' h).trans hperm⟩

theorem gathers_insert (storage : LocaleFileStorage Content) (entry : LocaleFileEntry Content) :
    Gathers storage [entry] (if hnew : ∀ e ∈ storage.entries, e.filename ≠ entry.filename then
      some (storage.insert entry hnew) else .none) := by
  have hnodup := (Gathers.none storage).1.mp rfl
  rw [List.append_nil] at hnodup
  split
  · next hnew =>
    refine ⟨iff_of_true rfl ?_, fun storage' h ↦ ?_⟩
    · rw [List.map_append, List.nodup_append]
      refine ⟨hnodup, by simp, fun name hname other hother ↦ ?_⟩
      obtain ⟨e, he, rfl⟩ := List.mem_map.mp hname
      simpa using List.mem_singleton.mp hother ▸ hnew e he
    · rw [← Option.some_inj.mp h]
      exact (List.perm_orderedInsert _ _ _).trans (List.perm_append_singleton _ _).symm
  · next hold =>
    push Not at hold
    obtain ⟨e, he, hname⟩ := hold
    refine ⟨iff_of_false (by simp) fun h ↦ ?_, by simp⟩
    rw [List.map_append, List.nodup_append] at h
    exact h.2.2 e.filename (List.mem_map_of_mem he) entry.filename (by simp) hname

mutual

theorem gathers_fillItem (state : State) (depth : ℕ) (storage : LocaleFileStorage Content) :
    ∀ item, Gathers storage (item.sqlFiles state depth) (fillItem state depth storage item)
  | .directory items => by
    rw [fillItem, DirectoryItem.sqlFiles]
    split
    · exact gathers_fillFileListRecursively state (depth + 1) storage items
    · exact .none storage
  | .file filename content => by
    rw [fillItem, DirectoryItem.sqlFiles]
    split
    · exact gathers_insert storage ⟨filename, content, state⟩
    · exact .none storage

theorem gathers_fillFileListRecursively (state : State) (depth : ℕ) (storage : LocaleFileStorage Content) :
    ∀ items, Gathers storage (sqlFiles state depth items) (FillFileListRecursively state depth storage items)
  | [] => by
    rw [FillFileListRecursively, sqlFiles]
    exact .none storage
  | item :: items => by
    rw [FillFileListRecursively, sqlFiles]
    exact (gathers_fillItem state depth storage item).bind fun storage' ↦
      gathers_fillFileListRecursively state depth storage' items

end

theorem gathers_foldlM (directories : List (List (DirectoryItem Content) × State)) (storage : LocaleFileStorage Content) :
    Gathers storage (directories.flatMap fun entry ↦ sqlFiles entry.2 1 entry.1)
      (directories.foldlM (fun storage entry ↦ FillFileListRecursively entry.2 1 storage entry.1) storage) := by
  induction directories generalizing storage with
  | nil => exact .none storage
  | cons entry directories ih =>
    rw [List.flatMap_cons, List.foldlM_cons]
    exact (gathers_fillFileListRecursively entry.2 1 storage entry.1).bind ih

/-- **The list of the files** has every `.sql` file of the directories that is not too deep, with the state of its
directory.  There is one exactly if no two of the files have the same name. -/
theorem GetFileList_filled (directories : List (List (DirectoryItem Content) × State)) :
    ((GetFileList directories).isSome ↔
      ((directories.flatMap fun entry ↦ sqlFiles entry.2 1 entry.1).map (·.filename)).Nodup) ∧
    ∀ storage, GetFileList directories = some storage →
      storage.entries.Perm (directories.flatMap fun entry ↦ sqlFiles entry.2 1 entry.1) :=
  gathers_foldlM directories ⟨[], .nil⟩

/-! ## Rows -/

theorem find_erase (applied : List AppliedFileEntry) (name n : String) :
    (erase applied name).find? (·.name = n) = if n = name then none else applied.find? (·.name = n) := by
  rw [erase, List.find?_filter]
  split
  · rename_i hn
    subst hn
    refine List.find?_eq_none.mpr fun row _ hrow ↦ ?_
    obtain ⟨hne, heq⟩ := of_decide_eq_true hrow
    exact of_decide_eq_true hne (of_decide_eq_true heq)
  · rename_i hn
    refine congrArg (List.find? · applied) (funext fun row ↦ ?_)
    by_cases hrow : row.name = n
    · simp [hrow, hn]
    · simp [hrow]

namespace UpdatesTable

variable {table : UpdatesTable} {n : String} {row : AppliedFileEntry}

theorem get_eq_some_iff : table.get n = some row ↔ row ∈ table.rows ∧ row.name = n := by
  constructor
  · intro h
    rw [get] at h
    have hname := List.find?_some h
    exact ⟨List.mem_of_find?_eq_some h, of_decide_eq_true hname⟩
  · rintro ⟨hmem, hname⟩
    have hsome : (table.get n).isSome := List.find?_isSome.mpr ⟨row, hmem, decide_eq_true hname⟩
    obtain ⟨row', hrow'⟩ := Option.isSome_iff_exists.mp hsome
    rw [get] at hrow' ⊢
    have hname' := List.find?_some hrow'
    have hsame : row' = row := List.inj_on_of_nodup_map table.nodup (List.mem_of_find?_eq_some hrow') hmem
      ((of_decide_eq_true hname').trans hname.symm)
    exact hsame ▸ hrow'

theorem mem_names_iff : n ∈ table.names ↔ ∃ row, table.get n = some row := by
  simp [names, get_eq_some_iff]

theorem get_eq_none_iff : table.get n = none ↔ n ∉ table.names := by
  rw [mem_names_iff, ← Option.isSome_iff_exists, Bool.not_eq_true, Option.isSome_eq_false_iff, Option.isNone_iff_eq_none]

theorem mem_names_congr {table' : UpdatesTable} (h : table.get n = table'.get n) :
    n ∈ table.names ↔ n ∈ table'.names := by
  simp [mem_names_iff, h]

theorem name_of_get (h : table.get n = some row) : row.name = n := (get_eq_some_iff.mp h).2

/-- Tables with the same rows, in any order, have the same row of a name. -/
theorem get_eq_of_perm {table' : UpdatesTable} (h : table'.rows.Perm table.rows) (n : String) :
    table'.get n = table.get n :=
  Option.ext fun row ↦ by rw [get_eq_some_iff, get_eq_some_iff, h.mem_iff]

theorem get_replace (entry : AppliedFileEntry) :
    (table.replace entry).get n = if n = entry.name then some entry else table.get n := by
  have hcons : (table.replace entry).get n =
      if entry.name = n then some entry else (erase table.rows entry.name).find? (·.name = n) := by
    rw [get, replace, List.find?_cons]
    by_cases hn : entry.name = n
    · simp [hn]
    · simp [hn, erase]
  rw [hcons, find_erase]
  by_cases hn : n = entry.name
  · rw [if_pos hn.symm, if_pos hn]
  · rw [if_neg (Ne.symm hn), if_neg hn, if_neg hn]
    rfl

theorem get_delete (deleted : List String) :
    (table.delete deleted).get n = if n ∈ deleted then none else table.get n := by
  refine Option.ext fun row ↦ ?_
  rw [get_eq_some_iff]
  have hmem : row ∈ (table.delete deleted).rows ↔ row ∈ table.rows ∧ row.name ∉ deleted := by
    simp [delete]
  rw [hmem]
  split
  · rename_i hn
    exact ⟨fun ⟨⟨_, hrow⟩, hname⟩ ↦ absurd (hname ▸ hn) hrow, fun h ↦ by cases h⟩
  · rename_i hn
    rw [get_eq_some_iff]
    exact ⟨fun ⟨⟨hrow, _⟩, hname⟩ ↦ ⟨hrow, hname⟩, fun ⟨hrow, hname⟩ ↦ ⟨⟨hrow, hname ▸ hn⟩, hname⟩⟩

theorem get_updateState (name : String) (state : State) : (table.updateState name state).get n =
      (table.get n).map fun row ↦ if row.name = name then { row with state := state } else row := by
  rw [get, updateState, List.find?_map, get]
  refine congrArg _ (congrArg (List.find? · table.rows) (funext fun row ↦ ?_))
  dsimp only [Function.comp_apply]
  split <;> rfl

theorem get_updateName {from_ to_ : String} (hto : to_ ∉ table.names) (hne : from_ ≠ to_) :
    (table.updateName from_ to_).get n =
      if n = to_ then (table.get from_).map fun row ↦ { row with name := to_ }
      else if n = from_ then none else table.get n := by
  have hmem : ∀ row', (table.updateName from_ to_).get n = some row' ↔
      (∃ row ∈ table.rows, rename from_ to_ row = row') ∧ row'.name = n := fun row' ↦ by
    simp [get_eq_some_iff, updateName, hto]
  have hold : ∀ row ∈ table.rows, row.name ≠ to_ := fun row hrow hname ↦
    hto (hname ▸ List.mem_map_of_mem hrow)
  refine Option.ext fun row' ↦ (hmem row').trans ?_
  split
  · -- the row with the new name
    rename_i hn
    subst hn
    rw [Option.map_eq_some_iff]
    constructor
    · rintro ⟨⟨row, hrow, rfl⟩, hname⟩
      by_cases hfrom : row.name = from_
      · exact ⟨row, get_eq_some_iff.mpr ⟨hrow, hfrom⟩, (if_pos hfrom).symm⟩
      · rw [rename, if_neg hfrom] at hname
        exact absurd hname (hold row hrow)
    · rintro ⟨row, hrow, rfl⟩
      obtain ⟨hrow, hfrom⟩ := get_eq_some_iff.mp hrow
      exact ⟨⟨row, hrow, if_pos hfrom⟩, rfl⟩
  · rename_i hn
    split
    · -- no row keeps the old name
      rename_i hfrom
      refine iff_of_false ?_ (by simp)
      rintro ⟨⟨row, _, rfl⟩, hname⟩
      rw [rename] at hname
      split at hname
      · exact hn hname.symm
      · rename_i hrow
        exact hrow (hname.trans hfrom)
    · rename_i hfrom
      rw [get_eq_some_iff]
      refine and_congr_left fun hname ↦ ?_
      constructor
      · rintro ⟨row, hrow, rfl⟩
        rw [rename] at hname ⊢
        split at hname
        · exact absurd hname.symm hn
        · rwa [if_neg ‹_›]
      · intro hrow
        exact ⟨row', hrow, if_neg (hname ▸ hfrom)⟩

end UpdatesTable

/-! ## What is done to the table -/

/-- The names of the files. -/
def LocaleFileStorage.names (storage : LocaleFileStorage Content) : List String := storage.entries.map (·.filename)

/-- The files that statements apply. -/
def appliedFiles (statements : List (Statement Content)) : List (LocaleFileEntry Content) := statements.filterMap fun
    | .applyFile file => some file
    | _ => none

/-- Every statement leaves a row under each name of a file that is there, if there was one. -/
def RemovesOnlyGone (available : LocaleFileStorage Content) : UpdatesTable → List (Statement Content) → Prop
  | _, [] => True
  | table, statement :: statements =>
    (∀ n ∈ table.names, n ∉ (table.exec statement).names → n ∉ available.names) ∧
      RemovesOnlyGone available (table.exec statement) statements

/-- The row that a statement gives another name, with both names. -/
def renamed (table : UpdatesTable) : Statement Content → List (String × String)
  | .updateName from_ to_ => if from_ ∈ table.names ∧ to_ ∉ table.names then [(from_, to_)] else []
  | _ => []

/-- The rows that get another name, with both names. -/
def renames : UpdatesTable → List (Statement Content) → List (String × String)
  | _, [] => []
  | table, statement :: statements => renamed table statement ++ renames (table.exec statement) statements

section

variable {available : LocaleFileStorage Content} {table : UpdatesTable} {s s' : List (Statement Content)}

theorem appliedFiles_append : appliedFiles (s ++ s') = appliedFiles s ++ appliedFiles s' := List.filterMap_append

theorem execAll_append : table.execAll (s ++ s') = (table.execAll s).execAll s' := List.foldl_append

theorem removesOnlyGone_append : RemovesOnlyGone available table (s ++ s') ↔
      RemovesOnlyGone available table s ∧ RemovesOnlyGone available (table.execAll s) s' := by
  induction s generalizing table with
  | nil => exact (true_and _).symm.to_iff
  | cons statement s ih =>
    rw [List.cons_append, RemovesOnlyGone, RemovesOnlyGone, ih, and_assoc]
    rfl

theorem renames_append : renames table (s ++ s') = renames table s ++ renames (table.execAll s) s' := by
  induction s generalizing table with
  | nil => rfl
  | cons statement s ih =>
    rw [List.cons_append, renames, renames, ih, List.append_assoc]
    rfl

end

/-! ## A turn -/

section

variable {CalculateSHA1Hash : Content → String} {settings : Settings} {available : LocaleFileStorage Content}
variable {table : UpdatesTable} {file : LocaleFileEntry Content} {entry : AppliedFileEntry}
variable {applied : List AppliedFileEntry} {s : List (Statement Content)} {n : String}

variable (CalculateSHA1Hash file) in
/-- A statement about the row of a file. -/
def Own : Statement Content → Prop
  | .applyFile f => f = file
  | .replace entry => entry = entryOf CalculateSHA1Hash file
  | .updateState name _ => name = file.filename
  | .delete _ => False
  | .updateName _ _ => False

theorem Own.get_exec {statement : Statement Content} (h : Own CalculateSHA1Hash file statement)
    (hn : n ≠ file.filename) : (table.exec statement).get n = table.get n := by
  cases statement with
  | applyFile f => rfl
  | replace entry =>
    obtain rfl : entry = entryOf CalculateSHA1Hash file := h
    exact (UpdatesTable.get_replace _).trans (if_neg hn)
  | updateState name state =>
    obtain rfl : name = file.filename := h
    refine (UpdatesTable.get_updateState _ _).trans ?_
    refine (Option.map_congr fun row hrow ↦ if_neg ?_).trans Option.map_id'
    exact fun hname ↦ hn ((UpdatesTable.name_of_get hrow).symm.trans hname)
  | delete names => exact h.elim
  | updateName from_ to_ => exact h.elim

theorem Own.get_execAll (h : ∀ statement ∈ s, Own CalculateSHA1Hash file statement) (hn : n ≠ file.filename) :
    (table.execAll s).get n = table.get n := by
  induction s generalizing table with
  | nil => rfl
  | cons statement s ih =>
    obtain ⟨hstatement, hs⟩ := List.forall_mem_cons.mp h
    exact (ih hs).trans (hstatement.get_exec hn)

theorem Own.mem_names_exec {statement : Statement Content} (h : Own CalculateSHA1Hash file statement)
    (hn : n ∈ table.names) : n ∈ (table.exec statement).names := by
  by_cases hfile : n = file.filename
  · obtain ⟨row, hrow⟩ := UpdatesTable.mem_names_iff.mp hn
    refine UpdatesTable.mem_names_iff.mpr ?_
    cases statement with
    | applyFile f => exact ⟨row, hrow⟩
    | replace entry =>
      obtain rfl : entry = entryOf CalculateSHA1Hash file := h
      exact ⟨_, (UpdatesTable.get_replace _).trans (if_pos hfile)⟩
    | updateState name state =>
      refine Option.isSome_iff_exists.mp ?_
      rw [UpdatesTable.exec, UpdatesTable.get_updateState, hrow]
      rfl
    | delete names => exact h.elim
    | updateName from_ to_ => exact h.elim
  · have hsame : (table.exec statement).get n = table.get n := h.get_exec hfile
    rw [UpdatesTable.mem_names_iff, hsame]
    exact UpdatesTable.mem_names_iff.mp hn

theorem Own.removesOnlyGone (h : ∀ statement ∈ s, Own CalculateSHA1Hash file statement) :
    RemovesOnlyGone available table s := by
  induction s generalizing table with
  | nil => trivial
  | cons statement s ih =>
    obtain ⟨hstatement, hs⟩ := List.forall_mem_cons.mp h
    exact ⟨fun n hn hnot ↦ absurd (hstatement.mem_names_exec hn) hnot, ih hs⟩

theorem Own.renames_eq_nil (h : ∀ statement ∈ s, Own CalculateSHA1Hash file statement) : renames table s = [] := by
  induction s generalizing table with
  | nil => rfl
  | cons statement s ih =>
    obtain ⟨hstatement, hs⟩ := List.forall_mem_cons.mp h
    rw [renames, ih hs]
    cases statement with
    | updateName from_ to_ => exact hstatement.elim
    | applyFile f => rfl
    | replace entry => rfl
    | updateState name state => rfl
    | delete names => rfl

variable (CalculateSHA1Hash settings file) in
/-- A row that lets a turn for its file change nothing but the state. -/
def Settled (row : AppliedFileEntry) : Prop :=
  row.hash = CalculateSHA1Hash file.content ∨ settings.redundancyChecks = false ∨
    settings.archivedRedundancy = false ∧ row.state = .ARCHIVED ∧ file.state = .ARCHIVED

theorem get_applyFile (applied : List AppliedFileEntry) :
    (table.execAll (applyFile CalculateSHA1Hash file applied).statements).get file.filename =
      some (entryOf CalculateSHA1Hash file) :=
  (UpdatesTable.get_replace _).trans (if_pos rfl)

theorem own_applyFile : ∀ statement ∈ (applyFile CalculateSHA1Hash file applied).statements,
      Own CalculateSHA1Hash file statement :=
  List.forall_mem_cons.mpr ⟨rfl, List.forall_mem_singleton.mpr rfl⟩

theorem applied_checkApplied :
    (checkApplied CalculateSHA1Hash settings file entry applied).applied = erase applied file.filename := by
  rw [checkApplied]
  split
  · rfl
  · split
    · rfl
    · split
      · rfl
      · split
        · rfl
        · split <;> rfl

theorem checkApplied_spec (hget : table.get file.filename = some entry) {turn : Progress Content}
    (hturn : checkApplied CalculateSHA1Hash settings file entry applied = turn) :
    (∀ statement ∈ turn.statements, Own CalculateSHA1Hash file statement) ∧
      ∃ row, (table.execAll turn.statements).get file.filename = some row ∧
        Settled CalculateSHA1Hash settings file row := by
  subst hturn
  rw [checkApplied]
  split
  · rename_i hchecks
    exact ⟨List.forall_mem_nil _, entry, hget, .inr (.inl (Bool.not_eq_true' _ ▸ hchecks))⟩
  · split
    · rename_i harchived
      simp only [Bool.and_eq_true, Bool.not_eq_true', decide_eq_true_eq] at harchived
      exact ⟨List.forall_mem_nil _, entry, hget, .inr (.inr ⟨harchived.1.1, harchived.1.2, harchived.2⟩)⟩
    · split
      · exact ⟨List.forall_mem_singleton.mpr rfl, _, (UpdatesTable.get_replace _).trans (if_pos rfl), .inl rfl⟩
      · split
        · exact ⟨own_applyFile, _, get_applyFile applied, .inl rfl⟩
        · rename_i hhash
          have hhash : entry.hash = CalculateSHA1Hash file.content := not_not.mp hhash
          split
          · refine ⟨List.forall_mem_singleton.mpr rfl, { entry with state := file.state }, ?_, .inl hhash⟩
            refine (UpdatesTable.get_updateState _ _).trans ?_
            rw [hget]
            exact congrArg some (if_pos (UpdatesTable.name_of_get hget))
          · exact ⟨List.forall_mem_nil _, entry, hget, .inl hhash⟩

theorem appliedFiles_checkApplied_of_settled (h : Settled CalculateSHA1Hash settings file entry) :
    appliedFiles (checkApplied CalculateSHA1Hash settings file entry applied).statements = [] := by
  rw [checkApplied]
  split
  · rfl
  · rename_i hchecks
    split
    · rfl
    · rename_i harchived
      split
      · rfl
      · split
        · rename_i hhash
          rcases h with h | h | ⟨h, hentry, hfile⟩
          · exact absurd h hhash
          · exact absurd (by rw [h]; rfl) hchecks
          · exact absurd (by rw [h, hentry, hfile]; rfl) harchived
        · split <;> rfl

theorem appliedFiles_checkApplied_or :
    appliedFiles (checkApplied CalculateSHA1Hash settings file entry applied).statements = [] ∨
      appliedFiles (checkApplied CalculateSHA1Hash settings file entry applied).statements = [file] := by
  rw [checkApplied]
  split
  · exact .inl rfl
  · split
    · exact .inl rfl
    · split
      · exact .inl rfl
      · split
        · exact .inr rfl
        · split
          · exact .inl rfl
          · exact .inl rfl

/-- With all checks on and a hash in its row, a file is applied exactly if its content has changed. -/
theorem appliedFiles_checkApplied (hchecks : settings.redundancyChecks = true)
    (harchived : settings.archivedRedundancy = true) (hhash : entry.hash ≠ "") :
    appliedFiles (checkApplied CalculateSHA1Hash settings file entry applied).statements =
      if entry.hash ≠ CalculateSHA1Hash file.content then [file] else [] := by
  have hempty : entry.hash.isEmpty = false := by
    simpa using hhash
  rw [checkApplied]
  rw [hchecks, harchived, hempty, Bool.and_false]
  simp only [Bool.not_true, Bool.false_and, Bool.false_eq_true, if_false]
  split
  · rfl
  · split <;> rfl

end

/-! ## The loop -/

theorem mem_names {available : LocaleFileStorage Content} {file : LocaleFileEntry Content}
    (h : file ∈ available.entries) : file.filename ∈ available.names := List.mem_map_of_mem h

theorem names_nodup (available : LocaleFileStorage Content) : available.names.Nodup :=
  List.pairwise_map.mpr (available.sorted.imp fun hlt ↦ ne_of_lt hlt)

theorem eq_of_filename {available : LocaleFileStorage Content} {f g : LocaleFileEntry Content}
    (hf : f ∈ available.entries) (hg : g ∈ available.entries) (h : f.filename = g.filename) : f = g :=
  List.inj_on_of_nodup_map (names_nodup available) hf hg h

theorem any_filename {available : LocaleFileStorage Content} {name : String} :
    (available.entries.any fun file ↦ file.filename = name) = true ↔ name ∈ available.names := by
  rw [List.any_eq_true, LocaleFileStorage.names, List.mem_map]
  exact exists_congr fun file ↦ and_congr_right fun _ ↦ decide_eq_true_iff

/-- The name that the cache has for a hash is in the table with it. -/
theorem get_of_hashToName {table : UpdatesTable} {hash name : String}
    (h : hashToName table.rows hash = some name) : ∃ row, table.get name = some row ∧ row.hash = hash := by
  obtain ⟨row, hrow, rfl⟩ := Option.map_eq_some_iff.mp h
  have hhash := List.find?_some hrow
  exact ⟨row, UpdatesTable.get_eq_some_iff.mpr ⟨List.mem_of_find?_eq_some hrow, rfl⟩, of_decide_eq_true hhash⟩

section

variable {CalculateSHA1Hash : Content → String} {settings : Settings} {available : LocaleFileStorage Content}
variable {table₀ table : UpdatesTable} {file : LocaleFileEntry Content} {done : List String}
variable {applied : List AppliedFileEntry} {cache : String → Option String} {n : String}

variable (settings) in
theorem check_cases (hget : applied.find? (·.name = file.filename) = table.get file.filename) :
    (∃ entry, table.get file.filename = some entry ∧ check CalculateSHA1Hash settings available cache file applied =
          checkApplied CalculateSHA1Hash settings file entry applied) ∨
      (table.get file.filename = none ∧ (∀ n, cache (CalculateSHA1Hash file.content) = some n → n ∈ available.names) ∧
        check CalculateSHA1Hash settings available cache file applied = applyFile CalculateSHA1Hash file applied) ∨
      ∃ n, table.get file.filename = none ∧ cache (CalculateSHA1Hash file.content) = some n ∧ n ∉ available.names ∧
        check CalculateSHA1Hash settings available cache file applied =
          ⟨RenameEntry n file.filename, erase applied n, 0⟩ := by
  rw [check, hget]
  cases table.get file.filename with
  | some entry => exact .inl ⟨entry, rfl, rfl⟩
  | none =>
    right
    rw [checkNew]
    cases cache (CalculateSHA1Hash file.content) with
    | none => exact .inl ⟨rfl, (by simp), rfl⟩
    | some n =>
      by_cases hn : n ∈ available.names
      · refine .inl ⟨rfl, fun m hm ↦ Option.some.inj hm ▸ hn, ?_⟩
        exact if_pos (any_filename.mpr hn)
      · refine .inr ⟨n, rfl, rfl, hn, ?_⟩
        exact if_neg fun h ↦ hn (any_filename.mp h)

variable (CalculateSHA1Hash available table₀) in
/-- Two new files with the content of one file that is gone. -/
def Clash (f g : LocaleFileEntry Content) : Prop :=
  f.filename ≠ g.filename ∧ table₀.get f.filename = none ∧ table₀.get g.filename = none ∧
    CalculateSHA1Hash f.content = CalculateSHA1Hash g.content ∧
    ∃ n, hashToName table₀.rows (CalculateSHA1Hash f.content) = some n ∧ n ∉ available.names

variable (CalculateSHA1Hash settings available table₀) in
/-- What holds of the table and of `applied` when the files `done` are checked: a row of a file that is gone has been
taken by the first new file with its content, and the other new files with this content have none. -/
structure Sound (done : List String) (applied : List AppliedFileEntry) (table : UpdatesTable) : Prop where
  applied_eq : ∀ n, n ∉ done → applied.find? (·.name = n) = table.get n
  consumed : ∀ n ∈ done, applied.find? (·.name = n) = none
  waiting : ∀ file ∈ available.entries, file.filename ∉ done → table.get file.filename = table₀.get file.filename
  gone : ∀ n, n ∉ available.names → table.get n = table₀.get n ∨
    ∃ g ∈ available.entries, g.filename ∈ done ∧ table₀.get g.filename = none ∧
      hashToName table₀.rows (CalculateSHA1Hash g.content) = some n
  taken : ∀ g ∈ available.entries, g.filename ∈ done → table₀.get g.filename = none →
    ∀ n, n ∉ available.names → hashToName table₀.rows (CalculateSHA1Hash g.content) = some n → table.get n = none
  settled : ∀ file ∈ available.entries, file.filename ∈ done →
    (∃ row, table.get file.filename = some row ∧ Settled CalculateSHA1Hash settings file row) ∨
      ∃ g ∈ available.entries, Clash CalculateSHA1Hash available table₀ file g
  lost : ∀ f ∈ available.entries, ∀ g ∈ available.entries, f.filename ∈ done → g.filename ∈ done →
    Clash CalculateSHA1Hash available table₀ f g → table.get f.filename = none ∨ table.get g.filename = none

theorem Sound.kept (h : Sound CalculateSHA1Hash settings available table₀ done applied table)
    (hfile : file ∈ available.entries) (hdone : file.filename ∉ done) {applied' : List AppliedFileEntry}
    {table' : UpdatesTable} (hframe : ∀ n, n ≠ file.filename → table'.get n = table.get n)
    (happlied : ∀ n, applied'.find? (·.name = n) =
      if n = file.filename then none else applied.find? (·.name = n))
    (hrow : ∃ row, table'.get file.filename = some row ∧ Settled CalculateSHA1Hash settings file row)
    (hold : table₀.get file.filename = none →
      ∀ n, hashToName table₀.rows (CalculateSHA1Hash file.content) = some n → n ∈ available.names) :
    Sound CalculateSHA1Hash settings available table₀ (file.filename :: done) applied' table' := by
  have hne : ∀ {n}, n ∉ available.names → n ≠ file.filename := fun hn heq ↦ hn (heq ▸ mem_names hfile)
  refine ⟨?_, ?_, ?_, ?_, ?_, ?_, ?_⟩
  · intro n hn
    obtain ⟨hn, hndone⟩ := List.ne_and_not_mem_of_not_mem_cons hn
    rw [happlied, if_neg hn, hframe n hn]
    exact h.applied_eq n hndone
  · intro n hn
    rw [happlied]
    rcases List.mem_cons.mp hn with hn | hn
    · exact if_pos hn
    · split
      · rfl
      · exact h.consumed n hn
  · intro f hf hfdone
    obtain ⟨hne, hfdone⟩ := List.ne_and_not_mem_of_not_mem_cons hfdone
    rw [hframe _ hne]
    exact h.waiting f hf hfdone
  · intro n hn
    rw [hframe n (hne hn)]
    refine (h.gone n hn).imp_right fun ⟨g, hg, hgdone, hnew, hcache⟩ ↦ ?_
    exact ⟨g, hg, List.mem_cons_of_mem _ hgdone, hnew, hcache⟩
  · intro g hg hgdone hnew n hn hcache
    rw [hframe n (hne hn)]
    rcases List.mem_cons.mp hgdone with heq | hgdone
    · obtain rfl := eq_of_filename hg hfile heq
      exact absurd (hold hnew n hcache) hn
    · exact h.taken g hg hgdone hnew n hn hcache
  · intro f hf hfdone
    by_cases heq : f.filename = file.filename
    · exact .inl (eq_of_filename hf hfile heq ▸ hrow)
    · rw [hframe _ heq]
      exact h.settled f hf (List.mem_of_ne_of_mem heq hfdone)
  · intro f hf g hg hfdone hgdone hclash
    obtain ⟨hfg, hfnew, hgnew, hhash, n, hcache, hn⟩ := hclash
    have hf_ne : f.filename ≠ file.filename := fun heq ↦ by
      obtain rfl := eq_of_filename hf hfile heq
      exact hn (hold hfnew n hcache)
    have hg_ne : g.filename ≠ file.filename := fun heq ↦ by
      obtain rfl := eq_of_filename hg hfile heq
      exact hn (hold hgnew n (hhash ▸ hcache))
    rw [hframe _ hf_ne, hframe _ hg_ne]
    exact h.lost f hf g hg (List.mem_of_ne_of_mem hf_ne hfdone) (List.mem_of_ne_of_mem hg_ne hgdone)
      ⟨hfg, hfnew, hgnew, hhash, n, hcache, hn⟩

/-- There is no row to delete under the name of a new file. -/
theorem get_delete_of_new (hnew : table.get file.filename = none) (m : String) :
    (table.delete [file.filename]).get m = table.get m := by
  rw [UpdatesTable.get_delete]
  split
  · rename_i hm
    exact (List.mem_singleton.mp hm ▸ hnew).symm
  · rfl

/-- What renaming the row of a file that is gone leaves. -/
theorem get_renameEntry (hnew : table.get file.filename = none) (hn : n ≠ file.filename) (m : String) :
    (table.execAll (RenameEntry n file.filename : List (Statement Content))).get m =
      if m = file.filename then (table.get n).map fun row ↦ { row with name := file.filename }
      else if m = n then none else table.get m := by
  have hnot : file.filename ∉ (table.delete [file.filename]).names := by
    rw [← UpdatesTable.get_eq_none_iff, get_delete_of_new hnew]
    exact hnew
  refine (UpdatesTable.get_updateName hnot hn).trans ?_
  simp [get_delete_of_new hnew]

section

variable (h : Sound CalculateSHA1Hash settings available table₀ done applied table)
  (hfile : file ∈ available.entries) (hdone : file.filename ∉ done)
include h hfile hdone

theorem Sound.renamed (hnew : table.get file.filename = none) (hn : n ∉ available.names)
    (hcache : hashToName table₀.rows (CalculateSHA1Hash file.content) = some n) :
    Sound CalculateSHA1Hash settings available table₀ (file.filename :: done) (erase applied n)
      (table.execAll (RenameEntry n file.filename : List (Statement Content))) := by
  have hne : ∀ {m}, m ∉ available.names → m ≠ file.filename := fun hm heq ↦ hm (heq ▸ mem_names hfile)
  have hget := get_renameEntry hnew (hne hn)
  have hnew₀ : table₀.get file.filename = none := (h.waiting file hfile hdone) ▸ hnew
  have hother : ∀ {f}, f ∈ available.entries → f.filename ≠ file.filename →
      (table.execAll (RenameEntry n file.filename : List (Statement Content))).get f.filename = table.get f.filename :=
    fun {f} hf hf_ne ↦ by
      have hf_n : f.filename ≠ n := fun heq ↦ hn (heq ▸ mem_names hf)
      simp [hget, hf_ne, hf_n]
  refine ⟨?_, ?_, ?_, ?_, ?_, ?_, ?_⟩
  · intro m hm
    obtain ⟨hm, hmdone⟩ := List.ne_and_not_mem_of_not_mem_cons hm
    rw [find_erase, hget, if_neg hm, h.applied_eq m hmdone]
  · intro m hm
    rw [find_erase]
    split
    · rfl
    · rcases List.mem_cons.mp hm with rfl | hm
      · exact (h.applied_eq _ hdone).trans hnew
      · exact h.consumed m hm
  · intro f hf hfdone
    obtain ⟨hf_ne, hfdone⟩ := List.ne_and_not_mem_of_not_mem_cons hfdone
    rw [hother hf hf_ne]
    exact h.waiting f hf hfdone
  · intro m hm
    rw [hget, if_neg (hne hm)]
    split
    · rename_i heq
      exact .inr ⟨file, hfile, List.mem_cons_self, hnew₀, heq ▸ hcache⟩
    · refine (h.gone m hm).imp_right fun ⟨g, hg, hgdone, hgnew, hgcache⟩ ↦ ?_
      exact ⟨g, hg, List.mem_cons_of_mem _ hgdone, hgnew, hgcache⟩
  · intro g hg hgdone hgnew m hm hgcache
    rw [hget, if_neg (hne hm)]
    split
    · rfl
    · rename_i hm_ne
      rcases List.mem_cons.mp hgdone with heq | hgdone
      · obtain rfl := eq_of_filename hg hfile heq
        exact absurd (Option.some.inj (hgcache.symm.trans hcache)) hm_ne
      · exact h.taken g hg hgdone hgnew m hm hgcache
  · intro f hf hfdone
    by_cases heq : f.filename = file.filename
    · obtain rfl := eq_of_filename hf hfile heq
      obtain ⟨row, hrow, hhash⟩ := get_of_hashToName hcache
      rw [hget, if_pos rfl]
      rcases h.gone n hn with hsame | ⟨g, hg, hgdone, hgnew, hgcache⟩
      · rw [hsame, hrow]
        exact .inl ⟨_, rfl, .inl hhash⟩
      · -- another file may have taken the row
        refine .inr ⟨g, hg, fun heq ↦ hdone (heq ▸ hgdone), hnew₀, hgnew, ?_, n, hcache, hn⟩
        obtain ⟨row', hrow', hhash'⟩ := get_of_hashToName hgcache
        obtain rfl := Option.some.inj (hrow'.symm.trans hrow)
        exact hhash.symm.trans hhash'
    · rw [hother hf heq]
      exact h.settled f hf (List.mem_of_ne_of_mem heq hfdone)
  · intro f hf g hg hfdone hgdone hclash
    -- the second of the two files finds no row
    have hlost : ∀ {f}, f ∈ available.entries → f.filename ∈ file.filename :: done → f.filename ≠ file.filename →
        table₀.get f.filename = none → CalculateSHA1Hash f.content = CalculateSHA1Hash file.content →
        table.get n = none := fun {f} hf hfdone hf_ne hfnew hhash ↦
      h.taken f hf (List.mem_of_ne_of_mem hf_ne hfdone) hfnew n hn (hhash ▸ hcache)
    obtain ⟨hfg, hfnew, hgnew, hhash, hname⟩ := hclash
    by_cases hf_eq : f.filename = file.filename
    · obtain rfl := eq_of_filename hf hfile hf_eq
      have hg_ne : g.filename ≠ f.filename := hfg.symm
      refine .inl ?_
      simp [hget, hlost hg hgdone hg_ne hgnew hhash.symm]
    · by_cases hg_eq : g.filename = file.filename
      · obtain rfl := eq_of_filename hg hfile hg_eq
        refine .inr ?_
        simp [hget, hlost hf hfdone hf_eq hfnew hhash]
      · rw [hother hf hf_eq, hother hg hg_eq]
        exact h.lost f hf g hg (List.mem_of_ne_of_mem hf_eq hfdone) (List.mem_of_ne_of_mem hg_eq hgdone)
          ⟨hfg, hfnew, hgnew, hhash, hname⟩

/-- **A turn of the loop** keeps it. -/
theorem Sound.check {turn : Progress Content}
    (hturn : check CalculateSHA1Hash settings available (hashToName table₀.rows) file applied = turn) :
    Sound CalculateSHA1Hash settings available table₀ (file.filename :: done) turn.applied
      (table.execAll turn.statements) := by
  subst hturn
  have hold := h.waiting file hfile hdone
  rcases check_cases settings (h.applied_eq _ hdone) with
    ⟨entry, hget, hturn⟩ | ⟨hget, hcache, hturn⟩ | ⟨n, hget, hcache, hn, hturn⟩
  · obtain ⟨hown, hrow⟩ := checkApplied_spec hget hturn.symm
    refine h.kept hfile hdone (fun n hn ↦ Own.get_execAll hown hn) (fun n ↦ ?_) hrow fun hnew ↦ ?_
    · rw [hturn, applied_checkApplied, find_erase]
    · simp [← hold, hget] at hnew
  · rw [hturn]
    refine h.kept hfile hdone (fun n hn ↦ Own.get_execAll own_applyFile hn) (fun n ↦ ?_)
      ⟨_, get_applyFile applied, .inl rfl⟩ fun _ ↦ hcache
    split
    · rename_i hn
      subst hn
      exact (h.applied_eq _ hdone).trans hget
    · rfl
  · rw [hturn]
    exact h.renamed hfile hdone hget hn hcache

end

theorem sound_start : Sound CalculateSHA1Hash settings available table₀ [] table₀.rows table₀ :=
  ⟨fun _ _ ↦ rfl, fun _ h ↦ absurd h List.not_mem_nil, fun _ _ _ ↦ rfl, fun _ _ ↦ .inl rfl,
    fun _ _ h ↦ absurd h List.not_mem_nil, fun _ _ h ↦ absurd h List.not_mem_nil,
    fun _ _ _ _ h ↦ absurd h List.not_mem_nil⟩

/-- **The rule for the loop**: what holds of no files and is kept by a turn holds of all files. -/
theorem checkAll_rule {motive : List (LocaleFileEntry Content) → UpdatesTable → Progress Content → Prop}
    (nil : ∀ done applied table, Sound CalculateSHA1Hash settings available table₀ done applied table →
      (∀ f ∈ available.entries, f.filename ∈ done) → motive [] table ⟨[], applied, 0⟩)
    (cons : ∀ done applied table file files turn rest,
      Sound CalculateSHA1Hash settings available table₀ done applied table →
      file ∈ available.entries → file.filename ∉ done → (∀ f ∈ files, f.filename ≠ file.filename) →
      check CalculateSHA1Hash settings available (hashToName table₀.rows) file applied = turn →
      motive files (table.execAll turn.statements) rest →
      motive (file :: files) table
        ⟨turn.statements ++ rest.statements, rest.applied, turn.importedUpdates + rest.importedUpdates⟩) :
    motive available.entries table₀ (checkAll CalculateSHA1Hash settings available (hashToName table₀.rows)
      available.entries table₀.rows) := by
  have hrun : ∀ files done applied table, Sound CalculateSHA1Hash settings available table₀ done applied table →
      (∀ f ∈ files, f ∈ available.entries ∧ f.filename ∉ done) → (files.map (·.filename)).Nodup →
      (∀ f ∈ available.entries, f ∈ files ∨ f.filename ∈ done) →
      motive files table
        (checkAll CalculateSHA1Hash settings available (hashToName table₀.rows) files applied) := by
    intro files
    induction files with
    | nil =>
      intro done applied table hsound _ _ hall
      exact nil done applied table hsound fun f hf ↦ (hall f hf).resolve_left List.not_mem_nil
    | cons file files ih =>
      intro done applied table hsound hfiles hnodup hall
      obtain ⟨⟨hfile, hdone⟩, hfiles⟩ := List.forall_mem_cons.mp hfiles
      obtain ⟨hnew, hnodup⟩ := List.nodup_cons.mp hnodup
      have hne : ∀ f ∈ files, f.filename ≠ file.filename := fun f hf heq ↦
        hnew (List.mem_map.mpr ⟨f, hf, heq⟩)
      refine cons done applied table file files _ _ hsound hfile hdone hne rfl ?_
      refine ih (file.filename :: done) _ _ (hsound.check hfile hdone rfl) (fun f hf ↦ ⟨(hfiles f hf).1, ?_⟩)
        hnodup fun f hf ↦ ?_
      · exact List.not_mem_cons_of_ne_of_not_mem (hne f hf) (hfiles f hf).2
      · rcases hall f hf with hmem | hmem
        · rcases List.mem_cons.mp hmem with rfl | hmem
          · exact .inr List.mem_cons_self
          · exact .inl hmem
        · exact .inr (List.mem_cons_of_mem _ hmem)
  exact hrun available.entries [] table₀.rows table₀ sound_start (fun f hf ↦ ⟨hf, List.not_mem_nil⟩)
    (names_nodup available) fun f hf ↦ .inl hf

theorem removesOnlyGone_renameEntry (hget : table.get file.filename = none) (hne : n ≠ file.filename)
    (hn : n ∉ available.names) :
    RemovesOnlyGone available table (RenameEntry n file.filename) := by
  refine ⟨fun m hm hnot ↦ ?_, fun m hm hnot ↦ ?_, trivial⟩
  · exact absurd ((UpdatesTable.mem_names_congr (get_delete_of_new hget m)).mpr hm) hnot
  · have hm' := (UpdatesTable.mem_names_congr (get_delete_of_new hget m)).mp hm
    have hafter : (table.execAll (RenameEntry n file.filename : List (Statement Content))).get m = _ :=
      get_renameEntry hget hne m
    by_cases hm_file : m = file.filename
    · exact absurd (hm_file ▸ hm') (UpdatesTable.get_eq_none_iff.mp hget)
    · by_cases hm_n : m = n
      · exact hm_n ▸ hn
      · rw [if_neg hm_file, if_neg hm_n] at hafter
        exact absurd ((UpdatesTable.mem_names_congr hafter).mpr hm') hnot

theorem renames_renameEntry (hget : table.get file.filename = none) :
    renames table (RenameEntry n file.filename : List (Statement Content)) =
      if n ∈ table.names then [(n, file.filename)] else [] := by
  have hn := UpdatesTable.mem_names_congr (get_delete_of_new hget n)
  have hfile : file.filename ∉ (table.delete [file.filename]).names := by
    rw [← UpdatesTable.get_eq_none_iff, get_delete_of_new hget]
    exact hget
  have hrenames : renames table (RenameEntry n file.filename : List (Statement Content)) =
      (if n ∈ (table.delete [file.filename]).names ∧ file.filename ∉ (table.delete [file.filename]).names then
        [(n, file.filename)] else []) ++ [] := rfl
  rw [hrenames, List.append_nil]
  by_cases hmem : n ∈ table.names
  · rw [if_pos ⟨hn.mpr hmem, hfile⟩, if_pos hmem]
  · rw [if_neg fun h ↦ hmem (hn.mp h.1), if_neg hmem]

section

variable (h : Sound CalculateSHA1Hash settings available table₀ done applied table)
  (hfile : file ∈ available.entries) (hdone : file.filename ∉ done)
include h hfile hdone

theorem removesOnlyGone_check {turn : Progress Content}
    (hturn : check CalculateSHA1Hash settings available (hashToName table₀.rows) file applied = turn) :
    RemovesOnlyGone available table turn.statements := by
  subst hturn
  rcases check_cases settings (h.applied_eq _ hdone) with
    ⟨entry, hget, hturn⟩ | ⟨hget, hcache, hturn⟩ | ⟨n, hget, hcache, hn, hturn⟩
  · exact Own.removesOnlyGone (checkApplied_spec hget hturn.symm).1
  · rw [hturn]
    exact Own.removesOnlyGone own_applyFile
  · rw [hturn]
    exact removesOnlyGone_renameEntry hget (fun heq ↦ hn (heq ▸ mem_names hfile)) hn

theorem renames_check
    (hapart : ∀ g ∈ available.entries, ¬ Clash CalculateSHA1Hash available table₀ file g) {turn : Progress Content}
    (hturn : check CalculateSHA1Hash settings available (hashToName table₀.rows) file applied = turn)
    (from_ to_ : String) :
    (from_, to_) ∈ renames table turn.statements ↔ to_ = file.filename ∧ table₀.get file.filename = none ∧
        hashToName table₀.rows (CalculateSHA1Hash file.content) = some from_ ∧ from_ ∉ available.names := by
  subst hturn
  have hold := h.waiting file hfile hdone
  rcases check_cases settings (h.applied_eq _ hdone) with
    ⟨entry, hget, hturn⟩ | ⟨hget, hcache, hturn⟩ | ⟨n, hget, hcache, hn, hturn⟩
  · rw [Own.renames_eq_nil (checkApplied_spec hget hturn.symm).1]
    refine iff_of_false List.not_mem_nil fun ⟨_, hnew, _⟩ ↦ ?_
    simp [← hold, hget] at hnew
  · rw [hturn, Own.renames_eq_nil own_applyFile]
    exact iff_of_false List.not_mem_nil fun ⟨_, _, hname, hgone⟩ ↦ hgone (hcache from_ hname)
  · -- nobody has taken the row before
    have htable : n ∈ table.names := by
      obtain ⟨row, hrow, hhash⟩ := get_of_hashToName hcache
      rcases h.gone n hn with hsame | ⟨g, hg, hgdone, hgnew, hgcache⟩
      · exact UpdatesTable.mem_names_iff.mpr ⟨row, hsame.trans hrow⟩
      · obtain ⟨row', hrow', hhash'⟩ := get_of_hashToName hgcache
        obtain rfl := Option.some.inj (hrow'.symm.trans hrow)
        exact absurd ⟨fun heq ↦ hdone (heq ▸ hgdone), hold.symm.trans hget, hgnew, hhash.symm.trans hhash', n,
          hcache, hn⟩ (hapart g hg)
    rw [hturn, renames_renameEntry hget, if_pos htable, List.mem_singleton, Prod.mk.injEq]
    constructor
    · rintro ⟨rfl, rfl⟩
      exact ⟨rfl, hold.symm.trans hget, hcache, hn⟩
    · rintro ⟨rfl, _, hname, _⟩
      exact ⟨Option.some.inj (hname.symm.trans hcache), rfl⟩

theorem appliedFiles_check {turn : Progress Content}
    (hturn : check CalculateSHA1Hash settings available (hashToName table₀.rows) file applied = turn) :
    (appliedFiles turn.statements = [] ∨ appliedFiles turn.statements = [file]) ∧
      (settings.redundancyChecks = true → settings.archivedRedundancy = true → (∀ row ∈ table₀.rows, row.hash ≠ "") →
        (appliedFiles turn.statements = [file] ↔
          (∀ row, table₀.get file.filename = some row → row.hash ≠ CalculateSHA1Hash file.content) ∧
            (table₀.get file.filename = none →
              ∀ n, hashToName table₀.rows (CalculateSHA1Hash file.content) = some n → n ∈ available.names))) := by
  subst hturn
  have hold := h.waiting file hfile hdone
  rcases check_cases settings (h.applied_eq _ hdone) with
    ⟨entry, hget, hturn⟩ | ⟨hget, hcache, hturn⟩ | ⟨n, hget, hcache, hn, hturn⟩
  · rw [hturn]
    refine ⟨appliedFiles_checkApplied_or, fun hchecks harchived hhash ↦ ?_⟩
    have hentry : table₀.get file.filename = some entry := hold.symm.trans hget
    rw [appliedFiles_checkApplied hchecks harchived (hhash entry (UpdatesTable.get_eq_some_iff.mp hentry).1), hentry]
    constructor
    · intro happlied
      have hne : entry.hash ≠ CalculateSHA1Hash file.content := by
        by_contra heq
        rw [if_neg (not_not.mpr heq)] at happlied
        cases happlied
      exact ⟨fun row hrow ↦ Option.some.inj hrow ▸ hne, fun hnew ↦ by cases hnew⟩
    · rintro ⟨hne, _⟩
      exact if_pos (hne entry rfl)
  · have hnew : table₀.get file.filename = none := hold.symm.trans hget
    have happlied : appliedFiles (applyFile CalculateSHA1Hash file applied).statements = [file] := rfl
    rw [hturn, happlied, hnew]
    exact ⟨.inr rfl, fun _ _ _ ↦ iff_of_true rfl ⟨fun row hrow ↦ (by cases hrow), fun _ ↦ hcache⟩⟩
  · have happlied : appliedFiles (RenameEntry n file.filename : List (Statement Content)) = [] := rfl
    rw [hturn, happlied]
    refine ⟨.inl rfl, fun _ _ _ ↦ iff_of_false (by simp) fun hall ↦ ?_⟩
    exact hn (hall.2 (hold.symm.trans hget) n hcache)

end


/-! ## A whole update -/

variable (CalculateSHA1Hash settings available table₀) in
/-- The loop of an update. -/
abbrev loop : Progress Content :=
  checkAll CalculateSHA1Hash settings available (hashToName table₀.rows) available.entries table₀.rows

variable (CalculateSHA1Hash settings available table₀) in
theorem sound_loop : ∃ done, (∀ f ∈ available.entries, f.filename ∈ done) ∧
      Sound CalculateSHA1Hash settings available table₀ done (loop CalculateSHA1Hash settings available table₀).applied
        (table₀.execAll (loop CalculateSHA1Hash settings available table₀).statements) := by
  refine checkAll_rule (motive := fun _ table progress ↦ ∃ done, (∀ f ∈ available.entries, f.filename ∈ done) ∧
    Sound CalculateSHA1Hash settings available table₀ done progress.applied
      (table.execAll progress.statements)) ?_ ?_
  · intro done applied table hsound hall
    exact ⟨done, hall, hsound⟩
  · rintro done applied table file files turn rest _ _ _ _ _ ⟨done', hall, hsound⟩
    exact ⟨done', hall, execAll_append ▸ hsound⟩

theorem removesOnlyGone_loop :
    RemovesOnlyGone available table₀ (loop CalculateSHA1Hash settings available table₀).statements := by
  refine checkAll_rule (motive := fun _ table progress ↦ RemovesOnlyGone available table progress.statements)
    (fun _ _ _ _ _ ↦ trivial) ?_
  intro done applied table file files turn rest hsound hfile hdone _ hturn ih
  exact removesOnlyGone_append.mpr ⟨removesOnlyGone_check hsound hfile hdone hturn, ih⟩

theorem renames_loop (hapart : ∀ f ∈ available.entries, ∀ g ∈ available.entries,
      ¬ Clash CalculateSHA1Hash available table₀ f g) (hfile : file ∈ available.entries) (from_ : String) :
    (from_, file.filename) ∈ renames table₀ (loop CalculateSHA1Hash settings available table₀).statements ↔
      table₀.get file.filename = none ∧
        hashToName table₀.rows (CalculateSHA1Hash file.content) = some from_ ∧ from_ ∉ available.names := by
  have hrun : ∀ from_ to_, (from_, to_) ∈ renames table₀ (loop CalculateSHA1Hash settings available table₀).statements ↔
        ∃ f ∈ available.entries, to_ = f.filename ∧ table₀.get f.filename = none ∧
          hashToName table₀.rows (CalculateSHA1Hash f.content) = some from_ ∧ from_ ∉ available.names := by
    refine checkAll_rule (motive := fun files table progress ↦
      ∀ from_ to_, (from_, to_) ∈ renames table progress.statements ↔
        ∃ f ∈ files, to_ = f.filename ∧ table₀.get f.filename = none ∧
          hashToName table₀.rows (CalculateSHA1Hash f.content) = some from_ ∧ from_ ∉ available.names)
      (fun _ _ _ _ _ _ _ ↦ by simp [renames]) ?_
    intro done applied table file files turn rest hsound hfile hdone _ hturn ih from_ to_
    simp [renames_append, renames_check hsound hfile hdone (hapart file hfile) hturn, ih]
  rw [hrun]
  constructor
  · rintro ⟨f, hf, heq, hf_new⟩
    exact eq_of_filename hf hfile heq.symm ▸ hf_new
  · intro hnew
    exact ⟨file, hfile, rfl, hnew⟩

theorem appliedFiles_loop :
    (appliedFiles (loop CalculateSHA1Hash settings available table₀).statements).Sublist available.entries ∧
      (settings.redundancyChecks = true → settings.archivedRedundancy = true →
        (∀ row ∈ table₀.rows, row.hash ≠ "") → ∀ file ∈ available.entries,
          (file ∈ appliedFiles (loop CalculateSHA1Hash settings available table₀).statements ↔
            (∀ row, table₀.get file.filename = some row → row.hash ≠ CalculateSHA1Hash file.content) ∧
              (table₀.get file.filename = none →
                ∀ n, hashToName table₀.rows (CalculateSHA1Hash file.content) = some n → n ∈ available.names))) := by
  refine checkAll_rule (motive := fun files _ progress ↦ (appliedFiles progress.statements).Sublist files ∧
      (settings.redundancyChecks = true → settings.archivedRedundancy = true →
        (∀ row ∈ table₀.rows, row.hash ≠ "") → ∀ file ∈ files, (file ∈ appliedFiles progress.statements ↔
            (∀ row, table₀.get file.filename = some row → row.hash ≠ CalculateSHA1Hash file.content) ∧
              (table₀.get file.filename = none →
                ∀ n, hashToName table₀.rows (CalculateSHA1Hash file.content) = some n → n ∈ available.names))))
    (fun _ _ _ _ _ ↦ ⟨List.Sublist.refl _, fun _ _ _ _ h ↦ absurd h List.not_mem_nil⟩) ?_
  rintro done applied table file files turn rest hsound hfile hdone hne hturn ⟨hsub, ih⟩
  obtain ⟨hone, hiff⟩ := appliedFiles_check hsound hfile hdone hturn
  rw [appliedFiles_append]
  refine ⟨?_, fun hchecks harchived hhash f hf ↦ ?_⟩
  · rcases hone with hone | hone
    · rw [hone]
      exact hsub.cons file
    · rw [hone]
      exact hsub.cons_cons file
  · specialize hiff hchecks harchived hhash
    rw [List.mem_append]
    rcases List.mem_cons.mp hf with rfl | hf
    · have hrest : f ∉ appliedFiles rest.statements := fun hmem ↦ hne f (hsub.subset hmem) rfl
      rw [or_iff_left hrest, ← hiff]
      rcases hone with hone | hone <;> rw [hone] <;> simp
    · have hturn : f ∉ appliedFiles turn.statements := by
        rcases hone with hone | hone <;> rw [hone]
        · simp
        · exact fun hmem ↦ hne f hf (congrArg _ (List.mem_singleton.mp hmem))
      rw [or_iff_right hturn]
      exact ih hchecks harchived hhash f hf

theorem appliedFiles_of_settled {files : List (LocaleFileEntry Content)} (hnodup : (files.map (·.filename)).Nodup)
    (h : ∀ f ∈ files, ∃ row, applied.find? (·.name = f.filename) = some row ∧
      Settled CalculateSHA1Hash settings f row) :
    appliedFiles (checkAll CalculateSHA1Hash settings available cache files applied).statements = [] := by
  induction files generalizing applied with
  | nil => rfl
  | cons file files ih =>
    obtain ⟨⟨row, hrow, hsettled⟩, hfiles⟩ := List.forall_mem_cons.mp h
    obtain ⟨hnew, hnodup⟩ := List.nodup_cons.mp hnodup
    have hturn : check CalculateSHA1Hash settings available cache file applied =
        checkApplied CalculateSHA1Hash settings file row applied := by
      rw [check, hrow]
    rw [checkAll]
    rw [appliedFiles_append, hturn, appliedFiles_checkApplied_of_settled hsettled, List.nil_append,
      applied_checkApplied]
    refine ih hnodup fun f hf ↦ ?_
    obtain ⟨row', hrow', hsettled'⟩ := hfiles f hf
    have hne : f.filename ≠ file.filename := fun heq ↦ hnew (List.mem_map.mpr ⟨f, hf, heq⟩)
    exact ⟨row', by rw [find_erase, if_neg hne, hrow'], hsettled'⟩

theorem not_mem_orphans {orphans : List AppliedFileEntry} (h : orphans.find? (·.name = n) = none) :
    n ∉ orphans.map (·.name) := by
  intro hmem
  obtain ⟨row, hrow, hname⟩ := List.mem_map.mp hmem
  exact List.find?_eq_none.mp h row hrow (decide_eq_true hname)

theorem appliedFiles_cleanUp (orphans : List AppliedFileEntry) :
    appliedFiles (CleanUp settings orphans : List (Statement Content)) = [] := by
  rw [CleanUp]
  split <;> rfl

theorem renames_cleanUp (orphans : List AppliedFileEntry) :
    renames table (CleanUp settings orphans : List (Statement Content)) = [] := by
  rw [CleanUp]
  split <;> rfl

theorem get_cleanUp {orphans : List AppliedFileEntry} (h : n ∉ orphans.map (·.name)) :
    (table.execAll (CleanUp settings orphans : List (Statement Content))).get n = table.get n := by
  rw [CleanUp]
  split
  · exact (UpdatesTable.get_delete _).trans (if_neg h)
  · rfl

theorem removesOnlyGone_cleanUp {orphans : List AppliedFileEntry}
    (h : ∀ n ∈ available.names, n ∉ orphans.map (·.name)) :
    RemovesOnlyGone available table (CleanUp settings orphans) := by
  rw [CleanUp]
  split
  · refine ⟨fun n hn hnot hgone ↦ ?_, trivial⟩
    have hsame : (table.delete (orphans.map (·.name))).get n = table.get n :=
      (UpdatesTable.get_delete _).trans (if_neg (h n hgone))
    exact hnot ((UpdatesTable.mem_names_congr hsame).mpr hn)
  · trivial

variable (CalculateSHA1Hash settings available table₀) in
/-- The table after an update. -/
def updated : UpdatesTable := table₀.execAll (Update CalculateSHA1Hash settings available table₀).1

variable (CalculateSHA1Hash settings available table₀) in
/-- What an update is for.  With all checks on and a hash in every row, the content of a file is recorded if it is in
the row of the file or in one that the file takes from a file that is gone. -/
structure Updated : Prop where
  /-- Every file has one row. -/
  one_row : ∀ file ∈ available.entries,
    (updated CalculateSHA1Hash settings available table₀).names.count file.filename = 1
  removes : RemovesOnlyGone available table₀ (Update CalculateSHA1Hash settings available table₀).1
  /-- A second update, with the rows in any order, applies nothing. -/
  again : ∀ table : UpdatesTable, table.rows.Perm (updated CalculateSHA1Hash settings available table₀).rows →
    appliedFiles (Update CalculateSHA1Hash settings available table).1 = []
  current : settings.redundancyChecks = true → settings.archivedRedundancy = true →
    (∀ row ∈ table₀.rows, row.hash ≠ "") →
      ∀ file ∈ available.entries, ∀ row ∈ (updated CalculateSHA1Hash settings available table₀).rows,
        row.name = file.filename → row.hash = CalculateSHA1Hash file.content
  /-- Files are applied in the order of their names, and each once. -/
  in_order : (appliedFiles (Update CalculateSHA1Hash settings available table₀).1).Sublist available.entries
  applied : settings.redundancyChecks = true → settings.archivedRedundancy = true →
    (∀ row ∈ table₀.rows, row.hash ≠ "") → ∀ file ∈ available.entries,
        (file ∈ appliedFiles (Update CalculateSHA1Hash settings available table₀).1 ↔
          ¬ ∃ row ∈ table₀.rows, row.hash = CalculateSHA1Hash file.content ∧
            (row.name = file.filename ∨ row.name ∉ available.names ∧ (row.name, file.filename) ∈
                renames table₀ (Update CalculateSHA1Hash settings available table₀).1))

/-- What the table after an update has of the files that are there. -/
theorem get_updated (hfile : file ∈ available.entries) :
    (∀ g ∈ available.entries, Clash CalculateSHA1Hash available table₀ file g →
      (updated CalculateSHA1Hash settings available table₀).get file.filename = none ∨
        (updated CalculateSHA1Hash settings available table₀).get g.filename = none) ∧
      ((∀ g ∈ available.entries, ¬ Clash CalculateSHA1Hash available table₀ file g) →
        ∃ row, (updated CalculateSHA1Hash settings available table₀).get file.filename = some row ∧
          Settled CalculateSHA1Hash settings file row) := by
  obtain ⟨done, hdone, hsound⟩ := sound_loop CalculateSHA1Hash settings available table₀
  have hcleanUp : ∀ f ∈ available.entries, (updated CalculateSHA1Hash settings available table₀).get f.filename =
      (table₀.execAll (loop CalculateSHA1Hash settings available table₀).statements).get f.filename := fun f hf ↦ by
    rw [updated, Update, execAll_append]
    exact get_cleanUp (not_mem_orphans (hsound.consumed _ (hdone f hf)))
  constructor
  · intro g hg hclash
    rw [hcleanUp file hfile, hcleanUp g hg]
    exact hsound.lost file hfile g hg (hdone file hfile) (hdone g hg) hclash
  · intro hapart
    rw [hcleanUp file hfile]
    exact (hsound.settled file hfile (hdone file hfile)).resolve_right fun ⟨g, hg, hclash⟩ ↦ hapart g hg hclash

theorem removesOnlyGone_update :
    RemovesOnlyGone available table₀ (Update CalculateSHA1Hash settings available table₀).1 := by
  obtain ⟨done, hdone, hsound⟩ := sound_loop CalculateSHA1Hash settings available table₀
  refine removesOnlyGone_append.mpr ⟨removesOnlyGone_loop, removesOnlyGone_cleanUp fun n hn ↦ ?_⟩
  obtain ⟨f, hf, rfl⟩ := List.mem_map.mp hn
  exact not_mem_orphans (hsound.consumed _ (hdone f hf))

/-- The loop alone applies files and gives rows other names. -/
theorem appliedFiles_update : appliedFiles (Update CalculateSHA1Hash settings available table₀).1 =
      appliedFiles (loop CalculateSHA1Hash settings available table₀).statements := by
  simp [Update, appliedFiles_append, appliedFiles_cleanUp]

theorem renames_update : renames table₀ (Update CalculateSHA1Hash settings available table₀).1 =
      renames table₀ (loop CalculateSHA1Hash settings available table₀).statements := by
  simp [Update, renames_append, renames_cleanUp]

theorem updated_of_apart (hapart : ∀ f ∈ available.entries, ∀ g ∈ available.entries,
    ¬ Clash CalculateSHA1Hash available table₀ f g) :
    Updated CalculateSHA1Hash settings available table₀ := by
  have hrow : ∀ f ∈ available.entries, ∃ row,
      (updated CalculateSHA1Hash settings available table₀).get f.filename = some row ∧
        Settled CalculateSHA1Hash settings f row := fun f hf ↦ (get_updated hf).2 (hapart f hf)
  refine ⟨?_, removesOnlyGone_update, ?_, ?_, ?_, ?_⟩
  · intro file hfile
    obtain ⟨row, hget, _⟩ := hrow file hfile
    exact List.count_eq_one_of_mem (updated CalculateSHA1Hash settings available table₀).nodup
      (UpdatesTable.mem_names_iff.mpr ⟨row, hget⟩)
  · intro table hperm
    rw [appliedFiles_update]
    refine appliedFiles_of_settled (names_nodup available) fun f hf ↦ ?_
    obtain ⟨row, hget, hsettled⟩ := hrow f hf
    exact ⟨row, (UpdatesTable.get_eq_of_perm hperm _).trans hget, hsettled⟩
  · intro hchecks harchived _ file hfile row hmem hname
    obtain ⟨row', hget, hsettled⟩ := hrow file hfile
    obtain rfl := Option.some.inj ((UpdatesTable.get_eq_some_iff.mpr ⟨hmem, hname⟩).symm.trans hget)
    rcases hsettled with hhash | hoff | ⟨hoff, _⟩
    · exact hhash
    · simp [hchecks] at hoff
    · simp [harchived] at hoff
  · rw [appliedFiles_update]
    exact appliedFiles_loop.1
  · intro hchecks harchived hhash file hfile
    rw [appliedFiles_update, appliedFiles_loop.2 hchecks harchived hhash file hfile]
    simp only [renames_update, renames_loop hapart hfile]
    constructor
    · rintro ⟨hown, hnew⟩ ⟨row, hmem, hrow, hname | ⟨hgone, hfree, hcache, _⟩⟩
      · exact hown row (UpdatesTable.get_eq_some_iff.mpr ⟨hmem, hname⟩) hrow
      · exact hgone (hnew hfree row.name hcache)
    · intro hnone
      refine ⟨fun row hget hrow ↦ ?_, fun hfree n hcache ↦ ?_⟩
      · obtain ⟨hmem, hname⟩ := UpdatesTable.get_eq_some_iff.mp hget
        exact hnone ⟨row, hmem, hrow, .inl hname⟩
      · by_contra hgone
        obtain ⟨row, hget, hrow⟩ := get_of_hashToName hcache
        obtain ⟨hmem, rfl⟩ := UpdatesTable.get_eq_some_iff.mp hget
        exact hnone ⟨row, hmem, hrow, .inr ⟨hgone, hfree, hcache, hgone⟩⟩

variable (CalculateSHA1Hash settings available table₀) in
/-- **An update does what it is for exactly if no two new files have the content that the table has of one file that
is gone.** -/
theorem updated_iff : Updated CalculateSHA1Hash settings available table₀ ↔
      ∀ f ∈ available.entries, ∀ g ∈ available.entries,
        f.filename ≠ g.filename → table₀.get f.filename = none → table₀.get g.filename = none →
          CalculateSHA1Hash f.content = CalculateSHA1Hash g.content →
            ∀ n, hashToName table₀.rows (CalculateSHA1Hash f.content) = some n → n ∈ available.names := by
  constructor
  · intro hupdated f hf g hg hfg hfnew hgnew hhash n hcache
    by_contra hgone
    have hrow : ∀ f ∈ available.entries,
        (updated CalculateSHA1Hash settings available table₀).get f.filename ≠ none := fun f hf hget ↦ by
      have hcount := List.count_eq_zero_of_not_mem (UpdatesTable.get_eq_none_iff.mp hget)
      simp [hupdated.one_row f hf] at hcount
    exact ((get_updated hf).1 g hg ⟨hfg, hfnew, hgnew, hhash, n, hcache, hgone⟩).elim (hrow f hf) (hrow g hg)
  · intro h
    exact updated_of_apart fun f hf g hg ⟨hfg, hfnew, hgnew, hhash, n, hcache, hgone⟩ ↦
      hgone (h f hf g hg hfg hfnew hgnew hhash n hcache)


end

/-- Two new files have the content of `old.sql`, which is gone. -/
def twoCopies : LocaleFileStorage String := ⟨[⟨"a.sql", "x", .RELEASED⟩, ⟨"b.sql", "x", .RELEASED⟩], by decide⟩

/-- The table has `old.sql`. -/
def oldFile : UpdatesTable := ⟨[⟨"old.sql", "x", .RELEASED⟩], by decide⟩

/-- The first of them takes the row, and the second gets none. -/
theorem not_updated : ¬ ∀ (Content : Type) (CalculateSHA1Hash : Content → String) (settings : Settings)
      (available : LocaleFileStorage Content) (table : UpdatesTable), Function.Injective CalculateSHA1Hash →
        Updated CalculateSHA1Hash settings available table := by
  intro h
  have hrow := (h String id ⟨true, false, true, 0⟩ twoCopies oldFile Function.injective_id).one_row
    ⟨"b.sql", "x", .RELEASED⟩ (by decide +kernel)
  have hnone : (updated id ⟨true, false, true, 0⟩ twoCopies oldFile).names.count "b.sql" = 0 := by decide +kernel
  simp [hnone] at hrow

end Gundrak.Database
