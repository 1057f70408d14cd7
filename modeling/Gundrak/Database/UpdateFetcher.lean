import Mathlib

/-!
# Updates of a database

`UpdateFetcher` keeps the table `updates` of a database, with a row for every update file that the database has
got: its name, the hash of its content and its state.  `UpdateFetcher::Update` goes through the files that are there in
the order of their names; a file without a row is applied, or takes the row of a file with the same content that is
gone, and a file whose content is not the recorded one is applied again.  In the end rows of files that are gone can
be deleted.

`Update` reads the table once, at its start, and is a list of statements here, which `UpdatesTable.exec` carries out.
What a file does to the rest of the database is left out, and so are the times and the speed in the rows.
-/

namespace Gundrak.Database

/-! ## Files -/

/-- `UpdateFetcher::State`. -/
inductive State where
  | RELEASED | ARCHIVED
deriving DecidableEq

/-- `LocaleFileEntry`: the file that a path leads to, and its state. -/
structure LocaleFileEntry (Content : Type) where
  filename : String
  content : Content
  state : State
deriving DecidableEq

/-- `LocaleFileStorage`: files in the order of their names. -/
structure LocaleFileStorage (Content : Type) where
  entries : List (LocaleFileEntry Content)
  sorted : entries.Pairwise fun left right ↦ left.filename < right.filename

/-- What there is in a directory. -/
inductive DirectoryItem (Content : Type) where
  | directory (items : List (DirectoryItem Content))
  | file (filename : String) (content : Content)

/-- `MAX_DEPTH`. -/
def MAX_DEPTH : ℕ := 10

variable {Content : Type}

/-- `storage.insert(entry)`, for the name of no file in the storage. -/
def LocaleFileStorage.insert (storage : LocaleFileStorage Content) (entry : LocaleFileEntry Content)
    (hnew : ∀ e ∈ storage.entries, e.filename ≠ entry.filename) : LocaleFileStorage Content where
  entries := storage.entries.orderedInsert (fun left right ↦ left.filename ≤ right.filename) entry
  sorted := by
    obtain ⟨entries, hsorted⟩ := storage
    induction entries with
    | nil => exact List.pairwise_singleton _ _
    | cons e entries ih =>
      have htail := List.pairwise_cons.mp hsorted
      rw [List.orderedInsert_cons]
      split
      · rename_i hle
        have hlt : entry.filename < e.filename := lt_of_le_of_ne hle (hnew e List.mem_cons_self).symm
        refine List.pairwise_cons.mpr ⟨fun e' he' ↦ ?_, hsorted⟩
        rcases List.mem_cons.mp he' with rfl | he'
        · exact hlt
        · exact hlt.trans (htail.1 e' he')
      · rename_i hle
        refine List.pairwise_cons.mpr
          ⟨fun e' he' ↦ ?_, ih htail.2 fun e' he' ↦ hnew e' (List.mem_cons_of_mem e he')⟩
        rcases (List.mem_orderedInsert _).mp he' with rfl | he'
        · exact lt_of_not_ge hle
        · exact htail.1 e' he'

mutual

/-- A turn of the loop of `FillFileListRecursively`: `none` if the name of the file has occurred before. -/
def fillItem (state : State) (depth : ℕ) (storage : LocaleFileStorage Content) :
    DirectoryItem Content → Option (LocaleFileStorage Content)
  | .directory items =>
    if depth < MAX_DEPTH then FillFileListRecursively state (depth + 1) storage items else some storage
  | .file filename content =>
    if ".sql".toList.isSuffixOf filename.toList then
      if hnew : ∀ e ∈ storage.entries, e.filename ≠ filename then
        some (storage.insert ⟨filename, content, state⟩ hnew)
      else none
    else some storage

/-- `UpdateFetcher::FillFileListRecursively`. -/
def FillFileListRecursively (state : State) (depth : ℕ) (storage : LocaleFileStorage Content) :
    List (DirectoryItem Content) → Option (LocaleFileStorage Content)
  | [] => some storage
  | item :: items =>
    (fillItem state depth storage item).bind fun storage ↦ FillFileListRecursively state depth storage items

end

/-- `UpdateFetcher::GetFileList`, with the directories that are included and their states. -/
def GetFileList (directories : List (List (DirectoryItem Content) × State)) : Option (LocaleFileStorage Content) :=
  directories.foldlM (fun storage entry ↦ FillFileListRecursively entry.2 1 storage entry.1) ⟨[], .nil⟩

/-! ## The table -/

/-- `AppliedFileEntry`, a row of the table. -/
structure AppliedFileEntry where
  name : String
  hash : String
  state : State
deriving DecidableEq

/-- The table `updates`.  `name` is its primary key. -/
structure UpdatesTable where
  rows : List AppliedFileEntry
  nodup : (rows.map (·.name)).Nodup

namespace UpdatesTable

/-- The names in the table. -/
def names (table : UpdatesTable) : List String := table.rows.map (·.name)

/-- The row of a name. -/
def get (table : UpdatesTable) (name : String) : Option AppliedFileEntry := table.rows.find? (·.name = name)

/-- `REPLACE INTO updates`. -/
def replace (table : UpdatesTable) (entry : AppliedFileEntry) : UpdatesTable where
  rows := entry :: table.rows.filter (·.name ≠ entry.name)
  nodup := by
    refine List.nodup_cons.mpr ⟨fun hmem ↦ ?_, table.nodup.sublist (List.filter_sublist.map _)⟩
    obtain ⟨row, hrow, hname⟩ := List.mem_map.mp hmem
    exact of_decide_eq_true (List.mem_filter.mp hrow).2 hname

/-- `DELETE FROM updates WHERE name IN(..)`. -/
def delete (table : UpdatesTable) (names : List String) : UpdatesTable where
  rows := table.rows.filter (·.name ∉ names)
  nodup := table.nodup.sublist (List.filter_sublist.map _)

/-- A row with another name. -/
def rename (from_ to_ : String) (row : AppliedFileEntry) : AppliedFileEntry :=
  if row.name = from_ then { row with name := to_ } else row

/-- `UPDATE updates SET name=to WHERE name=from`: it is refused if the name is taken. -/
def updateName (table : UpdatesTable) (from_ to_ : String) : UpdatesTable :=
  if h : to_ ∈ table.names then table
  else
    { rows := table.rows.map (rename from_ to_)
      nodup := by
        have hnames : (table.rows.map (rename from_ to_)).map (·.name) =
            (table.rows.map (·.name)).map fun name ↦ if name = from_ then to_ else name := by
          rw [List.map_map, List.map_map]
          refine List.map_congr_left fun row _ ↦ ?_
          dsimp only [Function.comp_apply, rename]
          split <;> rfl
        rw [hnames]
        refine table.nodup.map_on fun x hx y hy hxy ↦ ?_
        have hto : ∀ z ∈ table.rows.map (·.name), z ≠ to_ := fun z hz hzto ↦ h (hzto ▸ hz)
        split at hxy <;> split at hxy
        · rename_i hxfrom hyfrom
          exact hxfrom.trans hyfrom.symm
        · exact absurd hxy.symm (hto y hy)
        · exact absurd hxy (hto x hx)
        · exact hxy }

/-- `UPDATE updates SET state=.. WHERE name=..`. -/
def updateState (table : UpdatesTable) (name : String) (state : State) : UpdatesTable where
  rows := table.rows.map fun row ↦ if row.name = name then { row with state := state } else row
  nodup := by
    have hnames : (table.rows.map fun row ↦ if row.name = name then { row with state := state } else row).map (·.name) =
        table.rows.map (·.name) := by
      rw [List.map_map]
      refine List.map_congr_left fun row _ ↦ ?_
      dsimp only [Function.comp_apply]
      split <;> rfl
    exact hnames ▸ table.nodup

end UpdatesTable

/-- What `Update` has done by others: it applies a file, or it changes the table by a statement. -/
inductive Statement (Content : Type) where
  | applyFile (file : LocaleFileEntry Content)
  | replace (entry : AppliedFileEntry)
  | delete (names : List String)
  | updateName (from_ to_ : String)
  | updateState (name : String) (state : State)
deriving DecidableEq

/-- What a statement makes of the table. -/
def UpdatesTable.exec (table : UpdatesTable) : Statement Content → UpdatesTable
  | .applyFile _ => table
  | .replace entry => table.replace entry
  | .delete names => table.delete names
  | .updateName from_ to_ => table.updateName from_ to_
  | .updateState name state => table.updateState name state

/-- What statements make of the table. -/
def UpdatesTable.execAll (table : UpdatesTable) (statements : List (Statement Content)) : UpdatesTable :=
  statements.foldl UpdatesTable.exec table

/-! ## The update -/

/-- `UpdateFetcher::RenameEntry`. -/
def RenameEntry (from_ to_ : String) : List (Statement Content) := [.delete [to_], .updateName from_ to_]

/-- The settings of `UpdateFetcher::Update`. -/
structure Settings where
  redundancyChecks : Bool
  allowRehash : Bool
  archivedRedundancy : Bool
  cleanDeadReferencesMaxCount : ℤ

/-- `UpdateResult`. -/
structure UpdateResult where
  updated : ℕ
  recent : ℕ
  archived : ℕ
deriving DecidableEq

/-- Where the loop of `Update` is: what it has done, what is left of `applied`, and `importedUpdates`. -/
structure Progress (Content : Type) where
  statements : List (Statement Content)
  applied : List AppliedFileEntry
  importedUpdates : ℕ

variable (CalculateSHA1Hash : Content → String) (settings : Settings) (available : LocaleFileStorage Content)

/-- The name that `hashToName` has for a hash.  A hash is inserted once, with the first name in the order in which
the rows are listed. -/
def hashToName (rows : List AppliedFileEntry) (hash : String) : Option String :=
  (rows.find? (·.hash = hash)).map (·.name)

/-- `applied.erase(name)`. -/
def erase (applied : List AppliedFileEntry) (name : String) : List AppliedFileEntry := applied.filter (·.name ≠ name)

/-- The row that a file gets. -/
def entryOf (file : LocaleFileEntry Content) : AppliedFileEntry :=
  ⟨file.filename, CalculateSHA1Hash file.content, file.state⟩

/-- `MODE_APPLY`. -/
def applyFile (file : LocaleFileEntry Content) (applied : List AppliedFileEntry) : Progress Content :=
  ⟨[.applyFile file, .replace (entryOf CalculateSHA1Hash file)], applied, 1⟩

/-- A turn of the loop for a file with a row in `applied`. -/
def checkApplied (file : LocaleFileEntry Content) (entry : AppliedFileEntry) (applied : List AppliedFileEntry) :
    Progress Content :=
  let rest := erase applied file.filename
  -- the file is skipped
  if !settings.redundancyChecks then ⟨[], rest, 0⟩
  else if !settings.archivedRedundancy && entry.state = .ARCHIVED && file.state = .ARCHIVED then ⟨[], rest, 0⟩
  -- `MODE_REHASH`
  else if settings.allowRehash && entry.hash.isEmpty then ⟨[.replace (entryOf CalculateSHA1Hash file)], rest, 0⟩
  else if entry.hash ≠ CalculateSHA1Hash file.content then applyFile CalculateSHA1Hash file rest
  else if entry.state ≠ file.state then ⟨[.updateState file.filename file.state], rest, 0⟩
  else ⟨[], rest, 0⟩

/-- A turn of the loop for a file without a row in `applied`. -/
def checkNew (hashToName : String → Option String) (file : LocaleFileEntry Content)
    (applied : List AppliedFileEntry) : Progress Content :=
  match hashToName (CalculateSHA1Hash file.content) with
  | none => applyFile CalculateSHA1Hash file applied
  | some name =>
    if available.entries.any (·.filename = name) then applyFile CalculateSHA1Hash file applied
    else ⟨RenameEntry name file.filename, erase applied name, 0⟩

/-- A turn of the loop of `Update`. -/
def check (hashToName : String → Option String) (file : LocaleFileEntry Content)
    (applied : List AppliedFileEntry) : Progress Content :=
  match applied.find? (·.name = file.filename) with
  | some entry => checkApplied CalculateSHA1Hash settings file entry applied
  | none => checkNew CalculateSHA1Hash available hashToName file applied

/-- The loop of `Update`. -/
def checkAll (hashToName : String → Option String) :
    List (LocaleFileEntry Content) → List AppliedFileEntry → Progress Content
  | [], applied => ⟨[], applied, 0⟩
  | file :: files, applied =>
    let turn := check CalculateSHA1Hash settings available hashToName file applied
    let rest := checkAll hashToName files turn.applied
    ⟨turn.statements ++ rest.statements, rest.applied, turn.importedUpdates + rest.importedUpdates⟩

/-- Whether rows of files that are gone are deleted. -/
def doCleanup (orphans : List AppliedFileEntry) : Bool :=
  settings.cleanDeadReferencesMaxCount < 0 || orphans.length ≤ settings.cleanDeadReferencesMaxCount

/-- `UpdateFetcher::CleanUp` of what is left of `applied`, if it is enabled. -/
def CleanUp (orphans : List AppliedFileEntry) : List (Statement Content) :=
  if orphans ≠ [] ∧ doCleanup settings orphans then [.delete (orphans.map (·.name))] else []

/-- `UpdateFetcher::Update` of a database with a table, whose rows are listed in the order of `applied`: the
statements and the result. -/
def Update (table : UpdatesTable) : List (Statement Content) × UpdateResult :=
  let progress := checkAll CalculateSHA1Hash settings available (hashToName table.rows) available.entries table.rows
  (progress.statements ++ CleanUp settings progress.applied,
    { updated := progress.importedUpdates
      recent := table.rows.countP (·.state = .RELEASED)
      archived := table.rows.countP (·.state ≠ .RELEASED) })

end Gundrak.Database
