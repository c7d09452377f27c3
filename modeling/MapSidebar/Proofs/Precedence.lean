import MapSidebar.Proofs.Characters
import MapSidebar.Proofs.NormalForms
import MapSidebar.Proofs.TomlKeys
import MapSidebar.Proofs.WrittenNumbers

/-!
# Where settings come from

Each setting is taken over on its own: what it holds after a list of entries is the last of them that
could be read for it. So the settings that a file and an environment give are those of the first source
that says something valid, the environment before the file, and the order in which the entries of a file
are visited does not matter.
-/
namespace MapSidebar

namespace Toml.DistinctKeys

variable {α : Type} {entries visited : List (String × α)} {key : String}

theorem lookup_eq_some (distinct : DistinctKeys entries) {value : α} :
    entries.lookup key = some value ↔ (key, value) ∈ entries := by
  rw [List.lookup_eq_some_iff]
  constructor
  · rintro ⟨before, after, rfl, -⟩
    simp
  · intro member
    obtain ⟨before, after, rfl⟩ := List.append_of_mem member
    refine ⟨before, after, rfl, fun entry earlier => bne_iff_ne.mpr fun same => ?_⟩
    unfold DistinctKeys at distinct
    rw [List.map_append, List.nodup_append] at distinct
    exact distinct.2.2 entry.1 (List.mem_map_of_mem earlier) key (by simp) same.symm

theorem of_perm (distinct : DistinctKeys entries) (same : visited.Perm entries) :
    DistinctKeys visited :=
  (same.map Prod.fst).nodup_iff.mpr distinct

theorem lookup_perm (distinct : DistinctKeys entries) (same : visited.Perm entries) (key : String) :
    visited.lookup key = entries.lookup key := by
  ext value
  rw [(distinct.of_perm same).lookup_eq_some, distinct.lookup_eq_some, same.mem_iff]

end Toml.DistinctKeys

namespace Settings

open Toml (DistinctKeys)

variable {α : Type} {file visited : List (String × String)} {environment : String → Option String}

/-! ## Sources -/

/-- The value that a setting is left with, given what its sources hold, the foremost first. -/
inductive Settled (tells : String → α → Prop) (default : α) : List (Option String) → α → Prop
  /-- No source is left. -/
  | unsaid : Settled tells default [] default
  /-- The first source says it. -/
  | said {text value later} (valid : tells text value) :
      Settled tells default (some text :: later) value
  /-- The first source says nothing that is valid. -/
  | passed {source value later} (invalid : ∀ text, source = some text → ∀ other, ¬ tells text other)
      (rest : Settled tells default later value) : Settled tells default (source :: later) value

namespace Settled

variable {tells : String → α → Prop} {default value : α} {sources : List (Option String)}

/-- The value is the first that can be read. -/
theorem iff_findSome {read : String → Option α}
    (reads : ∀ text value, read text = some value ↔ tells text value) :
    (sources.findSome? (·.bind read)).getD default = value ↔ Settled tells default sources value := by
  induction sources with
  | nil =>
    constructor
    · rintro rfl
      exact unsaid
    · rintro ⟨⟩
      rfl
  | cons source later ih =>
    rw [List.findSome?_cons]
    cases known : source.bind read with
    | some own =>
      obtain ⟨text, rfl, valid⟩ := Option.bind_eq_some_iff.mp known
      constructor
      · rintro rfl
        exact said ((reads _ _).mp valid)
      · rintro (_ | ⟨also_valid⟩ | ⟨invalid, -⟩)
        · exact Option.some.inj (valid.symm.trans ((reads _ _).mpr also_valid))
        · exact absurd ((reads _ _).mp valid) (invalid text rfl own)
    | none =>
      constructor
      · intro found
        refine passed ?_ (ih.mp found)
        rintro text rfl other valid
        exact absurd (known.symm.trans ((reads _ _).mpr valid)) nofun
      · rintro (_ | ⟨valid⟩ | ⟨-, rest⟩)
        · exact absurd (known.symm.trans ((reads _ _).mpr valid)) nofun
        · exact ih.mpr rest

/-- What holds of the default and of all that is valid holds of the value. -/
theorem of_valid {p : α → Prop} (settled : Settled tells default sources value) (of_default : p default)
    (of_said : ∀ text value, tells text value → p value) : p value := by
  induction settled with
  | unsaid => exact of_default
  | said valid => exact of_said _ _ valid
  | passed _ _ ih => exact ih

end Settled

/-- A text writes a number other than zero. -/
def WritesPositive (text : String) (n : UInt32) : Prop := Writes text n ∧ 0 < n

/-- Settings as a file and an environment say them. -/
structure Settles (file : List (String × String)) (environment : String → Option String)
    (s : Settings) : Prop where
  serverUrl : Settled (· = ·) "http://127.0.0.1:8000"
    [environment "APP__SERVER_URL", environment "EXPLORER_SERVER_URL", file.lookup "server_url"]
    s.serverUrl
  partialPrefix : Settled (· = ·) "/api/partial"
    [environment "APP__PARTIAL_PREFIX", file.lookup "partial_prefix"] s.partialPrefix
  historyPageSize : Settled WritesPositive 10
    [environment "APP__HISTORY_PAGE_SIZE", file.lookup "history_page_size"] s.historyPageSize
  commentsPageSize : Settled WritesPositive 15
    [environment "APP__COMMENTS_PAGE_SIZE", file.lookup "comments_page_size"] s.commentsPageSize
  pageWindowDistance : Settled Writes 2
    [environment "APP__PAGE_WINDOW_DISTANCE", file.lookup "page_window_distance"] s.pageWindowDistance

/-! ## Settings on their own -/

/-- A setting that only its own key changes, to what can be read for it. -/
structure Slot (α : Type) where
  key : String
  /-- The variables that hold it, the foremost first. -/
  names : List String
  get : Settings → α
  read : String → Option α
  /-- What can be read. -/
  tells : String → α → Prop
  reads : ∀ text value, read text = some value ↔ tells text value
  held : (environmentKeys.filter (·.2 = key)).reverse.map Prod.fst = names
  get_set : ∀ s name value, get (s.set name value) =
    if name = key then (read value).getD (get s) else get s

namespace Slot

def ofServerUrl : Slot String where
  key := "server_url"
  names := ["APP__SERVER_URL", "EXPLORER_SERVER_URL"]
  get := Settings.serverUrl
  read := some
  tells := (· = ·)
  reads _ _ := Option.some_inj
  held := by decide
  get_set s name value := by grind [set]

def ofPartialPrefix : Slot String where
  key := "partial_prefix"
  names := ["APP__PARTIAL_PREFIX"]
  get := Settings.partialPrefix
  read := some
  tells := (· = ·)
  reads _ _ := Option.some_inj
  held := by decide
  get_set s name value := by grind [set]

def ofHistoryPageSize : Slot UInt32 where
  key := "history_page_size"
  names := ["APP__HISTORY_PAGE_SIZE"]
  get := Settings.historyPageSize
  read := readPositive?
  tells := WritesPositive
  reads _ _ := readPositive?_eq_some
  held := by decide
  get_set s name value := by grind [set]

def ofCommentsPageSize : Slot UInt32 where
  key := "comments_page_size"
  names := ["APP__COMMENTS_PAGE_SIZE"]
  get := Settings.commentsPageSize
  read := readPositive?
  tells := WritesPositive
  reads _ _ := readPositive?_eq_some
  held := by decide
  get_set s name value := by grind [set]

def ofPageWindowDistance : Slot UInt32 where
  key := "page_window_distance"
  names := ["APP__PAGE_WINDOW_DISTANCE"]
  get := Settings.pageWindowDistance
  read := readNumber?
  tells := Writes
  reads _ _ := readNumber?_eq_some
  held := by decide
  get_set s name value := by grind [set]

/-- What a list of entries leaves in a setting, if it says something valid. -/
def latest (slot : Slot α) : List (String × String) → Option α
  | [] => none
  | entry :: entries =>
    (slot.latest entries).or (if entry.1 = slot.key then slot.read entry.2 else none)

variable (slot : Slot α)

theorem get_setAll (s : Settings) (entries : List (String × String)) :
    slot.get (s.setAll entries) = (slot.latest entries).getD (slot.get s) := by
  induction entries generalizing s with
  | nil => rfl
  | cons entry entries ih =>
    have rest : slot.get (s.setAll (entry :: entries)) =
        (slot.latest entries).getD (slot.get (s.set entry.1 entry.2)) := ih _
    rw [rest, latest, slot.get_set]
    cases slot.latest entries with
    | some value => rfl
    | none => split <;> rfl

/-- Of entries with distinct keys only one can matter. -/
theorem latest_of_distinct (distinct : DistinctKeys file) :
    slot.latest file = (file.lookup slot.key).bind slot.read := by
  induction file with
  | nil => rfl
  | cons entry file ih =>
    obtain ⟨apart, rest⟩ := List.nodup_cons.mp distinct
    rw [latest, List.lookup_cons]
    by_cases own : entry.1 = slot.key
    · have absent : file.lookup slot.key = none := List.lookup_eq_none_iff.mpr fun e member =>
        bne_iff_ne.mpr fun same => apart (List.mem_map.mpr ⟨e, member, by rw [own, same]⟩)
      simp [ih rest, absent, own]
    · have other : (slot.key == entry.1) = false := beq_false_of_ne (Ne.symm own)
      simp [ih rest, own, other]

/-- In the environment the variables that are looked up later are taken over later. -/
theorem latest_environment (keys : List (String × String)) :
    slot.latest (keys.filterMap fun (name, key) => (environment name).map (key, ·)) =
      (((keys.filter (·.2 = slot.key)).reverse.map Prod.fst).map environment).findSome?
        (·.bind slot.read) := by
  induction keys with
  | nil => rfl
  | cons known keys ih =>
    obtain ⟨name, key⟩ := known
    cases held : environment name with
    | none =>
      simp only [List.filterMap_cons, held, Option.map_none, ih, List.filter_cons]
      split <;> simp [held]
    | some value =>
      simp only [List.filterMap_cons, held, Option.map_some, latest, ih, List.filter_cons]
      split <;> simp_all

/-- A setting is settled by its own sources. -/
theorem get_combined_iff (environment : String → Option String) (distinct : DistinctKeys file)
    (same : visited.Perm file) (value : α) :
    slot.get (combined visited environment) = value ↔
      Settled slot.tells (slot.get {}) (slot.names.map environment ++ [file.lookup slot.key])
        value := by
  rw [← Settled.iff_findSome slot.reads, combined, get_setAll, get_setAll, environmentEntries,
    latest_environment, slot.held, slot.latest_of_distinct (distinct.of_perm same),
    distinct.lookup_perm same, List.findSome?_append, List.findSome?_singleton]
  cases (slot.names.map environment).findSome? (·.bind slot.read) <;> rfl

end Slot

/-- An entry is logged as ignored exactly if it leaves all settings as they are. -/
theorem warning?_isSome_iff {key value : String} :
    (warning? key value).isSome = true ↔ ∀ s : Settings, s.set key value = s := by
  constructor
  · rintro warned ⟨url, path, history, comments, distance⟩
    grind [warning?, set, Option.isNone_iff_eq_none]
  · intro kept
    have longer : value ≠ value ++ "/" := fun same => by
      simpa using congrArg String.length same
    have more (n : UInt32) : n ≠ n + 1 := by grind
    -- Settings that differ from what the entry says are changed by it.
    have others := kept {
      serverUrl := value ++ "/"
      partialPrefix := value ++ "/"
      historyPageSize := (readPositive? value).getD 0 + 1
      commentsPageSize := (readPositive? value).getD 0 + 1
      pageWindowDistance := (readNumber? value).getD 0 + 1 }
    by_contra silent
    cases positive : readPositive? value <;> cases number : readNumber? value <;>
      grind [warning?, set]

/-! ## All settings -/

attribute [ext] Settings

variable {s before : Settings} {path : String} {content : Option (List UInt8)}

/-- Whatever the order in which the entries of a file are visited, it and the environment settle the
settings. -/
theorem combined_eq_iff (distinct : DistinctKeys file) (same : visited.Perm file) :
    combined visited environment = s ↔ Settles file environment s := by
  constructor
  · rintro rfl
    exact ⟨(Slot.ofServerUrl.get_combined_iff environment distinct same _).mp rfl,
      (Slot.ofPartialPrefix.get_combined_iff environment distinct same _).mp rfl,
      (Slot.ofHistoryPageSize.get_combined_iff environment distinct same _).mp rfl,
      (Slot.ofCommentsPageSize.get_combined_iff environment distinct same _).mp rfl,
      (Slot.ofPageWindowDistance.get_combined_iff environment distinct same _).mp rfl⟩
  · rintro ⟨url, path, history, comments, distance⟩
    exact Settings.ext ((Slot.ofServerUrl.get_combined_iff environment distinct same _).mpr url)
      ((Slot.ofPartialPrefix.get_combined_iff environment distinct same _).mpr path)
      ((Slot.ofHistoryPageSize.get_combined_iff environment distinct same _).mpr history)
      ((Slot.ofCommentsPageSize.get_combined_iff environment distinct same _).mpr comments)
      ((Slot.ofPageWindowDistance.get_combined_iff environment distinct same _).mpr distance)

/-- Page sizes are positive. -/
theorem Settles.positive (settles : Settles file environment s) :
    1 ≤ s.historyPageSize ∧ 1 ≤ s.commentsPageSize := by
  have at_least_one : ∀ text n, WritesPositive text n → 1 ≤ n := fun _ _ valid =>
    UInt32.le_iff_toNat_le.mpr (UInt32.lt_iff_toNat_lt.mp valid.2)
  exact ⟨settles.historyPageSize.of_valid (by decide) at_least_one,
    settles.commentsPageSize.of_valid (by decide) at_least_one⟩

/-! ## Files -/

variable {entries : List (String × String)}

/-- A file holds a text exactly if it consists of the bytes of the text. -/
theorem fileText?_eq_some {text : String} :
    fileText? content = some text ↔ content = some (Utf8.bytes text) := by
  unfold fileText?
  cases content with
  | none => simp
  | some bytes =>
    rw [Option.bind_some, Option.some_inj, ← Utf8.decode_eq_ok]
    cases Utf8.decode bytes <;> simp [Except.toOption]

theorem fileEntries_of_document {text : String} {table : List (String × Toml)}
    (holds : content = some (Utf8.bytes text)) (parsed : Toml.parse? text = some table) :
    fileEntries path content = .ok (table.map fun (key, value) => (key, value.plainText)) := by
  simp only [fileEntries, fileText?_eq_some.mpr holds, parsed]

theorem fileEntries_of_malformed {text : String} (holds : content = some (Utf8.bytes text))
    (malformed : Toml.parse? text = none) :
    fileEntries path content = .error (.malformedFile path) := by
  simp only [fileEntries, fileText?_eq_some.mpr holds, malformed]

theorem fileEntries_of_none (unread : ∀ text, content ≠ some (Utf8.bytes text)) :
    fileEntries path content = .ok [] := by
  have none_held : fileText? content = none := Option.eq_none_iff_forall_ne_some.mpr
    fun text held => unread text (fileText?_eq_some.mp held)
  rw [fileEntries, none_held]

/-- What a file comes to: nothing if there is no text in it, or else the keys and the values of the
document that its text is. -/
theorem fileEntries_eq_ok : fileEntries path content = .ok entries ↔
    entries = [] ∧ (∀ text, content ≠ some (Utf8.bytes text)) ∨
    ∃ text table, content = some (Utf8.bytes text) ∧ Toml.parse? text = some table ∧
      entries = table.map fun (key, value) => (key, value.plainText) := by
  by_cases held : ∃ text, content = some (Utf8.bytes text)
  · obtain ⟨text, holds⟩ := held
    constructor
    · intro read
      cases parsed : Toml.parse? text with
      | none => cases (fileEntries_of_malformed holds parsed).symm.trans read
      | some table =>
        cases (fileEntries_of_document holds parsed).symm.trans read
        exact .inr ⟨text, table, holds, parsed, rfl⟩
    · rintro (⟨-, unread⟩ | ⟨other, table, also, parsed, rfl⟩)
      · exact absurd holds (unread text)
      · exact fileEntries_of_document also parsed
  · have unread : ∀ text, content ≠ some (Utf8.bytes text) := fun text holds => held ⟨text, holds⟩
    rw [fileEntries_of_none unread]
    constructor
    · intro read
      cases read
      exact .inl ⟨rfl, unread⟩
    · rintro (⟨rfl, -⟩ | ⟨text, -, holds, -⟩)
      · rfl
      · exact absurd holds (unread text)

theorem fileEntries_eq_error {e : SettingsError} : fileEntries path content = .error e ↔
    e = .malformedFile path ∧
      ∃ text, content = some (Utf8.bytes text) ∧ Toml.parse? text = none := by
  simp only [← fileText?_eq_some]
  unfold fileEntries
  cases fileText? content with
  | none => simp
  | some text => cases parsed : Toml.parse? text <;> simp [parsed, eq_comm]

theorem distinct_fileEntries (read : fileEntries path content = .ok entries) :
    DistinctKeys entries := by
  rcases fileEntries_eq_ok.mp read with ⟨rfl, -⟩ | ⟨text, table, -, parsed, rfl⟩
  · exact List.nodup_nil
  · have distinct := Toml.distinct_parse parsed
    unfold DistinctKeys at distinct ⊢
    rwa [List.map_map]

theorem combined_of_read (read : fileEntries path content = .ok entries) :
    combined entries environment = s ↔ Settles entries environment s :=
  combined_eq_iff (distinct_fileEntries read) (List.Perm.refl entries)

theorem loadFile_of_read (read : fileEntries path content = .ok entries) :
    loadFile path content environment = load entries environment := by
  unfold loadFile
  rw [read]
  rfl

theorem loadFile_of_unread {e : SettingsError} (read : fileEntries path content = .error e) :
    loadFile path content environment = .error e := by
  unfold loadFile
  rw [read]
  rfl

theorem load_of_perm (read : fileEntries path content = .ok entries)
    (same : visited.Perm entries) : load visited environment = loadFile path content environment := by
  have settles : Settles entries environment (combined entries environment) :=
    (combined_of_read read).mp rfl
  have alike := (combined_eq_iff (distinct_fileEntries read) same).mpr settles
  rw [loadFile_of_read read, load, load, alike]

theorem loadFile_eq_ok_iff_settles : loadFile path content environment = .ok s ↔
    ∃ entries before, fileEntries path content = .ok entries ∧
      Settles entries environment before ∧ before.normalize = .ok s := by
  rw [loadFile_eq_ok]
  constructor
  · rintro ⟨entries, read, normal⟩
    exact ⟨entries, _, read, (combined_of_read read).mp rfl, normal⟩
  · rintro ⟨entries, before, read, settles, normal⟩
    have same := (combined_of_read read).mpr settles
    exact ⟨entries, read, same ▸ normal⟩

theorem normalize_eq_error {e : SettingsError} :
    before.normalize = .error e ↔ normalizeServerUrl before.serverUrl = .error e := by
  unfold normalize
  cases normalizeServerUrl before.serverUrl <;> simp [Except.map]

/-- A file that is read is loaded unless the server URL that is chosen is refused. -/
theorem load_eq_error {e : SettingsError} (distinct : DistinctKeys file) :
    load file environment = .error e ↔ ∃ url,
      Settled (· = ·) "http://127.0.0.1:8000"
        [environment "APP__SERVER_URL", environment "EXPLORER_SERVER_URL",
          file.lookup "server_url"] url ∧
      normalizeServerUrl url = .error e := by
  have chosen := Slot.ofServerUrl.get_combined_iff environment distinct (List.Perm.refl file)
  rw [load, normalize_eq_error]
  constructor
  · exact fun refused => ⟨_, (chosen _).mp rfl, refused⟩
  · rintro ⟨url, settled, refused⟩
    have same : (combined file environment).serverUrl = url := (chosen url).mpr settled
    rwa [same]

/-- How settings come about from a file and an environment. -/
structure ComeAbout (path : String) (content : Option (List UInt8))
    (environment : String → Option String) : Prop where
  /-- The entries of a file are the keys of the document that it holds, each with the text of its value.
  A file that is missing, or whose bytes are no text, has none. -/
  entries : ∀ entries, fileEntries path content = .ok entries ↔
    entries = [] ∧ (∀ text, content ≠ some (Utf8.bytes text)) ∨
    ∃ text table, content = some (Utf8.bytes text) ∧ Toml.parse? text = some table ∧
      entries = table.map fun (key, value) => (key, value.plainText)
  /-- No key of the file has two entries. -/
  distinct : ∀ entries, fileEntries path content = .ok entries → DistinctKeys entries
  /-- The order in which the entries are visited does not matter. -/
  order : ∀ entries visited, fileEntries path content = .ok entries → visited.Perm entries →
    load visited environment = loadFile path content environment
  /-- What is loaded is the normal form of the settings that the entries and the environment settle. -/
  loads : ∀ s, loadFile path content environment = .ok s ↔ ∃ entries before,
    fileEntries path content = .ok entries ∧ Settles entries environment before ∧
      before.normalize = .ok s
  /-- They are refused for a text that is no document, or for the server URL that is chosen. -/
  refused : ∀ e, loadFile path content environment = .error e ↔
    (e = .malformedFile path ∧
      ∃ text, content = some (Utf8.bytes text) ∧ Toml.parse? text = none) ∨
    ∃ entries url, fileEntries path content = .ok entries ∧
      Settled (· = ·) "http://127.0.0.1:8000"
        [environment "APP__SERVER_URL", environment "EXPLORER_SERVER_URL",
          entries.lookup "server_url"] url ∧
      normalizeServerUrl url = .error e
  positive : ∀ s, loadFile path content environment = .ok s →
    1 ≤ s.historyPageSize ∧ 1 ≤ s.commentsPageSize

theorem come_about (path : String) (content : Option (List UInt8))
    (environment : String → Option String) : ComeAbout path content environment := by
  refine ⟨fun _ => fileEntries_eq_ok, fun _ => distinct_fileEntries, fun _ _ => load_of_perm,
    fun _ => loadFile_eq_ok_iff_settles, ?_, ?_⟩
  · intro e
    rw [← fileEntries_eq_error]
    cases read : fileEntries path content with
    | error other => simp [loadFile_of_unread read]
    | ok entries =>
      rw [loadFile_of_read read, load_eq_error (distinct_fileEntries read)]
      simp
  · intro s loaded
    obtain ⟨entries, before, -, settles, normal⟩ := loadFile_eq_ok_iff_settles.mp loaded
    obtain ⟨u, -, rfl⟩ := normalize_eq_ok.mp normal
    exact settles.positive

/-- What it means that the first source that says something valid decides. -/
structure ByPrecedence (environment : String → Option String) : Prop where
  /-- The settings before they are brought to normal form are told by a table with distinct keys and the
  environment, whichever way the table is visited. -/
  settles : ∀ entries visited s, DistinctKeys entries → visited.Perm entries →
    (combined visited environment = s ↔ Settles entries environment s)
  /-- Every file gives such a table or is refused. -/
  files : ∀ path content, ComeAbout path content environment
  /-- A string in a file is taken as it stands. -/
  strings : ∀ text, Toml.plainText (.string text) = text
  /-- An integer in a file says itself. -/
  integers : ∀ value n, Writes (Toml.plainText (.integer value)) n ↔ value = n.toNat

/-- Settings are settled by the first source that says something valid. -/
theorem settled_by_precedence (environment : String → Option String) :
    ByPrecedence environment where
  settles _ _ _ := combined_eq_iff
  files path content := come_about path content environment
  strings _ := rfl
  integers _ _ := writes_integer

/-- A page size of zero in the environment does not hide the one of the file, whichever of its entries
is visited first. -/
theorem settled_by_precedence_zero :
    DistinctKeys [("history_page_size", " +20 "), ("server_url", "https://a.example")] ∧
    Settles [("history_page_size", " +20 "), ("server_url", "https://a.example")]
      (fun name => if name = "APP__HISTORY_PAGE_SIZE" then some "0" else none)
      { serverUrl := "https://a.example", historyPageSize := 20 } := by
  have distinct :
      DistinctKeys [("history_page_size", " +20 "), ("server_url", "https://a.example")] := by
    unfold DistinctKeys
    decide
  exact ⟨distinct, ((settled_by_precedence _).settles _
    [("server_url", "https://a.example"), ("history_page_size", " +20 ")] _ distinct
    (List.Perm.swap _ _ _)).mp (by decide)⟩

end Settings

end MapSidebar
