import LineScript.Config.Load
import LineScript.Proofs.Config.Field

/-! # Layers of a configuration

A configuration is loaded from defaults, a settings file and the environment. The file is checked
on its own before the environment is looked at, and then again together with it. The main result is
when loading succeeds, what each field holds then, and which error there is otherwise. It holds for
every reader of settings files: of a mapping only that no text is a key twice is asked for.
-/

namespace LineScript

/-! ## Keys of mappings -/

def Value.text? : Value → Option Text
  | .str s => some s
  | _ => none

theorem Value.text?_eq_some {value : Value} {s : Text} : value.text? = some s ↔ value = .str s := by
  cases value <;> simp [text?]

namespace Config

def textKeys (entries : List (Value × Value)) : List Text :=
  entries.filterMap (·.1.text?)

theorem mem_textKeys {entries : List (Value × Value)} {s : Text} :
    s ∈ textKeys entries ↔ ∃ value, (.str s, value) ∈ entries := by
  unfold textKeys
  rw [List.mem_filterMap]
  constructor
  · rintro ⟨⟨key, value⟩, hmem, hkey⟩
    obtain rfl := Value.text?_eq_some.1 hkey
    exact ⟨value, hmem⟩
  · rintro ⟨value, hmem⟩
    exact ⟨_, hmem, rfl⟩

theorem textKeys_cons (entry : Value × Value) (rest : List (Value × Value)) :
    textKeys (entry :: rest) = entry.1.text?.toList ++ textKeys rest := by
  unfold textKeys
  rw [List.filterMap_cons]
  cases entry.1.text? <;> rfl

theorem eq_of_mem {entries : List (Value × Value)} (h : (textKeys entries).Nodup) {s : Text}
    {value other : Value} (hvalue : (.str s, value) ∈ entries)
    (hother : (.str s, other) ∈ entries) : value = other := by
  induction entries with
  | nil => cases hvalue
  | cons entry rest ih =>
      rw [textKeys_cons, List.nodup_append] at h
      obtain ⟨-, hrest, hdisjoint⟩ := h
      have hnot : ∀ {first later : Value}, entry = (.str s, first) → (.str s, later) ∉ rest := by
        rintro first later rfl hmem
        exact hdisjoint s (List.mem_singleton_self s) s (mem_textKeys.2 ⟨later, hmem⟩) rfl
      rcases List.mem_cons.1 hvalue with hfirst | hvalue
      · rcases List.mem_cons.1 hother with hfirst' | hother
        · exact (Prod.mk.inj (hfirst.trans hfirst'.symm)).2
        · exact absurd hother (hnot hfirst.symm)
      · rcases List.mem_cons.1 hother with hfirst' | hother
        · exact absurd hvalue (hnot hfirst'.symm)
        · exact ih hrest hvalue hother

/-! ## Settings files -/

def versionKey : Value := .str "schema_version"

theorem isVersion_iff {entry : Value × Value} : isVersion entry = true ↔ entry.1 = versionKey := by
  unfold isVersion
  rw [decide_eq_true_iff]
  exact Setting.name?_eq_some

theorem name_ne_versionKey (field : Field) : (.str field.name : Value) ≠ versionKey := by
  intro h
  have hname := Text.ofString_injective (Value.str.inj h)
  cases field <;> exact absurd hname (by decide)

/-- A schema version that is read: a text that starts with the main version. -/
def IsSupported (version : Value) : Prop :=
  ∃ rest : Text, version = .str ("1." ++ rest)

theorem acceptsVersion_iff {version : Value} :
    acceptsVersion version = true ↔ IsSupported version := by
  cases version with
  | str s =>
      refine List.isPrefixOf_iff_prefix.trans ⟨?_, ?_⟩
      · rintro ⟨rest, hrest⟩
        exact ⟨⟨rest⟩, congrArg (fun cs => Value.str (.ofList cs)) hrest.symm⟩
      · rintro ⟨rest, hrest⟩
        exact ⟨rest.toList, congrArg Text.toList (Value.str.inj hrest).symm⟩
  | _ => exact ⟨Bool.noConfusion, fun ⟨_, h⟩ => Value.noConfusion h⟩

structure DocumentFits (entries : List (Value × Value)) : Prop where
  version : ∀ version, (versionKey, version) ∈ entries → IsSupported version
  settings : ∀ entry ∈ entries, entry.1 ≠ versionKey → Setting.Fits entry

/-- The error about a settings file: its schema version comes first, and then the first entry that
is no setting. -/
inductive DocumentRefusal (path : Path) (entries : List (Value × Value)) : ConfigError → Prop
  | version {version : Value} (hmem : (versionKey, version) ∈ entries)
      (hversion : ¬ IsSupported version) :
      DocumentRefusal path entries (.schemaVersion path version)
  | setting {before after : List (Value × Value)} {key value : Value} {error : ConfigError}
      (hversion : ∀ version, (versionKey, version) ∈ entries → IsSupported version)
      (hsplit : entries = before ++ (key, value) :: after) (hkey : key ≠ versionKey)
      (hbefore : ∀ entry ∈ before, entry.1 ≠ versionKey → Setting.Fits entry)
      (hrefusal : Setting.Refusal path.text key value error) : DocumentRefusal path entries error

theorem DocumentRefusal.isWritable {path : Path} {entries : List (Value × Value)}
    {error : ConfigError} (h : DocumentRefusal path entries error)
    (hentries : ∀ entry ∈ entries, entry.1.isWritable = true ∧ entry.2.isWritable = true) :
    error.isWritable = true := by
  cases h with
  | version hmem _ => exact (hentries _ hmem).2
  | setting _ hsplit _ _ hrefusal =>
      obtain ⟨hkey, hvalue⟩ := hentries _ (hsplit ▸ List.mem_append_right _ List.mem_cons_self)
      exact hrefusal.isWritable hkey hvalue

section Document

variable {entries : List (Value × Value)}

/-- The schema version of a file is its only one, or the default, which is read. -/
theorem accepts_found_iff (hdistinct : (textKeys entries).Nodup) :
    acceptsVersion (((entries.find? isVersion).map (·.2)).getD (.str "1.0")) = true ↔
      ∀ version, (versionKey, version) ∈ entries → IsSupported version := by
  cases hfind : entries.find? isVersion with
  | none =>
      refine ⟨fun _ version hmem => ?_, fun _ => by decide⟩
      exact absurd (isVersion_iff.2 rfl) (List.find?_eq_none.1 hfind _ hmem)
  | some entry =>
      obtain ⟨key, found⟩ := entry
      have hkey : key = versionKey := isVersion_iff.1 (List.find?_some hfind)
      subst hkey
      have hmem := List.mem_of_find?_eq_some hfind
      refine acceptsVersion_iff.trans ⟨fun h version hversion => ?_, fun h => h _ hmem⟩
      rw [eq_of_mem hdistinct hversion hmem]
      exact h

theorem mem_settings {entry : Value × Value} :
    entry ∈ entries.filter (!isVersion ·) ↔ entry ∈ entries ∧ entry.1 ≠ versionKey := by
  rw [List.mem_filter, Bool.not_eq_true', ← Bool.not_eq_true, isVersion_iff]

theorem settings_fit_iff : (∀ entry ∈ entries.filter (!isVersion ·), Setting.Fits entry) ↔
    ∀ entry ∈ entries, entry.1 ≠ versionKey → Setting.Fits entry := by
  simp only [mem_settings, and_imp]

theorem foldl_put_entries (settings : List Setting) (table : Table Value) :
    (settings.map Setting.entry).foldl (fun table entry => table.put entry.1.plain entry.2)
      table = table.update
        ⟨settings.map fun setting => (Text.ofString setting.field.name, setting.value)⟩ := by
  induction settings generalizing table with
  | nil => rfl
  | cons setting settings ih =>
      rw [List.map_cons, List.foldl_cons, ih]
      rfl

theorem textKeys_entries (settings : List Setting) :
    textKeys (settings.map Setting.entry) =
      settings.map fun setting => Text.ofString setting.field.name := by
  induction settings with
  | nil => rfl
  | cons setting settings ih =>
      rw [List.map_cons, textKeys_cons, ih]
      rfl

/-- What the table of a settings file holds: the settings of the file, each under its name. -/
structure Holds (table : Table Value) (entries : List (Value × Value)) : Prop where
  distinct : Table.Distinct table.entries
  fits : ∀ pair ∈ Setting.pairs table, Setting.Fits pair
  get?_eq_some : ∀ (field : Field) (value : Value),
    table.get? field.name = some value ↔ (.str field.name, value) ∈ entries

theorem holds_update (hdistinct : (textKeys entries).Nodup) {settings : List Setting}
    (hsettings : entries.filter (!isVersion ·) = settings.map Setting.entry) :
    Holds (({} : Table Value).update
      ⟨settings.map fun setting => (Text.ofString setting.field.name, setting.value)⟩) entries := by
  have hnames : Table.Distinct
      (settings.map fun setting => (Text.ofString setting.field.name, setting.value)) := by
    have hkeys : (settings.map fun setting => Text.ofString setting.field.name).Nodup := by
      rw [← textKeys_entries, ← hsettings]
      exact hdistinct.sublist (List.filter_sublist.filterMap _)
    unfold Table.Distinct
    rw [List.map_map]
    exact hkeys
  refine ⟨Table.distinct_update _ List.nodup_nil, ?_, ?_⟩
  · apply Setting.fits_update
    · exact fun _ hpair => nomatch hpair
    · intro pair hpair
      obtain ⟨_, hentry, rfl⟩ := List.mem_map.1 hpair
      obtain ⟨setting, _, rfl⟩ := List.mem_map.1 hentry
      exact Setting.fits_iff.2 ⟨setting, rfl⟩
  · intro field value
    have hempty : ({} : Table Value).get? field.name = none := rfl
    rw [Table.get?_update _ hnames, hempty, Option.or_none, Table.get?_eq_some_iff hnames]
    have hfilter : (.str field.name, value) ∈ entries ↔
        (.str field.name, value) ∈ settings.map Setting.entry := by
      rw [← hsettings, mem_settings]
      exact (and_iff_left (name_ne_versionKey field)).symm
    rw [hfilter, List.mem_map, List.mem_map]
    refine exists_congr fun setting => and_congr_right fun _ => ⟨fun hsame => ?_, fun hsame => ?_⟩
    · obtain ⟨hname, hvalue⟩ := Prod.mk.inj hsame
      exact Prod.ext (congrArg Value.str hname) hvalue
    · obtain ⟨hname, hvalue⟩ := Prod.mk.inj hsame
      exact Prod.ext (Value.str.inj hname) hvalue

/-- The first of the settings that does not fit is the first of the entries, apart from the schema
version. -/
theorem refusal_of_first {path : Path} {error : ConfigError}
    (hversion : ∀ version, (versionKey, version) ∈ entries → IsSupported version)
    (h : Setting.FirstRefusal path.text (entries.filter (!isVersion ·)) error) :
    DocumentRefusal path entries error := by
  obtain ⟨before, key, value, after, hfilter, hbefore, hrefusal⟩ := h
  obtain ⟨first, rest, rfl, rfl, hrest⟩ := List.filter_eq_append_iff.1 hfilter
  obtain ⟨skipped, later, rfl, hskipped, hkey, -⟩ := List.filter_eq_cons_iff.1 hrest
  have hentry : (key, value) ∈ (skipped ++ (key, value) :: later).filter (!isVersion ·) := by
    rw [hrest]
    exact List.mem_cons_self
  have hsplit : first ++ (skipped ++ (key, value) :: later) =
      (first ++ skipped) ++ (key, value) :: later := (List.append_assoc ..).symm
  refine .setting hversion hsplit (mem_settings.1 hentry).2 ?_ hrefusal
  intro entry hmem hne
  rcases List.mem_append.1 hmem with hmem | hmem
  · exact hbefore entry (mem_settings.2 ⟨hmem, hne⟩)
  · have hnot := hskipped entry hmem
    exact absurd (mem_settings.2 ⟨List.mem_singleton_self entry, hne⟩) (by simp [hnot])

theorem settingsOf_fits (path : Path) (hdistinct : (textKeys entries).Nodup)
    (h : DocumentFits entries) :
    ∃ table, settingsOf path entries = .ok table ∧ Holds table entries := by
  obtain ⟨settings, hsettings, hchecked⟩ :=
    Setting.checkAll_fits path.text (settings_fit_iff.2 h.settings)
  refine ⟨_, ?_, holds_update hdistinct hsettings⟩
  unfold settingsOf
  dsimp only
  rw [if_pos ((accepts_found_iff hdistinct).2 h.version), hchecked, hsettings, foldl_put_entries]
  rfl

theorem settingsOf_refuses (path : Path) (hdistinct : (textKeys entries).Nodup)
    (h : ¬ DocumentFits entries) :
    ∃ error, settingsOf path entries = .error error ∧ DocumentRefusal path entries error := by
  unfold settingsOf
  dsimp only
  by_cases hversion : ∀ version, (versionKey, version) ∈ entries → IsSupported version
  · have hsettings : ¬ ∀ entry ∈ entries.filter (!isVersion ·), Setting.Fits entry :=
      fun hall => h ⟨hversion, settings_fit_iff.1 hall⟩
    obtain ⟨error, hfirst, hchecked⟩ := Setting.checkAll_refuses path.text hsettings
    rw [if_pos ((accepts_found_iff hdistinct).2 hversion), hchecked]
    exact ⟨error, rfl, refusal_of_first hversion hfirst⟩
  · have hnot := mt (accepts_found_iff hdistinct).1 hversion
    rw [if_neg hnot]
    refine ⟨_, rfl, ?_⟩
    cases hfind : entries.find? isVersion with
    | none =>
        rw [hfind] at hnot
        exact absurd (by decide) hnot
    | some entry =>
        rw [hfind] at hnot
        obtain ⟨key, found⟩ := entry
        have hkey : key = versionKey := isVersion_iff.1 (List.find?_some hfind)
        rw [hkey] at hfind
        exact .version (List.mem_of_find?_eq_some hfind) (mt acceptsVersion_iff.2 hnot)

end Document

/-- The mapping that is taken from a settings file, which may also be missing or empty. -/
inductive FileHolds (reader : DocumentReader) (disk : Disk) :
    Option Path → List (Value × Value) → Prop
  | nothing : FileHolds reader disk none []
  | empty {path : Path} (h : readDocument reader disk path = .ok .null) :
      FileHolds reader disk (some path) []
  | mapping {path : Path} {entries : List (Value × Value)}
      (h : readDocument reader disk path = .ok (.map entries))
      (hdistinct : (textKeys entries).Nodup) : FileHolds reader disk (some path) entries

theorem documentFits_nil : DocumentFits [] :=
  ⟨fun _ hmem => absurd hmem List.not_mem_nil, fun _ hmem => absurd hmem List.not_mem_nil⟩

theorem holds_nil : Holds {} [] := by
  refine ⟨List.nodup_nil, fun _ hmem => absurd hmem List.not_mem_nil, fun field value => ?_⟩
  have hempty : ({} : Table Value).get? field.name = none := rfl
  simp [hempty]

section File

variable {reader : DocumentReader} {disk : Disk} {file : Option Path}
  {entries : List (Value × Value)}

theorem fileSettings_mapping {path : Path}
    (h : readDocument reader disk path = .ok (.map entries)) :
    fileSettings reader disk (some path) = (settingsOf path entries).mapError .ofRefusal := by
  rw [fileSettings, settingsIn, h]
  rfl

theorem fileSettings_of_error {path : Path} {error : ConfigError}
    (h : readDocument reader disk path = .ok (.map entries))
    (hsettings : settingsOf path entries = .error error) :
    fileSettings reader disk (some path) = .error (.ofRefusal error) := by
  rw [fileSettings_mapping h, hsettings]
  rfl

theorem fileSettings_fits (hfile : FileHolds reader disk file entries) (h : DocumentFits entries) :
    ∃ table, fileSettings reader disk file = .ok table ∧ Holds table entries := by
  cases hfile with
  | nothing => exact ⟨{}, rfl, holds_nil⟩
  | empty hread =>
      refine ⟨{}, ?_, holds_nil⟩
      rw [fileSettings, settingsIn, hread]
      rfl
  | @mapping path _ hread hdistinct =>
      obtain ⟨table, htable, hholds⟩ := settingsOf_fits path hdistinct h
      refine ⟨table, ?_, hholds⟩
      rw [fileSettings_mapping hread, htable]
      rfl

theorem fileSettings_refuses (hfile : FileHolds reader disk file entries)
    (h : ¬ DocumentFits entries) :
    ∃ path error, file = some path ∧ DocumentRefusal path entries error ∧
      fileSettings reader disk file = .error (.ofRefusal error) := by
  cases hfile with
  | nothing => exact absurd documentFits_nil h
  | empty _ => exact absurd documentFits_nil h
  | @mapping path _ hread hdistinct =>
      obtain ⟨error, hsettings, hrefusal⟩ :=
        settingsOf_refuses path hdistinct h
      exact ⟨path, error, rfl, hrefusal, fileSettings_of_error hread hsettings⟩

end File

/-! ## Variables -/

/-- A variable is set that gives a field the value that it is read as, or an error. -/
def Gives (environment : Environment) (field : Field) (result : Except ConfigError Value) : Prop :=
  ∃ name kind raw, (name, field.name, kind) ∈ settingVariables ∧
    environment.get? name = some raw ∧ variableValue name raw kind = result

def EnvironmentFits (environment : Environment) : Prop :=
  ∀ field result, Gives environment field result → ∃ value, result = .ok value ∧
    field.kind.Takes value

/-- The error about a variable. -/
inductive EnvironmentRefusal (environment : Environment) : ConfigError → Prop
  | unread {field : Field} {error : ConfigError} (h : Gives environment field (.error error)) :
      EnvironmentRefusal environment error
  | negative {field : Field} {n : Int} (h : Gives environment field (.ok (.int n))) (hneg : n < 0) :
      EnvironmentRefusal environment (.negative "environment" field.name)

def given? (environment : Environment) (entry : String × String × VariableKind) :
    Option (Text × Value) :=
  (environment.get? entry.1).bind fun raw =>
    (variableValue entry.1 raw entry.2.2).toOption.map (.ofString entry.2.1, ·)

def given (environment : Environment) : Table Value :=
  ⟨settingVariables.filterMap (given? environment)⟩

section Variables

variable {environment : Environment}

theorem given?_eq_some {name key : String} {kind : VariableKind} {found : Text × Value} :
    given? environment (name, key, kind) = some found ↔ found.1 = key ∧
      ∃ raw, environment.get? name = some raw ∧ variableValue name raw kind = .ok found.2 := by
  unfold given?
  rw [Option.bind_eq_some_iff]
  constructor
  · rintro ⟨raw, hraw, hfound⟩
    cases hvalue : variableValue name raw kind with
    | error error =>
        rw [hvalue] at hfound
        cases hfound
    | ok value =>
        rw [hvalue] at hfound
        cases hfound
        exact ⟨rfl, raw, hraw, hvalue⟩
  · rintro ⟨hkey, raw, hraw, hvalue⟩
    refine ⟨raw, hraw, ?_⟩
    rw [hvalue, ← hkey]
    rfl

theorem distinct_given : Table.Distinct (given environment).entries := by
  have hkeys : settingVariables.Pairwise fun a b => a.2.1 ≠ b.2.1 := by decide
  unfold Table.Distinct List.Nodup given
  rw [List.pairwise_map]
  refine hkeys.filterMap _ ?_
  rintro ⟨name, key, kind⟩ ⟨name', key', kind'⟩ hne found hfound found' hfound'
  rw [(given?_eq_some.1 hfound).1, (given?_eq_some.1 hfound').1]
  exact fun heq => hne (Text.ofString_injective heq)

def Unread (environment : Environment) (entry : String × String × VariableKind)
    (error : ConfigError) : Prop :=
  ∃ raw, environment.get? entry.1 = some raw ∧ variableValue entry.1 raw entry.2.2 = .error error

/-- A variable that cannot be read is reported; otherwise all that is given goes on top. -/
theorem layered_eq (settings : Table Value) (listed : List (String × String × VariableKind)) :
    (∃ entry ∈ listed, ∃ error, Unread environment entry error ∧
      layered environment settings listed = .error error) ∨
    ((∀ entry ∈ listed, ∀ error, ¬ Unread environment entry error) ∧
      layered environment settings listed =
        .ok (settings.update ⟨listed.filterMap (given? environment)⟩)) := by
  induction listed generalizing settings with
  | nil => exact .inr ⟨by simp, rfl⟩
  | cons entry rest ih =>
      obtain ⟨name, key, kind⟩ := entry
      rw [layered, List.forall_mem_cons]
      cases hraw : environment.get? name with
      | none =>
          have hgiven : given? environment (name, key, kind) = none := by
            rw [given?, hraw]
            rfl
          have hread : ∀ error, ¬ Unread environment (name, key, kind) error := by
            rintro error ⟨raw, hset, -⟩
            rw [hraw] at hset
            cases hset
          rw [List.filterMap_cons_none hgiven]
          refine (ih settings).imp ?_ (And.imp_left (And.intro hread))
          rintro ⟨other, hmem, h⟩
          exact ⟨other, List.mem_cons_of_mem _ hmem, h⟩
      | some raw =>
          dsimp only
          cases hvalue : variableValue name raw kind with
          | error error =>
              exact .inl ⟨_, List.mem_cons_self, error, ⟨raw, hraw, hvalue⟩, rfl⟩
          | ok value =>
              have hgiven : given? environment (name, key, kind) = some (.ofString key, value) :=
                given?_eq_some.2 ⟨rfl, raw, hraw, hvalue⟩
              have hread : ∀ error, ¬ Unread environment (name, key, kind) error := by
                rintro error ⟨other, hset, herror⟩
                rw [hraw] at hset
                cases hset
                exact nomatch hvalue.symm.trans herror
              rw [List.filterMap_cons_some hgiven]
              refine (ih (settings.put key value)).imp ?_ (And.imp_left (And.intro hread))
              rintro ⟨other, hmem, h⟩
              exact ⟨other, List.mem_cons_of_mem _ hmem, h⟩

theorem exists_field {name key : String} {kind : VariableKind}
    (h : (name, key, kind) ∈ settingVariables) : ∃ field : Field, key = field.name := by
  simp only [settingVariables, List.mem_cons, Prod.mk.injEq, List.not_mem_nil, or_false] at h
  rcases h with ⟨-, rfl, -⟩ | ⟨-, rfl, -⟩ | ⟨-, rfl, -⟩
  · exact ⟨.trace, rfl⟩
  · exact ⟨.maxCallDepth, rfl⟩
  · exact ⟨.valueOverhead, rfl⟩

theorem kind_of_mem {name : String} {field : Field} {kind : VariableKind}
    (h : (name, field.name, kind) ∈ settingVariables) :
    (kind = .truth ∧ field.kind = .truth) ∨ (kind = .number ∧ field.kind = .number) := by
  simp only [settingVariables, List.mem_cons, Prod.mk.injEq, List.not_mem_nil, or_false] at h
  rcases h with ⟨-, hname, rfl⟩ | ⟨-, hname, rfl⟩ | ⟨-, hname, rfl⟩
  · obtain rfl : field = .trace := Field.name_injective hname
    exact .inl ⟨rfl, rfl⟩
  · obtain rfl : field = .maxCallDepth := Field.name_injective hname
    exact .inr ⟨rfl, rfl⟩
  · obtain rfl : field = .valueOverhead := Field.name_injective hname
    exact .inr ⟨rfl, rfl⟩

theorem exists_bool_of_variableValue {name : String} {raw : Text} {value : Value}
    (h : variableValue name raw .truth = .ok value) : ∃ b, value = .bool b := by
  unfold variableValue at h
  dsimp only at h
  split at h
  · exact ⟨true, (Except.ok.inj h).symm⟩
  · split at h
    · exact ⟨false, (Except.ok.inj h).symm⟩
    · cases h

theorem exists_int_of_variableValue {name : String} {raw : Text} {value : Value}
    (h : variableValue name raw .number = .ok value) : ∃ n, value = .int n := by
  unfold variableValue at h
  dsimp only at h
  split at h
  · exact ⟨_, (Except.ok.inj h).symm⟩
  · cases h

theorem Gives.takes_or_negative {field : Field} {value : Value}
    (h : Gives environment field (.ok value)) :
    field.kind.Takes value ∨ ∃ n : Int, value = .int n ∧ n < 0 ∧ field.kind = .number := by
  obtain ⟨name, kind, raw, hmem, -, hvalue⟩ := h
  rcases kind_of_mem hmem with ⟨rfl, hkind⟩ | ⟨rfl, hkind⟩
  · obtain ⟨b, rfl⟩ := exists_bool_of_variableValue hvalue
    rw [hkind]
    exact .inl (.truth b)
  · obtain ⟨n, rfl⟩ := exists_int_of_variableValue hvalue
    rw [hkind]
    cases n with
    | ofNat n => exact .inl (.number n)
    | negSucc n => exact .inr ⟨_, rfl, Int.negSucc_lt_zero n, rfl⟩

theorem isWritable_of_variableValue {name : String} {raw : Text} {kind : VariableKind}
    {error : ConfigError}
    (h : variableValue name raw kind = .error error) : error.isWritable = true := by
  unfold variableValue at h
  cases kind with
  | truth =>
      dsimp only at h
      split at h
      · cases h
      · split at h
        · cases h
        · cases h
          rfl
  | number =>
      dsimp only at h
      split at h
      · cases h
      · cases h
        rfl

theorem get?_given {field : Field} {value : Value} :
    (given environment).get? field.name = some value ↔ Gives environment field (.ok value) := by
  rw [Table.get?_eq_some_iff distinct_given, given, List.mem_filterMap]
  constructor
  · rintro ⟨⟨name, key, kind⟩, hmem, hgiven⟩
    obtain ⟨hkey, raw, hraw, hvalue⟩ := given?_eq_some.1 hgiven
    obtain rfl := Text.ofString_injective hkey
    exact ⟨name, kind, raw, hmem, hraw, hvalue⟩
  · rintro ⟨name, kind, raw, hmem, hraw, hvalue⟩
    exact ⟨_, hmem, given?_eq_some.2 ⟨rfl, raw, hraw, hvalue⟩⟩

theorem exists_gives {entry : Text × Value}
    (h : entry ∈ (given environment).entries) :
    ∃ field : Field, entry.1 = field.name ∧ Gives environment field (.ok entry.2) := by
  obtain ⟨⟨name, key, kind⟩, hmem, hgiven⟩ := List.mem_filterMap.1 h
  obtain ⟨hkey, raw, hraw, hvalue⟩ := given?_eq_some.1 hgiven
  obtain ⟨field, rfl⟩ := exists_field hmem
  exact ⟨field, hkey, name, kind, raw, hmem, hraw, hvalue⟩

theorem EnvironmentFits.not_unread (h : EnvironmentFits environment) :
    ∀ entry ∈ settingVariables, ∀ error, ¬ Unread environment entry error := by
  rintro ⟨name, key, kind⟩ hmem error ⟨raw, hraw, hvalue⟩
  obtain ⟨field, rfl⟩ := exists_field hmem
  obtain ⟨value, hok, -⟩ := h field _ ⟨name, kind, raw, hmem, hraw, hvalue⟩
  cases hok

theorem environmentFits_of_takes (hread : ∀ entry ∈ settingVariables, ∀ error,
      ¬ Unread environment entry error)
    (htakes : ∀ field value, Gives environment field (.ok value) → field.kind.Takes value) :
    EnvironmentFits environment := by
  rintro field result hgives
  cases result with
  | ok value => exact ⟨value, rfl, htakes field value hgives⟩
  | error error =>
      obtain ⟨name, kind, raw, hmem, hraw, hvalue⟩ := hgives
      exact absurd ⟨raw, hraw, hvalue⟩ (hread _ hmem error)

theorem takes_of_gives {table : Table Value} {field : Field} {value : Value}
    (h : ∀ pair ∈ Setting.pairs (table.update (given environment)), Setting.Fits pair)
    (hgives : Gives environment field (.ok value)) : field.kind.Takes value := by
  have hget : (table.update (given environment)).get? field.name = some value := by
    rw [Table.get?_update table distinct_given, get?_given.2 hgives]
    rfl
  obtain ⟨other, hname, htakes⟩ := h _ (List.mem_map_of_mem (Table.mem_of_get? hget))
  obtain rfl := Field.name_injective (Text.ofString_injective (Value.str.inj hname))
  exact htakes

/-- If a file's settings fit, what is refused after the environment is put on top is a variable. -/
theorem refusal_of_environment {table : Table Value} {error : ConfigError}
    (htable : ∀ pair ∈ Setting.pairs table, Setting.Fits pair)
    (h : Setting.FirstRefusal "environment"
      (Setting.pairs (table.update (given environment))) error) :
    EnvironmentRefusal environment error ∧ error.isWritable = true := by
  obtain ⟨before, key, value, after, hpairs, -, hrefusal⟩ := h
  have hmem : (key, value) ∈ Setting.pairs (table.update (given environment)) := by
    rw [hpairs]
    exact List.mem_append_right _ List.mem_cons_self
  obtain ⟨⟨name, found⟩, hentry, hpair⟩ := List.mem_map.1 hmem
  obtain ⟨rfl, rfl⟩ := Prod.mk.inj hpair
  rcases Table.mem_of_mem_update hentry with hentry | hentry
  · exact absurd (htable _ (List.mem_map_of_mem hentry)) hrefusal.not_fits
  · obtain ⟨field, hname, hgives⟩ := exists_gives hentry
    dsimp only at hname hgives hrefusal
    subst hname
    rcases hgives.takes_or_negative with htakes | ⟨n, rfl, hneg, hkind⟩
    · exact absurd ⟨field, rfl, htakes⟩ hrefusal.not_fits
    · rw [hrefusal.eq_negative hkind]
      exact ⟨.negative hgives hneg, rfl⟩

end Variables

/-! ## Loading -/

/-- The settings file that is read: the one that the caller names, else the default one. -/
inductive Reads (disk : Disk) (environment : Environment) : Option Path → Option Path → Prop
  | named (path : Path) : Reads disk environment (some path) (some path)
  | byDefault {file : Option Path} (h : defaultFile? disk environment = .ok file) :
      Reads disk environment none file

section Load

variable {reader : DocumentReader} {disk : Disk} {environment : Environment}
  {path file : Option Path} {entries : List (Value × Value)}

theorem load_eq (h : Reads disk environment path file) :
    load reader disk environment path = (fileSettings reader disk file >>= fun settings =>
      (layered environment settings settingVariables).mapError .ofRefusal >>= fun settings =>
        (Setting.checkTable "environment" settings).mapError .ofRefusal >>= fun checked =>
          pure (({} : Config).applyAll checked)) := by
  cases h with
  | named path => rfl
  | byDefault hdefault =>
      unfold load
      dsimp only
      rw [hdefault]
      rfl

/-- Where a field has its value from: the latest layer that has one. -/
structure Layered (environment : Environment) (entries : List (Value × Value)) (config : Config)
    (field : Field) : Prop where
  fromVariable : ∀ value, Gives environment field (.ok value) → config.get field = value
  fromFile : (∀ result, ¬ Gives environment field result) →
    ∀ value, (.str field.name, value) ∈ entries → config.get field = value
  fromDefault : (∀ result, ¬ Gives environment field result) →
    (∀ value, (.str field.name, value) ∉ entries) → config.get field = ({} : Config).get field

theorem layered_of_get {config : Config} {table : Table Value} {field : Field}
    (htable : Holds table entries)
    (hget : config.get field = ((table.update (given environment)).get? field.name).getD
      (({} : Config).get field)) : Layered environment entries config field := by
  rw [Table.get?_update table distinct_given] at hget
  have hunset : (∀ result, ¬ Gives environment field result) →
      (given environment).get? field.name = none := fun hnot =>
    Option.eq_none_iff_forall_ne_some.2 fun value hsome => hnot _ (get?_given.1 hsome)
  refine ⟨fun value hgives => ?_, fun hnot value hmem => ?_, fun hnot hmissing => ?_⟩
  · rw [hget, get?_given.2 hgives]
    rfl
  · rw [hget, hunset hnot, (htable.get?_eq_some field value).2 hmem]
    rfl
  · have hnone : table.get? field.name = none :=
      Option.eq_none_iff_forall_ne_some.2 fun value hsome =>
        hmissing value ((htable.get?_eq_some field value).1 hsome)
    rw [hget, hunset hnot, hnone]
    rfl

theorem Layered.takes {config : Config} {field : Field}
    (h : Layered environment entries config field) (hentries : DocumentFits entries)
    (henvironment : EnvironmentFits environment) : field.kind.Takes (config.get field) := by
  by_cases hset : ∃ result, Gives environment field result
  · obtain ⟨result, hgives⟩ := hset
    obtain ⟨value, rfl, htakes⟩ := henvironment field result hgives
    rw [h.fromVariable value hgives]
    exact htakes
  · have hunset : ∀ result, ¬ Gives environment field result := not_exists.1 hset
    by_cases hpresent : ∃ value, (.str field.name, value) ∈ entries
    · obtain ⟨value, hmem⟩ := hpresent
      obtain ⟨other, hname, htakes⟩ := hentries.settings _ hmem (name_ne_versionKey field)
      obtain rfl := Field.name_injective (Text.ofString_injective (Value.str.inj hname))
      rw [h.fromFile hunset value hmem]
      exact htakes
    · rw [h.fromDefault hunset (not_exists.1 hpresent)]
      exact takes_get_default field

theorem load_fits (hreads : Reads disk environment path file)
    (hfile : FileHolds reader disk file entries) (hentries : DocumentFits entries)
    (henvironment : EnvironmentFits environment) :
    ∃ config, load reader disk environment path = .ok config ∧
      ∀ field, Layered environment entries config field := by
  obtain ⟨table, htable, hholds⟩ := fileSettings_fits hfile hentries
  have hgiven : ∀ pair ∈ Setting.pairs (given environment), Setting.Fits pair := by
    intro pair hpair
    obtain ⟨entry, hentry, rfl⟩ := List.mem_map.1 hpair
    obtain ⟨field, hname, hgives⟩ := exists_gives hentry
    obtain ⟨value, hvalue, htakes⟩ := henvironment field _ hgives
    obtain rfl := Except.ok.inj hvalue
    exact ⟨field, congrArg Value.str hname, htakes⟩
  obtain ⟨settings, hchecked, hget⟩ := Setting.checkTable_fits "environment"
    (Table.distinct_update (given environment) hholds.distinct)
    (Setting.fits_update hholds.fits hgiven)
  refine ⟨_, ?_, fun field => layered_of_get hholds (hget {} field)⟩
  rcases layered_eq table settingVariables with ⟨entry, hmem, error, hunread, -⟩ | ⟨-, hlayered⟩
  · exact absurd hunread (henvironment.not_unread entry hmem error)
  · rw [load_eq hreads, htable]
    change ((layered environment table settingVariables).mapError LoadError.ofRefusal >>= _) = _
    rw [hlayered]
    change ((Setting.checkTable "environment" (table.update (given environment))).mapError
      LoadError.ofRefusal >>= _) = _
    rw [hchecked]
    rfl

theorem load_of_fileSettings {error : LoadError} (hreads : Reads disk environment path file)
    (h : fileSettings reader disk file = .error error) :
    load reader disk environment path = .error error := by
  rw [load_eq hreads, h]
  rfl

theorem load_refuses_environment (hreads : Reads disk environment path file)
    (hfile : FileHolds reader disk file entries) (hentries : DocumentFits entries)
    (henvironment : ¬ EnvironmentFits environment) :
    ∃ error, EnvironmentRefusal environment error ∧
      load reader disk environment path = .error (.refused error) := by
  obtain ⟨table, htable, hholds⟩ := fileSettings_fits hfile hentries
  rw [load_eq hreads, htable]
  change ∃ error, EnvironmentRefusal environment error ∧
    ((layered environment table settingVariables).mapError LoadError.ofRefusal >>= _) = _
  rcases layered_eq table settingVariables with
    ⟨⟨name, key, kind⟩, hmem, error, ⟨raw, hraw, hvalue⟩, hlayered⟩ | ⟨hread, hlayered⟩
  · obtain ⟨field, rfl⟩ := exists_field hmem
    refine ⟨error, .unread ⟨name, kind, raw, hmem, hraw, hvalue⟩, ?_⟩
    rw [hlayered]
    change Except.error (LoadError.ofRefusal error) = _
    rw [LoadError.ofRefusal, if_pos (isWritable_of_variableValue hvalue)]
  · have hnot : ¬ ∀ pair ∈ Setting.pairs (table.update (given environment)), Setting.Fits pair :=
      fun hall => henvironment (environmentFits_of_takes hread fun _ _ => takes_of_gives hall)
    obtain ⟨error, hfirst, hchecked⟩ := Setting.checkTable_refuses "environment" hnot
    obtain ⟨hrefusal, hwritable⟩ := refusal_of_environment hholds.fits hfirst
    refine ⟨error, hrefusal, ?_⟩
    rw [hlayered]
    change ((Setting.checkTable "environment" (table.update (given environment))).mapError
      LoadError.ofRefusal >>= _) = _
    rw [hchecked]
    change Except.error (LoadError.ofRefusal error) = _
    rw [LoadError.ofRefusal, if_pos hwritable]

theorem fits_of_load {config : Config} (hreads : Reads disk environment path file)
    (hfile : FileHolds reader disk file entries)
    (hload : load reader disk environment path = .ok config) :
    DocumentFits entries ∧ EnvironmentFits environment := by
  have hentries : DocumentFits entries := by
    by_cases hentries : DocumentFits entries
    · exact hentries
    · obtain ⟨_, error, -, -, hsettings⟩ := fileSettings_refuses hfile hentries
      rw [load_of_fileSettings hreads hsettings] at hload
      cases hload
  refine ⟨hentries, ?_⟩
  by_cases henvironment : EnvironmentFits environment
  · exact henvironment
  · obtain ⟨error, -, hrefused⟩ := load_refuses_environment hreads hfile hentries henvironment
    rw [hrefused] at hload
    cases hload

end Load

theorem ofRefusal_cases {α : Type} (error : ConfigError) :
    (error.isWritable = true →
      (.error (.ofRefusal error) : Except LoadError α) = .error (.refused error)) ∧
    (error.isWritable = false →
      (.error (.ofRefusal error) : Except LoadError α) = .error (.broken .unwritableNumber)) := by
  rw [LoadError.ofRefusal]
  refine ⟨fun h => ?_, fun h => ?_⟩
  · rw [if_pos h]
  · rw [h]
    rfl

/-- A configuration is loaded exactly if the settings file and the variables fit, and then each
field has its value from the latest layer that has one. A file that does not fit is reported
whatever the environment holds, but the report breaks off if it has to write out a number that is
too long. Overrides replace the fields that they name, and overriding twice is overriding with both.
-/
theorem load_layers_settings (reader : DocumentReader) (disk : Disk) (environment : Environment)
    (path file : Option Path) (entries : List (Value × Value)) (config : Config)
    (overrides more : Table Value) :
    (Reads disk environment path file → FileHolds reader disk file entries →
      ((∃ loaded, load reader disk environment path = .ok loaded) ↔
        DocumentFits entries ∧ EnvironmentFits environment) ∧
      (∀ loaded, load reader disk environment path = .ok loaded →
        (∀ field, Layered environment entries loaded field) ∧
        ∀ field n, loaded.get field = .int n → 0 ≤ n) ∧
      (¬ DocumentFits entries → ∃ settingsPath error, file = some settingsPath ∧
        DocumentRefusal settingsPath entries error ∧
        (∀ other, Reads disk other path file →
          (error.isWritable = true → load reader disk other path = .error (.refused error)) ∧
          (error.isWritable = false →
            load reader disk other path = .error (.broken .unwritableNumber))) ∧
        ((∀ entry ∈ entries, entry.1.isWritable = true ∧ entry.2.isWritable = true) →
          error.isWritable = true)) ∧
      (DocumentFits entries → ¬ EnvironmentFits environment →
        ∃ error, EnvironmentRefusal environment error ∧
          load reader disk environment path = .error (.refused error))) ∧
    (Table.Distinct overrides.entries → Table.Distinct more.entries →
      (∀ pair ∈ Setting.pairs overrides, Setting.Fits pair) →
      (∀ pair ∈ Setting.pairs more, Setting.Fits pair) →
      ∃ first second, config.withOverrides overrides = .ok first ∧
        first.withOverrides more = .ok second ∧
        config.withOverrides (overrides.update more) = .ok second ∧
        ∀ field : Field, first.get field =
          (overrides.get? field.name).getD (config.get field)) ∧
    ((¬ ∀ pair ∈ Setting.pairs overrides, Setting.Fits pair) →
      ∃ error, Setting.FirstRefusal "overrides" (Setting.pairs overrides) error ∧
        (error.isWritable = true → config.withOverrides overrides = .error (.refused error)) ∧
        (error.isWritable = false →
          config.withOverrides overrides = .error (.broken .unwritableNumber)) ∧
        ((∀ value ∈ overrides.values, value.isWritable = true) → error.isWritable = true)) := by
  refine ⟨fun hreads hfile => ⟨⟨?_, ?_⟩, ?_, ?_, ?_⟩, ?_, ?_⟩
  · rintro ⟨loaded, hload⟩
    exact fits_of_load hreads hfile hload
  · rintro ⟨hentries, henvironment⟩
    obtain ⟨loaded, hload, -⟩ := load_fits hreads hfile hentries henvironment
    exact ⟨loaded, hload⟩
  · intro loaded hload
    obtain ⟨hentries, henvironment⟩ := fits_of_load hreads hfile hload
    obtain ⟨found, hfound, hlayers⟩ := load_fits hreads hfile hentries henvironment
    obtain rfl := Except.ok.inj (hfound.symm.trans hload)
    refine ⟨hlayers, fun field n hn => ?_⟩
    have htakes := (hlayers field).takes hentries henvironment
    rw [hn] at htakes
    generalize field.kind = kind at htakes
    cases htakes with
    | number n => exact Int.natCast_nonneg n
  · intro hentries
    obtain ⟨settingsPath, error, hpath, hrefusal, hsettings⟩ := fileSettings_refuses hfile hentries
    refine ⟨settingsPath, error, hpath, hrefusal, fun other hother => ?_, hrefusal.isWritable⟩
    rw [load_of_fileSettings hother hsettings]
    exact ofRefusal_cases error
  · exact load_refuses_environment hreads hfile
  · intro hdistinct hdistinct' hfits hfits'
    obtain ⟨result, hresult, -, hget⟩ := config.withOverrides_fits hdistinct hfits
    obtain ⟨first, second, hfirst, hsecond, hboth⟩ :=
      config.withOverrides_update hdistinct hdistinct' hfits hfits'
    obtain rfl := Except.ok.inj (hresult.symm.trans hfirst)
    exact ⟨result, second, hfirst, hsecond, hboth, hget⟩
  · intro hrefused
    obtain ⟨error, hfirst, hoverrides, hwritable⟩ := config.withOverrides_refuses hrefused
    obtain ⟨hwritten, hbroken⟩ := ofRefusal_cases error
    exact ⟨error, hfirst, fun h => hoverrides.trans (hwritten h),
      fun h => hoverrides.trans (hbroken h), hwritable⟩

/-- The file sets one field, the environment another one, and the others have their defaults. Of
two overrides of a field, the later one counts. A refused override is reported. -/
theorem load_layers_settings_of_depth :
    let reader : DocumentReader := fun _ => .ok (.map [(.str "max_call_depth", .int 3)])
    (∃ loaded, load reader .blank ⟨[("JLANG_TRACE", " Off ")]⟩ (some {}) = .ok loaded ∧
      loaded.get .maxCallDepth = .int 3 ∧ loaded.get .trace = .bool false ∧
      loaded.get .encoding = .str "utf-8") ∧
    ∃ first second : Config,
      ({} : Config).withOverrides ⟨[("max_call_depth", .int 5)]⟩ = .ok first ∧
      first.withOverrides ⟨[("max_call_depth", .int 7)]⟩ = .ok second ∧
      ({} : Config).withOverrides ⟨[("max_call_depth", .int 7)]⟩ = .ok second := by
  intro reader
  have hdocument : readDocument reader .blank {} = .ok (.map [(.str "max_call_depth", .int 3)]) :=
    rfl
  have hentries : DocumentFits [(.str "max_call_depth", .int 3)] := by
    refine ⟨fun version hmem => ?_, fun entry hmem _ => ?_⟩
    · have hkey := congrArg (·.1) (List.mem_singleton.1 hmem)
      exact absurd hkey.symm (name_ne_versionKey .maxCallDepth)
    · rw [List.mem_singleton.1 hmem]
      exact ⟨.maxCallDepth, rfl, .number 3⟩
  have htrace : Gives ⟨[("JLANG_TRACE", " Off ")]⟩ .trace (.ok (.bool false)) :=
    ⟨"JLANG_TRACE", .truth, " Off ", by decide, rfl, rfl⟩
  have honly : ∀ field result, Gives ⟨[("JLANG_TRACE", " Off ")]⟩ field result →
      field = .trace ∧ result = .ok (.bool false) := by
    rintro field result ⟨name, kind, raw, hmem, hraw, rfl⟩
    simp only [settingVariables, List.mem_cons, Prod.mk.injEq, List.not_mem_nil, or_false] at hmem
    rcases hmem with ⟨rfl, hname, rfl⟩ | ⟨rfl, -, -⟩ | ⟨rfl, -, -⟩
    · obtain rfl : " Off " = raw := Option.some.inj hraw
      exact ⟨Field.name_injective hname, rfl⟩
    · exact absurd hraw (by simp [Table.get?, Table.lookup])
    · exact absurd hraw (by simp [Table.get?, Table.lookup])
  have henvironment : EnvironmentFits ⟨[("JLANG_TRACE", " Off ")]⟩ := by
    intro field result hgives
    obtain ⟨rfl, rfl⟩ := honly field result hgives
    exact ⟨_, rfl, .truth false⟩
  have hdepth : ∀ n : Nat, ∀ pair ∈ Setting.pairs ⟨[("max_call_depth", .int n)]⟩,
      Setting.Fits pair := by
    intro n pair hmem
    rw [List.mem_singleton.1 hmem]
    exact ⟨.maxCallDepth, rfl, .number n⟩
  obtain ⟨hload, hoverrides, -⟩ := load_layers_settings reader .blank ⟨[("JLANG_TRACE", " Off ")]⟩
    (some {}) (some {}) [(.str "max_call_depth", .int 3)] {} ⟨[("max_call_depth", .int 5)]⟩
    ⟨[("max_call_depth", .int 7)]⟩
  obtain ⟨hloads, hlayers, -⟩ :=
    hload (.named {}) (.mapping hdocument (by simp [textKeys, Value.text?]))
  obtain ⟨loaded, hloaded⟩ := hloads.2 ⟨hentries, henvironment⟩
  obtain ⟨hfields, -⟩ := hlayers loaded hloaded
  refine ⟨⟨loaded, hloaded, ?_, (hfields .trace).fromVariable _ htrace, ?_⟩, ?_⟩
  · refine (hfields .maxCallDepth).fromFile (fun result hgives => ?_) _ List.mem_cons_self
    exact absurd (honly _ _ hgives).1 (by decide)
  · refine (hfields .encoding).fromDefault (fun result hgives => ?_) fun value hmem => ?_
    · exact absurd (honly _ _ hgives).1 (by decide)
    · have hkey : Value.str "encoding" = .str "max_call_depth" :=
        congrArg (·.1) (List.mem_singleton.1 hmem)
      exact absurd (Text.ofString_injective (Value.str.inj hkey)) (by decide)
  · obtain ⟨first, second, hfirst, hsecond, hboth, -⟩ :=
      hoverrides (by simp [Table.Distinct]) (by simp [Table.Distinct]) (hdepth 5) (hdepth 7)
    exact ⟨first, second, hfirst, hsecond, hboth⟩

/-- A number of more than 4300 digits for a field that takes none is not reported: loading breaks
off, and so does overriding. -/
theorem long_number_breaks_loading_off :
    let long : Value := .int (.ofNat (Nat.pow 10 4300))
    let reader : DocumentReader := fun _ => .ok (.map [(.str "trace", long)])
    load reader .blank {} (some (.ofText "c.yaml")) = .error (.broken .unwritableNumber) ∧
      ({} : Config).withOverrides ⟨[("trace", long)]⟩ = .error (.broken .unwritableNumber) := by
  intro long reader
  have hwritable : long.isWritable = false := by
    decide +kernel
  have hbroken : ∀ source,
      LoadError.ofRefusal (.wrongKind source "trace" "bool" long) = .broken .unwritableNumber := by
    intro source
    rw [LoadError.ofRefusal, ConfigError.isWritable, hwritable]
    rfl
  have hdocument : readDocument reader .blank (.ofText "c.yaml") =
      .ok (.map [(.str "trace", long)]) := rfl
  have hchecked : settingsOf (.ofText "c.yaml") [(.str "trace", long)] =
      .error (.wrongKind "c.yaml" "trace" "bool" long) := rfl
  constructor
  · rw [load_of_fileSettings (.named (.ofText "c.yaml")) (fileSettings_of_error hdocument hchecked),
      hbroken]
  · have hrefused : Setting.checkAll "overrides" [(.str "trace", long)] =
        .error (.wrongKind "overrides" "trace" "bool" long) := rfl
    rw [withOverrides, Setting.checkTable, List.map_singleton, hrefused]
    exact congrArg Except.error (hbroken "overrides")

end Config

end LineScript
