import LineScript.Config.Setting
import LineScript.Proofs.Table

/-! # Fields of a configuration

A setting is a field with a value. `FieldKind.Takes` says which values fit a field, and `Refusal`
which error there is for every other pair of a key and a value. Settings are checked in order, so
the first pair that does not fit is the one that is reported. If all fit, each field gets the value
that is given for it, and the others stay as they are.
-/

namespace LineScript

/-! ## Names -/

theorem Setting.name?_eq_some {key : Value} {name : String} :
    name? key = some name ↔ key = .str name := by
  cases key with
  | str s => simp [name?, Text.string?_eq_some]
  | _ => simp [name?]

/-! ## Fields -/

inductive FieldKind where
  | number
  | truth
  | characters
  deriving DecidableEq, Repr

def FieldKind.label : FieldKind → String
  | number => "int"
  | truth => "bool"
  | characters => "str"

/-- The values of a kind. Truth values are not numbers, and numbers are not negative. -/
inductive FieldKind.Takes : FieldKind → Value → Prop
  | number (n : Nat) : Takes number (.int n)
  | truth (b : Bool) : Takes truth (.bool b)
  | characters (s : Text) : Takes characters (.str s)

inductive Field where
  | valueOverhead
  | maxCallDepth
  | trace
  | encoding
  | defaultWindowTitle
  | scriptExtension
  deriving DecidableEq, Repr

namespace Field

def name : Field → String
  | valueOverhead => "value_overhead"
  | maxCallDepth => "max_call_depth"
  | trace => "trace"
  | encoding => "encoding"
  | defaultWindowTitle => "default_window_title"
  | scriptExtension => "script_extension"

def kind : Field → FieldKind
  | valueOverhead => .number
  | maxCallDepth => .number
  | trace => .truth
  | encoding => .characters
  | defaultWindowTitle => .characters
  | scriptExtension => .characters

theorem name_injective {field other : Field} (h : field.name = other.name) : field = other := by
  cases field <;> cases other <;> first | rfl | exact absurd h (by decide)

end Field

def Config.get (config : Config) : Field → Value
  | .valueOverhead => .int config.valueOverhead
  | .maxCallDepth => .int config.maxCallDepth
  | .trace => .bool config.trace
  | .encoding => .str config.encoding
  | .defaultWindowTitle => .str config.defaultWindowTitle
  | .scriptExtension => .str config.scriptExtension

/-- A configuration is nothing but its fields and the codecs of the platform. -/
theorem Config.ext_get {config other : Config} (h : ∀ field, config.get field = other.get field)
    (hcodecs : config.codecs = other.codecs) : config = other := by
  have h₁ := h .valueOverhead
  have h₂ := h .maxCallDepth
  have h₃ := h .trace
  have h₄ := h .encoding
  have h₅ := h .defaultWindowTitle
  have h₆ := h .scriptExtension
  cases config
  cases other
  simp only [Config.get, Value.int.injEq, Value.bool.injEq, Value.str.injEq] at h₁ h₂ h₃ h₄ h₅ h₆
  simp only [Config.mk.injEq]
  exact ⟨h₁, h₂, h₃, h₄, h₅, h₆, hcodecs⟩

theorem Config.takes_get_default (field : Field) :
    field.kind.Takes (({} : Config).get field) := by
  cases field with
  | valueOverhead => exact .number 16
  | maxCallDepth => exact .number 100
  | trace => exact .truth true
  | encoding => exact .characters _
  | defaultWindowTitle => exact .characters _
  | scriptExtension => exact .characters _

/-! ## Settings as fields with values -/

namespace Setting

def field : Setting → Field
  | valueOverhead _ => .valueOverhead
  | maxCallDepth _ => .maxCallDepth
  | trace _ => .trace
  | encoding _ => .encoding
  | defaultWindowTitle _ => .defaultWindowTitle
  | scriptExtension _ => .scriptExtension

def value : Setting → Value
  | valueOverhead n => .int n
  | maxCallDepth n => .int n
  | trace b => .bool b
  | encoding s => .str s
  | defaultWindowTitle s => .str s
  | scriptExtension s => .str s

/-- Applying a setting changes its field and no other. -/
theorem get_apply (setting : Setting) (config : Config) (field : Field) :
    (setting.apply config).get field =
      if setting.field = field then setting.value else config.get field := by
  cases setting <;> cases field <;> rfl

theorem exists_of_takes {field : Field} {value : Value} (h : field.kind.Takes value) :
    ∃ setting : Setting, setting.field = field ∧ setting.value = value := by
  cases field with
  | valueOverhead => cases h with | number n => exact ⟨.valueOverhead n, rfl, rfl⟩
  | maxCallDepth => cases h with | number n => exact ⟨.maxCallDepth n, rfl, rfl⟩
  | trace => cases h with | truth b => exact ⟨.trace b, rfl, rfl⟩
  | encoding => cases h with | characters s => exact ⟨.encoding s, rfl, rfl⟩
  | defaultWindowTitle => cases h with | characters s => exact ⟨.defaultWindowTitle s, rfl, rfl⟩
  | scriptExtension => cases h with | characters s => exact ⟨.scriptExtension s, rfl, rfl⟩

theorem takes_value (setting : Setting) : setting.field.kind.Takes setting.value := by
  cases setting <;> constructor

/-- The error about a pair of a key and a value that is no setting. -/
inductive Refusal (source : Text) (key value : Value) : ConfigError → Prop
  | unknown (hkey : ∀ field : Field, key ≠ .str field.name) :
      Refusal source key value (.unknownKey source key)
  | notInteger {field : Field} (hkey : key = .str field.name) (hkind : field.kind = .number)
      (hvalue : ∀ n, value ≠ .int n) :
      Refusal source key value (.notInteger source field.name value)
  | negative {field : Field} {n : Int} (hkey : key = .str field.name)
      (hkind : field.kind = .number) (hvalue : value = .int n) (hneg : n < 0) :
      Refusal source key value (.negative source field.name)
  | wrongKind {field : Field} (hkey : key = .str field.name) (hkind : field.kind ≠ .number)
      (hvalue : ¬ field.kind.Takes value) :
      Refusal source key value (.wrongKind source field.name field.kind.label value)

variable {source : Text} {key value : Value}

/-- The pair is a setting: its key is the name of a field, and its value fits the field. -/
def Fits (entry : Value × Value) : Prop :=
  ∃ field : Field, entry.1 = .str field.name ∧ field.kind.Takes entry.2

def entry (setting : Setting) : Value × Value :=
  (.str setting.field.name, setting.value)

theorem fits_iff {pair : Value × Value} :
    Fits pair ↔ ∃ setting : Setting, pair = setting.entry := by
  constructor
  · rintro ⟨field, hkey, htakes⟩
    obtain ⟨setting, rfl, hvalue⟩ := exists_of_takes htakes
    exact ⟨setting, Prod.ext hkey hvalue.symm⟩
  · rintro ⟨setting, rfl⟩
    exact ⟨setting.field, rfl, setting.takes_value⟩

/-! ## Checking -/

theorem check_name (source : Text) (field : Field) (value : Value) :
    check source (.str field.name) value =
      (named? source field.name value).getD (.error (.unknownKey source (.str field.name))) := by
  unfold check
  rw [name?_eq_some.2 rfl]
  rfl

theorem check_entry (source : Text) (setting : Setting) :
    check source setting.entry.1 setting.entry.2 = .ok setting := by
  rw [entry, check_name]
  cases setting <;> rfl

theorem named?_eq_none {name : String} (hkey : ∀ field : Field, name ≠ field.name) :
    named? source name value = none := by
  unfold named?
  split
  · exact absurd rfl (hkey .valueOverhead)
  · exact absurd rfl (hkey .maxCallDepth)
  · exact absurd rfl (hkey .trace)
  · exact absurd rfl (hkey .encoding)
  · exact absurd rfl (hkey .defaultWindowTitle)
  · exact absurd rfl (hkey .scriptExtension)
  · rfl

theorem check_unknown (hkey : ∀ field : Field, key ≠ .str field.name) :
    check source key value = .error (.unknownKey source key) := by
  unfold check
  cases hname : name? key with
  | none => rfl
  | some name =>
      have hother : ∀ field : Field, name ≠ field.name := by
        rintro field rfl
        exact hkey field (name?_eq_some.1 hname)
      rw [Option.bind_some, named?_eq_none hother]
      rfl

section Refused

variable {field : Field}

theorem refused_number {make : Nat → Setting} (hkind : field.kind = .number)
    (hcheck : check source (.str field.name) value =
      (natural source field.name value).map make) (hvalue : ¬ field.kind.Takes value) :
    ∃ error, check source (.str field.name) value = .error error ∧
      Refusal source (.str field.name) value error := by
  rw [hcheck]
  rw [hkind] at hvalue
  cases value with
  | int n =>
      cases n with
      | ofNat n => exact absurd (.number n) hvalue
      | negSucc n => exact ⟨_, rfl, .negative rfl hkind rfl (Int.negSucc_lt_zero n)⟩
  | _ => exact ⟨_, rfl, .notInteger rfl hkind (by simp)⟩

theorem truth_eq_error {key : String} (h : ¬ FieldKind.truth.Takes value) :
    truth source key value = .error (.wrongKind source key "bool" value) := by
  cases value with
  | bool b => exact absurd (.truth b) h
  | _ => rfl

theorem characters_eq_error {key : String} (h : ¬ FieldKind.characters.Takes value) :
    characters source key value = .error (.wrongKind source key "str" value) := by
  cases value with
  | str s => exact absurd (.characters s) h
  | _ => rfl

theorem refused_wrongKind {α : Type} {make : α → Setting} {taken : Except ConfigError α}
    (hkind : field.kind ≠ .number)
    (hcheck : check source (.str field.name) value = taken.map make)
    (htaken : taken = .error (.wrongKind source field.name field.kind.label value))
    (hvalue : ¬ field.kind.Takes value) :
    ∃ error, check source (.str field.name) value = .error error ∧
      Refusal source (.str field.name) value error := by
  rw [hcheck, htaken]
  exact ⟨_, rfl, .wrongKind rfl hkind hvalue⟩

end Refused

theorem check_refuses (source : Text) (h : ¬ Fits (key, value)) :
    ∃ error, check source key value = .error error ∧ Refusal source key value error := by
  by_cases hkey : ∃ field : Field, key = .str field.name
  · obtain ⟨field, rfl⟩ := hkey
    have hvalue : ¬ field.kind.Takes value := fun htakes => h ⟨field, rfl, htakes⟩
    have hcheck := check_name source field value
    cases field with
    | valueOverhead => exact refused_number rfl hcheck hvalue
    | maxCallDepth => exact refused_number rfl hcheck hvalue
    | trace => exact refused_wrongKind (by decide) hcheck (truth_eq_error hvalue) hvalue
    | encoding => exact refused_wrongKind (by decide) hcheck (characters_eq_error hvalue) hvalue
    | defaultWindowTitle =>
        exact refused_wrongKind (by decide) hcheck (characters_eq_error hvalue) hvalue
    | scriptExtension =>
        exact refused_wrongKind (by decide) hcheck (characters_eq_error hvalue) hvalue
  · have hunknown : ∀ field : Field, key ≠ .str field.name := fun field heq => hkey ⟨field, heq⟩
    exact ⟨_, check_unknown hunknown, .unknown hunknown⟩

theorem Refusal.not_fits {error : ConfigError} (h : Refusal source key value error) :
    ¬ Fits (key, value) := by
  rintro ⟨other, hother, htakes⟩
  have hsame : ∀ {field : Field}, key = .str field.name → other = field := by
    rintro field rfl
    exact Field.name_injective (Text.ofString_injective (Value.str.inj hother)).symm
  cases h with
  | unknown hkey => exact hkey other hother
  | notInteger hkey hkind hvalue =>
      rw [hsame hkey, hkind] at htakes
      cases htakes with
      | number n => exact hvalue n rfl
  | negative hkey hkind hvalue hneg =>
      rw [hsame hkey, hkind] at htakes
      cases htakes with
      | number n =>
          cases hvalue
          omega
  | wrongKind hkey hkind hvalue =>
      rw [hsame hkey] at htakes
      exact hvalue htakes

theorem Refusal.eq_negative {field : Field} {n : Int} {error : ConfigError}
    (h : Refusal source (.str field.name) (.int n) error) (hkind : field.kind = .number) :
    error = .negative source field.name := by
  have hsame : ∀ {other : Field}, (.str field.name : Value) = .str other.name → field = other :=
    fun heq => Field.name_injective (Text.ofString_injective (Value.str.inj heq))
  cases h with
  | unknown hkey => exact absurd rfl (hkey field)
  | notInteger _ _ hvalue => exact absurd rfl (hvalue n)
  | negative hkey _ _ _ => rw [hsame hkey]
  | wrongKind hkey hother _ =>
      rw [← hsame hkey] at hother
      exact absurd hkind hother

theorem Refusal.isWritable {error : ConfigError} (h : Refusal source key value error)
    (hkey : key.isWritable = true) (hvalue : value.isWritable = true) :
    error.isWritable = true := by
  cases h with
  | unknown _ => exact hkey
  | notInteger _ _ _ => exact hvalue
  | negative _ _ _ _ => rfl
  | wrongKind _ _ _ => exact hvalue

/-- The error is about the first of the pairs that is no setting. -/
def FirstRefusal (source : Text) (pairs : List (Value × Value)) (error : ConfigError) : Prop :=
  ∃ before key value after, pairs = before ++ (key, value) :: after ∧
    (∀ pair ∈ before, Fits pair) ∧ Refusal source key value error

theorem FirstRefusal.isWritable {pairs : List (Value × Value)} {error : ConfigError}
    (h : FirstRefusal source pairs error)
    (hpairs : ∀ pair ∈ pairs, pair.1.isWritable = true ∧ pair.2.isWritable = true) :
    error.isWritable = true := by
  obtain ⟨before, key, value, after, rfl, -, hrefusal⟩ := h
  obtain ⟨hkey, hvalue⟩ := hpairs (key, value) (List.mem_append_right _ List.mem_cons_self)
  exact hrefusal.isWritable hkey hvalue

theorem checkAll_fits (source : Text) {pairs : List (Value × Value)}
    (h : ∀ pair ∈ pairs, Fits pair) :
    ∃ settings : List Setting, pairs = settings.map entry ∧
      checkAll source pairs = .ok settings := by
  induction pairs with
  | nil => exact ⟨[], rfl, rfl⟩
  | cons pair rest ih =>
      obtain ⟨setting, rfl⟩ := fits_iff.1 (h pair List.mem_cons_self)
      obtain ⟨settings, rfl, hrest⟩ :=
        ih fun later hlater => h later (List.mem_cons_of_mem _ hlater)
      refine ⟨setting :: settings, rfl, ?_⟩
      change (check source setting.entry.1 setting.entry.2 >>= fun first =>
        checkAll source (settings.map entry) >>= fun others => pure (first :: others)) = _
      rw [check_entry, hrest]
      rfl

theorem checkAll_refuses (source : Text) {pairs : List (Value × Value)}
    (h : ¬ ∀ pair ∈ pairs, Fits pair) :
    ∃ error, FirstRefusal source pairs error ∧ checkAll source pairs = .error error := by
  induction pairs with
  | nil => exact absurd (by simp) h
  | cons pair rest ih =>
      obtain ⟨key, value⟩ := pair
      by_cases hfirst : Fits (key, value)
      · have hrest : ¬ ∀ pair ∈ rest, Fits pair :=
          fun hall => h (List.forall_mem_cons.2 ⟨hfirst, hall⟩)
        obtain ⟨error, ⟨before, key', value', after, rfl, hbefore, hrefusal⟩, hchecked⟩ := ih hrest
        refine ⟨error, ⟨(key, value) :: before, key', value', after, rfl,
          List.forall_mem_cons.2 ⟨hfirst, hbefore⟩, hrefusal⟩, ?_⟩
        obtain ⟨setting, hsetting⟩ := fits_iff.1 hfirst
        obtain ⟨rfl, rfl⟩ := Prod.mk.inj hsetting
        have hentry : check source (.str setting.field.name) setting.value = .ok setting :=
          check_entry source setting
        simp only [checkAll, hentry, hchecked]
        rfl
      · obtain ⟨error, hchecked, hrefusal⟩ := check_refuses source hfirst
        refine ⟨error, ⟨[], key, value, rest, rfl, by simp, hrefusal⟩, ?_⟩
        simp only [checkAll, hchecked]
        rfl

/-! ## Tables of settings -/

def pairs (table : Table Value) : List (Value × Value) :=
  table.entries.map fun entry => (.str entry.1, entry.2)

theorem checkTable_fits (source : Text) {table : Table Value}
    (hdistinct : Table.Distinct table.entries) (h : ∀ pair ∈ pairs table, Fits pair) :
    ∃ settings, checkTable source table = .ok settings ∧ ∀ (config : Config) (field : Field),
      (config.applyAll settings).get field =
        (table.get? field.name).getD (config.get field) := by
  obtain ⟨settings, hpairs, hchecked⟩ := checkAll_fits source h
  refine ⟨settings, hchecked, ?_⟩
  obtain ⟨entries⟩ := table
  clear h hchecked
  induction settings generalizing entries with
  | nil =>
      obtain rfl := List.map_eq_nil_iff.1 hpairs
      exact fun _ _ => rfl
  | cons setting settings ih =>
      intro config field
      obtain ⟨first, rest, rfl, hfirst, hrest⟩ := List.map_eq_cons_iff.1 hpairs
      obtain ⟨hnot, hdistinct⟩ := List.nodup_cons.1 hdistinct
      have hname : first.1 = setting.field.name :=
        Value.str.inj (congrArg (·.1) hfirst)
      have hvalue : first.2 = setting.value := congrArg (·.2) hfirst
      refine (ih rest hdistinct hrest (setting.apply config) field).trans ?_
      rw [get_apply]
      unfold Table.get?
      rw [Table.lookup, hname]
      by_cases hfield : setting.field = field
      · rw [if_pos hfield, if_pos (congrArg (fun field => Text.ofString (Field.name field)) hfield),
          Table.lookup_eq_none, hvalue]
        · rfl
        · rw [← hfield, ← hname]
          exact hnot
      · rw [if_neg hfield, if_neg fun heq =>
          hfield (Field.name_injective (Text.ofString_injective heq))]

theorem checkTable_refuses (source : Text) {table : Table Value}
    (h : ¬ ∀ pair ∈ pairs table, Fits pair) :
    ∃ error, FirstRefusal source (pairs table) error ∧ checkTable source table = .error error :=
  checkAll_refuses source h

theorem fits_update {table more : Table Value} (h : ∀ pair ∈ pairs table, Fits pair)
    (hmore : ∀ pair ∈ pairs more, Fits pair) : ∀ pair ∈ pairs (table.update more), Fits pair := by
  intro pair hpair
  obtain ⟨entry, hentry, rfl⟩ := List.mem_map.1 hpair
  rcases Table.mem_of_mem_update hentry with hentry | hentry
  · exact h _ (List.mem_map_of_mem hentry)
  · exact hmore _ (List.mem_map_of_mem hentry)

end Setting

/-! ## Overrides -/

namespace Config

variable {overrides more : Table Value}

theorem codecs_applyAll (config : Config) (settings : List Setting) :
    (config.applyAll settings).codecs = config.codecs := by
  induction settings generalizing config with
  | nil => rfl
  | cons setting settings ih =>
      refine (ih (setting.apply config)).trans ?_
      cases setting <;> rfl

/-- Overrides that are all settings replace the fields that they name and no others. -/
theorem withOverrides_fits (config : Config) (hdistinct : Table.Distinct overrides.entries)
    (h : ∀ pair ∈ Setting.pairs overrides, Setting.Fits pair) :
    ∃ result, config.withOverrides overrides = .ok result ∧ result.codecs = config.codecs ∧
      ∀ field : Field, result.get field = (overrides.get? field.name).getD (config.get field) := by
  obtain ⟨settings, hchecked, hget⟩ := Setting.checkTable_fits "overrides" hdistinct h
  refine ⟨config.applyAll settings, ?_, codecs_applyAll config settings, hget config⟩
  rw [withOverrides, hchecked]
  rfl

theorem withOverrides_refuses (config : Config)
    (h : ¬ ∀ pair ∈ Setting.pairs overrides, Setting.Fits pair) :
    ∃ error, Setting.FirstRefusal "overrides" (Setting.pairs overrides) error ∧
      config.withOverrides overrides = .error (.ofRefusal error) ∧
      ((∀ value ∈ overrides.values, value.isWritable = true) → error.isWritable = true) := by
  obtain ⟨error, hfirst, hchecked⟩ := Setting.checkTable_refuses "overrides" h
  refine ⟨error, hfirst, ?_, fun hvalues => hfirst.isWritable fun pair hpair => ?_⟩
  · rw [withOverrides, hchecked]
    rfl
  · obtain ⟨entry, hentry, rfl⟩ := List.mem_map.1 hpair
    exact ⟨rfl, hvalues entry.2 (List.mem_map_of_mem hentry)⟩

/-- Overriding twice is overriding once with the later overrides on top of the earlier ones. -/
theorem withOverrides_update (config : Config) (hdistinct : Table.Distinct overrides.entries)
    (hdistinct' : Table.Distinct more.entries)
    (h : ∀ pair ∈ Setting.pairs overrides, Setting.Fits pair)
    (hmore : ∀ pair ∈ Setting.pairs more, Setting.Fits pair) :
    ∃ first second, config.withOverrides overrides = .ok first ∧
      first.withOverrides more = .ok second ∧
      config.withOverrides (overrides.update more) = .ok second := by
  obtain ⟨first, hfirst, hcodecs, hget⟩ := config.withOverrides_fits hdistinct h
  obtain ⟨second, hsecond, hcodecs', hget'⟩ := first.withOverrides_fits hdistinct' hmore
  obtain ⟨both, hboth, hcodecs'', hget''⟩ := config.withOverrides_fits
    (Table.distinct_update more hdistinct) (Setting.fits_update h hmore)
  have hsame : both = second := by
    refine ext_get (fun field => ?_) ?_
    · rw [hget'', hget', hget, Table.get?_update overrides hdistinct']
      cases more.get? field.name <;> rfl
    · rw [hcodecs'', hcodecs', hcodecs]
  exact ⟨first, second, hfirst, hsecond, hsame ▸ hboth⟩

end Config

end LineScript
