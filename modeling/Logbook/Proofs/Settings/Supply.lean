import Mathlib.Tactic
import Logbook.CommandLine.Basic
import Logbook.Settings.Load
import Logbook.Proofs.Text.Numerals

namespace Logbook

inductive Setting where
  | prompt
  | logDir
  | historyFile
  | maxLogFiles
  /-- Whether there are colours. -/
  | color
  | code (role : Role)

/-- The values that a setting can have. -/
abbrev Setting.Value : Setting → Type
  | prompt => String
  | logDir => Path
  | historyFile => Path
  | maxLogFiles => Nat
  | color => Bool
  | code _ => String

namespace Settings

def get (s : Settings) : (k : Setting) → k.Value
  | .prompt => s.prompt
  | .logDir => s.logDir
  | .historyFile => s.historyFile
  | .maxLogFiles => s.maxLogFiles
  | .color => s.palette.enabled
  | .code role => s.palette.code role

theorem eq_of_get {s u : Settings} (h : ∀ k, s.get k = u.get k) : s = u := by
  obtain ⟨prompt, logDir, historyFile, maxLogFiles, enabled, code⟩ := s
  obtain ⟨prompt', logDir', historyFile', maxLogFiles', enabled', code'⟩ := u
  have hprompt : prompt = prompt' := h .prompt
  have hlogDir : logDir = logDir' := h .logDir
  have hhistoryFile : historyFile = historyFile' := h .historyFile
  have hmaxLogFiles : maxLogFiles = maxLogFiles' := h .maxLogFiles
  have henabled : enabled = enabled' := h .color
  have hcode : code = code' := funext fun role => h (.code role)
  rw [hprompt, hlogDir, hhistoryFile, hmaxLogFiles, henabled, hcode]

end Settings

def Overrides.get? (o : Overrides) : (k : Setting) → Option k.Value
  | .prompt => o.prompt
  | .logDir => o.logDir
  | .historyFile => o.historyFile
  | .maxLogFiles => o.maxLogFiles
  | .color => o.color
  | .code role => o.code role

namespace Settings

theorem get_override (s : Settings) (o : Overrides) (k : Setting) :
    (s.override o).get k = (o.get? k).getD (s.get k) := by
  cases k <;> rfl

theorem override_congr (s : Settings) {o p : Overrides} (h : ∀ k, o.get? k = p.get? k) :
    s.override o = s.override p := by
  apply eq_of_get
  intro k
  rw [get_override, get_override, h k]

theorem override_empty (s : Settings) : s.override {} = s := by
  apply eq_of_get
  intro k
  rw [get_override]
  cases k <;> rfl

theorem override_override (s : Settings) (o : Overrides) :
    (s.override o).override o = s.override o := by
  apply eq_of_get
  intro k
  rw [get_override, get_override]
  cases o.get? k with
  | none => rfl
  | some v => rfl

end Settings

namespace Toml.Table

theorem string?_eq_some_iff {table : Table} {name s : String} :
    table.string? name = some s ↔ table.get? name = some (.string s) := by
  rw [string?]
  split
  · rename_i s' hs'
    simp [hs']
  · rename_i hother
    simpa using hother s

theorem map_string?_eq_some_iff {α : Type} {f : String → α} {table : Table} {name : String} {v : α} :
    (table.string? name).map f = some v ↔ ∃ s, table.get? name = some (.string s) ∧ f s = v := by
  simp only [Option.map_eq_some_iff, string?_eq_some_iff]

theorem boolean?_eq_some_iff {table : Table} {name : String} {b : Bool} :
    table.boolean? name = some b ↔ table.get? name = some (.boolean b) := by
  rw [boolean?]
  split
  · rename_i b' hb'
    simp [hb']
  · rename_i hother
    simpa using hother b

theorem table?_eq_some_iff {table below : Table} {name : String} :
    table.table? name = some below ↔ table.get? name = some (.table below) := by
  rw [table?]
  split
  · rename_i below' hbelow'
    simp [hbelow']
  · rename_i hother
    simpa using hother below

end Toml.Table

namespace Setting

def entry? (table : Toml.Table) : Setting → Option Toml.Value
  | prompt => table.get? "prompt"
  | logDir => table.get? "log_dir"
  | historyFile => table.get? "history_file"
  | maxLogFiles => table.get? "max_log_files"
  | color => table.get? "color"
  | code role =>
    match table.get? "colors" with
    | some (.table colors) => Toml.Table.get? colors role.name
    | _ => none

/-- An entry is of the right kind for a setting, and stands for a value of it. -/
inductive IsWritten (user : User) : (k : Setting) → Toml.Value → k.Value → Prop where
  | prompt (s : String) : IsWritten user .prompt (.string s) (Overrides.decodeEscapes s)
  | logDir (s : String) : IsWritten user .logDir (.string s) (Overrides.expandHome user s)
  | historyFile (s : String) : IsWritten user .historyFile (.string s) (Overrides.expandHome user s)
  | number (n : Nat) : IsWritten user .maxLogFiles (.integer n) n
  | numeral {s : String} {n : Nat} : Decimal.SpellsCount (Text.trim s.toList) n →
      n < Decimal.countLimit → IsWritten user .maxLogFiles (.string s) n
  | color (b : Bool) : IsWritten user .color (.boolean b) b
  | code (role : Role) (s : String) :
      IsWritten user (.code role) (.string s) (Overrides.decodeEscapes s)

end Setting

/-- A settings file supplies a value: it is TOML, and the entry for the setting is of the right kind. -/
def SuppliedByText (user : User) (text : String) (k : Setting) (v : k.Value) : Prop :=
  ∃ table entry, Toml.decode? text = some table ∧ k.entry? table = some entry ∧ k.IsWritten user entry v

/-- An environment supplies a value, where a tilde stands for the home of `user`. -/
inductive SuppliedByEnvironment (user : User) (env : Environment) : (k : Setting) → k.Value → Prop where
  | prompt {s : String} : env "LETSGO_PROMPT" = some s →
      SuppliedByEnvironment user env .prompt (Overrides.decodeEscapes s)
  | logDir {s : String} : env "LETSGO_LOG_DIR" = some s → s ≠ "" →
      SuppliedByEnvironment user env .logDir (Overrides.expandHome user s)
  | historyFile {s : String} : env "LETSGO_HISTORY_FILE" = some s → s ≠ "" →
      SuppliedByEnvironment user env .historyFile (Overrides.expandHome user s)
  | maxLogFiles {s : String} {n : Nat} : env "LETSGO_MAX_LOG_FILES" = some s →
      Decimal.SpellsCount (Text.trim s.toList) n → n < Decimal.countLimit →
      SuppliedByEnvironment user env .maxLogFiles n
  | noColor {s : String} : env "NO_COLOR" = some s → s ≠ "" →
      SuppliedByEnvironment user env .color false
  | ownNoColor {s : String} : env "LETSGO_NO_COLOR" = some s →
      s = "1" ∨ s.toList.map Char.toLower = "true".toList →
      SuppliedByEnvironment user env .color false
  | code {role : Role} {s : String} : env role.envVariable = some s →
      SuppliedByEnvironment user env (.code role) (Overrides.decodeEscapes s)

inductive SuppliedByCall (c : CommandLine) : (k : Setting) → k.Value → Prop where
  | logDir {path : Path} : c.logDir = some path → SuppliedByCall c .logDir path
  | historyFile {path : Path} : c.historyFile = some path → SuppliedByCall c .historyFile path
  | maxLogFiles {n : Nat} : c.maxLogFiles = some n → SuppliedByCall c .maxLogFiles n
  | noColor : c.noColor = true → SuppliedByCall c .color false

namespace Overrides

theorem count?_eq_some_iff (user : User) {entry : Toml.Value} {n : Nat} :
    count? entry = some n ↔ Setting.IsWritten user .maxLogFiles entry n := by
  constructor
  · intro h
    cases entry with
    | integer i =>
        rw [count?, Option.ite_none_right_eq_some, Option.some.injEq] at h
        obtain ⟨hi, rfl⟩ := h
        have hnat : i = (i.toNat : Int) := (Int.toNat_of_nonneg hi).symm
        rw [hnat]
        exact Setting.IsWritten.number i.toNat
    | string s =>
        obtain ⟨hspells, hlt⟩ := Decimal.parseCount?_eq_some_iff.mp h
        exact Setting.IsWritten.numeral hspells hlt
    | real x => cases h
    | boolean b => cases h
    | moment written => cases h
    | array items => cases h
    | table entries => cases h
  · intro h
    cases h with
    | number n => simp [count?]
    | numeral hspells hlt => exact Decimal.parseCount?_eq_some_iff.mpr ⟨hspells, hlt⟩

theorem get?_ofTable {user : User} {table : Toml.Table} {k : Setting} {v : k.Value} :
    (ofTable user table).get? k = some v ↔
      ∃ entry, k.entry? table = some entry ∧ k.IsWritten user entry v := by
  constructor
  · intro h
    cases k with
    | prompt =>
        obtain ⟨s, hs, rfl⟩ := Toml.Table.map_string?_eq_some_iff.mp h
        exact ⟨_, hs, .prompt s⟩
    | logDir =>
        obtain ⟨s, hs, rfl⟩ := Toml.Table.map_string?_eq_some_iff.mp h
        exact ⟨_, hs, .logDir s⟩
    | historyFile =>
        obtain ⟨s, hs, rfl⟩ := Toml.Table.map_string?_eq_some_iff.mp h
        exact ⟨_, hs, .historyFile s⟩
    | maxLogFiles =>
        obtain ⟨entry, hentry, hcount⟩ := Option.bind_eq_some_iff.mp h
        exact ⟨entry, hentry, (count?_eq_some_iff user).mp hcount⟩
    | color => exact ⟨_, Toml.Table.boolean?_eq_some_iff.mp h, .color v⟩
    | code role =>
        obtain ⟨s, hs, rfl⟩ := Option.map_eq_some_iff.mp h
        obtain ⟨colors, hcolors, hs⟩ := Option.bind_eq_some_iff.mp hs
        refine ⟨.string s, ?_, .code role s⟩
        rw [Setting.entry?, Toml.Table.table?_eq_some_iff.mp hcolors]
        exact Toml.Table.string?_eq_some_iff.mp hs
  · rintro ⟨entry, hentry, hwritten⟩
    cases hwritten with
    | prompt s => exact Toml.Table.map_string?_eq_some_iff.mpr ⟨s, hentry, rfl⟩
    | logDir s => exact Toml.Table.map_string?_eq_some_iff.mpr ⟨s, hentry, rfl⟩
    | historyFile s => exact Toml.Table.map_string?_eq_some_iff.mpr ⟨s, hentry, rfl⟩
    | number n =>
        exact Option.bind_eq_some_iff.mpr ⟨_, hentry, (count?_eq_some_iff user).mpr (.number n)⟩
    | numeral hspells hlt =>
        exact Option.bind_eq_some_iff.mpr
          ⟨_, hentry, (count?_eq_some_iff user).mpr (.numeral hspells hlt)⟩
    | color b => exact Toml.Table.boolean?_eq_some_iff.mpr hentry
    | code role s =>
        rw [Setting.entry?] at hentry
        split at hentry
        · rename_i colors hcolors
          refine Option.map_eq_some_iff.mpr ⟨s, ?_, rfl⟩
          have hbelow := Toml.Table.table?_eq_some_iff.mpr hcolors
          exact Option.bind_eq_some_iff.mpr
            ⟨colors, hbelow, Toml.Table.string?_eq_some_iff.mpr hentry⟩
        · cases hentry

theorem get?_ofTable_congr {table table' : Toml.Table} (user : User)
    (h : ∀ k : Setting, k.entry? table = k.entry? table') (k : Setting) :
    (ofTable user table).get? k = (ofTable user table').get? k := by
  apply Option.ext
  intro v
  rw [get?_ofTable, get?_ofTable, h k]

theorem map_filter_eq_some_iff {α : Type} {f : String → α} {env : Environment} {name : String} {v : α} :
    ((env name).filter fun s => !s.isEmpty).map f = some v ↔
      ∃ s, (env name = some s ∧ s ≠ "") ∧ f s = v := by
  simp only [Option.map_eq_some_iff, Option.filter_eq_some_iff, Bool.not_eq_true',
    String.isEmpty_eq_false_iff]

theorem isSet_iff {env : Environment} {name : String} :
    isSet env name = true ↔ ∃ s, env name = some s ∧ s ≠ "" := by
  simp [isSet, Option.any_eq_true]

theorem noColor_iff {env : Environment} :
    noColor env = true ↔
      (∃ s, env "NO_COLOR" = some s ∧ s ≠ "") ∨
        ∃ s, env "LETSGO_NO_COLOR" = some s ∧ (s = "1" ∨ s.toList.map Char.toLower = "true".toList) := by
  rw [noColor, Bool.or_eq_true, isSet_iff, Option.any_eq_true]
  simp

theorem get?_ofEnvironment {user : User} {env : Environment} {k : Setting} {v : k.Value} :
    (ofEnvironment user env).get? k = some v ↔ SuppliedByEnvironment user env k v := by
  constructor
  · intro h
    cases k with
    | prompt =>
        obtain ⟨s, hs, rfl⟩ := Option.map_eq_some_iff.mp h
        exact .prompt hs
    | logDir =>
        obtain ⟨s, ⟨hs, hne⟩, rfl⟩ := map_filter_eq_some_iff.mp h
        exact .logDir hs hne
    | historyFile =>
        obtain ⟨s, ⟨hs, hne⟩, rfl⟩ := map_filter_eq_some_iff.mp h
        exact .historyFile hs hne
    | maxLogFiles =>
        obtain ⟨s, hs, hcount⟩ := Option.bind_eq_some_iff.mp h
        obtain ⟨hspells, hlt⟩ := Decimal.parseCount?_eq_some_iff.mp hcount
        exact .maxLogFiles hs hspells hlt
    | color =>
        obtain ⟨hoff, hv⟩ := Option.ite_none_right_eq_some.mp h
        cases hv
        rcases noColor_iff.mp hoff with ⟨s, hs, hne⟩ | ⟨s, hs, hon⟩
        · exact .noColor hs hne
        · exact .ownNoColor hs hon
    | code role =>
        obtain ⟨s, hs, rfl⟩ := Option.map_eq_some_iff.mp h
        exact .code hs
  · intro h
    cases h with
    | prompt hs => exact Option.map_eq_some_iff.mpr ⟨_, hs, rfl⟩
    | logDir hs hne => exact map_filter_eq_some_iff.mpr ⟨_, ⟨hs, hne⟩, rfl⟩
    | historyFile hs hne => exact map_filter_eq_some_iff.mpr ⟨_, ⟨hs, hne⟩, rfl⟩
    | maxLogFiles hs hspells hlt =>
        exact Option.bind_eq_some_iff.mpr
          ⟨_, hs, Decimal.parseCount?_eq_some_iff.mpr ⟨hspells, hlt⟩⟩
    | noColor hs hne => exact if_pos (noColor_iff.mpr (Or.inl ⟨_, hs, hne⟩))
    | ownNoColor hs hon => exact if_pos (noColor_iff.mpr (Or.inr ⟨_, hs, hon⟩))
    | code hs => exact Option.map_eq_some_iff.mpr ⟨_, hs, rfl⟩

end Overrides

namespace CommandLine

theorem get?_overrides {c : CommandLine} {k : Setting} {v : k.Value} :
    c.overrides.get? k = some v ↔ SuppliedByCall c k v := by
  constructor
  · intro h
    cases k with
    | prompt => cases h
    | logDir => exact .logDir h
    | historyFile => exact .historyFile h
    | maxLogFiles => exact .maxLogFiles h
    | color =>
        obtain ⟨hoff, hv⟩ := Option.ite_none_right_eq_some.mp h
        cases hv
        exact .noColor hoff
    | code role => cases h
  · intro h
    cases h with
    | logDir hpath => exact hpath
    | historyFile hpath => exact hpath
    | maxLogFiles hn => exact hn
    | noColor hoff => exact if_pos hoff

end CommandLine

end Logbook
