import Logbook.Program
import Logbook.Proofs.Files.Standing
import Logbook.Proofs.Record.RoundTrip
import Logbook.Proofs.Settings.Supply

/-!
The settings of a run as they come from its layers: the call, the environment and the settings files over the
defaults. Each setting has the value of the first layer that supplies one, whatever the layers say of the
other settings. A text changes no setting that it supplies no value for, and saying the same thing twice
changes nothing.
-/

namespace Logbook

inductive Layer where
  | file (text : String)
  | environment
  | call (c : CommandLine)

namespace Layer

variable {user : User} {layer : Layer} {layers : List Layer} {k : Setting} {v w : k.Value}

def Supplies (user : User) : Layer → (k : Setting) → k.Value → Prop
  | file text => SuppliedByText user text
  | environment => SuppliedByEnvironment user user.env
  | call c => SuppliedByCall c

/-- A value prevails for a setting: a layer supplies it and the layers in front of that one supply none, or
it is the default and no layer supplies any. -/
inductive Prevails (user : User) (k : Setting) : List Layer → k.Value → Prop where
  | default : Prevails user k [] ((Settings.default user).get k)
  | supplied {layer : Layer} {layers : List Layer} {v : k.Value} :
      layer.Supplies user k v → Prevails user k (layer :: layers) v
  | passed {layer : Layer} {layers : List Layer} {v : k.Value} :
      (∀ w, ¬ layer.Supplies user k w) → Prevails user k layers v → Prevails user k (layer :: layers) v

def overrides (user : User) : Layer → Overrides
  | file text => ((Toml.decode? text).map (Overrides.ofTable user)).getD {}
  | environment => Overrides.ofEnvironment user user.env
  | call c => c.overrides

theorem override_file (s : Settings) (text : String) :
    s.override ((file text).overrides user) = s.overrideText user text := by
  rw [overrides, Settings.overrideText]
  cases Toml.decode? text with
  | none => exact s.override_empty
  | some table => rfl

theorem get?_overrides_file {text : String} :
    ((file text).overrides user).get? k = some v ↔ SuppliedByText user text k v := by
  rw [overrides, SuppliedByText]
  cases Toml.decode? text with
  | none =>
      have hempty : ({} : Overrides).get? k = none := by
        cases k <;> rfl
      simp [hempty]
  | some table => simp [Overrides.get?_ofTable]

theorem get?_overrides : (layer.overrides user).get? k = some v ↔ layer.Supplies user k v := by
  cases layer with
  | file text => exact get?_overrides_file
  | environment => exact Overrides.get?_ofEnvironment
  | call c => exact CommandLine.get?_overrides

theorem Supplies.unique (hv : layer.Supplies user k v) (hw : layer.Supplies user k w) : v = w := by
  rw [← get?_overrides] at hv hw
  exact Option.some.inj (hv.symm.trans hw)

theorem get_override_of_not_supplies (s : Settings) (h : ∀ v, ¬ layer.Supplies user k v) :
    (s.override (layer.overrides user)).get k = s.get k := by
  have hnone : (layer.overrides user).get? k = none :=
    Option.eq_none_iff_forall_ne_some.mpr fun v hv => h v (get?_overrides.mp hv)
  rw [Settings.get_override, hnone, Option.getD_none]

theorem get_override_of_supplies (s : Settings) (h : layer.Supplies user k v) :
    (s.override (layer.overrides user)).get k = v := by
  rw [Settings.get_override, get?_overrides.mpr h, Option.getD_some]

theorem Prevails.unique (hv : Prevails user k layers v) (hw : Prevails user k layers w) : v = w := by
  induction hv with
  | default =>
      cases hw
      rfl
  | supplied hv =>
      cases hw with
      | supplied hw => exact hv.unique hw
      | passed hnone _ => exact absurd hv (hnone _)
  | passed hnone _ ih =>
      cases hw with
      | supplied hw => exact absurd hw (hnone _)
      | passed _ hw => exact ih hw

/-- The settings that layers lead to, where the first layer counts most. -/
def settings (user : User) (layers : List Layer) : Settings :=
  layers.foldr (fun layer s => s.override (layer.overrides user)) (Settings.default user)

theorem prevails_get_settings (user : User) (layers : List Layer) (k : Setting) :
    Prevails user k layers ((settings user layers).get k) := by
  induction layers with
  | nil => exact Prevails.default
  | cons layer layers ih =>
      have hsettings :
          settings user (layer :: layers) = (settings user layers).override (layer.overrides user) := rfl
      rw [hsettings]
      by_cases h : ∃ v, layer.Supplies user k v
      · obtain ⟨v, hv⟩ := h
        rw [get_override_of_supplies _ hv]
        exact Prevails.supplied hv
      · have hnone : ∀ v, ¬ layer.Supplies user k v := fun v hv => h ⟨v, hv⟩
        rw [get_override_of_not_supplies _ hnone]
        exact Prevails.passed hnone ih

theorem get_settings_eq_iff : (settings user layers).get k = v ↔ Prevails user k layers v := by
  constructor
  · rintro rfl
    exact prevails_get_settings user layers k
  · intro hv
    exact (prevails_get_settings user layers k).unique hv

end Layer

namespace Settings

variable {user : User} {t : FileTree}

/-- What a settings file says: its text, or nothing if there is no such file. -/
inductive Says (t : FileTree) : Option Path → Option String → Prop where
  | nowhere : Says t none none
  | missing {path : Path} : t.contains path = false → Says t (some path) none
  | text {path : Path} {bytes : List UInt8} {text : String} : t.read path = .ok bytes →
      Utf8.decode? bytes = some text → Says t (some path) (some text)

/-- The texts of the settings files of a run, where the first one counts most: a file that is given stands
in place of the project's file and the user's file. -/
inductive FileTexts (user : User) (t : FileTree) : Option Path → List String → Prop where
  | given {path : Path} {text : String} : Says t (some path) (some text) →
      FileTexts user t (some path) [text]
  | standing {project personal : Option String} : Says t (some projectFile) project →
      Says t (globalFile? user) personal → FileTexts user t none (project.toList ++ personal.toList)

theorem contains_of_read {path : Path} {bytes : List UInt8} (h : t.read path = .ok bytes) :
    t.contains path = true := by
  obtain ⟨f, hfind, -, -⟩ := FileTree.read_eq_ok_iff.mp h
  rw [FileTree.contains, hfind]

theorem overrideFile_of_says (user : User) (s : Settings) {path : Path} {text : String}
    (h : Says t (some path) (some text)) :
    t.contains path = true ∧ s.overrideFile user t path = .ok (s.overrideText user text) := by
  cases h with
  | text hread hdecode =>
      refine ⟨contains_of_read hread, ?_⟩
      simp only [overrideFile, hread, hdecode]

theorem overrideFileIfAny_of_says (user : User) (s : Settings) {path : Path}
    {text? : Option String} (h : Says t (some path) text?) :
    s.overrideFileIfAny user t path =
      .ok (text?.toList.foldr (fun text s => s.overrideText user text) s) := by
  cases text? with
  | none =>
      cases h with
      | missing hmissing =>
          rw [overrideFileIfAny, hmissing]
          rfl
  | some text =>
      obtain ⟨hcontains, hfile⟩ := overrideFile_of_says user s h
      rw [overrideFileIfAny, if_pos hcontains, hfile]
      rfl

theorem load_of_fileTexts {given : Option Path} {texts : List String}
    (h : FileTexts user t given texts) :
    load user t given =
      .ok ((texts.foldr (fun text s => s.overrideText user text) (default user)).override
        (Overrides.ofEnvironment user user.env)) := by
  cases h with
  | given hsays =>
      obtain ⟨hcontains, hfile⟩ := overrideFile_of_says user (default user) hsays
      simp only [load, if_pos hcontains, hfile]
      rfl
  | standing hproject huser =>
      rw [List.foldr_append]
      cases hglobal : globalFile? user with
      | none =>
          rw [hglobal] at huser
          cases huser
          simp only [load, hglobal, overrideFileIfAny_of_says user _ hproject]
          rfl
      | some path =>
          rw [hglobal] at huser
          simp only [load, hglobal, overrideFileIfAny_of_says user _ huser,
            overrideFileIfAny_of_says user _ hproject]
          rfl

theorem get_overrideText_of_not_supplied {text : String} {k : Setting} (s : Settings)
    (h : ∀ v, ¬ SuppliedByText user text k v) : (s.overrideText user text).get k = s.get k := by
  rw [← Layer.override_file]
  exact Layer.get_override_of_not_supplies s h

theorem overrideText_overrideText (s : Settings) (text : String) :
    (s.overrideText user text).overrideText user text = s.overrideText user text := by
  simp only [← Layer.override_file, override_override]

end Settings

namespace Program

theorem settings_of_fileTexts {c : CommandLine} {user : User} {t : FileTree}
    {texts : List String} (h : Settings.FileTexts user t c.config texts) :
    settings c user t =
      .ok (Layer.settings user (.call c :: .environment :: texts.map .file)) := by
  have htexts : texts.foldr (fun text s => s.overrideText user text) (Settings.default user) =
      Layer.settings user (texts.map .file) := by
    rw [Layer.settings, List.foldr_map]
    congr 1
    funext text s
    exact (Layer.override_file s text).symm
  rw [settings, Settings.load_of_fileTexts h, htexts]
  rfl

/-- A run has settings if its settings files can be read, and each setting has the value that prevails among
the call, the environment and the texts of the settings files. A text changes no setting that it supplies no
value for, and of its table nothing counts but the entries for settings. The same text or the same
environment a second time changes nothing. -/
theorem settings_prevail {c : CommandLine} {user : User} {t : FileTree} {texts : List String}
    (hfiles : Settings.FileTexts user t c.config texts) :
    ∃ s, settings c user t = .ok s ∧
      (∀ (k : Setting) (v : k.Value), s.get k = v ↔
        Layer.Prevails user k (.call c :: .environment :: texts.map .file) v) ∧
      (∀ (s : Settings) (text : String) (k : Setting), (∀ v, ¬ SuppliedByText user text k v) →
        (s.overrideText user text).get k = s.get k) ∧
      (∀ (s : Settings) (text text' : String) (table table' : Toml.Table),
        Toml.decode? text = some table → Toml.decode? text' = some table' →
        (∀ k : Setting, k.entry? table = k.entry? table') →
        s.overrideText user text = s.overrideText user text') ∧
      (∀ (s : Settings) (text : String),
        (s.overrideText user text).overrideText user text = s.overrideText user text) ∧
      ∀ (s : Settings) (system : User) (env : Environment),
        let o := Overrides.ofEnvironment system env
        (s.override o).override o = s.override o := by
  refine ⟨_, settings_of_fileTexts hfiles, ?_, ?_, ?_, ?_, ?_⟩
  · intro k v
    exact Layer.get_settings_eq_iff
  · intro s text k hnone
    exact Settings.get_overrideText_of_not_supplied s hnone
  · intro s text text' table table' htable htable' hentries
    simp only [Settings.overrideText, htable, htable']
    exact s.override_congr (Overrides.get?_ofTable_congr user hentries)
  · intro s text
    exact Settings.overrideText_overrideText s text
  · intro s system env o
    exact Settings.override_override s o

/-- A user's settings, one of them under a name that is not known. -/
def userText : String :=
  "prompt = \"u>\"\nmax_log_files = \"7\"\ntheme = 1\n[colors]\nerror = '\\e[35m'\n"

/-- A project's settings with entries of a wrong kind. -/
def projectText : String :=
  "prompt = 5\nmax_log_files = \"many\"\nlog_dir = \"~/logs\"\ncolor = true\n"

/-- A user whose environment names no home directory, an empty log directory and a count that is none. -/
def crampedUser : User where
  env name :=
    [("HOME", ""), ("NO_COLOR", "1"), ("LETSGO_LOG_DIR", ""), ("LETSGO_MAX_LOG_FILES", "-3")].lookup name
  accountHome? := some "/u"

def settingsFile (text : String) : Entry :=
  .file
    { bytes := Utf8.encode text
      modified := Record.leapSecond
      mode := Mode.newFile }

def twoFilesTree : FileTree where
  entries :=
    [(["u"], .directory Mode.newDirectory), (["u", ".config"], .directory Mode.newDirectory),
      (["u", ".config", "letsgo"], .directory Mode.newDirectory),
      (["u", ".config", "letsgo", "config.toml"], settingsFile userText),
      ([".letsgo.toml"], settingsFile projectText)]
  clock := Record.leapSecond
  workingDirectory := []
  nodup := by decide

theorem two_files_prevail :
    let c : CommandLine := { historyFile := some ⟨"/h"⟩ }
    let layers : List Layer := [.call c, .environment, .file projectText, .file userText]
    Settings.FileTexts crampedUser twoFilesTree c.config [projectText, userText] ∧
      ∃ s, settings c crampedUser twoFilesTree = .ok s ∧
        s.get .prompt = "u>" ∧ s.get .maxLogFiles = (7 : Nat) ∧ s.get .logDir = Path.mk "/u/logs" ∧
        s.get .historyFile = Path.mk "/h" ∧ s.get .color = false ∧ s.get (.code .error) = "\x1b[35m" ∧
        Layer.Prevails crampedUser .maxLogFiles layers (7 : Nat) := by
  intro c layers
  have hproject : Settings.Says twoFilesTree (some Settings.projectFile) (some projectText) := by
    have hread : twoFilesTree.read Settings.projectFile = .ok (Utf8.encode projectText) := by
      decide +kernel
    exact .text hread (by decide +kernel)
  have huser : Settings.Says twoFilesTree (Settings.globalFile? crampedUser) (some userText) := by
    have hread : twoFilesTree.read ⟨"/u/.config/letsgo/config.toml"⟩ = .ok (Utf8.encode userText) := by
      decide +kernel
    exact .text hread (by decide +kernel)
  have hfiles : Settings.FileTexts crampedUser twoFilesTree c.config [projectText, userText] :=
    .standing hproject huser
  obtain ⟨s, hs, hget, -⟩ := settings_prevail hfiles
  have hvalues : (settings c crampedUser twoFilesTree).map (fun s =>
      (s.prompt, s.maxLogFiles, s.logDir, s.historyFile, s.palette.enabled, s.palette.code .error)) =
      .ok ("u>", 7, ⟨"/u/logs"⟩, ⟨"/h"⟩, false, "\x1b[35m") := by
    decide +kernel
  rw [hs] at hvalues
  simp only [Except.map, Except.ok.injEq, Prod.mk.injEq] at hvalues
  obtain ⟨hprompt, hcount, hlogDir, hhistoryFile, hcolor, hcode⟩ := hvalues
  exact ⟨hfiles, s, hs, hprompt, hcount, hlogDir, hhistoryFile, hcolor, hcode,
    (hget .maxLogFiles _).mp hcount⟩

end Program

end Logbook
