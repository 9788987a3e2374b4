import CommandShell.Settings.Loading
import Mathlib.Data.List.TakeWhile

/-!
# Settings in layers

Where the settings come from is settled before any of them is read: there is one file, or none, and
that file is not given up when it turns out to be ill-formed.  Each setting then has the value of
the highest layer that sets it.  What counts as set differs from one variable of the environment to
the next: any text sets the prompt, any but the empty one takes away the colour, and a blank one
does not set the filter.

So what lies below the highest layer that sets something, and what lies in the files that are not
chosen, makes no difference.

## Main definitions

* `Highest` — the value in the highest layer that sets one.
* `SameHighest` — layers that differ only below the highest of them that sets something.
* `Origin` — what the settings are found in.
* `Origin.UserRoot`, `Origin.Chosen` — the user's folder of settings, and the settings file.
* `Origin.Consulted` — the files that are looked at in order to choose one.
* `Settled`, `SameSettled` — the settings that the environment and a file make.
* `Origin.Loads` — how settings are loaded.
* `Layered` — all that is known of how the settings are found.

## Main results

* `Origin.chosen_or_unreadable`, `Origin.load_of_chosen` — a file is chosen, and what is made of it.
* `settled_iff`, `Origin.loads_iff` — which settings are made and loaded.
* `Origin.load_of_consulted`, `Origin.load_of_sameSettled` — what makes no difference.
* `layered_loadSettings` — **the settings are layered.**
-/

namespace CommandShell

/-! ### Layers of one setting -/

section Highest

variable {α : Type} {base v : α} {layers layers' : List (Option α)}

/-- `v` is the value in the highest of the layers that set one, and `base` if none of them does. -/
inductive Highest (base : α) : List (Option α) → α → Prop where
  /-- There are no layers. -/
  | unset : Highest base [] base
  /-- The layer on top sets the value. -/
  | set (v : α) (lower : List (Option α)) : Highest base (some v :: lower) v
  /-- The layer on top does not set it. -/
  | skip {v : α} {lower : List (Option α)} : Highest base lower v → Highest base (none :: lower) v

/-- The same layers, from the top down to the highest one that sets a value. -/
inductive SameHighest : List (Option α) → List (Option α) → Prop where
  /-- There are no layers. -/
  | unset : SameHighest [] []
  /-- The layer on top sets the value. -/
  | set (v : α) (lower lower' : List (Option α)) : SameHighest (some v :: lower) (some v :: lower')
  /-- The layer on top does not set it. -/
  | skip {lower lower' : List (Option α)} : SameHighest lower lower' →
      SameHighest (none :: lower) (none :: lower')

@[simp] theorem highest_nil_iff : Highest base [] v ↔ v = base := by
  constructor
  · rintro ⟨⟩
    rfl
  · rintro rfl
    exact .unset

@[simp] theorem highest_some_iff {u : α} : Highest base (some u :: layers) v ↔ v = u := by
  constructor
  · rintro ⟨⟩
    rfl
  · rintro rfl
    exact .set v layers

@[simp] theorem highest_none_iff : Highest base (none :: layers) v ↔ Highest base layers v := by
  constructor
  · rintro (_ | _ | h)
    exact h
  · exact .skip

/-- Two layers on top are one. -/
theorem highest_or_iff (upper lower : Option α) :
    Highest base (upper :: lower :: layers) v ↔ Highest base (upper.or lower :: layers) v := by
  cases upper with
  | none => rw [highest_none_iff, Option.none_or]
  | some u => rw [highest_some_iff, Option.some_or, highest_some_iff]

theorem highest_singleton_iff {layer : Option α} :
    Highest base [layer] v ↔ v = layer.getD base := by
  cases layer with
  | none => rw [highest_none_iff, highest_nil_iff, Option.getD_none]
  | some u => rw [highest_some_iff, Option.getD_some]

theorem highest_pair_iff {upper lower : Option α} :
    Highest base [upper, lower] v ↔ v = (upper.or lower).getD base := by
  rw [highest_or_iff, highest_singleton_iff]

/-- What is below the highest layer that sets a value makes no difference. -/
theorem SameHighest.highest_iff (h : SameHighest layers layers') :
    Highest base layers v ↔ Highest base layers' v := by
  induction h with
  | unset => rfl
  | set u lower lower' => rw [highest_some_iff, highest_some_iff]
  | skip _ ih => rw [highest_none_iff, highest_none_iff, ih]

end Highest

/-! ### Blank texts -/

/-- Nothing is left of a blank text, and of no other. -/
theorem trim_eq_nil_iff (t : Text) : trim t = [] ↔ allBlank t = true := by
  have hblank : (∀ c ∈ t.dropWhile isBlank, isBlank c = true) ↔ ∀ c ∈ t, isBlank c = true := by
    constructor
    · intro h c hc
      rw [← List.takeWhile_append_dropWhile (p := isBlank) (l := t)] at hc
      rcases List.mem_append.mp hc with hc | hc
      · exact List.mem_takeWhile_imp hc
      · exact h c hc
    · exact fun h c hc => h c ((List.dropWhile_suffix isBlank).subset hc)
  simp [trim, trimEnd, trimStart, allBlank, List.dropWhile_eq_nil_iff, hblank]

theorem decide_trim_ne_nil (t : Text) : decide (trim t ≠ []) = !allBlank t := by
  simp [trim_eq_nil_iff]

/-! ### The settings file -/

/-- What the settings are found in. -/
structure Origin where
  /-- What is read from each file. -/
  read : Path → Except Cause Text
  /-- The environment. -/
  env : Text → Option Text
  /-- The home folder of the user. -/
  home : Option Path
  /-- The folder that the platform has for settings. -/
  platform : Option Path
  /-- The file that was asked for. -/
  asked : Option Path

namespace Origin

/-- The settings, given how files are understood. -/
def load (o : Origin) (understand : Text → Option Layer) :
    Except SettingsError (Settings × Source) :=
  loadSettings o.read understand o.env o.home o.platform o.asked

/-- The settings file of the user. -/
def userFile (root : Path) : Path := (root.join settingsFolder).join settingsFile

variable {o : Origin} {text : Text} {source : Source}

/-- The folder of the settings of the user. -/
inductive UserRoot (o : Origin) : Option Path → Prop where
  /-- The environment names it. -/
  | named {name : Text} : o.env "XDG_CONFIG_HOME" = some name → trim name ≠ [] →
      UserRoot o (some (Path.ofText (trim name)))
  /-- The environment does not, and the user has a home folder. -/
  | home {h : Path} : (∀ name, o.env "XDG_CONFIG_HOME" = some name → trim name = []) →
      o.home = some h → UserRoot o (some (h.join (Path.ofText ".config")))
  /-- There is only that of the platform, if any. -/
  | platform : (∀ name, o.env "XDG_CONFIG_HOME" = some name → trim name = []) → o.home = none →
      UserRoot o o.platform

/-- The text of the settings file, and where it comes from. -/
inductive Chosen (o : Origin) : Text → Source → Prop where
  /-- The file that was asked for. -/
  | explicit {p : Path} {text : Text} : o.asked = some p → o.read p = .ok text →
      Chosen o text (.explicit p)
  /-- The file in the current folder. -/
  | local {text : Text} : o.asked = none → o.read settingsFile = .ok text → Chosen o text .local
  /-- The file of the user, if that in the current folder cannot be read. -/
  | global {cause : Cause} {root : Path} {text : Text} : o.asked = none →
      o.read settingsFile = .error cause → o.UserRoot (some root) →
      o.read (userFile root) = .ok text → Chosen o text (.global (userFile root))
  /-- No file, if neither can be read. -/
  | defaults {cause : Cause} {root : Option Path} : o.asked = none →
      o.read settingsFile = .error cause → o.UserRoot root →
      (∀ r ∈ root, ∀ text, o.read (userFile r) ≠ .ok text) → Chosen o [] .defaults

/-- The files that are looked at in order to choose one. -/
inductive Consulted (o : Origin) : Path → Prop where
  /-- The file that was asked for, and no other. -/
  | explicit {p : Path} : o.asked = some p → Consulted o p
  /-- The file in the current folder. -/
  | local : o.asked = none → Consulted o settingsFile
  /-- The file of the user, if that in the current folder cannot be read. -/
  | global {cause : Cause} {root : Path} : o.asked = none →
      o.read settingsFile = .error cause → o.UserRoot (some root) → Consulted o (userFile root)

/-- What the search for the folder of the settings of the user comes to. -/
def root (o : Origin) : Option Path := (settingsRoot o.env o.home).or o.platform

theorem root_of_named {name : Text} (h : o.env "XDG_CONFIG_HOME" = some name)
    (hname : trim name ≠ []) : o.root = some (Path.ofText (trim name)) := by
  have hsome : ((o.env "XDG_CONFIG_HOME").map trim).filter (· ≠ []) = some (trim name) := by
    rw [h, Option.map_some, Option.filter_some, if_pos (decide_eq_true hname)]
  rw [root, settingsRoot, hsome]
  rfl

theorem root_of_blank (h : ∀ name, o.env "XDG_CONFIG_HOME" = some name → trim name = []) :
    o.root = (o.home.map fun h => h.join (Path.ofText ".config")).or o.platform := by
  have hnone : ((o.env "XDG_CONFIG_HOME").map trim).filter (· ≠ []) = none := by
    cases henv : o.env "XDG_CONFIG_HOME" with
    | none => rfl
    | some name => simp [h name henv]
  rw [root, settingsRoot, hnone]

theorem userRoot_root (o : Origin) : o.UserRoot o.root := by
  by_cases hnamed : ∃ name, o.env "XDG_CONFIG_HOME" = some name ∧ trim name ≠ []
  · obtain ⟨name, henv, hname⟩ := hnamed
    rw [root_of_named henv hname]
    exact .named henv hname
  · have hblank : ∀ name, o.env "XDG_CONFIG_HOME" = some name → trim name = [] :=
      fun name henv => Decidable.of_not_not fun hname => hnamed ⟨name, henv, hname⟩
    rw [root_of_blank hblank]
    cases hhome : o.home with
    | none => exact .platform hblank hhome
    | some h => exact .home hblank hhome

/-- There is only one folder of the settings of the user. -/
theorem UserRoot.eq {root : Option Path} (h : o.UserRoot root) : root = o.root := by
  cases h with
  | named henv hname => rw [root_of_named henv hname]
  | home hblank hhome => rw [root_of_blank hblank, hhome]; rfl
  | platform hblank hhome => rw [root_of_blank hblank, hhome]; rfl

/-- A file that is chosen is the one that is found. -/
theorem Chosen.settingsText_eq (h : o.Chosen text source) :
    settingsText o.read o.root o.asked = .ok (text, source) := by
  cases h with
  | explicit hasked hread => simp only [settingsText, hasked, hread]
  | «local» hasked hread => simp only [settingsText, hasked, hread]
  | global hasked hlocal hroot hread =>
    rw [userFile] at hread
    simp only [settingsText, hasked, hlocal, ← hroot.eq, Option.map_some, hread, userFile]
  | @defaults cause root hasked hlocal hroot hread =>
    obtain rfl := hroot.eq
    cases hr : o.root with
    | none => simp only [settingsText, hasked, hlocal, Option.map_none]
    | some r =>
      cases hfile : o.read (userFile r) with
      | ok text => exact absurd hfile (hread r hr text)
      | error cause =>
        rw [userFile] at hfile
        simp only [settingsText, hasked, hlocal, Option.map_some, hfile]

/-- **Either a file is chosen**, or the one that was asked for cannot be read. -/
theorem chosen_or_unreadable (o : Origin) :
    (∃ text source, o.Chosen text source) ∨
      ∃ p cause, o.asked = some p ∧ o.read p = .error cause := by
  cases hasked : o.asked with
  | some p =>
    cases hread : o.read p with
    | ok text => exact .inl ⟨text, .explicit p, .explicit hasked hread⟩
    | error cause => exact .inr ⟨p, cause, rfl, hread⟩
  | none =>
    left
    cases hlocal : o.read settingsFile with
    | ok text => exact ⟨text, .local, .local hasked hlocal⟩
    | error cause =>
      by_cases hfile : ∃ r ∈ o.root, ∃ text, o.read (userFile r) = .ok text
      · obtain ⟨r, hr, text, hread⟩ := hfile
        have hroot : o.UserRoot (some r) := hr ▸ o.userRoot_root
        exact ⟨text, .global (userFile r), .global hasked hlocal hroot hread⟩
      · refine ⟨[], .defaults, .defaults hasked hlocal o.userRoot_root fun r hr text hread => ?_⟩
        exact hfile ⟨r, hr, text, hread⟩

end Origin

/-! ### The settings that are made -/

section Settled

variable (env : Text → Option Text) (file : Layer)

/-- What sets the text of the prompt, the highest layer first. -/
def promptLayers : List (Option Text) := [env "CLISH_PROMPT", file.prompt]

/-- What sets whether the prompt has colour: any text in the environment but the empty one takes it
away. -/
def colorLayers : List (Option Bool) :=
  [((env "CLISH_NO_COLOR").filter (· ≠ [])).map fun _ => false, file.color]

/-- What sets whether the variables of the process become variables of the session. -/
def importLayers : List (Option Bool) := [file.importEnv]

/-- What sets which events are logged: any text in the environment but a blank one. -/
def filterLayers : List (Option Text) := [(env "CLISH_LOG").filter (trim · ≠ []), file.filter]

/-- Each of the settings is that of the highest layer that sets it. -/
structure Settled (s : Settings) : Prop where
  /-- The text of the prompt. -/
  prompt : Highest Settings.default.prompt (promptLayers env file) s.prompt
  /-- The prompt has colour. -/
  color : Highest Settings.default.color (colorLayers env file) s.color
  /-- The variables of the process become variables of the session. -/
  importEnv : Highest Settings.default.importEnv (importLayers file) s.importEnv
  /-- Which events are logged. -/
  filter : Highest Settings.default.filter (filterLayers env file) s.filter

/-- What sets something is the same from the top down to the highest layer that does. -/
structure SameSettled (env' : Text → Option Text) (file' : Layer) : Prop where
  /-- The text of the prompt. -/
  prompt : SameHighest (promptLayers env file) (promptLayers env' file')
  /-- The prompt has colour. -/
  color : SameHighest (colorLayers env file) (colorLayers env' file')
  /-- The variables of the process become variables of the session. -/
  importEnv : SameHighest (importLayers file) (importLayers file')
  /-- Which events are logged. -/
  filter : SameHighest (filterLayers env file) (filterLayers env' file')

variable {env file} {env' : Text → Option Text} {file' : Layer} {s : Settings}

theorem SameSettled.settled (h : SameSettled env file env' file') (hs : Settled env file s) :
    Settled env' file' s where
  prompt := h.prompt.highest_iff.mp hs.prompt
  color := h.color.highest_iff.mp hs.color
  importEnv := h.importEnv.highest_iff.mp hs.importEnv
  filter := h.filter.highest_iff.mp hs.filter

theorem filter_trim_ne_nil (value : Option Text) :
    value.filter (trim · ≠ []) = value.filter fun t => !allBlank t := by
  have hsame : (fun t => decide (trim t ≠ [])) = fun t => !allBlank t :=
    funext decide_trim_ne_nil
  rw [hsame]

theorem colorLayers_eq : colorLayers env file = [(Layer.ofEnvironment env).color, file.color] := by
  have hcolor : ((env "CLISH_NO_COLOR").filter (· ≠ [])).map (fun _ => false)
      = (env "CLISH_NO_COLOR").bind fun value => if value = [] then none else some false := by
    cases env "CLISH_NO_COLOR" with
    | none => rfl
    | some value => by_cases hvalue : value = [] <;> simp [hvalue]
  rw [colorLayers, hcolor]
  rfl

theorem filterLayers_eq :
    filterLayers env file = [(Layer.ofEnvironment env).filter, file.filter] := by
  rw [filterLayers, filter_trim_ne_nil]
  rfl

/-- **Which settings are made.** -/
theorem settled_iff : Settled env file s ↔ s = ((Layer.ofEnvironment env).atop file).settle := by
  constructor
  · rintro ⟨hprompt, hcolor, himport, hfilter⟩
    rw [colorLayers_eq] at hcolor
    rw [filterLayers_eq] at hfilter
    obtain ⟨prompt, color, importEnv, filter⟩ := s
    obtain rfl := highest_pair_iff.mp hprompt
    obtain rfl := highest_pair_iff.mp hcolor
    obtain rfl := highest_singleton_iff.mp himport
    obtain rfl := highest_pair_iff.mp hfilter
    rfl
  · rintro rfl
    refine ⟨highest_pair_iff.mpr rfl, ?_, highest_singleton_iff.mpr rfl, ?_⟩
    · rw [colorLayers_eq]
      exact highest_pair_iff.mpr rfl
    · rw [filterLayers_eq]
      exact highest_pair_iff.mpr rfl

/-- Settings are usable unless nothing is left of the filter. -/
theorem isValid_iff : s.isValid = true ↔ trim s.filter ≠ [] := by
  rw [Settings.isValid, ← decide_trim_ne_nil, decide_eq_true_iff]

/-- A filter that is blank once the layers are on top of each other comes from the file. -/
theorem Settled.trim_filter_eq_nil_iff (h : Settled env file s) : trim s.filter = [] ↔
    (env "CLISH_LOG").filter (trim · ≠ []) = none ∧ ∃ f, file.filter = some f ∧ trim f = [] := by
  have hfilter := h.filter
  rw [filterLayers] at hfilter
  cases hlog : (env "CLISH_LOG").filter (trim · ≠ []) with
  | some f =>
    rw [hlog, highest_some_iff] at hfilter
    have hne : trim f ≠ [] := by simpa using (Option.filter_eq_some_iff.mp hlog).2
    simp [hfilter, hne]
  | none =>
    rw [hlog, highest_none_iff] at hfilter
    cases hfile : file.filter with
    | some f =>
      rw [hfile, highest_some_iff] at hfilter
      simp [hfilter]
    | none =>
      rw [hfile, highest_none_iff, highest_nil_iff] at hfilter
      have hdefault : trim Settings.default.filter ≠ [] := by decide
      simp [hfilter, hdefault]

theorem trim_effectiveFilter_ne_nil {configured : Text} (h : trim configured ≠ [])
    (given : Option Text) : trim (effectiveFilter configured given) ≠ [] := by
  rw [effectiveFilter, ← filter_trim_ne_nil]
  cases hgiven : given.filter (trim · ≠ []) with
  | none => exact h
  | some other => simpa using (Option.filter_eq_some_iff.mp hgiven).2

/-- Another filter for the process is one more layer. -/
theorem highest_effectiveFilter (h : Settled env file s) (given : Option Text) :
    Highest Settings.default.filter (given.filter (trim · ≠ []) :: filterLayers env file)
      (effectiveFilter s.filter given) := by
  have hfilter := h.filter
  rw [filter_trim_ne_nil, effectiveFilter]
  cases given.filter fun t => !allBlank t with
  | none => exact .skip hfilter
  | some other => exact .set other (filterLayers env file)

end Settled

/-! ### Loading -/

namespace Origin

variable {o : Origin} {understand : Text → Option Layer} {text : Text} {source : Source}

theorem load_of_unreadable {p : Path} {cause : Cause} (hasked : o.asked = some p)
    (hread : o.read p = .error cause) : o.load understand = .error (.unreadable cause) := by
  simp only [load, loadSettings, settingsText, hasked, hread]
  rfl

theorem Chosen.load_eq (h : o.Chosen text source) :
    o.load understand = match understand text with
      | none => .error .malformed
      | some file =>
          let settings := ((Layer.ofEnvironment o.env).atop file).settle
          if settings.isValid then .ok (settings, source) else .error .blankFilter := by
  have hfound := h.settingsText_eq
  rw [root] at hfound
  rw [load, loadSettings, hfound]
  rfl

theorem load_of_malformed (hchosen : o.Chosen text source) (hnone : understand text = none) :
    o.load understand = .error .malformed := by
  simp only [hchosen.load_eq, hnone]

/-- **What is made of the file that is chosen**, if it is well formed. -/
theorem load_of_chosen {file : Layer} {s : Settings} (hchosen : o.Chosen text source)
    (hfile : understand text = some file) (hs : Settled o.env file s) :
    o.load understand = if trim s.filter = [] then .error .blankFilter else .ok (s, source) := by
  simp only [hchosen.load_eq, hfile, ← settled_iff.mp hs, isValid_iff, ite_not]

/-- How settings are loaded, and what may go wrong. -/
inductive Loads (o : Origin) (understand : Text → Option Layer) :
    Except SettingsError (Settings × Source) → Prop where
  /-- The file that was asked for cannot be read. -/
  | unreadable {p : Path} {cause : Cause} : o.asked = some p → o.read p = .error cause →
      Loads o understand (.error (.unreadable cause))
  /-- The file that is chosen is not well formed. -/
  | malformed {text : Text} {source : Source} : o.Chosen text source → understand text = none →
      Loads o understand (.error .malformed)
  /-- Nothing is left of the filter. -/
  | blankFilter {text : Text} {source : Source} {file : Layer} {s : Settings} :
      o.Chosen text source → understand text = some file → Settled o.env file s →
      trim s.filter = [] → Loads o understand (.error .blankFilter)
  /-- There are settings. -/
  | loaded {text : Text} {source : Source} {file : Layer} {s : Settings} :
      o.Chosen text source → understand text = some file → Settled o.env file s →
      trim s.filter ≠ [] → Loads o understand (.ok (s, source))

theorem loads_load (o : Origin) (understand : Text → Option Layer) :
    o.Loads understand (o.load understand) := by
  rcases o.chosen_or_unreadable with ⟨text, source, hchosen⟩ | ⟨p, cause, hasked, hread⟩
  · cases hfile : understand text with
    | none =>
      rw [load_of_malformed hchosen hfile]
      exact .malformed hchosen hfile
    | some file =>
      have hs : Settled o.env file ((Layer.ofEnvironment o.env).atop file).settle :=
        settled_iff.mpr rfl
      rw [load_of_chosen hchosen hfile hs]
      split
      · next hblank => exact .blankFilter hchosen hfile hs hblank
      · next hfilter => exact .loaded hchosen hfile hs hfilter
  · rw [load_of_unreadable hasked hread]
    exact .unreadable hasked hread

/-- Settings are loaded in one way only. -/
theorem Loads.eq {r : Except SettingsError (Settings × Source)} (h : o.Loads understand r) :
    o.load understand = r := by
  cases h with
  | unreadable hasked hread => exact load_of_unreadable hasked hread
  | malformed hchosen hnone => exact load_of_malformed hchosen hnone
  | blankFilter hchosen hfile hs hblank => rw [load_of_chosen hchosen hfile hs, if_pos hblank]
  | loaded hchosen hfile hs hfilter => rw [load_of_chosen hchosen hfile hs, if_neg hfilter]

theorem loads_iff {r : Except SettingsError (Settings × Source)} :
    o.load understand = r ↔ o.Loads understand r := by
  constructor
  · rintro rfl
    exact o.loads_load understand
  · exact Loads.eq

/-! ### What comes of loading -/

/-- **There are settings** if a file is chosen that is well formed and leaves a filter. -/
theorem load_eq_ok_iff {s : Settings} : o.load understand = .ok (s, source) ↔
    ∃ text file, o.Chosen text source ∧ understand text = some file ∧ Settled o.env file s ∧
      trim s.filter ≠ [] := by
  rw [loads_iff]
  constructor
  · intro h
    cases h with
    | loaded hchosen hfile hs hfilter => exact ⟨_, _, hchosen, hfile, hs, hfilter⟩
  · rintro ⟨text, file, hchosen, hfile, hs, hfilter⟩
    exact .loaded hchosen hfile hs hfilter

theorem load_eq_unreadable_iff {cause : Cause} : o.load understand = .error (.unreadable cause) ↔
    ∃ p, o.asked = some p ∧ o.read p = .error cause := by
  rw [loads_iff]
  constructor
  · intro h
    cases h with
    | unreadable hasked hread => exact ⟨_, hasked, hread⟩
  · rintro ⟨p, hasked, hread⟩
    exact .unreadable hasked hread

theorem load_eq_malformed_iff : o.load understand = .error .malformed ↔
    ∃ text source, o.Chosen text source ∧ understand text = none := by
  rw [loads_iff]
  constructor
  · intro h
    cases h with
    | malformed hchosen hnone => exact ⟨_, _, hchosen, hnone⟩
  · rintro ⟨text, source, hchosen, hnone⟩
    exact .malformed hchosen hnone

theorem load_eq_blankFilter_iff : o.load understand = .error .blankFilter ↔
    ∃ text source file s, o.Chosen text source ∧ understand text = some file ∧
      Settled o.env file s ∧ trim s.filter = [] := by
  rw [loads_iff]
  constructor
  · intro h
    cases h with
    | blankFilter hchosen hfile hs hblank => exact ⟨_, _, _, _, hchosen, hfile, hs, hblank⟩
  · rintro ⟨text, source, file, s, hchosen, hfile, hs, hblank⟩
    exact .blankFilter hchosen hfile hs hblank

/-- **The defaults need no file**, if an empty one sets nothing. -/
theorem load_of_defaults (hempty : understand [] = some .silent) (h : o.Chosen text .defaults) :
    ∃ s, o.load understand = .ok (s, .defaults) ∧ Settled o.env .silent s := by
  have hs : Settled o.env .silent ((Layer.ofEnvironment o.env).atop .silent).settle :=
    settled_iff.mpr rfl
  have hfile : understand text = some .silent := by
    cases h with
    | defaults => exact hempty
  have hfilter : trim (((Layer.ofEnvironment o.env).atop .silent).settle).filter ≠ [] := by
    intro hblank
    obtain ⟨-, f, hf, -⟩ := hs.trim_filter_eq_nil_iff.mp hblank
    cases hf
  exact ⟨_, load_eq_ok_iff.mpr ⟨text, .silent, h, hfile, hs, hfilter⟩, hs⟩

/-! ### What makes no difference -/

section Consulted

variable {read' : Path → Except Cause Text} (hsame : ∀ p, o.Consulted p → read' p = o.read p)
include hsame

theorem Chosen.of_consulted (h : o.Chosen text source) :
    ({ o with read := read' } : Origin).Chosen text source := by
  have huser {root : Option Path} (hroot : o.UserRoot root) :
      ({ o with read := read' } : Origin).UserRoot root := by
    rw [hroot.eq]
    exact userRoot_root { o with read := read' }
  cases h with
  | explicit hasked hread => exact .explicit hasked ((hsame _ (.explicit hasked)).trans hread)
  | «local» hasked hread => exact .local hasked ((hsame _ (.local hasked)).trans hread)
  | global hasked hlocal hroot hread =>
    exact .global hasked ((hsame _ (.local hasked)).trans hlocal) (huser hroot)
      ((hsame _ (.global hasked hlocal hroot)).trans hread)
  | defaults hasked hlocal hroot hread =>
    refine .defaults hasked ((hsame _ (.local hasked)).trans hlocal) (huser hroot) ?_
    rintro r rfl text
    show read' (userFile r) ≠ .ok text
    rw [hsame _ (.global hasked hlocal hroot)]
    exact hread r rfl text

/-- Only the files that are looked at make a difference. -/
theorem load_of_consulted :
    ({ o with read := read' } : Origin).load understand = o.load understand := by
  rcases o.chosen_or_unreadable with ⟨text, source, hchosen⟩ | ⟨p, cause, hasked, hread⟩
  · rw [hchosen.load_eq, (hchosen.of_consulted hsame).load_eq]
  · have hread' : read' p = .error cause := (hsame p (.explicit hasked)).trans hread
    rw [load_of_unreadable hasked hread]
    exact load_of_unreadable (o := { o with read := read' }) hasked hread'

end Consulted

/-- Only what sets the highest value makes a difference. -/
theorem load_of_sameSettled {o' : Origin} {text' : Text} {file file' : Layer}
    (hchosen : o.Chosen text source) (hchosen' : o'.Chosen text' source)
    (hfile : understand text = some file) (hfile' : understand text' = some file')
    (hsame : SameSettled o.env file o'.env file') : o'.load understand = o.load understand := by
  have hs : Settled o.env file ((Layer.ofEnvironment o.env).atop file).settle :=
    settled_iff.mpr rfl
  rw [load_of_chosen hchosen hfile hs, load_of_chosen hchosen' hfile' (hsame.settled hs)]

end Origin

/-! ### Layered settings -/

/-- All that is known of how the settings are found. -/
structure Layered (understand : Text → Option Layer) (o : Origin) : Prop where
  /-- There are settings if a file is chosen that is well formed, each of them is that of the
  highest layer that sets it, and something is left of the filter. -/
  loaded (s : Settings) (source : Source) : o.load understand = .ok (s, source) ↔
    ∃ text file, o.Chosen text source ∧ understand text = some file ∧ Settled o.env file s ∧
      trim s.filter ≠ []
  /-- If no file can be read, the environment and the defaults make the settings. -/
  defaults (text : Text) : o.Chosen text .defaults →
    ∃ s, o.load understand = .ok (s, .defaults) ∧ Settled o.env .silent s
  /-- Only a file that was asked for has to be readable. -/
  unreadable (cause : Cause) : o.load understand = .error (.unreadable cause) ↔
    ∃ p, o.asked = some p ∧ o.read p = .error cause
  /-- A file that is not well formed is not passed over. -/
  malformed : o.load understand = .error .malformed ↔
    ∃ text source, o.Chosen text source ∧ understand text = none
  /-- The filter is refused if nothing is left of it once the layers are on top of each other. -/
  blankFilter : o.load understand = .error .blankFilter ↔
    ∃ text source file s, o.Chosen text source ∧ understand text = some file ∧
      Settled o.env file s ∧ trim s.filter = []
  /-- Files that are not looked at make no difference. -/
  consulted (read' : Path → Except Cause Text) : (∀ p, o.Consulted p → read' p = o.read p) →
    ({ o with read := read' } : Origin).load understand = o.load understand
  /-- What is below the highest layer makes no difference, nor does anything else by which the same
  source is chosen. -/
  lower (o' : Origin) (text text' : Text) (source : Source) (file file' : Layer) :
    o.Chosen text source → o'.Chosen text' source →
    understand text = some file → understand text' = some file' →
    SameSettled o.env file o'.env file' → o'.load understand = o.load understand
  /-- Another filter that is given for the process is one more layer on top. -/
  logged (file : Layer) (s : Settings) (given : Option Text) : Settled o.env file s →
    Highest Settings.default.filter (given.filter (trim · ≠ []) :: filterLayers o.env file)
      (effectiveFilter s.filter given)
  /-- Something is left of the filter of the process, too. -/
  logged_ne_blank (s : Settings) (source : Source) (given : Option Text) :
    o.load understand = .ok (s, source) → trim (effectiveFilter s.filter given) ≠ []

/-- **The settings are layered**, if an empty file sets nothing. -/
theorem layered_loadSettings {understand : Text → Option Layer}
    (hempty : understand [] = some .silent) (o : Origin) : Layered understand o where
  loaded s source := Origin.load_eq_ok_iff
  defaults text := Origin.load_of_defaults hempty
  unreadable cause := Origin.load_eq_unreadable_iff
  malformed := Origin.load_eq_malformed_iff
  blankFilter := Origin.load_eq_blankFilter_iff
  consulted read' := Origin.load_of_consulted
  lower o' text text' source file file' := Origin.load_of_sameSettled
  logged file s given h := highest_effectiveFilter h given
  logged_ne_blank s source given h := by
    obtain ⟨text, file, -, -, -, hfilter⟩ := Origin.load_eq_ok_iff.mp h
    exact trim_effectiveFilter_ne_nil hfilter given

/-- A blank filter in the file of the current folder makes no difference if the environment sets
another one, and nor does what stands in files that are not chosen. -/
theorem layered_of_local :
    let read (file other : Text) (p : Path) : Except Cause Text :=
      if p = settingsFile then .ok file else .ok other
    let o : Origin := {
      read := read "[logging]\nfilter = ' '\n[prompt]\ntext = 'p'\n" "[prompt]\ntext = 'q'\n"
      env := fun name => if name = "CLISH_LOG" then some "debug" else none
      home := some (Path.ofText "/home")
      platform := none
      asked := none }
    let o' : Origin := { o with read := read "[prompt]\ntext = 'p'\n" "[" }
    Layer.ofFile? [] = some .silent ∧ Layered Layer.ofFile? o ∧
      o.load Layer.ofFile? = .ok (⟨"p", true, true, "debug"⟩, .local) ∧
      o'.load Layer.ofFile? = o.load Layer.ofFile? := by
  intro read o o'
  have hempty : Layer.ofFile? [] = some .silent := by decide
  have hlayered : Layered Layer.ofFile? o := layered_loadSettings hempty o
  refine ⟨hempty, hlayered, by decide, ?_⟩
  refine hlayered.lower o' _ _ .local ⟨some "p", none, none, some " "⟩ ⟨some "p", none, none, none⟩
    (.local rfl rfl) (.local rfl rfl) (by decide) (by decide) ?_
  exact ⟨.skip (.set _ _ _), .skip (.skip .unset), .skip .unset, .set _ _ _⟩

end CommandShell
