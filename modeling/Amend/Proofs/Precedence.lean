import Amend.CommandLine.Commands
import Amend.Proofs.Effects
import Amend.Proofs.SettingsFiles
import Mathlib.Data.List.Induction
import Mathlib.Tactic.Lemma
import Mathlib.Tactic.SplitIfs

/-!
# Which source of a setting counts

Settings come from the command line, from the environment and from two files, and what none of them
says has a standard value.

**The rule.**  It is said for one setting at a time, and about values of any kind: of the sources
that say something about the setting, the first one counts (`Settings.selected`).  What each source
says is said here anew: the last entry under the setting's name in a file, a variable of its own in
the environment.  `Closest` is the search for a file, without the loop that makes it.

**Checks.**  `Setting.Valid` says which values will do.  Each check decides it, and its result is
the value it was given (`Checks`); so the settings of a layer are the values of the layer, or one of
these is invalid (`ofLayer_cases`).
-/

namespace Amend

/-- The settings there are. -/
inductive Setting where
  | compilerPath
  | rounds
  | compilerArgs
  | timeout
  deriving DecidableEq, Repr

namespace Setting

/-- The name of the setting in a file. -/
def name : Setting → Text
  | compilerPath => "moc_path"
  | rounds => "max_iterations"
  | compilerArgs => "moc_args"
  | timeout => "timeout"

/-- The variable of the environment for the setting. -/
def variableName : Setting → Text
  | compilerPath => "MOFIX_MOC_PATH"
  | rounds => "MOFIX_MAX_ITERATIONS"
  | compilerArgs => "MOFIX_MOC_ARGS"
  | timeout => "MOFIX_TIMEOUT"

/-- The value of the setting if no source says anything. -/
def standard : Setting → Value
  | compilerPath => .text "moc"
  | rounds => .integer maxRounds
  | compilerArgs => .list []
  | timeout => .null

/-- The values that will do. -/
def Valid : Setting → Value → Prop
  | compilerPath, .text t => t ≠ []
  | rounds, .integer n => 1 ≤ n ∧ n ≤ maxRounds
  | compilerArgs, .list items => ∃ ts : List Text, items = ts.map .text
  | timeout, .null => True
  | timeout, .integer n => 0 < n
  | timeout, .decimal x => ¬ x ≤ 0
  | _, _ => False

lemma name_eq_iff : ∀ {a b : Setting}, a.name = b.name ↔ a = b
  | a, b => by cases a <;> cases b <;> decide

/-- What a variable of the environment means, if it can be read. -/
def read? : Setting → Text → Option Value
  | compilerPath, t => some (.text t)
  | rounds, t => (Integer.read? t).map .integer
  | compilerArgs, t => (ShellWords.split t).toOption.map fun words => .list (words.map .text)
  | timeout, t => (Decimal.read? t).map .decimal

/-- What the environment says about the setting. -/
def inEnvironment? (env : Environment) (setting : Setting) : Option Value :=
  (env.lookup setting.variableName).bind setting.read?

/-- What the entries of a file say about the setting. -/
def inEntries? (entries : Toml.Entries) (setting : Setting) : Option Value :=
  entries.reverse.lookup setting.name

end Setting

/-! ## Layers -/

namespace Layer

/-- What a layer holds for a setting. -/
def value? (layer : Layer) : Setting → Option Value
  | .compilerPath => layer.compilerPath
  | .rounds => layer.rounds
  | .compilerArgs => layer.compilerArgs
  | .timeout => layer.timeout

/-- The layer that holds given values. -/
def ofValues (values : Setting → Option Value) : Layer where
  compilerPath := values .compilerPath
  rounds := values .rounds
  compilerArgs := values .compilerArgs
  timeout := values .timeout

@[simp]
lemma value?_ofValues (values : Setting → Option Value) (setting : Setting) :
    (ofValues values).value? setting = values setting := by
  cases setting <;> rfl

/-- The value of a setting in a layer, or the standard one. -/
def valueOf (layer : Layer) (setting : Setting) : Value :=
  (layer.value? setting).getD setting.standard

lemma value?_set (layer : Layer) (name : Text) (v : Value) (setting : Setting) :
    (layer.set name v).value? setting
      = if name = setting.name then some v else layer.value? setting := by
  -- Names are compared through `name_eq_iff`: their characters are not looked at.
  have hset : layer.set name v
      = if name = Setting.compilerPath.name then { layer with compilerPath := some v }
        else if name = Setting.rounds.name then { layer with rounds := some v }
        else if name = Setting.compilerArgs.name then { layer with compilerArgs := some v }
        else if name = Setting.timeout.name then { layer with timeout := some v }
        else layer := rfl
  rw [hset]
  by_cases hname : ∃ other : Setting, name = other.name
  · obtain ⟨other, rfl⟩ := hname
    cases other <;> cases setting <;> simp [Setting.name_eq_iff, value?]
  · have hnone : ∀ other : Setting, name ≠ other.name := fun other heq => hname ⟨other, heq⟩
    simp [hnone]

/-- **Later entries count, and entries under other names do not.** -/
lemma value?_ofEntries (entries : Toml.Entries) (setting : Setting) :
    (ofEntries entries).value? setting = setting.inEntries? entries := by
  induction entries using List.reverseRecOn with
  | nil => cases setting <;> rfl
  | append_singleton entries e ih =>
      rw [ofEntries, List.foldl_append, ← ofEntries, List.foldl_cons, List.foldl_nil, value?_set,
        ih, Setting.inEntries?, Setting.inEntries?, List.reverse_append, List.reverse_singleton,
        List.singleton_append, List.lookup_cons]
      by_cases hname : e.1 = setting.name
      · simp [hname]
      · have hname' : (setting.name == e.1) = false := beq_eq_false_iff_ne.mpr (Ne.symm hname)
        simp [hname, hname']

lemma value?_dropNulls (layer : Layer) (setting : Setting) :
    layer.dropNulls.value? setting = given (layer.value? setting) := by
  cases setting <;> rfl

lemma value?_onTopOf (upper lower : Layer) (setting : Setting) :
    (upper.onTopOf lower).value? setting = (upper.value? setting <|> lower.value? setting) := by
  cases setting <;> rfl

end Layer

/-! ## Sources -/

namespace Settings

/-- Every variable that is set can be read. -/
def Readable (env : Environment) : Prop :=
  ∀ (setting : Setting) (t : Text), env.lookup setting.variableName = some t →
    (setting.read? t).isSome

lemma fromVariable_eq {env : Environment} (henv : Readable env) (setting : Setting)
    (read : Text → Except SettingsError Value)
    (hread : ∀ t v, setting.read? t = some v → read t = .ok v) :
    fromVariable env setting.variableName read = .ok (setting.inEnvironment? env) := by
  rw [fromVariable, Setting.inEnvironment?]
  cases hvariable : env.lookup setting.variableName with
  | none => rfl
  | some t =>
      obtain ⟨v, hv⟩ := Option.isSome_iff_exists.mp (henv setting t hvariable)
      simp only [hread t v hv, Option.bind_some, hv]
      rfl

lemma ok_bind {ε α β : Type} {x : Except ε α} {a : α} (h : x = .ok a) (f : α → Except ε β) :
    (x >>= f) = f a := by
  rw [h]
  rfl

lemma environmentLayer_eq {env : Environment} (henv : Readable env) :
    environmentLayer env = .ok (.ofValues (Setting.inEnvironment? env)) := by
  have hpath := fromVariable_eq henv .compilerPath (fun t => .ok (.text t))
    fun t v hv => by cases hv; rfl
  have hrounds := fromVariable_eq henv .rounds readRounds fun t v hv => by
    obtain ⟨n, hn, rfl⟩ := Option.map_eq_some_iff.mp hv
    rw [readRounds, hn]
  have hargs := fromVariable_eq henv .compilerArgs readArgs fun t v hv => by
    obtain ⟨words, hwords, rfl⟩ := Option.map_eq_some_iff.mp hv
    cases hsplit : ShellWords.split t with
    | error e => rw [hsplit] at hwords; cases hwords
    | ok ws =>
        rw [hsplit] at hwords
        cases hwords
        simp only [readArgs, hsplit]
  have htimeout := fromVariable_eq henv .timeout readTimeout fun t v hv => by
    obtain ⟨x, hx, rfl⟩ := Option.map_eq_some_iff.mp hv
    rw [readTimeout, hx]
  refine (ok_bind hpath _).trans ?_
  refine (ok_bind hrounds _).trans ?_
  refine (ok_bind hargs _).trans ?_
  exact ok_bind htimeout _

/-- **The closest file of a name**: in the directory itself, or in the nearest directory above it
that has one. -/
def Closest (tree : FileTree) (name : Text) (start : Path) : Option Path → Prop
  | some p => ∃ nearer dir farther, start.collapse.ancestors = nearer ++ dir :: farther ∧
      p = dir.under (.ofText name) ∧ tree.isFile p = .ok true ∧
      ∀ d ∈ nearer, tree.isFile (d.under (.ofText name)) = .ok false
  | none => ∀ d ∈ start.collapse.ancestors, tree.isFile (d.under (.ofText name)) = .ok false

/-- A well-formed file holds these entries; a missing one holds none. -/
def Holds (tree : FileTree) : Option Path → Toml.Entries → Prop
  | none, entries => entries = []
  | some p, entries => ∃ content t, tree.read p = .ok content ∧ content.toText = .ok t ∧
      Toml.parse t = .ok entries

/-- The table under a key; a missing one is empty. -/
def Section (entries : Toml.Entries) (key : Text) (inner : Toml.Entries) : Prop :=
  entries.get? key = some (.table inner) ∨ entries.get? key = none ∧ inner = []

/-- **Well-formed files**: what the closest file of either kind holds for the settings. -/
structure FilesHold (tree : FileTree) (start : Path) (own project : Toml.Entries) : Prop where
  noNull : ¬ start.hasNull
  own_file : ∃ p, Closest tree ownFile start p ∧ Holds tree p own
  project_file : ∃ p entries tool, Closest tree projectFile start p ∧ Holds tree p entries ∧
    Section entries "tool" tool ∧ Section tool "mofix" project

section

variable {tree : FileTree} {start : Path} {name : Text}

lemma firstFile?_of_none : ∀ {paths : List Path}, (∀ p ∈ paths, tree.isFile p = .ok false) →
    ∀ rest, firstFile? tree (paths ++ rest) = firstFile? tree rest
  | [], _, rest => rfl
  | p :: paths, h, rest => by
      rw [List.cons_append, firstFile?, h p List.mem_cons_self]
      exact firstFile?_of_none (fun q hq => h q (List.mem_cons_of_mem p hq)) rest

/-- **The search finds the closest file.** -/
lemma nearest?_of_closest (hstart : ¬ start.hasNull) {found : Option Path}
    (h : Closest tree name start found) : nearest? tree name start = .ok found := by
  rw [nearest?, if_neg hstart]
  cases found with
  | none =>
      have hall : ∀ p ∈ start.collapse.ancestors.map fun dir => dir.under (.ofText name),
          tree.isFile p = .ok false := by
        intro p hp
        obtain ⟨dir, hdir, rfl⟩ := List.mem_map.mp hp
        exact h dir hdir
      have hnone := firstFile?_of_none hall []
      rwa [List.append_nil] at hnone
  | some p =>
      obtain ⟨nearer, dir, farther, hancestors, rfl, hfile, hnearer⟩ := h
      rw [hancestors, List.map_append, List.map_cons, firstFile?_of_none, firstFile?, hfile]
      intro p hp
      obtain ⟨d, hd, rfl⟩ := List.mem_map.mp hp
      exact hnearer d hd

lemma layerOf_of_holds {make : Toml.Entries → Except SettingsError Layer} {found : Option Path}
    {entries : Toml.Entries} (hmake : make [] = .ok .empty) (hstart : ¬ start.hasNull)
    (hclosest : Closest tree name start found) (hholds : Holds tree found entries) :
    layerOf make tree name start = make entries := by
  have hnearest := nearest?_of_closest hstart hclosest
  cases found with
  | none =>
      cases hholds
      rw [layerOf, hnearest, hmake]
      rfl
  | some p =>
      obtain ⟨content, t, hread, htext, hparse⟩ := hholds
      rw [layerOf_of_nearest? hnearest, readToml, hread]
      simp only [htext, hparse]
      rfl

lemma tableAt_eq_ok_iff {entries inner : Toml.Entries} {key : Text} :
    tableAt entries key = .ok inner ↔ Section entries key inner := by
  rw [tableAt, Section]
  split
  · next h => simp [h, eq_comm]
  · next h => simp [h]
  · next v hv h => simpa [h] using hv inner

lemma FilesHold.layers {own project : Toml.Entries} (h : FilesHold tree start own project) :
    ownLayer tree start = .ok (.ofEntries own) ∧
      projectLayer tree start = .ok (.ofEntries project) := by
  obtain ⟨p, hclosest, hholds⟩ := h.own_file
  obtain ⟨p', entries, tool, hclosest', hholds', htool, hsection⟩ := h.project_file
  refine ⟨?_, ?_⟩
  · rw [ownLayer_eq]
    exact layerOf_of_holds rfl h.noNull hclosest hholds
  · rw [projectLayer_eq, layerOf_of_holds rfl h.noNull hclosest' hholds']
    refine (ok_bind (tableAt_eq_ok_iff.mpr htool) _).trans ?_
    exact ok_bind (tableAt_eq_ok_iff.mpr hsection) _

end

/-! ## Checks -/

/-- Settings as values. -/
def value (s : Settings) : Setting → Value
  | .compilerPath => .text s.compilerPath
  | .rounds => .integer s.rounds
  | .compilerArgs => .list (s.compilerArgs.map .text)
  | .timeout =>
    match s.timeout with
    | none => .null
    | some (.whole n) => .integer n
    | some (.fraction x) => .decimal x

/-- A failure for a bad value. -/
def Refused {α : Type} (x : Except SettingsError α) : Prop := ∃ e, x = .error e ∧ e.isBadValue

lemma Refused.bind {α β : Type} {x : Except SettingsError α} (h : Refused x)
    (f : α → Except SettingsError β) : Refused (x >>= f) := by
  obtain ⟨e, rfl, hbad⟩ := h
  exact ⟨e, rfl, hbad⟩

/-- **A check decides which values will do**, and its result is the value that it was given. -/
structure Checks {α : Type} (setting : Setting) (check : Value → Except SettingsError α)
    (back : α → Value) : Prop where
  accepts : ∀ v, setting.Valid v → ∃ a, check v = .ok a ∧ back a = v
  refuses : ∀ v, ¬ setting.Valid v → Refused (check v)

lemma Checks.cases {α : Type} {setting : Setting} {check : Value → Except SettingsError α}
    {back : α → Value} (h : Checks setting check back) (v : Value) :
    (setting.Valid v ∧ ∃ a, check v = .ok a ∧ back a = v) ∨
      (¬ setting.Valid v ∧ Refused (check v)) := by
  by_cases hv : setting.Valid v
  · exact .inl ⟨hv, h.accepts v hv⟩
  · exact .inr ⟨hv, h.refuses v hv⟩

lemma Checks.eq_of_ok {α : Type} {setting : Setting} {check : Value → Except SettingsError α}
    {back : α → Value} (h : Checks setting check back) {v : Value} {a : α}
    (hok : (check v).toOption = some a) : v = back a := by
  rcases h.cases v with ⟨-, a', ha', hback⟩ | ⟨-, e, he, -⟩
  · rw [ha'] at hok
    cases hok
    exact hback.symm
  · rw [he] at hok
    cases hok

lemma Checks.not_valid {α : Type} {setting : Setting} {check : Value → Except SettingsError α}
    {back : α → Value} (h : Checks setting check back) {v : Value}
    (hbad : (check v).toOption.isNone) : ¬ setting.Valid v := by
  intro hv
  obtain ⟨a, ha, -⟩ := h.accepts v hv
  rw [ha] at hbad
  cases hbad

lemma checks_path : Checks .compilerPath checkPath .text where
  accepts := fun v hv => by
    cases v with
    | text t =>
        obtain ⟨c, cs, rfl⟩ := List.exists_cons_of_ne_nil hv
        exact ⟨c :: cs, rfl, rfl⟩
    | _ => exact absurd hv id
  refuses := fun v hv => by
    refine ⟨.badCompilerPath, ?_, rfl⟩
    cases v with
    | text t =>
        cases t with
        | nil => rfl
        | cons c cs => exact absurd (List.cons_ne_nil c cs) hv
    | _ => rfl

lemma checks_rounds : Checks .rounds checkRounds (fun n : Nat => .integer n) where
  accepts := fun v hv => by
    cases v with
    | integer n =>
        obtain ⟨hone, hmax⟩ : 1 ≤ n ∧ n ≤ maxRounds := hv
        refine ⟨n.toNat, ?_, by rw [Int.toNat_of_nonneg (by omega)]⟩
        rw [checkRounds, if_pos (by simp [hone, hmax])]
    | _ => exact absurd hv id
  refuses := fun v hv => by
    cases v with
    | integer n =>
        refine ⟨.roundsOutOfRange, ?_, rfl⟩
        rw [checkRounds, if_neg]
        simpa using fun hone hmax => hv ⟨hone, hmax⟩
    | _ => exact ⟨.roundsNoInteger, rfl, rfl⟩

lemma checks_args :
    Checks .compilerArgs checkArgs (fun ts : List Text => .list (ts.map .text)) where
  accepts := fun v hv => by
    cases v with
    | list items =>
        obtain ⟨ts, rfl⟩ := hv
        refine ⟨ts, ?_, rfl⟩
        rw [checkArgs]
        induction ts with
        | nil => rfl
        | cons t ts ih =>
            rw [List.map_cons, List.mapM_cons, ih]
            rfl
    | _ => exact absurd hv id
  refuses := fun v hv => by
    refine ⟨.badCompilerArgs, ?_, rfl⟩
    cases v with
    | list items =>
        rw [checkArgs]
        induction items with
        | nil => exact absurd ⟨[], rfl⟩ hv
        | cons item items ih =>
            rw [List.mapM_cons]
            by_cases hitem : ∃ t, item = .text t
            · obtain ⟨t, rfl⟩ := hitem
              rw [ih]
              · rfl
              · rintro ⟨ts, rfl⟩
                exact hv ⟨t :: ts, rfl⟩
            · cases item with
              | text t => exact absurd ⟨t, rfl⟩ hitem
              | _ => rfl
    | _ => rfl

lemma checks_timeout : Checks .timeout checkTimeout fun limit : Option Seconds =>
    value { timeout := limit } .timeout where
  accepts := fun v hv => by
    cases v with
    | null => exact ⟨none, rfl, rfl⟩
    | integer n =>
        refine ⟨some (.whole n), ?_, rfl⟩
        have hpositive : (Seconds.whole n).isPositive := decide_eq_true (p := 0 < n) hv
        rw [checkTimeout, positive, if_pos hpositive]
    | decimal x =>
        refine ⟨some (.fraction x), ?_, rfl⟩
        have hpositive : (Seconds.fraction x).isPositive := by
          rw [Seconds.isPositive, decide_eq_false hv, Bool.not_false]
        rw [checkTimeout, positive, if_pos hpositive]
    | _ => exact absurd hv id
  refuses := fun v hv => by
    cases v with
    | null => exact absurd True.intro hv
    | integer n =>
        refine ⟨.timeoutNotPositive, ?_, rfl⟩
        have hpositive : ¬ (Seconds.whole n).isPositive :=
          fun h => hv (of_decide_eq_true (p := 0 < n) h)
        rw [checkTimeout, positive, if_neg hpositive]
    | decimal x =>
        refine ⟨.timeoutNotPositive, ?_, rfl⟩
        have hpositive : ¬ (Seconds.fraction x).isPositive := by
          rw [Seconds.isPositive, decide_eq_true (Decidable.not_not.mp hv), Bool.not_true]
          exact Bool.false_ne_true
        rw [checkTimeout, positive, if_neg hpositive]
    | _ => exact ⟨.timeoutNoNumber, rfl, rfl⟩

lemma pick_eq {α : Type} {check : Value → Except SettingsError α} {standard : α} {v : Value}
    (h : check v = .ok standard) (given : Option Value) :
    pick check standard given = check (given.getD v) := by
  cases given with
  | none => exact h.symm
  | some v => rfl

lemma ofLayer_eq (layer : Layer) : ofLayer layer =
    checkPath (layer.valueOf .compilerPath) >>= fun compilerPath =>
      checkRounds (layer.valueOf .rounds) >>= fun rounds =>
        checkArgs (layer.valueOf .compilerArgs) >>= fun compilerArgs =>
          checkTimeout (layer.valueOf .timeout) >>= fun timeout =>
            .ok { compilerPath, rounds, compilerArgs, timeout } := by
  have hpath : checkPath Setting.compilerPath.standard = .ok standard.compilerPath := rfl
  have hrounds : checkRounds Setting.rounds.standard = .ok standard.rounds := rfl
  have hargs : checkArgs Setting.compilerArgs.standard = .ok standard.compilerArgs := rfl
  have htimeout : checkTimeout Setting.timeout.standard = .ok standard.timeout := rfl
  rw [ofLayer, pick_eq hpath, pick_eq hrounds, pick_eq hargs, pick_eq htimeout]
  rfl

/-- **The settings of a layer** have its values, or one of these will not do. -/
lemma ofLayer_cases (layer : Layer) :
    ((∀ setting : Setting, setting.Valid (layer.valueOf setting)) ∧
      ∃ settings, ofLayer layer = .ok settings ∧
        ∀ setting, settings.value setting = layer.valueOf setting) ∨
    ((∃ setting : Setting, ¬ setting.Valid (layer.valueOf setting)) ∧
      Refused (ofLayer layer)) := by
  rw [ofLayer_eq]
  rcases checks_path.cases (layer.valueOf .compilerPath) with
    ⟨hpath, path, hok, hpath'⟩ | ⟨h, hbad⟩
  swap
  · exact .inr ⟨⟨_, h⟩, hbad.bind _⟩
  rw [ok_bind hok]
  rcases checks_rounds.cases (layer.valueOf .rounds) with
    ⟨hrounds, rounds, hok, hrounds'⟩ | ⟨h, hbad⟩
  swap
  · exact .inr ⟨⟨_, h⟩, hbad.bind _⟩
  rw [ok_bind hok]
  rcases checks_args.cases (layer.valueOf .compilerArgs) with
    ⟨hargs, args, hok, hargs'⟩ | ⟨h, hbad⟩
  swap
  · exact .inr ⟨⟨_, h⟩, hbad.bind _⟩
  rw [ok_bind hok]
  rcases checks_timeout.cases (layer.valueOf .timeout) with
    ⟨hlimit, limit, hok, hlimit'⟩ | ⟨h, hbad⟩
  swap
  · exact .inr ⟨⟨_, h⟩, hbad.bind _⟩
  rw [ok_bind hok]
  refine .inl ⟨fun setting => ?_, ⟨path, rounds, args, limit⟩, rfl, fun setting => ?_⟩
  · cases setting with
    | compilerPath => exact hpath
    | rounds => exact hrounds
    | compilerArgs => exact hargs
    | timeout => exact hlimit
  · cases setting with
    | compilerPath => exact hpath'
    | rounds => exact hrounds'
    | compilerArgs => exact hargs'
    | timeout => exact hlimit'

/-! ## The rule -/

/-- **The value that counts**: that of the first source that says something about the setting. -/
def selected (asked : Layer) (env : Environment) (own project : Toml.Entries)
    (setting : Setting) : Value :=
  ([Layer.given (asked.value? setting), setting.inEnvironment? env, setting.inEntries? own,
    setting.inEntries? project].findSome? id).getD setting.standard

/-- The entries that are settings. -/
def known (entries : Toml.Entries) : Toml.Entries :=
  entries.filter fun e => Layer.names.contains e.1

section

variable {tree : FileTree} {start : Path} {env : Environment} {own project : Toml.Entries}

/-- The layers lie on top of each other in the order of the rule. -/
lemma load_eq (hfiles : FilesHold tree start own project) (henv : Readable env) (asked : Layer) :
    ∃ layer, load tree start env asked = ofLayer layer ∧
      ∀ setting, layer.valueOf setting = selected asked env own project setting := by
  obtain ⟨hown, hproject⟩ := hfiles.layers
  refine ⟨asked.dropNulls.onTopOf ((Layer.ofValues (Setting.inEnvironment? env)).onTopOf
    ((Layer.ofEntries own).onTopOf (.ofEntries project))), ?_, fun setting => ?_⟩
  · refine (ok_bind hproject _).trans ?_
    refine (ok_bind hown _).trans ?_
    exact ok_bind (environmentLayer_eq henv) _
  · simp only [Layer.valueOf, selected, Layer.value?_onTopOf, Layer.value?_dropNulls,
      Layer.value?_ofValues, Layer.value?_ofEntries]
    cases Layer.given (asked.value? setting) <;> cases setting.inEnvironment? env <;>
      cases setting.inEntries? own <;> cases setting.inEntries? project <;> rfl

lemma lookup_filter {p : Text × Value → Bool} {key : Text} (h : ∀ e, e.1 = key → p e) :
    ∀ entries : Toml.Entries, (entries.filter p).lookup key = entries.lookup key
  | [] => rfl
  | e :: entries => by
      have ih := lookup_filter h entries
      by_cases hkey : e.1 = key
      · rw [List.filter_cons_of_pos (h e hkey), List.lookup_cons, List.lookup_cons, ih]
      · have hkey' : (key == e.1) = false := beq_eq_false_iff_ne.mpr (Ne.symm hkey)
        rw [List.filter_cons, List.lookup_cons, hkey']
        split
        · rw [List.lookup_cons, hkey', ih]
        · exact ih

/-- Entries under other names do not matter. -/
lemma selected_known (asked : Layer) :
    selected asked env (known own) (known project) = selected asked env own project := by
  have hknown : ∀ (setting : Setting) (entries : Toml.Entries),
      setting.inEntries? (known entries) = setting.inEntries? entries := by
    intro setting entries
    have hname : Layer.names.contains setting.name := by cases setting <;> decide
    rw [Setting.inEntries?, Setting.inEntries?, known, ← List.filter_reverse]
    exact lookup_filter (fun e he => he ▸ hname) _
  funext setting
  simp only [selected, hknown]

end

end Settings

namespace CommandLine

open Settings

section

variable (bench : Workbench) (site : Site) {asked : Layer} {moreArgs : List Text}

lemma requireSettings_of_ok {settings : Settings}
    (h : loadWithArgs bench.tree site.directory site.environment asked moreArgs = .ok settings) :
    (requireSettings site asked moreArgs).on bench = (.ok (some settings), bench) := by
  rw [requireSettings, Run.on_bind_ok (Run.on_get bench)]
  dsimp only
  rw [h]
  rfl

/-- A bad value is announced, and nothing else happens. -/
lemma requireSettings_of_refused
    (h : Refused (loadWithArgs bench.tree site.directory site.environment asked moreArgs)) :
    ∃ message, (requireSettings site asked moreArgs).on bench
      = (.ok none, { bench with transcript := bench.transcript ++ [.err message] }) := by
  obtain ⟨e, he, hbad⟩ := h
  refine ⟨"Error: " ++ Console.plain ("Invalid configuration: " ++ e.message) ++ "\n", ?_⟩
  rw [requireSettings, Run.on_bind_ok (Run.on_get bench)]
  dsimp only
  rw [he]
  dsimp only
  rw [if_pos hbad]
  rfl

end

/-- **Which settings there are.**  Of each setting the first source that says something counts; only
the arguments of the command line are put behind those of the other sources.  If all values that
count will do, they are the settings.  Otherwise there are none, and the command ends with exit code
one.  Values that do not count are never looked at, and neither are entries under other names. -/
theorem requireSettings_precedence (bench : Workbench) (start : Path) (env : Environment)
    (own project : Toml.Entries) (hfiles : FilesHold bench.tree start own project)
    (henv : Readable env) (path rounds timeout : Option Value) (moreArgs : List Text) :
    let asked : Layer := { compilerPath := path, rounds, timeout }
    let value := selected asked env own project
    let require := requireSettings ⟨start, env⟩ asked moreArgs
    ((∀ setting : Setting, setting.Valid (value setting)) → ∃ settings base,
        require.on bench = (.ok (some settings), bench) ∧
        (∀ setting ≠ .compilerArgs, settings.value setting = value setting) ∧
        value .compilerArgs = .list (base.map .text) ∧ settings.compilerArgs = base ++ moreArgs ∧
        settings.compilerPath ≠ [] ∧ 1 ≤ settings.rounds ∧ settings.rounds ≤ maxRounds) ∧
      ((∃ setting : Setting, ¬ setting.Valid (value setting)) → ∃ message,
        let after := { bench with transcript := bench.transcript ++ [.err message] }
        require.on bench = (.ok none, after) ∧ ∀ use : Settings → Run Nat,
          (require >>= fun found => found.elim (pure userError) use).on bench = (.ok 1, after)) ∧
      selected asked env (known own) (known project) = value := by
  intro asked value require
  obtain ⟨layer, hload, hvalue⟩ := load_eq hfiles henv asked
  have hcases := ofLayer_cases layer
  simp only [hvalue] at hcases
  refine ⟨fun hvalid => ?_, fun ⟨setting, hinvalid⟩ => ?_, selected_known asked⟩
  · obtain ⟨-, settings, hok, hsettings⟩ :=
      hcases.resolve_right fun ⟨⟨setting, h⟩, _⟩ => h (hvalid setting)
    have hloaded : loadWithArgs bench.tree start env asked moreArgs
        = .ok { settings with compilerArgs := settings.compilerArgs ++ moreArgs } := by
      rw [loadWithArgs, hload, hok]
      rfl
    have hpath : settings.compilerPath ≠ [] := by
      have hpath := hvalid .compilerPath
      simp only [value, ← hsettings] at hpath
      exact hpath
    have hrounds : (1 : Int) ≤ settings.rounds ∧ (settings.rounds : Int) ≤ maxRounds := by
      have hrounds := hvalid .rounds
      simp only [value, ← hsettings] at hrounds
      exact hrounds
    refine ⟨_, settings.compilerArgs, requireSettings_of_ok bench ⟨start, env⟩ hloaded,
      fun setting hne => ?_, (hsettings .compilerArgs).symm, rfl, hpath,
      Int.ofNat_le.mp hrounds.1, Int.ofNat_le.mp hrounds.2⟩
    refine Eq.trans ?_ (hsettings setting)
    cases setting with
    | compilerArgs => exact absurd rfl hne
    | _ => rfl
  · have hrefused := (hcases.resolve_left fun ⟨h, _⟩ => hinvalid (h setting)).2
    have hloaded : Refused (loadWithArgs bench.tree start env asked moreArgs) := by
      obtain ⟨e, he, hbad⟩ := hrefused
      refine ⟨e, ?_, hbad⟩
      rw [loadWithArgs, hload, he]
      rfl
    obtain ⟨message, hon⟩ := requireSettings_of_refused bench ⟨start, env⟩ hloaded
    refine ⟨message, hon, fun use => ?_⟩
    rw [Run.on_bind_ok hon]
    rfl

/-- The settings of a directory. -/
def layeredOwn : Text := "max_iterations = 4\ntimeout = -1"

/-- What stands above it: a number of rounds that will not do, and an entry that is no setting. -/
def layeredProject : Text :=
  "[tool.mofix]\nmoc_path = \"/moc\"\nmax_iterations = 99\ncolor = 1"

/-- Two files of settings, one above the other. -/
def layeredBench : Workbench where
  tree := ⟨.ofList [(["pyproject.toml"], .file (.text layeredProject)), (["work"], .directory),
    (["work", ".mofixrc"], .file (.text layeredOwn)), (["work", "src"], .directory)]⟩

/-- A directory below both files. -/
def layeredSite : Site := ⟨.ofText "/work/src", [("MOFIX_MOC_ARGS", "-v 'a b'")]⟩

/-- What a file holds, if it is well-formed. -/
def entriesOf (t : Text) : Toml.Entries := (Toml.parse t).toOption.getD []

/-- A table inside another one, if it is there. -/
def sectionOf (entries : Toml.Entries) (key : Text) : Toml.Entries :=
  (tableAt entries key).toOption.getD []

lemma eq_ok_of_isOk {ε α : Type} {x : Except ε α} (a : α) (h : x.isOk) :
    x = .ok (x.toOption.getD a) := by
  cases x with
  | error e => cases h
  | ok b => rfl

lemma layered_files : ∃ own project,
    FilesHold layeredBench.tree layeredSite.directory own project ∧
      (let value := selected { timeout := some (.integer 30) } layeredSite.environment own project
       value .compilerPath = .text "/moc" ∧ value .rounds = .integer (4 : Nat) ∧
        value .compilerArgs = .list (["-v", "a b"].map .text)) ∧
      ¬ Setting.timeout.Valid (selected .empty layeredSite.environment own project .timeout) := by
  refine ⟨entriesOf layeredOwn, sectionOf (sectionOf (entriesOf layeredProject) "tool") "mofix",
    ⟨by decide +kernel, ?_, ?_⟩, ⟨?_, ?_, ?_⟩, ?_⟩
  · refine ⟨some (.ofText "/work/.mofixrc"), ?_, .text layeredOwn, layeredOwn, ?_, rfl, ?_⟩
    · exact ⟨[.ofText "/work/src"], .ofText "/work", [.ofText "/"], by decide +kernel,
        by decide +kernel, by decide +kernel, by decide +kernel⟩
    · decide +kernel
    · exact eq_ok_of_isOk [] (by decide +kernel)
  · refine ⟨some (.ofText "/pyproject.toml"), entriesOf layeredProject,
      sectionOf (entriesOf layeredProject) "tool", ?_,
      ⟨.text layeredProject, layeredProject, ?_, rfl, ?_⟩, ?_, ?_⟩
    · exact ⟨[.ofText "/work/src", .ofText "/work"], .ofText "/", [], by decide +kernel,
        by decide +kernel, by decide +kernel, by decide +kernel⟩
    · decide +kernel
    · exact eq_ok_of_isOk [] (by decide +kernel)
    · exact tableAt_eq_ok_iff.mp (eq_ok_of_isOk [] (by decide +kernel))
    · exact tableAt_eq_ok_iff.mp (eq_ok_of_isOk [] (by decide +kernel))
  · exact checks_path.eq_of_ok (by decide +kernel)
  · exact checks_rounds.eq_of_ok (by decide +kernel)
  · exact checks_args.eq_of_ok (by decide +kernel)
  · exact checks_timeout.not_valid (by decide +kernel)

lemma layered_environment : Readable layeredSite.environment := by
  intro setting t ht
  have hall : (layeredSite.environment.lookup setting.variableName).all fun t =>
      (setting.read? t).isSome := by
    cases setting <;> decide +kernel
  rw [ht] at hall
  exact hall

/-- Each setting comes from another source.  The values that are hidden would not do: without a time
on the command line one of them counts. -/
theorem requireSettings_precedence_layered :
    (requireSettings layeredSite { timeout := some (.integer 30) } ["--last"]).on layeredBench
        = (.ok (some ⟨"/moc", 4, ["-v", "a b", "--last"], some (.whole 30)⟩), layeredBench) ∧
      ∃ message, (requireSettings layeredSite .empty []).on layeredBench
        = (.ok none, { layeredBench with transcript := [.err message] }) := by
  obtain ⟨own, project, hfiles, ⟨hpath, hrounds, hargs⟩, hinvalid⟩ := layered_files
  refine ⟨?_, ?_⟩
  · have hvalid : ∀ setting : Setting, setting.Valid (selected { timeout := some (.integer 30) }
        layeredSite.environment own project setting) := by
      intro setting
      cases setting with
      | compilerPath =>
          rw [hpath]
          exact List.cons_ne_nil _ _
      | rounds =>
          rw [hrounds]
          exact ⟨by decide, by decide⟩
      | compilerArgs =>
          rw [hargs]
          exact ⟨_, rfl⟩
      | timeout => exact (by decide : (0 : Int) < 30)
    obtain ⟨⟨path, rounds, args, limit⟩, base, hon, hvalue, hbase, rfl, -⟩ :=
      (requireSettings_precedence layeredBench layeredSite.directory layeredSite.environment own
        project hfiles layered_environment none none (some (.integer 30)) ["--last"]).1 hvalid
    have hpath' : path = "/moc" :=
      Value.text.inj ((hvalue .compilerPath (by decide)).trans hpath)
    have hrounds' : rounds = 4 :=
      Int.ofNat.inj (Value.integer.inj ((hvalue .rounds (by decide)).trans hrounds))
    have htimeout : limit = some (.whole 30) := by
      have htimeout := hvalue .timeout (by decide)
      cases limit with
      | none => cases htimeout
      | some limit =>
          cases limit with
          | whole n => rw [Value.integer.inj htimeout]
          | fraction x => cases htimeout
    have hbase' : base = ["-v", "a b"] :=
      List.map_injective_iff.mpr (fun _ _ => Value.text.inj)
        (Value.list.inj (hbase.symm.trans hargs))
    rw [hpath', hrounds', htimeout, hbase'] at hon
    exact hon
  · obtain ⟨message, hon, -⟩ := (requireSettings_precedence layeredBench layeredSite.directory
      layeredSite.environment own project hfiles layered_environment none none none []).2.1
      ⟨_, hinvalid⟩
    exact ⟨message, hon⟩

end CommandLine

end Amend
