import FaultDrill.Config.Load
import FaultDrill.Proofs.Config.Environment
import FaultDrill.Proofs.Outcome
import Mathlib.Control.Monad.Basic

/-!
# FaultDrill.Proofs.Config.Precedence

Which value a setting has when it stands in the file and in the environment. Each variable belongs to
a field of its own (`independent_overrides`), so it makes no difference in which order the variables
are looked at: the field of a variable that is heard is as the variable says, whatever the file says
(`withEnvironment_set_of_hears`), and any other field is as the file says
(`withEnvironment_set_of_not_hears`). A configuration is loaded just if it is valid twice: as it
stands in the file, and with the environment.
-/

namespace FaultDrill.Config

variable {env : Environment}

namespace Override

/-! ### One variable -/

/-- A text is taken over by a variable: what its field was before makes no difference. -/
def Takes (o : Override) (text : String) : Prop :=
  ∀ before c, o.set text (o.set before c) = o.set text c

/-- A text says nothing to a variable. -/
def Skips (o : Override) (text : String) : Prop :=
  ∀ c, o.set text c = c

/-- The environment has a text for a variable, and it is taken over. -/
def Hears (o : Override) (env : Environment) : Prop :=
  ∃ text, env.get? o.name = some text ∧ o.Takes text

/-- Two variables belong to different fields. -/
def Independent (o o' : Override) : Prop :=
  ∀ text text' c, o.set text (o'.set text' c) = o'.set text' (o.set text c)

variable {o o' : Override}

theorem Independent.symm (h : o.Independent o') : o'.Independent o :=
  fun text text' c => (h text' text c).symm

theorem Independent.apply (h : o.Independent o') (value : String) (c : Config) :
    o'.apply env (o.set value c) = o.set value (o'.apply env c) := by
  unfold Override.apply
  split
  · exact (h value _ c).symm
  · rfl

theorem apply_set_of_hears (h : o.Hears env) (value : String) (c : Config) :
    o.apply env (o.set value c) = o.apply env c := by
  obtain ⟨text, htext, htakes⟩ := h
  unfold Override.apply
  rw [htext]
  exact htakes value c

theorem apply_of_not_hears (hlawful : ∀ text, o.Takes text ∨ o.Skips text) (h : ¬ o.Hears env)
    (c : Config) : o.apply env c = c := by
  unfold Override.apply
  split
  next text htext =>
    have hskips := (hlawful text).resolve_left fun htakes => h ⟨text, htext, htakes⟩
    exact hskips c
  next => rfl

/-- A variable of a slot takes what its kind reads, and skips the rest. -/
theorem Sets.takes_or_skips {s : Slot} (h : o.Sets s) (text : String) :
    o.Takes text ∨ o.Skips text := by
  cases hread : s.kind.read? text with
  | none =>
      refine .inr fun c => eq_of_settings ?_
      rw [h, hread, Setting.put_none, List.map_id]
  | some v =>
      refine .inl fun before c => eq_of_settings ?_
      rw [h, h, h, hread, List.map_map]
      exact List.map_congr_left fun x _ => Setting.put_put s.place v _ x

/-- Variables of different places are independent. -/
theorem Sets.independent {s s' : Slot} (h : o.Sets s) (h' : o'.Sets s')
    (hne : s.place ≠ s'.place) : o.Independent o' := by
  intro text text' c
  refine eq_of_settings ?_
  rw [h, h', h', h, List.map_map, List.map_map]
  exact List.map_congr_left fun x _ => Setting.put_comm hne _ _ x

end Override

/-! ### All variables -/

theorem takes_or_skips : ∀ o ∈ overrides, ∀ text, o.Takes text ∨ o.Skips text := by
  intro o ho text
  obtain ⟨s, -, hsets⟩ := exists_slot sets_overrides ho
  exact hsets.takes_or_skips text

theorem pairwise_independent {os : List Override} {ss : List Slot}
    (hsets : List.Forall₂ Override.Sets os ss) (hnodup : (ss.map (·.place)).Nodup) :
    os.Pairwise Override.Independent := by
  induction hsets with
  | nil => exact .nil
  | @cons o s os ss hset hsets ih =>
      rw [List.map_cons, List.nodup_cons] at hnodup
      refine List.pairwise_cons.2 ⟨fun o' ho' => ?_, ih hnodup.2⟩
      obtain ⟨s', hs', hset'⟩ := exists_slot hsets ho'
      exact hset.independent hset' fun heq => hnodup.1 (List.mem_map.2 ⟨s', hs', heq.symm⟩)

/-- No two variables belong to one field. -/
theorem independent_overrides : overrides.Pairwise Override.Independent :=
  pairwise_independent sets_overrides nodup_slots

/-- What some variables do to a configuration, one after the other. -/
abbrev applyAll (env : Environment) (os : List Override) (c : Config) : Config :=
  os.foldl (fun c o => o.apply env c) c

theorem applyAll_set {o : Override} {os : List Override} (h : ∀ o' ∈ os, o.Independent o')
    (value : String) (c : Config) :
    applyAll env os (o.set value c) = o.set value (applyAll env os c) := by
  induction os generalizing c with
  | nil => rfl
  | cons o' os ih =>
      have hrest : ∀ o' ∈ os, o.Independent o' := fun o' ho' => h o' (List.mem_cons_of_mem _ ho')
      calc applyAll env (o' :: os) (o.set value c)
          = applyAll env os (o'.apply env (o.set value c)) := rfl
        _ = applyAll env os (o.set value (o'.apply env c)) := by
          rw [(h o' List.mem_cons_self).apply]
        _ = o.set value (applyAll env (o' :: os) c) := ih hrest _

/-- A variable among the others: they neither change its field nor depend on it. -/
theorem withEnvironment_split (env : Environment) {o : Override} (ho : o ∈ overrides) :
    ∃ before after, (∀ o' ∈ before, o.Independent o') ∧ (∀ o' ∈ after, o.Independent o') ∧
      ∀ c, withEnvironment env c =
        applyAll env after (o.apply env (applyAll env before c)) := by
  obtain ⟨before, after, hsplit⟩ := List.append_of_mem ho
  have hpairwise := independent_overrides
  rw [hsplit, List.pairwise_append, List.pairwise_cons] at hpairwise
  refine ⟨before, after, fun o' ho' => ?_, hpairwise.2.1.1, fun c => ?_⟩
  · exact (hpairwise.2.2 o' ho' o List.mem_cons_self).symm
  · rw [withEnvironment, hsplit, List.foldl_append, List.foldl_cons]

/-- What the file says about a field makes no difference if its variable is heard. -/
theorem withEnvironment_set_of_hears {o : Override} (ho : o ∈ overrides) (h : o.Hears env)
    (value : String) (c : Config) :
    withEnvironment env (o.set value c) = withEnvironment env c := by
  obtain ⟨before, after, hbefore, -, heq⟩ := withEnvironment_split env ho
  -- the value is carried up to its own variable, which takes the field over
  rw [heq, heq, applyAll_set hbefore, Override.apply_set_of_hears h]

/-- What the file says about a field stays if its variable is not heard. -/
theorem withEnvironment_set_of_not_hears {o : Override} (ho : o ∈ overrides) (h : ¬ o.Hears env)
    (value : String) (c : Config) :
    withEnvironment env (o.set value c) = o.set value (withEnvironment env c) := by
  obtain ⟨before, after, hbefore, hafter, heq⟩ := withEnvironment_split env ho
  have hskip := Override.apply_of_not_hears (takes_or_skips o ho) h
  -- the value is carried past all variables, its own among them
  rw [heq, heq, applyAll_set hbefore, hskip, hskip, applyAll_set hafter]

/-- A field whose variable has a text is as that text says, if it says something. -/
theorem set_withEnvironment {o : Override} (ho : o ∈ overrides) {text : String}
    (htext : env.get? o.name = some text) (c : Config) :
    o.set text (withEnvironment env c) = withEnvironment env c := by
  obtain ⟨before, after, -, hafter, heq⟩ := withEnvironment_split env ho
  have htwice : ∀ c, o.set text (o.set text c) = o.set text c := by
    intro c
    rcases takes_or_skips o ho text with htakes | hskips
    · exact htakes text c
    · exact hskips _
  have happly : ∀ c, o.apply env c = o.set text c := fun c => by
    unfold Override.apply
    rw [htext]
  rw [heq, happly, ← applyAll_set hafter, htwice]

/-! ### Loading -/

variable {files : FileTree} {path text : String}

theorem fromFile_of_readText (hread : files.readText path = .ok text) :
    fromFile files path = do
      let c ← (parse text).mapError LoadError.config
      (validate c).mapError LoadError.config
      return c := by
  unfold fromFile
  rw [hread]
  rfl

theorem overridden_eq_ok {c c' : Config} : overridden env c = .ok c' ↔
    (c.withEnvironment env).validate = .ok () ∧ c' = c.withEnvironment env := by
  unfold overridden
  dsimp only
  rw [Outcome.bind_eq_ok]
  constructor
  · rintro ⟨⟨⟩, hvalid, heq⟩
    exact ⟨Outcome.mapError_eq_ok.mp hvalid, (Except.ok.inj heq).symm⟩
  · rintro ⟨hvalid, rfl⟩
    exact ⟨(), Outcome.mapError_eq_ok.mpr hvalid, rfl⟩

/-- What is loaded has been valid twice: in the file, and with the environment. -/
theorem load_eq_ok (hread : files.readText path = .ok text) {c' : Config} :
    load files env path = .ok c' ↔ ∃ c, parse text = .ok c ∧ c.validate = .ok () ∧
      (c.withEnvironment env).validate = .ok () ∧ c' = c.withEnvironment env := by
  unfold load
  rw [fromFile_of_readText hread, Outcome.bind_eq_ok]
  constructor
  · rintro ⟨c, hfile, hload⟩
    obtain ⟨c₀, hparse, hrest⟩ := Outcome.bind_eq_ok.mp hfile
    obtain ⟨⟨⟩, hvalid, heq⟩ := Outcome.bind_eq_ok.mp hrest
    obtain rfl := Except.ok.inj heq
    exact ⟨c₀, Outcome.mapError_eq_ok.mp hparse, Outcome.mapError_eq_ok.mp hvalid,
      overridden_eq_ok.mp hload⟩
  · rintro ⟨c, hparse, hvalid, hload⟩
    refine ⟨c, ?_, overridden_eq_ok.mpr hload⟩
    rw [hparse, Outcome.bind_eq_ok]
    refine ⟨c, rfl, ?_⟩
    rw [hvalid]
    rfl

/-- What the file must not say is refused before the environment is looked at. -/
theorem load_of_validate (hread : files.readText path = .ok text) {c : Config}
    {cause : ConfigError} (hparse : parse text = .ok c) (hcause : c.validate = .error cause)
    (env : Environment) : load files env path = .error (.config cause) := by
  unfold load
  rw [fromFile_of_readText hread, hparse]
  change (do let c ← (do (validate c).mapError LoadError.config; pure c); overridden env c) = _
  rw [hcause]
  rfl

/-- **A configuration is loaded just if it is valid in the file and with the environment.** What is
loaded is then the configuration of the file with the environment. In it, the field of a variable
with a text is as the text says, and what the file says about the field of a variable makes a
difference just if the variable is not heard. But a value that the file must not have is refused,
whatever the environment puts in its place. -/
theorem load_precedence (hread : files.readText path = .ok text) (env : Environment) :
    (∀ c', load files env path = .ok c' ↔ ∃ c, parse text = .ok c ∧ c.validate = .ok () ∧
      (c.withEnvironment env).validate = .ok () ∧ c' = c.withEnvironment env) ∧
    (∀ c cause, parse text = .ok c → c.validate = .error cause →
      load files env path = .error (.config cause)) ∧
    ∀ o ∈ overrides,
      (∀ said, env.get? o.name = some said → ∀ c : Config,
        o.set said (c.withEnvironment env) = c.withEnvironment env) ∧
      (o.Hears env → ∀ value (c : Config),
        (o.set value c).withEnvironment env = c.withEnvironment env) ∧
      (¬ o.Hears env → ∀ value (c : Config),
        (o.set value c).withEnvironment env = o.set value (c.withEnvironment env)) :=
  ⟨fun _ => load_eq_ok hread, fun _ _ hparse hcause => load_of_validate hread hparse hcause env,
    fun _ ho => ⟨fun _ => set_withEnvironment ho, withEnvironment_set_of_hears ho,
      withEnvironment_set_of_not_hears ho⟩⟩

/-- A file with a level of the log. -/
def debugText : String :=
  "[general]\nlog_level = \"debug\"\n"

/-- The working directory with that file. -/
def debugFiles : FileTree :=
  FileTree.empty.put ["work", "drill.toml"] (Text.Utf8.encode debugText)

/-- An environment with another level of the log. -/
def warnings : Environment :=
  .ofList [("FAULTLINE_GENERAL_LOG_LEVEL", "warn")]

/-- The level of the environment is the one that is loaded. -/
theorem load_precedence_level :
    debugFiles.readText "drill.toml" = .ok debugText ∧
    load debugFiles warnings "drill.toml" = .ok { general.logLevel := "warn" } := by
  have hread : debugFiles.readText "drill.toml" = .ok debugText := by decide +kernel
  have hload := (load_precedence hread warnings).1
  exact ⟨hread, (hload _).mpr
    ⟨{ general.logLevel := "debug" }, by decide +kernel, by decide +kernel, by decide +kernel,
      by decide +kernel⟩⟩

/-- A file in which trials have no time, which its own validation refuses. -/
def timelessText : String :=
  "[trial]\ntrial_timeout_secs = 0\n"

/-- The working directory with that file. -/
def timelessFiles : FileTree :=
  FileTree.empty.put ["work", "drill.toml"] (Text.Utf8.encode timelessText)

/-- An environment in which trials have nine seconds. -/
def nineSeconds : Environment :=
  .ofList [("FAULTLINE_TRIAL_TRIAL_TIMEOUT_SECS", "9")]

/-- The configuration with nine seconds in the place of none is valid, but it is not loaded. -/
theorem replaced_value_refused :
    timelessFiles.readText "drill.toml" = .ok timelessText ∧
    (∃ c, parse timelessText = .ok c ∧ (c.withEnvironment nineSeconds).validate = .ok ()) ∧
    load timelessFiles nineSeconds "drill.toml" = .error (.config
      (.invalidValue "trial.trial_timeout_secs" "must be greater than 0")) := by
  have hread : timelessFiles.readText "drill.toml" = .ok timelessText := by decide +kernel
  have hparse : parse timelessText = .ok { trial.trialTimeoutSecs := 0 } := by decide +kernel
  exact ⟨hread, ⟨_, hparse, by decide +kernel⟩,
    load_of_validate hread hparse (by decide +kernel) nineSeconds⟩

end FaultDrill.Config
