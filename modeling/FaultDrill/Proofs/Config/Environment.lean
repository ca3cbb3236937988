import FaultDrill.Config.Codec
import FaultDrill.Config.Environment
import FaultDrill.Proofs.Collections.SortedMap
import FaultDrill.Proofs.Text.Decimal
import FaultDrill.Proofs.Text.Utf8
import Mathlib.Data.List.Forall2
import Mathlib.Data.List.Nodup

/-!
# FaultDrill.Proofs.Config.Environment

What the environment does to each setting. A configuration is taken as the list of its values with
the places where they stand in a file (`settings`), which leaves nothing of it out
(`eq_of_settings`). Eighteen of the places are open to the environment (`slots`), each to the
variable that is named after it (`variableName`). A variable of the program puts its value into the
place of its slot and touches no other (`Override.Sets`). So all of them together give every setting
the value that the environment says for its place, and leave it as it is if the environment says
nothing (`settings_withEnvironment`), from which all else follows: what a variable without effect,
one variable more, or a second time makes of a configuration (`withEnvironment_frame`).
-/

namespace FaultDrill.Config

open FaultDrill.Text

/-! ### The settings of a configuration -/

/-- A value of a configuration and its place: the names of the section and of the field. -/
structure Setting where
  place : String × String
  value : Json

/-- The fields of an object. -/
def fieldsOf : Json → List (String × Json)
  | .obj fields => fields
  | _ => []

/-- All values of a configuration in the order in which they stand in a file. -/
def settings (c : Config) : List Setting :=
  (fieldsOf c.toJson).flatMap fun (name, part) =>
    (fieldsOf part).map fun (field, value) => ⟨(name, field), value⟩

/-- No place is taken twice. -/
theorem nodup_places (c : Config) : (c.settings.map (·.place)).Nodup := by
  simp [settings, fieldsOf, toJson, General.toJson, Channel.toJson, Trial.toJson, Injector.toJson,
    Invariant.toJson, Campaign.toJson]

theorem nat_inj {n m : Nat} : Json.nat n = Json.nat m ↔ n = m :=
  ⟨fun h => Int.ofNat.inj (Json.int.inj h), congrArg Json.nat⟩

theorem u64_inj {n m : UInt64} : u64 n = u64 m ↔ n = m :=
  nat_inj.trans UInt64.toNat_inj

theorem u32_inj {n m : UInt32} : u32 n = u32 m ↔ n = m :=
  nat_inj.trans UInt32.toNat_inj

theorem ofOption_injective {α : Type} {f : α → Json} (hf : Function.Injective f)
    (hnull : ∀ a, f a ≠ .null) : Function.Injective (Json.ofOption f) := by
  rintro (_ | a) (_ | b) h
  · rfl
  · exact absurd h.symm (hnull b)
  · exact absurd h (hnull a)
  · exact congrArg some (hf h)

theorem ofMap_injective {α : Type} {f : α → Json} (hf : Function.Injective f) :
    Function.Injective (Json.ofMap f) := by
  intro m m' h
  have hpair : Function.Injective fun e : String × α => (e.1, f e.2) := by
    rintro ⟨k, a⟩ ⟨k', a'⟩ he
    exact Prod.ext (Prod.mk.inj he).1 (hf (Prod.mk.inj he).2)
  exact SortedMap.ext (hpair.list_map (Json.obj.inj h))

theorem Target.toJson_injective : Function.Injective Target.toJson := by
  have htext : Function.Injective (Json.ofOption Json.str) :=
    ofOption_injective (fun _ _ => Json.str.inj) fun _ => Json.noConfusion
  have hnumber : Function.Injective (Json.ofOption u32) :=
    ofOption_injective (fun _ _ => u32_inj.1) fun _ => Json.noConfusion
  rintro ⟨⟩ ⟨⟩ h
  simpa [Target.toJson, htext.eq_iff, hnumber.eq_iff] using h

/-- There is nothing more to a configuration than its settings. -/
theorem eq_of_settings {c c' : Config} (h : c.settings = c'.settings) : c = c' := by
  have hprobes : Function.Injective (Json.ofMap Json.str) := ofMap_injective fun _ _ => Json.str.inj
  rcases c with ⟨⟨⟩, ⟨⟩, ⟨⟩, ⟨⟩, ⟨⟩, ⟨⟩⟩
  rcases c' with ⟨⟨⟩, ⟨⟩, ⟨⟩, ⟨⟩, ⟨⟩, ⟨⟩⟩
  simpa [settings, fieldsOf, toJson, General.toJson, Channel.toJson, Trial.toJson, Injector.toJson,
    Invariant.toJson, Campaign.toJson, u64_inj, u32_inj, and_assoc, hprobes.eq_iff,
    Target.toJson_injective.list_map.eq_iff] using h

/-! ### What a variable can say -/

/-- What is read from the text of a variable. -/
inductive Kind where
  | text
  /-- A number below a bound. -/
  | number (bound : Nat)
  | truth

/-- A text and the value that it stands for. -/
inductive Kind.Reads : Kind → String → Json → Prop
  | text (s : String) : Reads .text s (.str s)
  | number {bound n : Nat} {s : String} (h : Decimal.Numeral s.toList n) (hn : n < bound) :
      Reads (.number bound) s (.nat n)
  | yes : Reads .truth "true" (.bool true)
  | no : Reads .truth "false" (.bool false)

/-- The value that a text stands for. -/
def Kind.read? : Kind → String → Option Json
  | .text, s => some (.str s)
  | .number bound, s => (Decimal.read? bound s.toList).map .nat
  | .truth, s => (readBool s).map .bool

theorem readBool_eq_some_iff {s : String} {b : Bool} :
    readBool s = some b ↔ s = "true" ∧ b = true ∨ s = "false" ∧ b = false := by
  unfold readBool
  split <;> cases b <;> simp_all

theorem Kind.read?_eq_some_iff {kind : Kind} {s : String} {v : Json} :
    kind.read? s = some v ↔ kind.Reads s v := by
  cases kind with
  | text =>
      constructor
      · rintro ⟨⟩
        exact .text s
      · rintro ⟨⟩
        rfl
  | number bound =>
      unfold read?
      rw [Option.map_eq_some_iff]
      constructor
      · rintro ⟨n, hread, rfl⟩
        obtain ⟨hnumeral, hlt⟩ := Decimal.read?_eq_some_iff.1 hread
        exact .number hnumeral hlt
      · intro h
        cases h with
        | number hnumeral hlt => exact ⟨_, Decimal.read?_eq_some_iff.2 ⟨hnumeral, hlt⟩, rfl⟩
  | truth =>
      unfold read?
      rw [Option.map_eq_some_iff]
      constructor
      · rintro ⟨b, hread, rfl⟩
        obtain ⟨rfl, rfl⟩ | ⟨rfl, rfl⟩ := readBool_eq_some_iff.1 hread
        · exact .yes
        · exact .no
      · rintro ⟨⟩
        · exact ⟨true, rfl, rfl⟩
        · exact ⟨false, rfl, rfl⟩

/-! ### The places that are open to the environment -/

/-- A place that is open to the environment, and what is read for it. -/
structure Slot where
  place : String × String
  kind : Kind

/-- The places that are open to the environment. -/
def slots : List Slot := [
  ⟨("general", "log_level"), .text⟩,
  ⟨("general", "log_format"), .text⟩,
  ⟨("channel", "bind_addr"), .text⟩,
  ⟨("channel", "checkpoint_timeout_secs"), .number UInt64.size⟩,
  ⟨("channel", "max_connections"), .number UInt64.size⟩,
  ⟨("trial", "trial_timeout_secs"), .number UInt64.size⟩,
  ⟨("trial", "settle_ms"), .number UInt64.size⟩,
  ⟨("trial", "heal_before_check"), .truth⟩,
  ⟨("trial", "trials_per_invariant"), .number UInt32.size⟩,
  ⟨("injector", "action_timeout_secs"), .number UInt64.size⟩,
  ⟨("injector", "retry_max_attempts"), .number UInt32.size⟩,
  ⟨("injector", "kill_grace_ms"), .number UInt64.size⟩,
  ⟨("invariant", "default_strategy"), .text⟩,
  ⟨("invariant", "failure_marker"), .text⟩,
  ⟨("campaign", "stage_file"), .text⟩,
  ⟨("campaign", "invariant_file"), .text⟩,
  ⟨("campaign", "result_log"), .text⟩,
  ⟨("campaign", "violations_dir"), .text⟩]

/-- The variable of a place has its name from the section and the field. -/
def variableName (place : String × String) : String :=
  s!"FAULTLINE_{place.1.toUpper}_{place.2.toUpper}"

theorem nodup_slots : (slots.map (·.place)).Nodup := by
  simp [slots]

/-- The characters of a variable's name. -/
theorem variableName_ofList {part field name : List Char}
    (h : name = "FAULTLINE_".toList ++ part.map Char.toUpper ++ '_' :: field.map Char.toUpper) :
    String.ofList name = variableName (String.ofList part, String.ofList field) := by
  simp [variableName, String.toUpper, ← String.toList_inj, h]

/-- The variables of the program are those of the slots. -/
theorem names_overrides : overrides.map (·.name) = slots.map fun s => variableName s.place := by
  simp only [overrides, Override.reading, slots, List.map_cons, List.map_nil, List.cons.injEq,
    and_true]
  and_intros
  -- lists of characters are quicker to compare than texts
  all_goals
    apply variableName_ofList
    decide +kernel

/-- No variable belongs to two places. -/
theorem nodup_variableNames : (slots.map fun s => variableName s.place).Nodup := by
  rw [← names_overrides]
  simp [overrides, Override.reading]

/-! ### One variable -/

/-- A setting with another value, if it stands at the place and there is one. -/
def Setting.put (place : String × String) (value? : Option Json) (x : Setting) : Setting :=
  if x.place = place then { x with value := value?.getD x.value } else x

theorem Setting.put_none (place : String × String) : Setting.put place none = id := by
  funext x
  simp [Setting.put]

/-- Of two values put into one place the second one stays. -/
theorem Setting.put_put (place : String × String) (v : Json) (value? : Option Json) (x : Setting) :
    (x.put place value?).put place (some v) = x.put place (some v) := by
  unfold Setting.put
  split <;> simp_all

/-- What is put into different places may be put there in any order. -/
theorem Setting.put_comm {place place' : String × String} (h : place ≠ place')
    (value? value'? : Option Json) (x : Setting) :
    (x.put place' value'?).put place value? = (x.put place value?).put place' value'? := by
  unfold Setting.put
  by_cases hplace : x.place = place
  · simp [hplace, h]
  · by_cases hplace' : x.place = place' <;> simp [hplace, hplace', h.symm]

/-- A variable puts what its text stands for into the place of a slot and touches no other. -/
def Override.Sets (o : Override) (s : Slot) : Prop :=
  ∀ text c, (o.set text c).settings = c.settings.map (·.put s.place (s.kind.read? text))

theorem sets_reading {α : Type} {name : String} {read : String → Option α}
    {set : α → Config → Config} {s : Slot} {json : α → Json}
    (hread : ∀ text, s.kind.read? text = (read text).map json)
    (hset : ∀ a c, (set a c).settings = c.settings.map (·.put s.place (some (json a)))) :
    (Override.reading name read set).Sets s := by
  intro text c
  rw [hread]
  unfold Override.reading
  dsimp only
  cases read text with
  | none => simp [Setting.put_none]
  | some a => exact hset a c

/-- A number is read as the word that holds it. -/
theorem read?_number {α : Type} {bound : Nat} (word : Nat → α) (json : α → Json)
    (h : ∀ n < bound, json (word n) = .nat n) (text : String) :
    (Kind.number bound).read? text = ((Decimal.read? bound text.toList).map word).map json := by
  rw [Option.map_map]
  refine Option.map_congr fun n hn => ?_
  exact (h n (Decimal.read?_eq_some_iff.1 hn).2).symm

theorem read?_number64 (text : String) :
    (Kind.number UInt64.size).read? text = (read64 text).map u64 :=
  read?_number UInt64.ofNat u64
    (fun _ hn => congrArg Json.nat (UInt64.toNat_ofNat_of_lt' hn)) text

theorem read?_number32 (text : String) :
    (Kind.number UInt32.size).read? text = (read32 text).map u32 :=
  read?_number UInt32.ofNat u32
    (fun _ hn => congrArg Json.nat (UInt32.toNat_ofNat_of_lt' hn)) text

theorem read?_truth (text : String) : Kind.truth.read? text = (readBool text).map .bool :=
  rfl

/-- Each variable of the program sets the place of its slot. -/
theorem sets_overrides : List.Forall₂ Override.Sets overrides slots := by
  unfold overrides slots
  simp only [List.forall₂_cons, List.forall₂_nil_left_iff, and_true]
  and_intros
  -- a text is taken as it is, and what stands for another value is read first
  all_goals
    first
    | exact fun _ _ => rfl
    | exact sets_reading read?_number64 fun _ _ => rfl
    | exact sets_reading read?_number32 fun _ _ => rfl
    | exact sets_reading read?_truth fun _ _ => rfl

/-! ### All variables -/

theorem exists_slot {os : List Override} {ss : List Slot} (h : List.Forall₂ Override.Sets os ss)
    {o : Override} (ho : o ∈ os) : ∃ s ∈ ss, o.Sets s := by
  induction h with
  | nil => cases ho
  | @cons o' s os ss hset _ ih =>
      rcases List.mem_cons.1 ho with rfl | ho
      · exact ⟨s, List.mem_cons_self, hset⟩
      · obtain ⟨s', hs', hset'⟩ := ih ho
        exact ⟨s', List.mem_cons_of_mem s hs', hset'⟩

/-- What the environment says for a slot. -/
def Slot.said? (env : Environment) (s : Slot) : Option Json :=
  (env.get? (variableName s.place)).bind s.kind.read?

/-- What the environment says for a place. -/
def said? (env : Environment) (place : String × String) : Option Json :=
  (slots.find? (·.place = place)).bind (·.said? env)

/-- A setting as the environment says, if it says something. -/
def Setting.heed (env : Environment) (x : Setting) : Setting :=
  { x with value := (said? env x.place).getD x.value }

/-- One variable changes the setting in its place. -/
theorem settings_apply {o : Override} {s : Slot} (hname : o.name = variableName s.place)
    (hsets : o.Sets s) (env : Environment) (c : Config) :
    (o.apply env c).settings = c.settings.map (·.put s.place (s.said? env)) := by
  unfold Override.apply Slot.said?
  rw [hname]
  cases env.get? (variableName s.place) with
  | none => simp [Setting.put_none]
  | some text => exact hsets text c

/-- Some variables, one after the other. -/
theorem settings_foldl_apply {os : List Override} {ss : List Slot}
    (hnames : os.map (·.name) = ss.map fun s => variableName s.place)
    (hsets : List.Forall₂ Override.Sets os ss) (env : Environment) (c : Config) :
    (os.foldl (fun c o => o.apply env c) c).settings =
      c.settings.map fun x => ss.foldl (fun x s => x.put s.place (s.said? env)) x := by
  induction hsets generalizing c with
  | nil => simp
  | @cons o s os ss hset hsets ih =>
      obtain ⟨hname, hnames⟩ := List.cons.inj hnames
      rw [List.foldl_cons, ih hnames, settings_apply hname hset, List.map_map]
      rfl

/-- Of slots with different places only the one of its place changes a setting. -/
theorem foldl_put {ss : List Slot} (hnodup : (ss.map (·.place)).Nodup) (env : Environment)
    (x : Setting) : ss.foldl (fun x s => x.put s.place (s.said? env)) x =
      { x with value := ((ss.find? (·.place = x.place)).bind (·.said? env)).getD x.value } := by
  induction ss generalizing x with
  | nil => rfl
  | cons s ss ih =>
      rw [List.map_cons, List.nodup_cons] at hnodup
      rw [List.foldl_cons, ih hnodup.2]
      by_cases hplace : s.place = x.place
      · have hrest : ss.find? (·.place = x.place) = none := by
          rw [List.find?_eq_none]
          intro s' hs' heq
          exact hnodup.1 (List.mem_map.2 ⟨s', hs', (of_decide_eq_true heq).trans hplace.symm⟩)
        simp [Setting.put, hplace, hrest]
      · simp [Setting.put, hplace, Ne.symm hplace]

/-- **Every setting is as the environment says for its place, and as it was if the environment says
nothing.** -/
theorem settings_withEnvironment (env : Environment) (c : Config) :
    (c.withEnvironment env).settings = c.settings.map (·.heed env) := by
  unfold withEnvironment
  rw [settings_foldl_apply names_overrides sets_overrides]
  exact List.map_congr_left fun x _ => foldl_put nodup_slots env x

theorem Setting.heed_congr {env env' : Environment} {x : Setting}
    (h : said? env x.place = said? env' x.place) : x.heed env = x.heed env' := by
  unfold Setting.heed
  rw [h]

theorem heed_heed (env : Environment) (x : Setting) : (x.heed env).heed env = x.heed env := by
  unfold Setting.heed
  cases said? env x.place <;> rfl

theorem withEnvironment_congr {env env' : Environment}
    (h : ∀ place, said? env place = said? env' place) (c : Config) :
    c.withEnvironment env = c.withEnvironment env' := by
  refine eq_of_settings ?_
  rw [settings_withEnvironment, settings_withEnvironment]
  exact List.map_congr_left fun x _ => Setting.heed_congr (h x.place)

/-! ### The environment of a process -/

/-- What a process reads of its variables: only those whose values are texts. -/
def readable (vars : SortedMap String Bytes) : Environment :=
  .ofList (vars.toList.filterMap fun (name, bytes) =>
    (Utf8.decode? bytes).map fun text => (name, text))

variable {vars : SortedMap String Bytes}

theorem get?_readable {name text : String} :
    (readable vars).get? name = some text ↔ vars.get? name = some (Utf8.encode text) := by
  have hsorted : (vars.toList.filterMap fun (name, bytes) =>
      (Utf8.decode? bytes).map fun text => (name, text)).Pairwise
        fun a b => compare a.1 b.1 = .lt := by
    refine List.Pairwise.filterMap _ (fun a b hlt a' ha' b' hb' => ?_) vars.sorted
    obtain ⟨_, _, rfl⟩ := Option.map_eq_some_iff.1 ha'
    obtain ⟨_, _, rfl⟩ := Option.map_eq_some_iff.1 hb'
    exact hlt
  unfold readable
  rw [SortedMap.get?_eq_some_iff, SortedMap.toList_ofList hsorted, SortedMap.get?_eq_some_iff,
    List.mem_filterMap]
  simp only [Option.map_eq_some_iff, Prod.mk.injEq, Utf8.decode?_eq_some_iff]
  constructor
  · rintro ⟨⟨_, _⟩, hmem, _, rfl, rfl, rfl⟩
    exact hmem
  · intro hmem
    exact ⟨_, hmem, _, rfl, rfl, rfl⟩

/-- The variables say a value for a place: the place is open, its variable has a text, and the text
stands for the value. -/
def Says (vars : SortedMap String Bytes) (place : String × String) (v : Json) : Prop :=
  ∃ kind text, ⟨place, kind⟩ ∈ slots ∧
    vars.get? (variableName place) = some (Utf8.encode text) ∧ kind.Reads text v

theorem find?_slots {place : String × String} {s : Slot} :
    slots.find? (·.place = place) = some s ↔ s ∈ slots ∧ s.place = place := by
  constructor
  · intro h
    exact ⟨List.mem_of_find?_eq_some h, by simpa using List.find?_some h⟩
  · rintro ⟨hmem, rfl⟩
    have hfound : (slots.find? (·.place = s.place)).isSome = true :=
      List.find?_isSome.2 ⟨s, hmem, by simp⟩
    obtain ⟨s', hs'⟩ := Option.isSome_iff_exists.1 hfound
    have hplace : s'.place = s.place := by simpa using List.find?_some hs'
    rw [hs', List.inj_on_of_nodup_map nodup_slots (List.mem_of_find?_eq_some hs') hmem hplace]

theorem said?_readable {place : String × String} {v : Json} :
    said? (readable vars) place = some v ↔ Says vars place v := by
  unfold said? Slot.said? Says
  simp only [Option.bind_eq_some_iff, find?_slots, get?_readable, Kind.read?_eq_some_iff]
  constructor
  · rintro ⟨⟨_, kind⟩, ⟨hmem, rfl⟩, text, hget, hreads⟩
    exact ⟨kind, text, hmem, hget, hreads⟩
  · rintro ⟨kind, text, hmem, hget, hreads⟩
    exact ⟨⟨place, kind⟩, ⟨hmem, rfl⟩, text, hget, hreads⟩

/-- What becomes of a setting: the value that the variables say for its place, or the value that it
has had if they say none. -/
inductive Follows (vars : SortedMap String Bytes) : Setting → Setting → Prop
  | said {place : String × String} {old v : Json} (h : Says vars place v) :
      Follows vars ⟨place, old⟩ ⟨place, v⟩
  | kept {place : String × String} {old : Json} (h : ∀ v, ¬ Says vars place v) :
      Follows vars ⟨place, old⟩ ⟨place, old⟩

theorem follows_iff {x y : Setting} : Follows vars x y ↔ x.heed (readable vars) = y := by
  obtain ⟨place, old⟩ := x
  unfold Setting.heed
  cases hsaid : said? (readable vars) place with
  | none =>
      have hsilent : ∀ v, ¬ Says vars place v := fun v h => by
        rw [← said?_readable, hsaid] at h
        cases h
      constructor
      · rintro (h | h)
        · exact absurd h (hsilent _)
        · rfl
      · rintro rfl
        exact .kept hsilent
  | some v =>
      have hsays := said?_readable.1 hsaid
      constructor
      · rintro (h | h)
        · rw [← said?_readable, hsaid] at h
          cases h
          rfl
        · exact absurd hsays (h v)
      · rintro rfl
        exact .said hsays

/-- What becomes of a configuration is settled by what becomes of its settings. -/
theorem eq_withEnvironment_iff {c c' : Config} : c' = c.withEnvironment (readable vars) ↔
    List.Forall₂ (Follows vars) c.settings c'.settings := by
  have hfollows : Follows vars = fun x y => x.heed (readable vars) = y :=
    funext fun x => funext fun y => propext follows_iff
  rw [hfollows, ← List.forall₂_map_left_iff, List.forall₂_eq_eq_eq, ← settings_withEnvironment]
  exact ⟨fun h => h ▸ rfl, fun h => (eq_of_settings h).symm⟩

/-! ### One variable set or missing -/

/-- Only its own variable says anything for a place. -/
theorem says_congr {vars' : SortedMap String Bytes} {place : String × String} {v : Json}
    (h : vars'.get? (variableName place) = vars.get? (variableName place)) :
    Says vars' place v ↔ Says vars place v := by
  unfold Says
  rw [h]

theorem said?_congr {vars' : SortedMap String Bytes} {place : String × String}
    (h : ∀ v, Says vars' place v ↔ Says vars place v) :
    said? (readable vars') place = said? (readable vars) place := by
  refine Option.ext fun v => ?_
  rw [said?_readable, said?_readable, h]

/-- A variable that says nothing might as well be missing. -/
theorem withEnvironment_erase {name : String}
    (h : ∀ place v, variableName place = name → ¬ Says vars place v) (c : Config) :
    c.withEnvironment (readable (vars.erase name)) = c.withEnvironment (readable vars) := by
  refine withEnvironment_congr (fun place => said?_congr fun v => ?_) c
  by_cases hname : variableName place = name
  · refine iff_of_false ?_ (h place v hname)
    rintro ⟨_, _, _, hget, _⟩
    rw [hname, SortedMap.get?_erase_self] at hget
    cases hget
  · exact says_congr (vars.get?_erase_of_ne fun heq => hname (Std.LawfulEqOrd.eq_of_compare heq))

/-- Two configurations have the same settings, except possibly for one. -/
def OneApart (c c' : Config) : Prop :=
  ∃ before x y after, c.settings = before ++ x :: after ∧ c'.settings = before ++ y :: after

theorem settings_ne_nil (c : Config) : c.settings ≠ [] := by
  simp [settings, fieldsOf, toJson, General.toJson]

/-- All settings but one have another place than a given one. -/
theorem exists_apart (c : Config) (place : String × String) : ∃ before x after,
    c.settings = before ++ x :: after ∧
      (∀ y ∈ before, y.place ≠ place) ∧ ∀ y ∈ after, y.place ≠ place := by
  have hnodup := c.nodup_places
  by_cases hplace : place ∈ c.settings.map (·.place)
  · obtain ⟨x, hx, rfl⟩ := List.mem_map.1 hplace
    obtain ⟨before, after, hsplit⟩ := List.append_of_mem hx
    rw [hsplit, List.map_append, List.map_cons, List.nodup_middle, List.nodup_cons,
      ← List.map_append] at hnodup
    refine ⟨before, x, after, hsplit, fun y hy heq => hnodup.1 ?_, fun y hy heq => hnodup.1 ?_⟩
    · exact List.mem_map.2 ⟨y, List.mem_append_left _ hy, heq⟩
    · exact List.mem_map.2 ⟨y, List.mem_append_right _ hy, heq⟩
  · obtain ⟨x, after, hsplit⟩ := List.exists_cons_of_ne_nil c.settings_ne_nil
    refine ⟨[], x, after, hsplit, fun y hy => absurd hy List.not_mem_nil, fun y hy heq => hplace ?_⟩
    rw [hsplit]
    exact List.mem_map.2 ⟨y, List.mem_cons_of_mem x hy, heq⟩

/-- A variable belongs to one place at most. -/
theorem exists_place (name : String) : ∃ place, ∀ (vars : SortedMap String Bytes) (place' v),
    place' ≠ place → Says vars place' v → variableName place' ≠ name := by
  by_cases hname : ∃ s ∈ slots, variableName s.place = name
  · obtain ⟨s, hs, rfl⟩ := hname
    refine ⟨s.place, fun vars place' v hne hsays heq => hne ?_⟩
    obtain ⟨_, _, hslot, -⟩ := hsays
    exact congrArg Slot.place (List.inj_on_of_nodup_map nodup_variableNames hslot hs heq)
  · refine ⟨("", ""), fun vars place' v _ hsays heq => hname ?_⟩
    obtain ⟨_, _, hslot, -⟩ := hsays
    exact ⟨_, hslot, heq⟩

/-- A variable that is set makes a difference to one place at most. -/
theorem says_insert (vars : SortedMap String Bytes) (name : String) (bytes : Bytes) :
    ∃ place, ∀ place' v, place' ≠ place →
      (Says (vars.insert name bytes) place' v ↔ Says vars place' v) := by
  obtain ⟨place, hplace⟩ := exists_place name
  refine ⟨place, fun place' v hne => ?_⟩
  by_cases hname : variableName place' = name
  · have hsilent : ∀ vars, ¬ Says vars place' v := fun vars hsays =>
      hplace vars place' v hne hsays hname
    exact iff_of_false (hsilent _) (hsilent _)
  · exact says_congr (vars.get?_insert_of_ne bytes fun heq =>
      hname (Std.LawfulEqOrd.eq_of_compare heq))

/-- One variable changes one setting at most. -/
theorem oneApart_insert (name : String) (bytes : Bytes) (c : Config) :
    OneApart (c.withEnvironment (readable vars))
      (c.withEnvironment (readable (vars.insert name bytes))) := by
  obtain ⟨place, hplace⟩ := says_insert vars name bytes
  obtain ⟨before, x, after, hsplit, hbefore, hafter⟩ := c.exists_apart place
  have hsame : ∀ y : Setting, y.place ≠ place →
      y.heed (readable (vars.insert name bytes)) = y.heed (readable vars) := fun y hne =>
    Setting.heed_congr (said?_congr fun v => hplace y.place v hne)
  refine ⟨before.map (·.heed (readable vars)), x.heed (readable vars),
    x.heed (readable (vars.insert name bytes)), after.map (·.heed (readable vars)), ?_, ?_⟩
  · rw [settings_withEnvironment, hsplit, List.map_append, List.map_cons]
  · rw [settings_withEnvironment, hsplit, List.map_append, List.map_cons,
      List.map_congr_left fun y hy => hsame y (hbefore y hy),
      List.map_congr_left fun y hy => hsame y (hafter y hy)]

theorem withEnvironment_withEnvironment (env : Environment) (c : Config) :
    (c.withEnvironment env).withEnvironment env = c.withEnvironment env := by
  refine eq_of_settings ?_
  rw [settings_withEnvironment, settings_withEnvironment, List.map_map]
  exact List.map_congr_left fun x _ => heed_heed env x

/-- **The environment touches the settings that it says something for, and nothing else.** A
configuration becomes the one in which every setting whose place is open to a variable with a
readable text has the value that the text stands for, and every other setting is as it was. So a
variable that says nothing might as well be missing, one more variable or another value of it changes
one setting at most, and the environment changes nothing the second time. -/
theorem withEnvironment_frame (vars : SortedMap String Bytes) (c : Config) :
    (∀ c', c' = c.withEnvironment (readable vars) ↔
      List.Forall₂ (Follows vars) c.settings c'.settings) ∧
    (∀ name, (∀ place v, variableName place = name → ¬ Says vars place v) →
      c.withEnvironment (readable (vars.erase name)) = c.withEnvironment (readable vars)) ∧
    (∀ name bytes, OneApart (c.withEnvironment (readable vars))
      (c.withEnvironment (readable (vars.insert name bytes)))) ∧
    (c.withEnvironment (readable vars)).withEnvironment (readable vars) =
      c.withEnvironment (readable vars) :=
  ⟨fun _ => eq_withEnvironment_iff, fun _ h => withEnvironment_erase h c,
    fun name bytes => oneApart_insert name bytes c,
    withEnvironment_withEnvironment (readable vars) c⟩

/-- A variable that can be read, one whose value is no text, and one whose number is too large. -/
def mixedVariables : SortedMap String Bytes := .ofList [
  ("FAULTLINE_CHANNEL_MAX_CONNECTIONS", Utf8.encode "+8"),
  ("FAULTLINE_GENERAL_LOG_LEVEL", [0xFF]),
  ("FAULTLINE_TRIAL_TRIALS_PER_INVARIANT", Utf8.encode "4294967296")]

/-- The default configuration with those variables. -/
def mixed : Config :=
  { channel := { maxConnections := 8 } }

theorem withEnvironment_frame_mixed :
    mixed = withEnvironment (readable mixedVariables) {} ∧
    List.Forall₂ (Follows mixedVariables) (settings {}) mixed.settings ∧
    mixed = withEnvironment
      (readable (mixedVariables.erase "FAULTLINE_TRIAL_TRIALS_PER_INVARIANT")) {} := by
  obtain ⟨hsettings, herase, -⟩ := withEnvironment_frame mixedVariables {}
  have hmixed : mixed = withEnvironment (readable mixedVariables) {} := by decide +kernel
  refine ⟨hmixed, (hsettings mixed).1 hmixed, hmixed.trans (herase _ ?_).symm⟩
  intro place v hname hsays
  -- the variable belongs to one place only, and its number is too large for that
  obtain ⟨kind, _, hslot, -⟩ := id hsays
  have htrials : ⟨("trial", "trials_per_invariant"), .number UInt32.size⟩ ∈ slots := by
    simp [slots]
  have hslots := List.inj_on_of_nodup_map nodup_variableNames hslot htrials
    (hname.trans (by decide +kernel))
  obtain rfl : place = ("trial", "trials_per_invariant") := congrArg Slot.place hslots
  have hnone : (said? (readable mixedVariables)
      ("trial", "trials_per_invariant")).isNone = true := by decide +kernel
  rw [said?_readable.2 hsays] at hnone
  cases hnone

end FaultDrill.Config
