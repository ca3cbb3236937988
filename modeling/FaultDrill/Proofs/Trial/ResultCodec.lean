import FaultDrill.Proofs.Collections.SortedMap
import FaultDrill.Proofs.Json.RoundTrip
import FaultDrill.Trial.Result
import Mathlib.Algebra.GroupWithZero.Nat

/-!
# FaultDrill.Proofs.Trial.ResultCodec

**A result is read from its JSON value, with its delays in whole milliseconds**
(`TrialResult.ofJson?_toJson`), **and that value is one that the reader of texts keeps**
(`TrialResult.kept_toJson`). The proof goes up the record: lists and maps of texts, corruptions,
faults, events, diagnostics. The fields of the outcome stand among those of the result; they are told
apart by their names, which no other field has. Of an exit code it is asked that it has thirty-two
bits (`Diagnostics.CodeFits`), as every exit code of a process has.
-/

namespace FaultDrill

/-! ### Whole milliseconds -/

/-- A length of time without what is beyond its whole milliseconds, of which there are at most as
many as sixty-four bits hold. -/
def Duration.inMillis (d : Duration) : Duration where
  nanos := min (d.nanos / nanosPerMilli) (UInt64.size - 1) * nanosPerMilli
  nanos_lt := by
    simp only [nanosPerMilli, nanosPerSecond, UInt64.size]
    omega

theorem Duration.millisClamped_lt (d : Duration) : d.millisClamped < UInt64.size := by
  simp only [millisClamped, UInt64.size]
  omega

theorem Duration.ofMillis_millisClamped (d : Duration) :
    ofMillis (UInt64.ofNat d.millisClamped) = d.inMillis := by
  simp only [ofMillis, inMillis, UInt64.toNat_ofNat_of_lt' d.millisClamped_lt]
  simp only [millisClamped, millis]

/-- A fault with its delay in whole milliseconds. -/
def Fault.inMillis : Fault → Fault
  | .delay duration => .delay duration.inMillis
  | f => f

/-- An event with its delay in whole milliseconds. -/
def Event.inMillis (e : Event) : Event :=
  { e with fault := e.fault.inMillis }

/-- Diagnostics with the delays of their events in whole milliseconds. -/
def Diagnostics.inMillis (d : Diagnostics) : Diagnostics :=
  { d with
    eventsFired := d.eventsFired.map Event.inMillis
    eventsSkipped := d.eventsSkipped.map Event.inMillis }

/-- A result with the delays of its events in whole milliseconds. -/
def TrialResult.inMillis (r : TrialResult) : TrialResult :=
  { r with diagnostics := r.diagnostics.inMillis }

/-- The exit code, if there is one, has thirty-two bits. -/
def Diagnostics.CodeFits (d : Diagnostics) : Prop :=
  ∀ code ∈ d.driverExitCode, -2147483648 ≤ code ∧ code ≤ 2147483647

instance (d : Diagnostics) : Decidable d.CodeFits :=
  inferInstanceAs (Decidable (∀ code ∈ d.driverExitCode, -2147483648 ≤ code ∧ code ≤ 2147483647))

/-! ### Numbers, lists and maps -/

namespace Json

theorem asUInt64?_nat {n : Nat} (h : n < UInt64.size) :
    (Json.nat n).asUInt64? = some (UInt64.ofNat n) := by
  simp [nat, asUInt64?, asNat?, h]

theorem asUInt64?_toNat (n : UInt64) : (Json.nat n.toNat).asUInt64? = some n := by
  rw [asUInt64?_nat n.toNat_lt, UInt64.ofNat_toNat]

/-- What is read one by one is read as a list. -/
theorem mapM_map_eq_some {α β γ : Type} {f : β → Option γ} {g : α → β} {k : α → γ} {l : List α}
    (h : ∀ a ∈ l, f (g a) = some (k a)) : (l.map g).mapM f = some (l.map k) := by
  induction l with
  | nil => rfl
  | cons a rest ih =>
      have hrest := ih fun b hb => h b (List.mem_cons_of_mem a hb)
      rw [List.map_cons, List.mapM_cons, h a List.mem_cons_self, hrest]
      rfl

theorem asList?_strings (l : List String) : asList? asString? (.strings l) = some l := by
  have hread : (l.map Json.str).mapM asString? = some (l.map id) :=
    mapM_map_eq_some fun _ _ => rfl
  rw [List.map_id] at hread
  exact hread

theorem asMap?_ofMap (m : SortedMap String String) : asMap? asString? (.ofMap .str m) = some m := by
  have hread : (m.toList.map fun e => (e.1, Json.str e.2)).mapM
      (fun f => do return (f.1, ← asString? f.2)) = some (m.toList.map id) :=
    mapM_map_eq_some fun _ _ => rfl
  rw [List.map_id] at hread
  show (do let read ← (m.toList.map _).mapM _; return SortedMap.ofList read) = some m
  rw [hread]
  simp

theorem asOption?_ofOption (s : Option String) :
    asOption? asString? (.ofOption .str s) = some s := by
  cases s <;> rfl

end Json

/-! ### Events -/

namespace Corruption

theorem ofInnerJson?_toJson (c : Corruption) : ofInnerJson? c.toJson = some c := by
  cases c <;>
    simp [ofInnerJson?, toJson, Json.tagged?, Json.lastField?, Json.tagName?, ofFields?,
      Json.fields?, Json.required?, Json.asString?, Json.asUInt64?_toNat]

theorem kept_toJson (c : Corruption) : c.toJson.Kept := by
  cases c <;>
    refine .obj ?_ <;>
    simp [Json.Kept.str, Json.kept_nat (UInt64.toNat_lt _)]

end Corruption

namespace Fault

/-- A record with one field is read from its object. -/
theorem ofOneField?_obj (name : String) (f : Json → Option Fault) (v : Json) :
    ofOneField? name f (.obj [(name, v)]) = f v := by
  simp [ofOneField?, Json.fields?, Json.lastField?, Json.required?]

theorem ofJson?_toJson (f : Fault) : ofJson? f.toJson = some f.inMillis := by
  cases f with
  | kill => rfl
  | pause => rfl
  | resume => rfl
  | delay d =>
      simp [ofJson?, toJson, kind, Json.tagged?, Json.lastField?, Json.tagName?, ofOneField?_obj,
        Json.asUInt64?_nat d.millisClamped_lt, Duration.ofMillis_millisClamped, inMillis]
  | partition peers =>
      simp [ofJson?, toJson, kind, Json.tagged?, Json.lastField?, Json.tagName?, ofOneField?_obj,
        Json.asList?_strings, inMillis]
  | corrupt damage =>
      simp [ofJson?, toJson, kind, Json.tagged?, Json.lastField?, Json.tagName?, ofOneField?_obj,
        Corruption.ofInnerJson?_toJson, inMillis]

theorem kept_toJson (f : Fault) : f.toJson.Kept := by
  refine .obj ?_
  cases f with
  | kill | pause | resume => simp [Json.Kept.str]
  | delay d => simp [Json.Kept.str, Json.kept_nat d.millisClamped_lt]
  | partition peers => simp [Json.Kept.str, Json.strings, Json.kept_map Json.Kept.str]
  | corrupt damage => simp [Json.Kept.str, damage.kept_toJson]

end Fault

namespace Event

theorem ofJson?_toJson (e : Event) : ofJson? e.toJson = some e.inMillis := by
  simp [ofJson?, toJson, Json.fields?, Json.lastField?, Json.required?, Json.asString?,
    Fault.ofJson?_toJson, inMillis]

theorem kept_toJson (e : Event) : e.toJson.Kept := by
  refine .obj ?_
  simp [Json.Kept.str, e.fault.kept_toJson]

end Event

/-! ### Diagnostics -/

namespace Diagnostics

theorem ofJson?_toJson {d : Diagnostics} (hcode : d.CodeFits) :
    ofJson? d.toJson = some d.inMillis := by
  have hevents : ∀ events : List Event, Json.asList? Event.ofJson? (.arr (events.map Event.toJson)) =
      some (events.map Event.inMillis) := fun events =>
    Json.mapM_map_eq_some fun e _ => Event.ofJson?_toJson e
  have hexit : (Json.ofOption .int d.driverExitCode).asOption? Json.asInt32? =
      some d.driverExitCode := by
    cases hd : d.driverExitCode with
    | none => rfl
    | some code => simp [Json.ofOption, Json.asOption?, Json.asInt32?, hcode code hd]
  simp [ofJson?, toJson, names, Json.fields?, Json.lastField?, Json.required?, Json.optional?,
    Json.asList?_strings, Json.asMap?_ofMap, hevents, hexit, Json.asBool?, Json.asString?, inMillis]

theorem kept_toJson {d : Diagnostics} (hcode : d.CodeFits) : d.toJson.Kept := by
  have hexit : (Json.ofOption .int d.driverExitCode).Kept := by
    refine Json.kept_ofOption fun code hc => ?_
    obtain ⟨hlow, hhigh⟩ := hcode code hc
    exact .int ⟨by omega, by omega⟩
  refine .obj ?_
  simp [Json.strings, Json.kept_map Json.Kept.str, Json.kept_map Event.kept_toJson, hexit,
    Json.Kept.bool, Json.Kept.str, Json.kept_ofMap]

end Diagnostics

/-! ### Identifiers -/

namespace TrialId

open FaultDrill.Text

theorem toLower_of_isLowerHex {c : Char} (h : isLowerHex c = true) : c.toLower = c := by
  simp only [isLowerHex, Char.isDigit, Bool.or_eq_true, Bool.and_eq_true, decide_eq_true_eq,
    ge_iff_le, Char.le_def, UInt32.le_iff_toNat_le] at h
  unfold Char.toLower
  rw [dif_neg]
  rintro ⟨hlow, hhigh⟩
  simp only [ge_iff_le, UInt32.le_iff_toNat_le] at hlow hhigh
  simp at h hlow hhigh
  omega

/-- Groups hold only what has been divided. -/
theorem mem_of_mem_groupsOf {c : Char} {group : List Char} {lengths : List Nat} {s : List Char}
    (hgroup : group ∈ groupsOf lengths s) (hc : c ∈ group) : c ∈ s := by
  induction lengths generalizing s with
  | nil => cases hgroup
  | cons n lengths ih =>
      rcases List.mem_cons.1 hgroup with rfl | hgroup
      · exact List.mem_of_mem_take hc
      · exact List.mem_of_mem_drop (ih hgroup)

/-- Groups that take the whole text have their lengths and make up the text. -/
theorem groupsOf_spec {lengths : List Nat} {s : List Char} (h : s.length = lengths.sum) :
    (groupsOf lengths s).map List.length = lengths ∧ (groupsOf lengths s).flatten = s := by
  induction lengths generalizing s with
  | nil => simp [groupsOf, List.length_eq_zero_iff.1 h]
  | cons n lengths ih =>
      rw [List.sum_cons] at h
      have hdrop : (s.drop n).length = lengths.sum := by
        rw [List.length_drop]
        omega
      obtain ⟨hlengths, hflatten⟩ := ih hdrop
      have hn : min n s.length = n := by omega
      simp only [groupsOf, List.map_cons, List.flatten_cons, hlengths, hflatten, List.length_take,
        List.take_append_drop, hn, and_self]

theorem ofDigits?_digits (id : TrialId) : ofDigits? id.digits = some id := by
  have hlower : id.digits.map Char.toLower = id.digits := by
    rw [List.map_congr_left fun c hc =>
      toLower_of_isLowerHex (List.all_eq_true.1 id.all_digits c hc)]
    exact List.map_id' id.digits
  unfold ofDigits?
  simp only [hlower]
  exact dif_pos ⟨id.length_digits, id.all_digits⟩

/-- An identifier is read as it is written. -/
theorem parse?_text (id : TrialId) : parse? id.text.toList = some id := by
  have hhyphen : ∀ group ∈ groupsOf groupLengths id.digits, '-' ∉ group := by
    intro group hgroup hmem
    have hhex := List.all_eq_true.1 id.all_digits _ (mem_of_mem_groupsOf hgroup hmem)
    cases hhex
  have hsum : id.digits.length = groupLengths.sum := id.length_digits
  obtain ⟨hlengths, hflatten⟩ := groupsOf_spec hsum
  have hsplit : (['-'].intercalate (groupsOf groupLengths id.digits)).splitOn '-' =
      groupsOf groupLengths id.digits :=
    List.splitOn_intercalate '-' hhyphen (by simp [groupLengths, groupsOf])
  have hlength : (['-'].intercalate (groupsOf groupLengths id.digits)).length = 36 := by
    simp [groupLengths, groupsOf, id.length_digits, List.intercalate]
  unfold parse? text
  rw [String.toList_ofList, hlength]
  simp [ofGroups?, hsplit, hlengths, hflatten, ofDigits?_digits]

end TrialId

/-! ### Results -/

theorem Outcome.ofFields?_toFields (o : Outcome) : ofFields? (.obj o.toFields) = some o := by
  cases o <;>
    simp [ofFields?, toFields, Json.tagged?, Json.lastField?, Json.tagName?, textField?, Json.field?,
      Json.required?, Json.asString?]

namespace TrialResult

/-- **A result is read from its JSON value, with its delays in whole milliseconds.** -/
theorem ofJson?_toJson {r : TrialResult} (hcode : r.diagnostics.CodeFits) :
    ofJson? r.toJson = some r.inMillis := by
  obtain ⟨id, invariant, planId, outcome, diagnostics, cleanupWarning, started, duration⟩ := r
  have hid : idOfJson? (.str id.text) = some id := by
    simp [idOfJson?, Json.asString?, TrialId.parse?_text]
  have houtcome := outcome.ofFields?_toFields
  -- which fields an outcome has depends on its kind
  cases outcome <;>
    simp only [Outcome.toFields] at houtcome <;>
    simp [ofJson?, toJson, names, Json.field?, Json.lastField?, Json.required?, Json.optional?, hid,
      Json.asString?, Outcome.toFields, Json.asOption?_ofOption, Json.asUInt64?_toNat,
      Diagnostics.ofJson?_toJson hcode, houtcome, inMillis]

/-- The JSON value of a result is kept by the reader. -/
theorem kept_toJson {r : TrialResult} (hcode : r.diagnostics.CodeFits) : r.toJson.Kept := by
  have houtcome : ∀ f ∈ r.outcome.toFields, f.2.Kept := by
    cases r.outcome <;> simp [Outcome.toFields, Json.Kept.str]
  have hwarning : (Json.ofOption .str r.cleanupWarning).Kept :=
    Json.kept_ofOption fun s _ => .str s
  refine .obj ?_
  rw [List.forall_mem_append, List.forall_mem_append]
  refine ⟨⟨?_, houtcome⟩, ?_⟩
  · simp [Json.Kept.str]
  · simp [Diagnostics.kept_toJson hcode, hwarning, Json.kept_nat (UInt64.toNat_lt _)]

end TrialResult

end FaultDrill
