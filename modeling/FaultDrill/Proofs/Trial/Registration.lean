import FaultDrill.Proofs.Trial.Isolation
import FaultDrill.Proofs.Trial.Playback

/-!
# FaultDrill.Proofs.Trial.Registration

A target that is registered before a checkpoint is registered when the events of the checkpoint are
injected. The queue of the channel keeps the order of the reports, a wait that is broken off loses
none of them, and all that has been received is taken over before an injection. So in whatever order
messages come and however often the runner is called away from the channel, an event finds registered
what was reported in this trial before its checkpoint, and nothing else
(`Runner.registered_at_injection`).
-/

namespace FaultDrill

open Standing (IsSilent)

variable {σ : Type} {b : Bench σ}

namespace QueueView

variable {view : QueueView b} {r r₁ : Run σ}

/-- Nothing is known when a trial begins, as the last one has forgotten its targets. -/
theorem knows_start (view : QueueView b) {runner : Runner} (hused : runner.Used b)
    (campaign : CampaignState) (spec : TrialSpec) {s : σ} (hfresh : view.received s = []) :
    view.Knows (runner.start b campaign spec s) := by
  have hleads : b.Leads s (runner.start b campaign spec s).world := fun _ hQ => hQ.freshId s
  have hruntime : (runner.start b campaign spec s).injector.registry.runtime = .empty := by
    show runner.injector.registry.runtime = .empty
    rw [hused.injector_eq]
    rfl
  constructor
  · exact (view.leads hleads).2.1.trans hfresh
  · rw [hruntime]
    rfl
  · rfl
  · intro before d after hsplit
    cases before <;> cases hsplit

/-- All events of an attempt find registered what was reported before them. -/
theorem registered_of_attempts {settings : Settings} {attempted : Except Halt Outcome × Run σ}
    (hknows : view.Knows r) (h : Run.Attempts b settings r attempted) :
    ∀ before d after, attempted.2.journal.deeds = before ++ d :: after → Registered before d := by
  obtain ⟨r₁, last, hmoves, -, hdeeds, hlast⟩ := h.ends
  rw [hdeeds]
  refine registered_append (hknows.moves hmoves).registered fun before d after hsplit => ?_
  have hd := (hlast d (hsplit ▸ List.mem_append_right _ List.mem_cons_self)).2
  cases d with
  | inject => cases hd
  | _ => trivial

/-- What a trial has received at its end is what its journal tells. -/
theorem received_of_attempts {settings : Settings} {attempted : Except Halt Outcome × Run σ}
    (hknows : view.Knows r) (h : Run.Attempts b settings r attempted) :
    view.received attempted.2.world = messagesOf attempted.2.journal.deeds := by
  obtain ⟨r₁, last, hmoves, hleads, hdeeds, hlast⟩ := h.ends
  rw [(view.leads hleads).2.1, (hknows.moves hmoves).received, hdeeds, messagesOf_append,
    messagesOf_eq_nil fun d hd => (hlast d hd).1, List.append_nil]

end QueueView

/-- What is registered when an event is injected. -/
theorem Runner.registered_at_injection (view : QueueView b) {runner : Runner}
    (hused : runner.Used b) {campaign : CampaignState} {spec : TrialSpec}
    {channel : Except ChannelError String} {s : σ} (hfresh : view.received s = [])
    {before after : List Deed} {e : Event} {id : Checkpoint} {registered : SortedMap String UInt32}
    {succeeded : Bool}
    (hinject : (runner.attempted b campaign spec channel s).2.journal.deeds =
      before ++ .inject e id registered succeeded :: after) :
    e.checkpoint = id ∧ ∃ t earlier later,
      view.accepted (runner.attempted b campaign spec channel s).2.world =
        earlier ++ ⟨t, .checkpoint id⟩ :: later ∧
      messagesOf before = earlier ++ [⟨t, .checkpoint id⟩] ∧ registered = registrations earlier := by
  have hknows := view.knows_start hused campaign spec hfresh
  have hattempts := attempted_attempts b runner campaign spec channel s
  have hregistered := QueueView.registered_of_attempts hknows hattempts _ _ _ hinject
  have hreceived := QueueView.received_of_attempts hknows hattempts
  have hordered := view.ordered (runner.attempted b campaign spec channel s).2.world
  obtain ⟨st, hpath⟩ := (attempted_closes (b := b) runner campaign spec channel s).path
  rw [hinject] at hpath hreceived
  obtain ⟨he, t, ds, since, hbefore, hsilent⟩ := hpath.injected
  -- the report of the checkpoint is the last message that has come
  have hlast : messagesOf before = messagesOf ds ++ [⟨t, .checkpoint id⟩] := by
    have hsince : messagesOf since = [] := messagesOf_eq_nil fun d hd => (hsilent d hd).1
    rw [hbefore, messagesOf_append]
    show messagesOf ds ++ (⟨t, .checkpoint id⟩ :: messagesOf since) = _
    rw [hsince]
  obtain ⟨rest, hrest⟩ := hordered
  rw [hreceived, messagesOf_append, hlast] at hrest
  refine ⟨he, t, messagesOf ds, messagesOf (.inject e id registered succeeded :: after) ++ rest,
    ?_, hlast, ?_⟩
  · rw [← hrest, List.append_assoc, List.append_assoc]
    rfl
  · rw [← registrations_checkpoint _ t id, ← hlast]
    exact hregistered

/-- A target is registered twice before its checkpoint and once after it, all while the runner waits
for the first time. -/
def earlyMessages : List Message :=
  [⟨0, .target "leader" 5⟩, ⟨1, .target "leader" 7⟩, ⟨2, .checkpoint "1"⟩, ⟨3, .target "leader" 9⟩]

/-- A playback in which these messages come at once, and the driver ends when they have been
received. -/
def earlyPlayback : Playback where
  cues := [{ messages := earlyMessages }, {}, {}, {}, { exit := some (.exited 0) }]
  listening := true

/-- The deeds of a trial in which the leader is paused at the first checkpoint. -/
def earlyDeeds : List Deed :=
  ((drillRunner 600).attempted Playback.bench { stage := .injection } pausingSpec (.ok "memory")
    earlyPlayback).2.journal.deeds

/-- An injection, with the checkpoint at which it is made and the processes that are registered. -/
def Deed.strike? : Deed → Option (Event × Checkpoint × SortedMap String UInt32 × Bool)
  | .inject e id registered succeeded => some (e, id, registered, succeeded)
  | _ => none

theorem Deed.eq_inject_of_strike? {d : Deed} {e : Event} {id : Checkpoint}
    {registered : SortedMap String UInt32} {succeeded : Bool}
    (h : d.strike? = some (e, id, registered, succeeded)) :
    d = .inject e id registered succeeded := by
  cases d <;> cases h
  rfl

/-- The event finds the second of the processes, as it was the last one before the checkpoint. -/
theorem Runner.registered_at_injection_early : ∃ before registered after earlier t later,
    earlyDeeds = before ++ .inject ⟨"1", "leader", .pause⟩ "1" registered true :: after ∧
    earlyMessages = earlier ++ ⟨t, .checkpoint "1"⟩ :: later ∧
    registered = registrations earlier ∧ registered.toList = [("leader", 7)] := by
  have hstrikes : earlyDeeds.filterMap Deed.strike? =
      [(⟨"1", "leader", .pause⟩, "1", .ofList [("leader", 7)], true)] := by
    decide +kernel
  have haccepted : Playback.queueView.accepted ((drillRunner 600).attempted Playback.bench
      { stage := .injection } pausingSpec (.ok "memory") earlyPlayback).2.world = earlyMessages := by
    decide +kernel
  obtain ⟨d, hd, hstrike⟩ := List.mem_filterMap.mp (hstrikes ▸ List.mem_singleton_self _)
  obtain ⟨before, after, hdeeds⟩ := List.append_of_mem hd
  rw [Deed.eq_inject_of_strike? hstrike] at hdeeds
  obtain ⟨-, t, earlier, later, hqueue, -, hregistered⟩ :=
    registered_at_injection Playback.queueView (.new _ _ _) rfl hdeeds
  exact ⟨before, _, after, earlier, t, later, hdeeds, haccepted ▸ hqueue, hregistered, by decide⟩

end FaultDrill
