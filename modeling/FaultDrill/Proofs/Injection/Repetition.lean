import FaultDrill.Proofs.Injection.Failure
import FaultDrill.Proofs.Injection.Simulation
import FaultDrill.Proofs.Injection.Timing

/-!
# FaultDrill.Proofs.Injection.Repetition

**An injection says that it has done nothing just if that is so, and doing it again is nothing**
(`Injector.inject_noop_iff_quiet`). Whether a pause, a resumption or a partition has anything left
to do is a question to the ledger (`Injector.InEffect`). If it has not, the injection comes to
nothing on every site (`Injector.inject_of_inEffect`); and if it has, a success has asked for
something and says so, and the ledger then answers the question the other way
(`Injector.inject_settles`).

A partition is the one of the three that can be in effect in part. What it says is decided by
whether any of the peers was missing, and the missing ones are just those that a call is made for
(`Injector.cutOff_settles`).
-/

namespace FaultDrill

variable {σ : Type} {site : Site σ} {s : σ}

/-- An event that can be in effect already: a pause, a resumption, or a partition. -/
def Event.IsRepeatable (e : Event) : Prop :=
  match e.fault with
  | .pause | .resume | .partition _ => True
  | .kill | .delay _ | .corrupt _ => False

namespace Injector

/-- Whether the ledger has it that there is nothing left to do for an event. -/
def InEffect (j : Injector) (e : Event) : Prop :=
  match e.fault with
  | .pause => j.ledger.paused.contains e.target = true
  | .resume => j.ledger.paused.get? e.target = none
  | .partition peers =>
    (∃ here, j.registry.endpoint e.target = .ok here) ∧
      ∀ peer ∈ peers.toList, j.ledger.partitions.contains (e.target, peer) = true
  | .kill | .delay _ | .corrupt _ => False

/-! ### Nothing left to do -/

theorem cutOff_of_held {j : Injector} {target : String} {peers : List String}
    (h : ∀ peer ∈ peers, j.ledger.partitions.contains (target, peer) = true) (here : Endpoint)
    (any : Bool) : cutOff site j target here any peers s = (.ok any, j, s) := by
  induction peers with
  | nil => rfl
  | cons peer rest ih =>
      obtain ⟨hpeer, hrest⟩ := List.forall_mem_cons.mp h
      rw [cutOff, if_pos hpeer]
      exact ih hrest

/-- What is in effect is left as it is, and nothing is asked of the site. -/
theorem inject_of_inEffect {j : Injector} {e : Event} (h : j.InEffect e) :
    inject site j e s = (.ok { noop := true }, j, s) := by
  unfold InEffect at h
  unfold inject
  cases hfault : e.fault with
  | kill | delay | corrupt =>
      rw [hfault] at h
      cases h
  | pause =>
      rw [hfault] at h
      exact if_pos h
  | resume =>
      rw [hfault] at h
      dsimp only at h ⊢
      rw [resume, h]
  | partition peers =>
      rw [hfault] at h
      obtain ⟨⟨here, hhere⟩, hheld⟩ := h
      dsimp only
      rw [partition, hhere]
      dsimp only
      rw [cutOff_of_held hheld]
      rfl

/-! ### Something to do -/

/-- A success that says that something has been done, and it has. -/
def Acts (site : Site σ) (s : σ) (r : InjectionRecord) (s' : σ) : Prop :=
  r.noop = false ∧ ∃ notes, site.Trace s notes s' ∧ ∃ note ∈ notes, note.isCall = true

theorem signal_calls (site : Site σ) (j : Injector) (target name : String) (pid : UInt32)
    (g : Signal) (s : σ) : ∃ notes, site.Trace s notes (signal site j target name pid g s).2 ∧
      ∃ note ∈ notes, note.isCall = true := by
  obtain ⟨answers, hne, htrace⟩ := signal_trace site j target name pid g s
  obtain ⟨answer, hanswer⟩ := List.exists_mem_of_ne_nil answers hne
  exact ⟨_, htrace, _, List.mem_map_of_mem hanswer, rfl⟩

theorem pause_settles {j : Injector} {target : String} {r : InjectionRecord}
    (h : (pause site j target s).1 = .ok r) :
    (pause site j target s).2.1.ledger.paused.contains target = true ∧
      (j.ledger.paused.contains target = true ∨ Acts site s r (pause site j target s).2.2) := by
  obtain ⟨reads, hreads, -⟩ := resolvePid_trace site j target s
  generalize hpause : pause site j target s = yielded at h ⊢
  cases pause_cases hpause with
  | held hheld => exact ⟨hheld, .inl hheld⟩
  | unresolved | failed => cases h
  | @paused s₁ _ pid _ hresolve hsignal =>
      obtain ⟨sent, hsent, note, hnote, hcall⟩ := signal_calls site j target "pause" pid .stop s₁
      rw [hresolve] at hreads
      rw [hsignal] at hsent
      obtain rfl := Except.ok.inj h
      refine ⟨?_, .inr ⟨rfl, reads ++ sent, hreads.append hsent, note, ?_, hcall⟩⟩
      · exact congrArg Option.isSome (j.ledger.paused.get?_insert_self target pid)
      · exact List.mem_append_right reads hnote

theorem resume_settles {j : Injector} {target : String} {r : InjectionRecord}
    (h : (resume site j target s).1 = .ok r) :
    (resume site j target s).2.1.ledger.paused.get? target = none ∧
      (j.ledger.paused.get? target = none ∨ Acts site s r (resume site j target s).2.2) := by
  generalize hresume : resume site j target s = yielded at h ⊢
  cases resume_cases hresume with
  | running hnone => exact ⟨hnone, .inl hnone⟩
  | failed => cases h
  | resumed pid _ hsignal =>
      obtain ⟨sent, hsent, hcall⟩ := signal_calls site j target "resume" pid .resume s
      rw [hsignal] at hsent
      obtain rfl := Except.ok.inj h
      exact ⟨j.ledger.paused.get?_erase_self target, .inr ⟨rfl, sent, hsent, hcall⟩⟩

/-- Cutting a target off from peers says that any was cut off just if one of them was missing, and
for that one a call has been made. -/
theorem cutOff_settles (site : Site σ) (j : Injector) (target : String) (here : Endpoint)
    (any : Bool) (peers : List String) (s : σ) (cut : Bool) :
    (cutOff site j target here any peers s).1 = .ok cut →
      (∀ peer ∈ peers, j.ledger.partitions.contains (target, peer) = true) ∨
      cut = true ∧ ∃ notes, site.Trace s notes (cutOff site j target here any peers s).2.2 ∧
        ∃ note ∈ notes, note.isCall = true := by
  induction peers generalizing j any s with
  | nil => exact fun _ => .inl nofun
  | cons peer rest ih =>
      unfold cutOff
      split
      · next hheld =>
        intro h
        exact (ih j any s h).imp_left fun hrest => List.forall_mem_cons.mpr ⟨hheld, hrest⟩
      · split
        · intro h
          cases h
        · next there _ =>
          obtain ⟨tried, htrace, hblocks, hok, -⟩ :=
            Retry.run_block_trace site j.settings target here there s
          split
          · intro h
            cases h
          · next s₁ heq =>
            intro h
            rw [heq] at htrace hok
            have hfirst : .block here there (some (.ok ())) ∈ tried :=
              List.mem_of_mem_filter (by rw [hok rfl]; exact List.mem_singleton_self _)
            rcases ih { j with ledger.partitions :=
                j.ledger.partitions.insert (target, peer) (here, there) } true s₁ h with
              hrest | ⟨hcut, notes, hnotes, -⟩
            · rw [cutOff_of_held hrest] at h ⊢
              exact .inr ⟨(Except.ok.inj h).symm, tried, htrace, _, hfirst, rfl⟩
            · exact .inr ⟨hcut, tried ++ notes, htrace.append hnotes, _,
                List.mem_append_left notes hfirst, rfl⟩

theorem partition_settles {j : Injector} {target : String} {peers : NameSet} {r : InjectionRecord}
    (h : (partition site j target peers s).1 = .ok r) :
    (∃ here, (partition site j target peers s).2.1.registry.endpoint target = .ok here) ∧
      (∀ peer ∈ peers.toList, (partition site j target peers s).2.1.ledger.partitions.contains
        (target, peer) = true) ∧
      ((∀ peer ∈ peers.toList, j.ledger.partitions.contains (target, peer) = true) ∨
        Acts site s r (partition site j target peers s).2.2) := by
  obtain ⟨-, partitions, hafter⟩ :=
    partition_keeps site.keeps_true.toNetworkKeeps j target peers (s := s) trivial
  rw [hafter]
  generalize hpartition : partition site j target peers s = yielded at h hafter ⊢
  cases partition_cases hpartition with
  | homeless | stopped => cases h
  | @cut any after s₁ here hhere hcut =>
      obtain rfl := Except.ok.inj h
      obtain rfl : after = _ := hafter
      have hledger := NetworkView.cutOff_ledger site j target here false peers.toList s
      have hsettled := cutOff_settles site j target here false peers.toList s
      rw [hcut] at hledger hsettled
      rcases hledger with ⟨b, -, hnow⟩ | ⟨e, herror, -⟩
      · refine ⟨⟨here, hhere⟩, hnow.cut, (hsettled any rfl).imp_right ?_⟩
        rintro ⟨rfl, hacts⟩
        exact ⟨rfl, hacts⟩
      · cases herror

/-- A success leaves nothing to do, and if there was something to do before, it has done so and says
so. -/
theorem inject_settles {j : Injector} {e : Event} (he : e.IsRepeatable) {r : InjectionRecord}
    (h : (inject site j e s).1 = .ok r) :
    (inject site j e s).2.1.InEffect e ∧
      (j.InEffect e ∨ Acts site s r (inject site j e s).2.2) := by
  unfold Event.IsRepeatable at he
  unfold InEffect
  unfold inject at h ⊢
  cases hfault : e.fault with
  | kill | delay | corrupt =>
      rw [hfault] at he
      cases he
  | pause =>
      rw [hfault] at h
      exact pause_settles h
  | resume =>
      rw [hfault] at h
      exact resume_settles h
  | partition peers =>
      rw [hfault] at h
      obtain ⟨hhere, hnow, hbefore⟩ := partition_settles h
      refine ⟨⟨hhere, hnow⟩, hbefore.imp_left fun hheld => ⟨?_, hheld⟩⟩
      obtain ⟨-, partitions, hafter⟩ :=
        partition_keeps site.keeps_true.toNetworkKeeps j e.target peers (s := s) trivial
      rwa [hafter] at hhere

/-- A success has either done nothing and asked for nothing, or done something and asked for it. -/
theorem asked_settles {j : Injector} {e : Event} (he : e.IsRepeatable) {r : InjectionRecord}
    (h : (inject site j e s).1 = .ok r) :
    (j.InEffect e ∧ r.noop = true ∧ ∀ note ∈ asked site j e s, note.isCall = false) ∨
      (r.noop = false ∧ ∃ note ∈ asked site j e s, note.isCall = true) := by
  have hlogged : (inject site.logged j e (s, [])).1 = .ok r := by
    rw [inject_logged]
    exact h
  rcases (inject_settles he hlogged).2 with heffect | ⟨hnoop, notes, htrace, hcall⟩
  · obtain rfl := Except.ok.inj ((congrArg Prod.fst (inject_of_inEffect heffect)).symm.trans h)
    refine .inl ⟨heffect, rfl, ?_⟩
    rw [asked, inject_of_inEffect heffect]
    exact List.forall_mem_nil _
  · rw [asked_eq htrace]
    exact .inr ⟨hnoop, hcall⟩

/-- **An injection says that it has done nothing just if that is so, and doing it again is
nothing.** Whatever a ledger has in it, a pause, a resumption or a partition that succeeds says so
just if it has made no call for processes or connections, and then the ledger is as it was. After it
has succeeded, the same event comes to nothing on any site: nothing is asked for, and nothing
changes. -/
theorem inject_noop_iff_quiet {e : Event} (he : e.IsRepeatable) (site : Site σ) (j : Injector)
    (s : σ) :
    let run := inject site j e s
    ((∃ r, run.1 = .ok r ∧ r.noop = true) ↔
      (∃ r, run.1 = .ok r) ∧ ∀ note ∈ asked site j e s, note.isCall = false) ∧
    (∀ r, run.1 = .ok r → r.noop = true → run.2.1 = j) ∧
    ∀ r, run.1 = .ok r → ∀ {τ : Type} (other : Site τ) (t : τ),
      inject other run.2.1 e t = (.ok { noop := true }, run.2.1, t) ∧
        asked other run.2.1 e t = [] := by
  intro run
  refine ⟨?_, ?_, ?_⟩
  · constructor
    · rintro ⟨r, hok, hnoop⟩
      rcases asked_settles he hok with ⟨-, -, hquiet⟩ | ⟨hacts, -⟩
      · exact ⟨⟨r, hok⟩, hquiet⟩
      · cases hacts.symm.trans hnoop
    · rintro ⟨⟨r, hok⟩, hquiet⟩
      rcases asked_settles he hok with ⟨-, hnoop, -⟩ | ⟨-, note, hnote, hcall⟩
      · exact ⟨r, hok, hnoop⟩
      · cases hcall.symm.trans (hquiet note hnote)
  · intro r hok hnoop
    rcases asked_settles he hok with ⟨heffect, -⟩ | ⟨hacts, -⟩
    · have hsame : run = _ := inject_of_inEffect heffect
      rw [hsame]
    · cases hacts.symm.trans hnoop
  · intro r hok τ other t
    have heffect := (inject_settles he hok).1
    refine ⟨inject_of_inEffect heffect, ?_⟩
    rw [asked, inject_of_inEffect heffect]

/-- An injector that has cut off one of two peers. -/
def partlyCut : Injector × Sandbox :=
  performAll Sandbox.site (.new NetworkView.cutSettings) {}
    [.inject ⟨"1", "a", .partition (.ofList ["b"])⟩]

/-- The partition from both peers. -/
def wholePartition : Event := ⟨"2", "a", .partition (.ofList ["b", "c"])⟩

/-- A partition that is in effect in part makes one call and does not say that it has done nothing.
After it, the same partition does nothing. -/
theorem inject_noop_iff_quiet_overlap :
    let run := inject Sandbox.site partlyCut.1 wholePartition partlyCut.2
    wholePartition.IsRepeatable ∧ run.1 = .ok {} ∧
      (asked Sandbox.site partlyCut.1 wholePartition partlyCut.2).length = 1 ∧
      inject Sandbox.site run.2.1 wholePartition run.2.2 = (.ok { noop := true }, run.2) := by
  intro run
  have hrepeatable : wholePartition.IsRepeatable := trivial
  have hok : run.1 = .ok {} := by decide +kernel
  have hcalls : (asked Sandbox.site partlyCut.1 wholePartition partlyCut.2).length = 1 := by
    decide +kernel
  obtain ⟨-, -, hagain⟩ :=
    inject_noop_iff_quiet hrepeatable Sandbox.site partlyCut.1 partlyCut.2
  exact ⟨hrepeatable, hok, hcalls, (hagain {} hok Sandbox.site run.2.2).1⟩

end Injector

end FaultDrill
