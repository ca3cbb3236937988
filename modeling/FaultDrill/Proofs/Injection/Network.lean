import FaultDrill.Proofs.Injection.Calls
import FaultDrill.Proofs.Injection.Healing
import FaultDrill.Proofs.Injection.Sandbox
import Mathlib.Data.Multiset.AddSub

/-!
# FaultDrill.Proofs.Injection.Network

**The ledger of the partitions is the network** (`rules_eq_partitions`). A rule comes into being and
into the ledger by the same step, and it goes with its entry; so the rules and the endpoints in the
ledger are the same, each as often as the other. No rule is there twice, since the names of its two
endpoints are the key of its entry (`Synced`). A target is cut off from its peers one after the
other, which can stop at any of them; then it is the earlier ones that have been cut off
(`cutOff_spec`).
-/

namespace FaultDrill

variable {σ : Type}

/-- The rules of a network as the operations of a site show them: a success adds or takes away one
rule, and a failure, or running out of time, has no effect. -/
structure NetworkView (site : Site σ) where
  /-- The connections that are cut, each as often as it has been cut. -/
  rules : σ → Multiset (Endpoint × Endpoint)
  processes : site.ProcessFrame rules
  files : site.FileFrame rules
  block_ok : ∀ deadline a b s, (site.block deadline a b s).1 = some (.ok ()) →
    rules (site.block deadline a b s).2 = (a, b) ::ₘ rules s
  block_failed : ∀ deadline a b s, (site.block deadline a b s).1 ≠ some (.ok ()) →
    rules (site.block deadline a b s).2 = rules s
  unblock_ok : ∀ deadline a b s, (site.unblock deadline a b s).1 = some (.ok ()) →
    rules (site.unblock deadline a b s).2 = (rules s).erase (a, b)
  unblock_failed : ∀ deadline a b s, (site.unblock deadline a b s).1 ≠ some (.ok ()) →
    rules (site.unblock deadline a b s).2 = rules s

namespace Sandbox

/-- The connections that are cut in a sandbox. -/
def cuts (s : Sandbox) : Multiset (Endpoint × Endpoint) :=
  s.rules

theorem cuts_next (s : Sandbox) : s.next.cuts = s.cuts := rfl

theorem cuts_erase (s : Sandbox) (pair : Endpoint × Endpoint) :
    cuts { s with rules := s.rules.erase pair } = s.cuts.erase pair := by
  -- the two only differ in how pairs are compared
  have hbeq : instBEqProd = instBEqOfDecidableEq (α := Endpoint × Endpoint) :=
    lawful_beq_subsingleton _ _
  unfold cuts
  rw [Multiset.coe_erase, hbeq]

/-- The rules of a sandbox. -/
def networkView : NetworkView site where
  rules := cuts
  processes := ⟨fun _ _ => rfl, fun _ _ _ => change_frame cuts_next fun _ => rfl, fun _ _ => rfl,
    fun _ _ => rfl⟩
  files := ⟨fun _ _ _ => rfl, fun _ _ _ => rfl, fun _ _ _ _ => rfl, fun _ _ _ => rfl⟩
  block_ok _ _ _ _ h := congrArg cuts (change_of_ok h)
  block_failed _ _ _ s h := (congrArg cuts (change_of_not_ok h)).trans (cuts_next s)
  unblock_ok _ a b s h := (congrArg cuts (change_of_ok h)).trans (cuts_erase s (a, b))
  unblock_failed _ _ _ s h := (congrArg cuts (change_of_not_ok h)).trans (cuts_next s)

end Sandbox

/-- The partitions of a ledger: the endpoints of a target and a peer under their names. -/
abbrev Partitions := SortedMap (String × String) (Endpoint × Endpoint)

namespace NetworkView

open Injector

variable {site : Site σ} (view : NetworkView site)

/-! ### The invariant -/

/-- The rules are the endpoints of the entries, and these bear the names of their entry. -/
structure Synced (entries : List ((String × String) × Endpoint × Endpoint)) (s : σ) : Prop where
  rules : view.rules s = (entries.map (·.2) : List (Endpoint × Endpoint))
  names : ∀ e ∈ entries, (e.2.1.name, e.2.2.name) = e.1

variable {view} {s s' : σ} {entries rest : List ((String × String) × Endpoint × Endpoint)}

theorem Synced.perm {l l' : List ((String × String) × Endpoint × Endpoint)} (hperm : l.Perm l')
    (h : view.Synced l s) : view.Synced l' s where
  rules := h.rules.trans (Multiset.coe_eq_coe.2 (hperm.map _))
  names e he := h.names e (hperm.mem_iff.2 he)

theorem Synced.of_rules (h : view.Synced entries s) (heq : view.rules s' = view.rules s) :
    view.Synced entries s' where
  rules := heq.trans h.rules
  names := h.names

/-- The names tell the rules apart as the keys do. -/
theorem Synced.nodup {m : Partitions} (h : view.Synced m.toList s) : (view.rules s).Nodup := by
  have hkeys : (m.toList.map (·.2)).map (fun pair => (pair.1.name, pair.2.name)) =
      m.toList.map (·.1) := by
    rw [List.map_map]
    exact List.map_congr_left h.names
  rw [h.rules, Multiset.coe_nodup]
  exact List.Nodup.of_map _ (hkeys ▸ m.nodup_keys)

/-! ### Cutting off -/

theorem ofAddress?_name {name address : String} {e : Endpoint}
    (h : Endpoint.ofAddress? name address = some e) : e.name = name := by
  obtain ⟨⟨host, digits⟩, -, hport⟩ := Option.bind_eq_some_iff.1 h
  obtain ⟨port, -, hhost⟩ := Option.bind_eq_some_iff.1 hport
  dsimp only at hhost
  split at hhost
  · cases hhost
  · obtain rfl := Option.some.inj hhost
    rfl

/-- An endpoint bears the name under which it is looked up. -/
theorem endpoint_name {r : Registry} {name : String} {e : Endpoint} (h : r.endpoint name = .ok e) :
    e.name = name := by
  unfold Registry.endpoint at h
  split at h
  · cases h
  · split at h
    · cases h
    · split at h
      · next e' hread =>
        obtain rfl := Except.ok.inj h
        exact ofAddress?_name hread
      · cases h

/-- What cutting a target off from peers has made of the partitions: nothing is lost, the peers that
are done are there, and nothing else is new. -/
structure CutOff (target : String) (done : List String) (before after : Partitions) : Prop where
  kept : ∀ key pair, before.get? key = some pair → after.get? key = some pair
  cut : ∀ peer ∈ done, after.contains (target, peer) = true
  only : ∀ key, after.contains key = true →
    before.contains key = true ∨ key.1 = target ∧ key.2 ∈ done

theorem CutOff.refl (target : String) (m : Partitions) : CutOff target [] m m :=
  ⟨fun _ _ h => h, fun _ h => absurd h List.not_mem_nil, fun _ h => .inl h⟩

/-- A peer that is cut off already may be passed over. -/
theorem CutOff.skip {target peer : String} {done : List String} {before after : Partitions}
    (hheld : before.contains (target, peer) = true) (h : CutOff target done before after) :
    CutOff target (peer :: done) before after := by
  refine ⟨h.kept, fun p hp => ?_, fun key hkey => ?_⟩
  · rcases List.mem_cons.1 hp with rfl | hp
    · obtain ⟨pair, hpair⟩ := Option.isSome_iff_exists.1 hheld
      exact Option.isSome_iff_exists.2 ⟨pair, h.kept _ _ hpair⟩
    · exact h.cut p hp
  · exact (h.only key hkey).imp_right fun ⟨htarget, hdone⟩ =>
      ⟨htarget, List.mem_cons_of_mem _ hdone⟩

/-- One more peer is cut off, and then the others. -/
theorem CutOff.insert {target peer : String} {done : List String} {before after : Partitions}
    {pair : Endpoint × Endpoint} (hnew : before.contains (target, peer) = false)
    (h : CutOff target done (before.insert (target, peer) pair) after) :
    CutOff target (peer :: done) before after := by
  have hother : ∀ key, key ≠ (target, peer) →
      (before.insert (target, peer) pair).get? key = before.get? key := fun key hne =>
    before.get?_insert_of_ne pair fun heq => hne (Std.LawfulEqOrd.eq_of_compare heq)
  refine ⟨fun key old hold => ?_, fun p hp => ?_, fun key hkey => ?_⟩
  · exact h.kept key old (SortedMap.get?_insert_of_new hnew hold)
  · rcases List.mem_cons.1 hp with rfl | hp
    · exact Option.isSome_iff_exists.2 ⟨pair, h.kept _ _ (before.get?_insert_self _ pair)⟩
    · exact h.cut p hp
  · rcases h.only key hkey with hbefore | ⟨htarget, hdone⟩
    · by_cases hself : key = (target, peer)
      · exact .inr ⟨congrArg Prod.fst hself, by rw [hself]; exact List.mem_cons_self⟩
      · refine .inl ?_
        rwa [SortedMap.contains, hother key hself] at hbefore
    · exact .inr ⟨htarget, List.mem_cons_of_mem _ hdone⟩

/-- What is left when cutting a target off from peers stops midway: the peers before the one that it
stops at are cut off, that one is not, and nothing else is new. -/
def CutShort (target : String) (peers : List String) (before after : Partitions) : Prop :=
  ∃ earlier peer later, peers = earlier ++ peer :: later ∧
    CutOff target earlier before after ∧ after.contains (target, peer) = false

/-- How far cutting a target off from peers has come. -/
theorem cutOff_ledger (site : Site σ) (j : Injector) (target : String) (here : Endpoint) (any : Bool)
    (peers : List String) (s : σ) :
    (∃ b, (cutOff site j target here any peers s).1 = .ok b ∧ CutOff target peers
      j.ledger.partitions (cutOff site j target here any peers s).2.1.ledger.partitions) ∨
    ∃ e, (cutOff site j target here any peers s).1 = .error e ∧ CutShort target peers
      j.ledger.partitions (cutOff site j target here any peers s).2.1.ledger.partitions := by
  induction peers generalizing j any s with
  | nil => exact .inl ⟨any, rfl, .refl target _⟩
  | cons peer rest ih =>
      unfold cutOff
      split
      · next hheld =>
        rcases ih j any s with ⟨b, hok, hcut⟩ | ⟨e, herror, earlier, p, later, rfl, hcut, hp⟩
        · exact .inl ⟨b, hok, hcut.skip hheld⟩
        · exact .inr ⟨e, herror, peer :: earlier, p, later, rfl, hcut.skip hheld, hp⟩
      · next hnew =>
        rw [Bool.not_eq_true] at hnew
        split
        · exact .inr ⟨_, rfl, [], peer, rest, rfl, .refl target _, hnew⟩
        · next there _ =>
          split
          · exact .inr ⟨_, rfl, [], peer, rest, rfl, .refl target _, hnew⟩
          · next s₁ _ =>
            rcases ih { j with
                ledger.partitions := j.ledger.partitions.insert (target, peer) (here, there) } true s₁
              with ⟨b, hok, hcut⟩ | ⟨e, herror, earlier, p, later, rfl, hcut, hp⟩
            · exact .inl ⟨b, hok, hcut.insert hnew⟩
            · exact .inr ⟨e, herror, peer :: earlier, p, later, rfl, hcut.insert hnew, hp⟩

/-- A partition that fails has either not begun or stops midway. -/
theorem partition_error {j : Injector} {target : String} {peers : NameSet} {e : InjectionError}
    (h : (partition site j target peers s).1 = .error e) :
    (j.registry.endpoint target = .error e ∧ (partition site j target peers s).2 = (j, s)) ∨
      CutShort target peers.toList j.ledger.partitions
        (partition site j target peers s).2.1.ledger.partitions := by
  generalize hpartition : partition site j target peers s = yielded at h ⊢
  cases partition_cases hpartition with
  | homeless hhere =>
      obtain rfl := Except.error.inj h
      exact .inl ⟨hhere, rfl⟩
  | stopped here _ hcut =>
      have hledger := cutOff_ledger site j target here false peers.toList s
      rw [hcut] at hledger
      rcases hledger with ⟨b, hok, -⟩ | ⟨e', -, hshort⟩
      · cases hok
      · exact .inr hshort
  | cut => cases h

/-! ### The network -/

/-- A retried action changes the rules as one successful try does, or not at all. -/
theorem run_rules {act : Action σ}
    {f : Multiset (Endpoint × Endpoint) → Multiset (Endpoint × Endpoint)}
    (hok : ∀ deadline s, (act deadline s).1 = some (.ok ()) →
      view.rules (act deadline s).2 = f (view.rules s))
    (hfailed : ∀ deadline s, (act deadline s).1 ≠ some (.ok ()) →
      view.rules (act deadline s).2 = view.rules s)
    (settings : InjectorSettings) (target name : String) (s : σ) :
    (∃ s', Retry.run site settings target name act s = (.ok (), s') ∧
      view.rules s' = f (view.rules s)) ∨
    ∃ e s', Retry.run site settings target name act s = (.error e, s') ∧
      view.rules s' = view.rules s := by
  rcases Retry.run_cases (Q := fun s₁ => view.rules s₁ = view.rules s)
      (fun n s₁ h => (view.processes.sleep n s₁).trans h)
      (fun deadline s₁ h hne => (hfailed deadline s₁ hne).trans h) settings target name rfl with
    ⟨deadline, s₁, hsame, hanswer, heq⟩ | ⟨e, s₁, hsame, heq⟩
  · refine .inl ⟨_, heq, ?_⟩
    rw [hok deadline s₁ hanswer, hsame]
  · exact .inr ⟨e, s₁, heq, hsame⟩

/-- A new rule and its new entry keep the ledger and the network the same. -/
theorem Synced.insert {m : Partitions} {here there : Endpoint}
    (hnew : m.contains (here.name, there.name) = false) (h : view.Synced m.toList s)
    (hrules : view.rules s' = (here, there) ::ₘ view.rules s) :
    view.Synced (m.insert (here.name, there.name) (here, there)).toList s' := by
  refine Synced.perm (SortedMap.perm_insert _ hnew).symm ⟨?_, fun e he => ?_⟩
  · rw [hrules, h.rules]
    rfl
  · rcases List.mem_cons.1 he with rfl | he
    · rfl
    · exact h.names e he

theorem synced_cutOff {j : Injector} (h : view.Synced j.ledger.partitions.toList s)
    (here : Endpoint) (any : Bool) (peers : List String) :
    view.Synced (cutOff site j here.name here any peers s).2.1.ledger.partitions.toList
      (cutOff site j here.name here any peers s).2.2 := by
  induction peers generalizing j any s with
  | nil => exact h
  | cons peer rest ih =>
      unfold cutOff
      split
      · exact ih h any
      · next hnew =>
        rw [Bool.not_eq_true] at hnew
        split
        · exact h
        · next there hthere =>
          obtain rfl := endpoint_name hthere
          rcases view.run_rules (fun deadline s => view.block_ok deadline here there s)
              (fun deadline s => view.block_failed deadline here there s) j.settings here.name
              "partition" s with ⟨s₁, heq, hrules⟩ | ⟨e, s₁, heq, hrules⟩
          · rw [heq]
            exact ih (h.insert hnew hrules) true
          · rw [heq]
            exact h.of_rules hrules

theorem synced_partition {j : Injector} (h : view.Synced j.ledger.partitions.toList s)
    (target : String) (peers : NameSet) :
    view.Synced (partition site j target peers s).2.1.ledger.partitions.toList
      (partition site j target peers s).2.2 := by
  generalize hpartition : partition site j target peers s = yielded
  cases partition_cases hpartition with
  | homeless => exact h
  | stopped here hhere hcut | cut here hhere hcut =>
      obtain rfl := endpoint_name hhere
      have hsynced := synced_cutOff h here false peers.toList
      rwa [hcut] at hsynced

theorem synced_inject {j : Injector} (h : view.Synced j.ledger.partitions.toList s) (e : Event) :
    view.Synced (inject site j e s).2.1.ledger.partitions.toList (inject site j e s).2.2 := by
  cases hfault : e.fault with
  | kill | pause | resume =>
      have he : e.fault.isSignal = true := by rw [hfault]; rfl
      obtain ⟨hsame, paused, heq⟩ := signal_fault_frame view.processes j e he s
      rw [heq]
      exact h.of_rules hsame
  | delay duration =>
      rw [inject_delay hfault]
      exact h
  | partition peers =>
      unfold inject
      rw [hfault]
      exact synced_partition h e.target peers
  | corrupt c =>
      obtain ⟨hsame, corrupted, heq⟩ := damage_frame view.files j e.target c s
      unfold inject
      rw [hfault]
      dsimp only
      rw [heq]
      exact h.of_rules hsame

/-! ### Healing -/

/-- Restoring a connection takes away its rule; if it cannot be restored, no rule has changed. -/
theorem undoPartition_cases (view : NetworkView site) (j : Injector)
    (entry : (String × String) × Endpoint × Endpoint) (s : σ) :
    (∃ s', undoPartition site j entry s = (none, s') ∧
      view.rules s' = (view.rules s).erase entry.2) ∨
    ∃ message s', undoPartition site j entry s = (some message, s') ∧
      view.rules s' = view.rules s := by
  unfold undoPartition
  rcases view.run_rules (fun deadline s => view.unblock_ok deadline entry.2.1 entry.2.2 s)
      (fun deadline s => view.unblock_failed deadline entry.2.1 entry.2.2 s) j.settings entry.1.1
      "heal_partition" s with ⟨s₁, heq, hrules⟩ | ⟨e, s₁, heq, hrules⟩
  · rw [heq]
    exact .inl ⟨s₁, rfl, hrules⟩
  · rw [heq]
    exact .inr ⟨_, s₁, rfl, hrules⟩

/-- An entry that is undone goes with its rule. -/
theorem Synced.done {j : Injector} {entry : (String × String) × Endpoint × Endpoint}
    (hundo : undoPartition site j entry s = (none, s')) (h : view.Synced (entry :: rest) s) :
    view.Synced rest s' := by
  refine ⟨?_, fun e he => h.names e (List.mem_cons_of_mem _ he)⟩
  rcases view.undoPartition_cases j entry s with ⟨s₁, heq, hrules⟩ | ⟨message, s₁, heq, -⟩
  · rw [hundo] at heq
    obtain ⟨-, rfl⟩ := Prod.mk.inj heq
    rw [hrules, h.rules, List.map_cons, ← Multiset.cons_coe, Multiset.erase_cons_head]
  · rw [hundo] at heq
    cases heq

/-- An entry that cannot be undone keeps its rule. -/
theorem Synced.kept {j : Injector} {entry : (String × String) × Endpoint × Endpoint}
    {message : String} (hundo : undoPartition site j entry s = (some message, s'))
    (h : view.Synced (entry :: rest) s) : view.Synced (entry :: rest) s' := by
  rcases view.undoPartition_cases j entry s with ⟨s₁, heq, -⟩ | ⟨message', s₁, heq, hrules⟩
  · rw [hundo] at heq
    cases heq
  · rw [hundo] at heq
    obtain ⟨-, rfl⟩ := Prod.mk.inj heq
    exact h.of_rules hrules

theorem synced_healAll {j : Injector} (h : view.Synced j.ledger.partitions.toList s) :
    view.Synced (healAll site j s).2.1.ledger.partitions.toList (healAll site j s).2.2 := by
  have hpauses : view.rules (undonePauses site j s).2 = view.rules s :=
    undoAll_frame (undoPause_frame view.processes j) _ s
  have hdamage : view.rules (undoneDamage site j s).2 = view.rules (undonePartitions site j s).2 :=
    undoAll_frame (undoDamage_frame view.files) _ _
  rw [partitions_healAll, state_healAll]
  refine Synced.of_rules ?_ hdamage
  exact undoAll_invariant_self (P := view.Synced) (fun _ _ _ => Synced.perm)
    (fun _ _ _ _ => Synced.done) (fun _ _ _ _ _ => Synced.kept) (h.of_rules hpauses)

/-! ### Runs -/

theorem synced_perform {j : Injector} (h : view.Synced j.ledger.partitions.toList s) (c : Call) :
    view.Synced (perform site j s c).1.ledger.partitions.toList (perform site j s c).2 := by
  cases c with
  | register name pid => exact h
  | inject e => exact synced_inject h e
  | heal => exact synced_healAll h
  | reset => exact h

/-- From a network without rules on, whatever calls an injector has had. -/
theorem synced_performAll {settings : InjectorSettings} {j : Injector} {s₀ : σ} {calls : List Call}
    (hrules : view.rules s₀ = 0) (hrun : performAll site (.new settings) s₀ calls = (j, s)) :
    view.Synced j.ledger.partitions.toList s := by
  have hstart : view.Synced (Injector.new settings).ledger.partitions.toList s₀ :=
    ⟨hrules, fun e he => absurd he List.not_mem_nil⟩
  have hnow := performAll_invariant
    (P := fun j s => view.Synced j.ledger.partitions.toList s)
    (fun _ _ c h => synced_perform h c) hstart calls
  rwa [hrun] at hnow

/-- The rules of a network are just those of the ledger of an injector, and none is there twice. -/
structure Mirrors (view : NetworkView site) (j : Injector) (s : σ) : Prop where
  rules : view.rules s = (j.ledger.partitions.toList.map (·.2) : List (Endpoint × Endpoint))
  nodup : (view.rules s).Nodup

theorem Synced.mirrors {j : Injector} (h : view.Synced j.ledger.partitions.toList s) :
    view.Mirrors j s :=
  ⟨h.rules, h.nodup⟩

/-- **The ledger of the partitions is the network.** Whatever calls an injector has had on a network
without rules, the rules are those of its ledger, and none is there twice. So a healing without
failures leaves no rule; and a partition that fails on one of the peers leaves just the earlier
peers cut off, in the ledger as in the network. -/
theorem rules_eq_partitions {settings : InjectorSettings} {j : Injector} {s₀ : σ}
    {calls : List Call} (hrules : view.rules s₀ = 0)
    (hrun : performAll site (.new settings) s₀ calls = (j, s)) :
    view.Mirrors j s ∧
    ((j.healAll site s).1 = [] → view.rules (j.healAll site s).2.2 = 0) ∧
    ∀ id target peers e, (j.inject site ⟨id, target, .partition peers⟩ s).1 = .error e →
      (j.registry.endpoint target = .error e ∧
        (j.inject site ⟨id, target, .partition peers⟩ s).2 = (j, s)) ∨
      (CutShort target peers.toList j.ledger.partitions
          (j.inject site ⟨id, target, .partition peers⟩ s).2.1.ledger.partitions ∧
        view.Mirrors (j.inject site ⟨id, target, .partition peers⟩ s).2.1
          (j.inject site ⟨id, target, .partition peers⟩ s).2.2) := by
  have hnow := synced_performAll hrules hrun
  refine ⟨hnow.mirrors, fun hnil => ?_, fun id target peers e herror => ?_⟩
  · obtain ⟨-, hpartitions, -⟩ := healAll_eq_nil_iff.1 hnil
    have hhealed := (synced_healAll hnow).rules
    rw [partitions_healAll, hpartitions] at hhealed
    exact hhealed
  · rcases partition_error herror with hunresolved | hshort
    · exact .inl hunresolved
    · exact .inr ⟨hshort, (synced_inject hnow ⟨id, target, .partition peers⟩).mirrors⟩

/-- Three targets with addresses, and one retry. -/
def cutSettings : InjectorSettings :=
  { (default : InjectorSettings) with
    retryMaxAttempts := 1
    targets := ["a", "b", "c"].map fun name => { name := name, address := some "host:1" } }

/-- A sandbox that cuts one connection, and then fails, runs out of time, and fails again. -/
def cutStart : Sandbox where
  replies := [.done, .failed, .late, .failed]

/-- The injector and the sandbox after a partition whose second peer cannot be cut off. -/
def cutRun : Injector × Sandbox :=
  performAll Sandbox.site (.new cutSettings) cutStart
    [.inject ⟨"1", "a", .partition (.ofList ["b", "c"])⟩]

/-- A partition from these peers and one that is no target. -/
def cutAgain : Event := ⟨"2", "a", .partition (.ofList ["b", "c", "d"])⟩

/-- One rule is there, healing takes it away in the second try, and the other partition stops at the
last peer. -/
theorem rules_eq_partitions_midway : cutRun.2.rules.length = 1 ∧
    Sandbox.networkView.rules (cutRun.1.healAll Sandbox.site cutRun.2).2.2 = 0 ∧
    CutShort "a" ["b", "c", "d"] cutRun.1.ledger.partitions
      (cutRun.1.inject Sandbox.site cutAgain cutRun.2).2.1.ledger.partitions := by
  have hrules : Sandbox.networkView.rules cutStart = 0 := rfl
  have hrun : performAll Sandbox.site (.new cutSettings) cutStart
      [.inject ⟨"1", "a", .partition (.ofList ["b", "c"])⟩] = (cutRun.1, cutRun.2) := rfl
  obtain ⟨-, hhealed, hshort⟩ := rules_eq_partitions hrules hrun
  refine ⟨by decide +kernel, hhealed (by decide +kernel), ?_⟩
  rcases hshort "2" "a" (.ofList ["b", "c", "d"]) (.targetNotFound (.unknown "d"))
    (by decide +kernel) with ⟨herror, -⟩ | ⟨hcut, -⟩
  · exact absurd herror (by decide +kernel)
  · exact hcut

end NetworkView

end FaultDrill
