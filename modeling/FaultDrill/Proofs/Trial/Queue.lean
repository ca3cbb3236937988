import FaultDrill.Proofs.Trial.Protocol
import Mathlib.Data.List.SplitBy

/-!
# FaultDrill.Proofs.Trial.Queue

**How far a sequence of reports comes in a queue of events** (`EventQueue.takeAll_reaches`). The
queue falls into runs of events with one checkpoint, and the checkpoints of the runs are its stops.
A report takes the first run if it is of the first stop, and nothing otherwise. So the reports come
as far as the longest prefix of the stops that they have in them as a subsequence, and no event is
taken out of its turn.

Taking a stop at the first report of it is never too early: whatever else of the reports would make
this stop can make it now and leave more reports for the stops that follow. That is why no other
choice of reports comes further, and it is what `List.cons_sublist_cons` says.
-/

namespace FaultDrill.EventQueue

/-! ### Runs and stops -/

/-- The runs of a queue: as many events in a row as possible that have one checkpoint. -/
def runs (queue : EventQueue) : List (List Event) :=
  queue.splitBy fun e e' => e.checkpoint = e'.checkpoint

/-- The checkpoints of the runs, in their order. -/
def stops (queue : EventQueue) : List Checkpoint :=
  queue.runs.filterMap fun run => run.head?.map (·.checkpoint)

variable {id : Checkpoint} {e : Event} {rest : EventQueue}

theorem runs_append {due left : EventQueue} (hne : due ≠ [])
    (hdue : ∀ e ∈ due, e.checkpoint = id) (hleft : ∀ e ∈ left.head?, e.checkpoint ≠ id) :
    runs (due ++ left) = due :: runs left := by
  have hone : due.IsChain fun e e' => decide (e.checkpoint = e'.checkpoint) = true := by
    refine (List.pairwise_of_forall_mem_list ?_).isChain
    intro e he e' he'
    simp [hdue e he, hdue e' he']
  have happart : ∀ e ∈ due.getLast?, ∀ e' ∈ left.head?,
      decide (e.checkpoint = e'.checkpoint) = false := by
    intro e he e' he'
    have hlast : e.checkpoint = id := hdue e (List.mem_of_mem_getLast? he)
    rw [hlast]
    simpa using (hleft e' he').symm
  show (due ++ left).splitBy _ = due :: left.splitBy _
  rw [List.splitBy_append happart, List.splitBy_of_isChain hne hone]
  rfl

theorem head_takeDue_ne (h : e ∈ (takeDue id rest).2.head?) : e.checkpoint ≠ id := by
  have hnot := List.head?_dropWhile_not (fun e => decide (e.checkpoint = id)) rest
  have hhead : (rest.dropWhile fun e => decide (e.checkpoint = id)).head? = some e := h
  rw [hhead] at hnot
  simpa using hnot

/-- The first run is what a report of the first checkpoint takes. -/
theorem runs_cons (e : Event) (rest : EventQueue) :
    runs (e :: rest) = (takeDue e.checkpoint (e :: rest)).1 ::
      runs (takeDue e.checkpoint (e :: rest)).2 := by
  have hne : (takeDue e.checkpoint (e :: rest)).1 ≠ [] := by simp [takeDue_cons rfl]
  rw [← runs_append hne (fun _ => mem_takeDue) fun _ => head_takeDue_ne, takeDue_append]

theorem stops_cons (e : Event) (rest : EventQueue) :
    stops (e :: rest) = e.checkpoint :: stops (takeDue e.checkpoint (e :: rest)).2 := by
  simp [stops, runs_cons, takeDue_cons]

@[simp] theorem flatten_runs (queue : EventQueue) : queue.runs.flatten = queue :=
  List.flatten_splitBy _ queue

theorem ne_nil_of_mem_runs {run : List Event} {queue : EventQueue} (h : run ∈ queue.runs) :
    run ≠ [] :=
  List.ne_nil_of_mem_splitBy h

theorem length_stops (queue : EventQueue) : queue.stops.length = queue.runs.length := by
  rw [stops, List.length_filterMap_eq_countP, List.countP_eq_length]
  intro run hrun
  simp [ne_nil_of_mem_runs hrun]

/-- A report of another checkpoint than the first takes nothing. -/
theorem takeDue_of_ne (h : e.checkpoint ≠ id) : takeDue id (e :: rest) = ([], e :: rest) := by
  simp [takeDue, h]

/-! ### Reports -/

/-- What reports take in turn: the first `n` runs, where the reports have a prefix of the stops in
them exactly if it has at most `n` stops. -/
theorem takeAll_eq_runs (reports : List Checkpoint) (queue : EventQueue) :
    ∃ n,
      takeAll reports queue = ((queue.runs.take n).flatten, (queue.runs.drop n).flatten) ∧
      ∀ p, p <+: queue.stops → (p.Sublist reports ↔ p.length ≤ n) := by
  induction reports generalizing queue with
  | nil =>
      refine ⟨0, by simp [takeAll], ?_⟩
      intro p _
      simp
  | cons id reports ih =>
      cases queue with
      | nil =>
          obtain ⟨n, htaken, -⟩ := ih []
          refine ⟨n, by simp [takeAll, takeDue, htaken], ?_⟩
          intro p hp
          obtain rfl : p = [] := by simpa [stops, runs] using hp
          simp
      | cons e rest =>
          by_cases he : e.checkpoint = id
          · subst he
            obtain ⟨n, htaken, hreach⟩ := ih (takeDue e.checkpoint (e :: rest)).2
            refine ⟨n + 1, ?_, ?_⟩
            · simp [takeAll, htaken, runs_cons e rest]
            · intro p hp
              rw [stops_cons] at hp
              cases p with
              | nil => simp
              | cons id p =>
                  obtain ⟨rfl, hrest⟩ := List.cons_prefix_cons.mp hp
                  -- the first stop may be made by this report, whichever report made it before
                  rw [List.cons_sublist_cons, hreach p hrest]
                  simp
          · obtain ⟨n, htaken, hreach⟩ := ih (e :: rest)
            refine ⟨n, ?_, ?_⟩
            · simp [takeAll, takeDue_of_ne he, htaken]
            · intro p hp
              rw [← hreach p hp]
              rw [stops_cons] at hp
              cases p with
              | nil => simp
              | cons id' p =>
                  -- the report is not of the first stop, so no prefix has it for its first one
                  obtain ⟨rfl, -⟩ := List.cons_prefix_cons.mp hp
                  simp [List.cons_sublist_cons', he]

/-- The longest prefix of some stops that reports have in them as a subsequence. -/
structure IsReached (reports stops p : List Checkpoint) : Prop where
  isPrefix : p <+: stops
  sublist : p.Sublist reports
  longest : ∀ p', p' <+: stops → p'.Sublist reports → p' <+: p

/-- **Reports come as far in a queue as they can.** What they take in turn are the events of the
runs whose stops are the longest prefix of all stops that the reports have in them, one run after
the other; the rest of the queue is left. So all events are taken exactly if the reports have all
stops in them. -/
theorem takeAll_reaches (reports : List Checkpoint) (queue : EventQueue) :
    (∃ n, IsReached reports queue.stops (queue.stops.take n) ∧
      takeAll reports queue = ((queue.runs.take n).flatten, (queue.runs.drop n).flatten)) ∧
    ((takeAll reports queue).1 = queue ↔ queue.stops.Sublist reports) ∧
    ((takeAll reports queue).2 = [] ↔ queue.stops.Sublist reports) := by
  obtain ⟨n, htaken, hreach⟩ := takeAll_eq_runs reports queue
  have hall : (queue.runs.drop n).flatten = [] ↔ queue.stops.Sublist reports := by
    rw [hreach queue.stops List.prefix_rfl, length_stops, ← List.drop_eq_nil_iff,
      List.flatten_eq_nil_iff]
    constructor
    · intro hempty
      refine List.eq_nil_iff_forall_not_mem.mpr fun run hrun => ?_
      exact ne_nil_of_mem_runs (List.mem_of_mem_drop hrun) (hempty run hrun)
    · intro hnil run hrun
      simp [hnil] at hrun
  refine ⟨⟨n, ⟨List.take_prefix n _, ?_, ?_⟩, htaken⟩, ?_, ?_⟩
  · rw [hreach _ (List.take_prefix n _)]
    exact List.length_take_le n _
  · intro p hp hreports
    rw [List.prefix_take_iff]
    exact ⟨hp, (hreach p hp).mp hreports⟩
  · have hsplit : (queue.runs.take n).flatten ++ (queue.runs.drop n).flatten = queue := by
      rw [← List.flatten_append, List.take_append_drop, flatten_runs]
    rw [← hall, htaken]
    constructor
    · intro hfired
      change (queue.runs.take n).flatten = queue at hfired
      rw [hfired] at hsplit
      exact List.append_right_eq_self.mp hsplit
    · intro hnil
      simpa [hnil] using hsplit
  · rw [htaken, hall]

end FaultDrill.EventQueue
