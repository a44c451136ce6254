import Conveyor.Proofs.Runner.Handling
import Conveyor.Runner.Basic

/-!
# Draining

A drain polls every worker again and again until no message is acknowledged in a round.  That comes
to an end if every round that acknowledges something takes something off a measure; then a bound on
the rounds above the measure makes no difference.

* `Runner.Drains` — polling without a bound, until a round acknowledges nothing.
* **`Runner.drains_of_rounds`** — it ends if rounds take something off a measure, and a drain is the
  same if the measure begins within its bound.  Whatever is known of drains comes from this.
* `Plant.polled` — a plant in memory after polls; **`Runner.round_spec`** — what a round of them
  comes to.
* `Runner.mem_workers_new`, `Runner.exists_worker` — the workers of a runner over topologies: one
  for every partition of every stage, and no others.
* **`Runner.chainFrom_of_worker`** — the stages before a worker, and before the topic on which it
  hands records on.
-/

namespace Conveyor

variable {V : Type}

namespace Runner

/-! ## The workers of a runner -/

/-- A worker of a runner was made for a stage of one of its topologies. -/
theorem exists_new?_of_mem {topologies : List (Topology V)} {interval : Millis} {batch : Nat}
    {w : Worker V} (h : w ∈ (Runner.new topologies interval batch).workers) :
    ∃ t ∈ topologies, ∃ index partition, Worker.new? t index partition batch = some w := by
  obtain ⟨t, mem, h⟩ := List.mem_flatMap.1 h
  obtain ⟨index, -, h⟩ := List.mem_flatMap.1 h
  obtain ⟨partition, -, h⟩ := List.mem_filterMap.1 h
  exact ⟨t, mem, index, partition, h⟩

/-- **A worker of a runner** works on a stage of one of its topologies, and hands records on to the
next stage of it, if there is one. -/
theorem mem_workers_new {topologies : List (Topology V)} {interval : Millis} {batch : Nat}
    {w : Worker V} (h : w ∈ (Runner.new topologies interval batch).workers) :
    w.topology ∈ topologies ∧ ∃ before after,
      w.topology.stages = before ++ w.stage :: after ∧
      w.topic = stageTopic w.topology.name w.stage.name ∧
      w.next = after.head?.map fun stage => stageTopic w.topology.name stage.name := by
  obtain ⟨t, mem, index, partition, new⟩ := exists_new?_of_mem h
  obtain ⟨stage, found, rfl⟩ := Option.map_eq_some_iff.1 new
  obtain ⟨inside, found⟩ := List.getElem?_eq_some_iff.1 found
  refine ⟨mem, t.stages.take index, t.stages.drop (index + 1), ?_, rfl, ?_⟩
  · show t.stages = t.stages.take index ++ stage :: t.stages.drop (index + 1)
    rw [← found, ← List.drop_eq_getElem_cons inside, List.take_append_drop]
  · show t.topic? (index + 1) = _
    rw [Topology.topic?, List.head?_drop]

/-- Where there is a worker, there is a topic. -/
theorem length_topics_pos {topologies : List (Topology V)} {interval : Millis} {batch : Nat}
    {w : Worker V} (mem : w ∈ (Runner.new topologies interval batch).workers) :
    0 < (Runner.new topologies interval batch).topics.length := by
  obtain ⟨topology, before, after, stages, -⟩ := mem_workers_new mem
  refine List.length_pos_of_mem (a := stageTopic w.topology.name w.stage.name) ?_
  refine List.mem_flatMap.2 ⟨w.topology, topology, List.mem_map.2 ⟨w.stage, ?_, rfl⟩⟩
  rw [stages]
  exact List.mem_append_right _ List.mem_cons_self

/-- Workers of a runner claim the same number of messages at once, at least one. -/
theorem batch_of_mem_new {topologies : List (Topology V)} {interval : Millis} {batch : Nat}
    {w : Worker V} (h : w ∈ (Runner.new topologies interval batch).workers) :
    w.batch = max 1 batch := by
  obtain ⟨t, -, index, partition, new⟩ := exists_new?_of_mem h
  obtain ⟨stage, -, rfl⟩ := Option.map_eq_some_iff.1 new
  rfl

/-- **The way before a worker** begins with its stage, and goes on from the topic to which the
worker hands records on, if it does. -/
theorem chainFrom_of_worker {topologies : List (Topology V)}
    (distinct : (topologies.flatMap Topology.topics).Nodup) {interval : Millis} {batch : Nat}
    {w : Worker V} (mem : w ∈ (Runner.new topologies interval batch).workers) :
    ∃ rest, chainFrom topologies w.topic = w.stage :: rest ∧ (w.next = none → rest = []) ∧
      ∀ topic, w.next = some topic → chainFrom topologies topic = rest ∧
        ∃ stage ∈ w.topology.stages, topic = stageTopic w.topology.name stage.name := by
  obtain ⟨there, before, after, split, topic, next⟩ := mem_workers_new mem
  refine ⟨after, ?_, fun none => ?_, fun topic' some => ?_⟩
  · rw [topic]
    exact chainFrom_eq distinct there split
  · rw [next, Option.map_eq_none_iff, List.head?_eq_none_iff] at none
    exact none
  · rw [next, Option.map_eq_some_iff] at some
    obtain ⟨stage, first, rfl⟩ := some
    obtain ⟨last, rfl⟩ := List.head?_eq_some_iff.1 first
    have split' : w.topology.stages = (before ++ [w.stage]) ++ stage :: last := by
      rw [split, List.append_assoc]
      rfl
    refine ⟨chainFrom_eq distinct there split', stage, ?_, rfl⟩
    rw [split']
    exact List.mem_append_right _ (List.mem_cons_self ..)

/-- **Every partition of every stage** has a worker. -/
theorem exists_worker {topologies : List (Topology V)} {t : Topology V} (mem : t ∈ topologies)
    {stage : Stage V} (here : stage ∈ t.stages) {partition : Nat} (lt : partition < t.partitions)
    (interval : Millis) (batch : Nat) :
    ∃ w ∈ (Runner.new topologies interval batch).workers,
      w.topic = stageTopic t.name stage.name ∧ w.partition = partition := by
  obtain ⟨index, inside, rfl⟩ := List.mem_iff_getElem.1 here
  have found : t.stages[index]? = some t.stages[index] := List.getElem?_eq_getElem inside
  have bound : index < t.entries.length := by
    rw [Topology.stages, List.length_map] at inside
    exact inside
  refine ⟨{ topology := t, stage := t.stages[index],
            topic := stageTopic t.name t.stages[index].name, next := t.topic? (index + 1),
            partition := partition, batch := max 1 batch,
            batch_pos := Nat.lt_of_lt_of_le Nat.one_pos (Nat.le_max_left ..) }, ?_, rfl, rfl⟩
  refine List.mem_flatMap.2 ⟨t, mem, List.mem_flatMap.2 ⟨index, List.mem_range.2 bound, ?_⟩⟩
  refine List.mem_filterMap.2 ⟨partition, List.mem_range.2 lt, ?_⟩
  rw [Worker.new?, found]
  rfl

/-! ## Polling without a bound -/

section

variable {Q T N : Type} [MessageQueue Q] [TaskStore T] [NotificationSink N] [Clock V]
  {r : Runner V} {p p' q : Plant Q T N V} {k n limit : Nat}

/-- Polls without a bound on their number, until a round acknowledges nothing. -/
inductive Drains (r : Runner V) : Plant Q T N V → Nat → Plant Q T N V → Prop where
  | idle {p p' : Plant Q T N V} (round : r.poll p = (.ok 0, p')) : Drains r p 0 p'
  | again {p p' p'' : Plant Q T N V} {k n : Nat} (round : r.poll p = (.ok (k + 1), p'))
      (others : Drains r p' n p'') : Drains r p (k + 1 + n) p''

theorem drainWithin_of_idle (round : r.poll p = (.ok 0, q)) :
    r.drainWithin (limit + 1) p = (.ok 0, q) := by
  rw [drainWithin, Action.bind_of_ok round]
  rfl

theorem drainWithin_of_found (round : r.poll p = (.ok (k + 1), p'))
    (others : r.drainWithin limit p' = (.ok n, q)) :
    r.drainWithin (limit + 1) p = (.ok (k + 1 + n), q) := by
  rw [drainWithin, Action.bind_of_ok round, if_neg (Nat.succ_ne_zero k), Action.bind_of_ok others]
  rfl

/-- **Polling comes to an end** if every round answers, and takes something off a measure unless it
acknowledges nothing.  A bound on the rounds that is above the measure makes no difference then.
What the rounds keep holds in the end, and so does what a round shows that acknowledges nothing. -/
theorem drains_of_rounds {J : Nat → Plant Q T N V → Prop} {μ : Plant Q T N V → Nat}
    {F : Plant Q T N V → Prop}
    (round : ∀ n p, J n p → ∃ k p', r.poll p = (.ok k, p') ∧ J (n + k) p' ∧
      (k = 0 → F p') ∧ (k ≠ 0 → μ p' < μ p)) (h : J n p) :
    ∃ k q, r.Drains p k q ∧ (∀ limit, μ p < limit → r.drainWithin limit p = (.ok k, q)) ∧
      J (n + k) q ∧ F q := by
  induction measure : μ p using Nat.strong_induction_on generalizing n p with
  | h m ih =>
    subst measure
    obtain ⟨k, p', polled, kept, idle, less⟩ := round n p h
    cases k with
    | zero =>
      refine ⟨0, p', .idle polled, fun limit enough => ?_, kept, idle rfl⟩
      obtain ⟨limit, rfl⟩ := Nat.exists_eq_add_of_lt enough
      exact drainWithin_of_idle polled
    | succ k =>
      have less := less (Nat.succ_ne_zero k)
      obtain ⟨n', q, drains, within, kept, idle⟩ := ih (μ p') less kept rfl
      refine ⟨k + 1 + n', q, .again polled drains, fun limit enough => ?_, ?_, idle⟩
      · have positive : limit ≠ 0 := Nat.ne_of_gt (Nat.zero_lt_of_lt enough)
        obtain ⟨limit, rfl⟩ := Nat.exists_eq_succ_of_ne_zero positive
        exact drainWithin_of_found polled (within limit (by omega))
      · rw [← Nat.add_assoc]
        exact kept

end

end Runner

/-! ## Rounds in memory -/

section

variable [Clock V]

/-- A plant after polls, the first of which comes first. -/
def Plant.polled (p : MemoryPlant V) (ws : List (Worker V)) : MemoryPlant V :=
  ws.foldl (fun p w => (w.poll p).2) p

theorem Plant.polled_append (p : MemoryPlant V) (ws ws' : List (Worker V)) :
    p.polled (ws ++ ws') = (p.polled ws).polled ws' := List.foldl_append

/-- What every poll keeps, polls keep. -/
theorem Plant.polled_induction {P : MemoryPlant V → Prop} {ws : List (Worker V)}
    (step : ∀ w ∈ ws, ∀ p, P p → P (w.poll p).2) {p : MemoryPlant V} (h : P p) :
    P (p.polled ws) := by
  induction ws generalizing p with
  | nil => exact h
  | cons w rest ih =>
    exact ih (fun w mem => step w (List.mem_cons_of_mem _ mem)) (step w List.mem_cons_self p h)

namespace Runner

theorem poll_eq_ok (w : Worker V) (p : MemoryPlant V) :
    w.poll p = (.ok (w.batchOf p).length, (w.poll p).2) := by
  have answer := (w.poll_induction (I := fun _ _ => True) p trivial fun _ _ _ _ _ _ _ _ _ =>
    trivial).1
  rw [← answer]

/-- **A round of polls** keeps what a poll keeps.  It answers zero if nothing is found, and only
then; and then it changes nothing. -/
theorem round_spec {J : Nat → MemoryPlant V → Prop} (ws : List (Worker V))
    (step : ∀ w ∈ ws, ∀ n p, J n p → J (n + (w.batchOf p).length) (w.poll p).2) {n : Nat}
    {p : MemoryPlant V} (h : J n p) :
    ∃ k, Action.sum ws Worker.poll p = (.ok k, p.polled ws) ∧ J (n + k) (p.polled ws) ∧
      (k = 0 ↔ ∀ w ∈ ws, w.batchOf p = []) ∧ (k = 0 → p.polled ws = p) := by
  induction ws generalizing n p with
  | nil => exact ⟨0, rfl, h, by simp, fun _ => rfl⟩
  | cons w rest ih =>
    obtain ⟨k, run, kept, idle, still⟩ :=
      ih (fun w mem => step w (List.mem_cons_of_mem _ mem)) (step w List.mem_cons_self n p h)
    refine ⟨(w.batchOf p).length + k, ?_, ?_, ⟨fun zero => ?_, fun none => ?_⟩, fun zero => ?_⟩
    · rw [Action.sum, Action.bind_of_ok (poll_eq_ok w p), Action.bind_of_ok run]
      rfl
    · rw [← Nat.add_assoc]
      exact kept
    · have none : w.batchOf p = [] := List.length_eq_zero_iff.1 (by omega)
      rw [Worker.poll_of_batch_nil none] at idle
      exact List.forall_mem_cons.2 ⟨none, idle.1 (by omega)⟩
    · obtain ⟨none, others⟩ := List.forall_mem_cons.1 none
      rw [Worker.poll_of_batch_nil none] at idle
      rw [none, idle.2 others]
      rfl
    · have none : w.batchOf p = [] := List.length_eq_zero_iff.1 (by omega)
      have same : (w.poll p).2 = p := by rw [Worker.poll_of_batch_nil none]
      show (w.poll p).2.polled rest = p
      rw [still (by omega), same]

/-- A round of polls answers zero only if nothing is found. -/
theorem sum_poll (ws : List (Worker V)) (p : MemoryPlant V) :
    ∃ k, Action.sum ws Worker.poll p = (.ok k, p.polled ws) ∧
      (k = 0 ↔ ∀ w ∈ ws, w.batchOf p = []) ∧ (k = 0 → p.polled ws = p) := by
  obtain ⟨k, run, -, rest⟩ :=
    round_spec (J := fun _ _ => True) ws (n := 0) (p := p) (fun _ _ _ _ _ => trivial) trivial
  exact ⟨k, run, rest⟩

end Runner

end

end Conveyor
