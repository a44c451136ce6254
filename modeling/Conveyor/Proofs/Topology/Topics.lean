import Conveyor.Topology.Basic
import Mathlib.Data.List.Basic
import Mathlib.Data.List.Nodup
import Mathlib.Data.List.Pairwise

/-!
# Topics

The topic of a stage is made of two names with a dot between them.  Within a topology no two stages
have the same topic, since no two have the same name.  Of different topologies two stages may have
the same topic, and they do in one way only: the name of one topology goes on where the other ends,
and what it goes on with stands in front of the name of the stage of the other.

* `stageTopic_eq_iff` — when two stages have the same topic.
* `Topology.topic?_inj`, `Topology.nodup_topics` — the topics of one topology.
* `Topology.Crosses` — a topology and another one that goes on where it ends.
* `Topology.Uncrossed` — that there is no such pair; **`Topology.uncrossed_of_plain`** — there is
  none if the names of the stages have no dots, or those of the topologies.
* **`Topology.nodup_topics_iff`** — the topics of several topologies.
-/

namespace Conveyor

variable {V : Type}

/-! ## The topics of one topology -/

theorem stageTopic_injective (topology : String) : Function.Injective (stageTopic topology) := by
  intro a b same
  have same := congrArg String.toList same
  simp only [stageTopic, String.toList_append] at same
  exact String.toList_injective (List.append_cancel_left same)

namespace Topology

variable {t : Topology V} {i j : Nat} {topic : String}

theorem topics_getElem? (t : Topology V) (i : Nat) : t.topics[i]? = t.topic? i :=
  List.getElem?_map ..

theorem mem_topics (h : t.topic? i = some topic) : topic ∈ t.topics :=
  List.mem_of_getElem? (by rw [topics_getElem?, h])

theorem nodup_topics (t : Topology V) : t.topics.Nodup := by
  have names := t.names_nodup
  have topics : t.topics = (t.entries.map fun e => e.stage.name).map (stageTopic t.name) := by
    rw [topics, stages, List.map_map, List.map_map]
    rfl
  rw [topics]
  exact names.map (stageTopic_injective t.name)

/-- Every topic belongs to one stage. -/
theorem topic?_inj (h : t.topic? i = some topic) (h' : t.topic? j = some topic) : i = j := by
  rw [← topics_getElem?] at h h'
  obtain ⟨inside, same⟩ := List.getElem?_eq_some_iff.1 h
  obtain ⟨inside', same'⟩ := List.getElem?_eq_some_iff.1 h'
  exact (t.nodup_topics.getElem_inj_iff).1 (same.trans same'.symm)

theorem topic?_zero (t : Topology V) : t.topic? 0 = some t.entryTopic := by
  obtain ⟨first, rest, entries⟩ := List.exists_cons_of_ne_nil t.entries_ne_nil
  simp [topic?, entryTopic, stages, entries]

end Topology

/-! ## The topics of several topologies -/

/-- If two texts that are cut at the same character make up the same text, they are cut at the same
place, or one of them further on. -/
theorem append_cons_eq_append_cons_iff {α : Type} {a b a' b' : List α} {c : α} :
    a ++ c :: b = a' ++ c :: b' ↔ (a = a' ∧ b = b') ∨
      (∃ more, a' = a ++ c :: more ∧ b = more ++ c :: b') ∨
        ∃ more, a = a' ++ c :: more ∧ b' = more ++ c :: b := by
  rw [List.append_eq_append_iff]
  constructor
  · rintro (⟨between, rfl, rest⟩ | ⟨between, rfl, rest⟩)
    · cases between with
      | nil => exact .inl ⟨(List.append_nil a).symm, (List.cons.inj rest).2⟩
      | cons d more =>
        obtain ⟨rfl, rfl⟩ := List.cons.inj rest
        exact .inr (.inl ⟨more, rfl, rfl⟩)
    · cases between with
      | nil => exact .inl ⟨List.append_nil a', (List.cons.inj rest).2.symm⟩
      | cons d more =>
        obtain ⟨rfl, rfl⟩ := List.cons.inj rest
        exact .inr (.inr ⟨more, rfl, rfl⟩)
  · rintro (⟨rfl, rfl⟩ | ⟨more, rfl, rfl⟩ | ⟨more, rfl, rfl⟩)
    · exact .inl ⟨[], (List.append_nil a).symm, rfl⟩
    · exact .inl ⟨c :: more, rfl, rfl⟩
    · exact .inr ⟨c :: more, rfl, rfl⟩

theorem toList_stageTopic (a b : String) :
    (stageTopic a b).toList = a.toList ++ '.' :: b.toList := by
  simp [stageTopic]

/-- **Two stages have the same topic** if their names are the same, or if one topology goes on with
what stands in front of the name of the other's stage. -/
theorem stageTopic_eq_iff {a b a' b' : String} :
    stageTopic a b = stageTopic a' b' ↔ (a = a' ∧ b = b') ∨
      (∃ more, a' = stageTopic a more ∧ b = stageTopic more b') ∨
        ∃ more, a = stageTopic a' more ∧ b' = stageTopic more b := by
  have texts : ∀ a b : String, ∀ c : List Char, a.toList = b.toList ++ '.' :: c ↔
      a = stageTopic b (String.ofList c) := by
    intro a b c
    rw [← String.toList_inj, toList_stageTopic, String.toList_ofList]
  have texts' : ∀ a b : String, ∀ c : List Char, a.toList = c ++ '.' :: b.toList ↔
      a = stageTopic (String.ofList c) b := by
    intro a b c
    rw [← String.toList_inj, toList_stageTopic, String.toList_ofList]
  have given : ∀ p : String → Prop, (∃ c, p (String.ofList c)) ↔ ∃ more, p more := by
    intro p
    refine ⟨fun ⟨c, h⟩ => ⟨_, h⟩, fun ⟨more, h⟩ => ⟨more.toList, ?_⟩⟩
    rwa [String.ofList_toList]
  rw [← String.toList_inj, toList_stageTopic, toList_stageTopic, append_cons_eq_append_cons_iff]
  simp only [texts, texts', String.toList_inj]
  rw [given fun more => a' = stageTopic a more ∧ b = stageTopic more b',
    given fun more => a = stageTopic a' more ∧ b' = stageTopic more b]

namespace Topology

variable {t t' : Topology V} {topologies : List (Topology V)}

/-- A topology and another one whose name goes on where that of the first one ends, with what stands
in front of the name of a stage: the two wait on one topic. -/
def Crosses (t t' : Topology V) : Prop :=
  ∃ more, t'.name = stageTopic t.name more ∧
    ∃ stage ∈ t.stages, ∃ stage' ∈ t'.stages, stage.name = stageTopic more stage'.name

/-- No two topologies cross. -/
def Uncrossed (topologies : List (Topology V)) : Prop :=
  ∀ t ∈ topologies, ∀ t' ∈ topologies, ¬ t.Crosses t'

theorem exists_shared_iff (apart : t.name ≠ t'.name) :
    (∃ topic ∈ t.topics, topic ∈ t'.topics) ↔ t.Crosses t' ∨ t'.Crosses t := by
  have shared : (∃ topic ∈ t.topics, topic ∈ t'.topics) ↔ ∃ stage ∈ t.stages,
      ∃ stage' ∈ t'.stages, stageTopic t'.name stage'.name = stageTopic t.name stage.name := by
    simp [topics]
  rw [shared]
  constructor
  · rintro ⟨stage, mem, stage', mem', same⟩
    rcases stageTopic_eq_iff.1 same with ⟨name, -⟩ | ⟨more, name, own⟩ | ⟨more, name, own⟩
    · exact absurd name.symm apart
    · exact .inr ⟨more, name, stage', mem', stage, mem, own⟩
    · exact .inl ⟨more, name, stage, mem, stage', mem', own⟩
  · rintro (crosses | crosses)
    · obtain ⟨more, name, stage, mem, stage', mem', own⟩ := crosses
      exact ⟨stage, mem, stage', mem', stageTopic_eq_iff.2 (.inr (.inr ⟨more, name, own⟩))⟩
    · obtain ⟨more, name, stage', mem', stage, mem, own⟩ := crosses
      exact ⟨stage, mem, stage', mem', stageTopic_eq_iff.2 (.inr (.inl ⟨more, name, own⟩))⟩

/-- No topology crosses one of the same name. -/
theorem Crosses.name_ne (h : t.Crosses t') : t.name ≠ t'.name := by
  obtain ⟨more, name, -⟩ := h
  intro same
  have lengths := congrArg (fun text : String => text.toList.length) (same.trans name)
  simp only [toList_stageTopic, List.length_append, List.length_cons] at lengths
  omega

/-- **Without dots** in the names of the stages, or in those of the topologies, no topology goes on
where another one ends. -/
theorem uncrossed_of_plain
    (plain : (∀ t ∈ topologies, ∀ stage ∈ t.stages, '.' ∉ stage.name.toList) ∨
      ∀ t ∈ topologies, '.' ∉ t.name.toList) : Uncrossed topologies := by
  rintro t mem t' mem' ⟨more, name, stage, here, stage', -, own⟩
  rcases plain with plain | plain
  · refine plain t mem stage here ?_
    rw [own, toList_stageTopic]
    exact List.mem_append_right _ List.mem_cons_self
  · refine plain t' mem' ?_
    rw [name, toList_stageTopic]
    exact List.mem_append_right _ List.mem_cons_self

/-- **No topic comes twice** in topologies of different names, if no two of them cross. -/
theorem nodup_topics_iff (named : (topologies.map (·.name)).Nodup) :
    (topologies.flatMap topics).Nodup ↔ Uncrossed topologies := by
  have apart : topologies.Pairwise fun t t' => t.name ≠ t'.name := List.pairwise_map.1 named
  rw [List.nodup_flatMap, and_iff_right fun t _ => t.nodup_topics]
  constructor
  · intro disjoint t mem t' mem' crosses
    have names := crosses.name_ne
    have other : t ≠ t' := fun same => names (congrArg name same)
    obtain ⟨topic, here, there⟩ := (exists_shared_iff names).2 (.inl crosses)
    have symmetric : Std.Symm (Function.onFun List.Disjoint (@topics V)) :=
      ⟨fun _ _ disjoint topic one other => disjoint other one⟩
    exact disjoint.forall mem mem' other here there
  · intro clear
    refine apart.imp_of_mem fun {t t'} mem mem' names topic here there => ?_
    rcases (exists_shared_iff names).1 ⟨topic, here, there⟩ with crosses | crosses
    · exact clear t mem t' mem' crosses
    · exact clear t' mem' t mem crosses

end Topology

end Conveyor
