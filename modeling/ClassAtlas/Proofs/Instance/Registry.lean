import ClassAtlas.Instance.Registry
import ClassAtlas.Proofs.Instance.Run
import Mathlib.Data.List.Dedup

/-! Runs of the instance registry. Whatever is done to it, it is a queue of distinct ids
within its bound: an insertion puts its id behind all others, and where there is no room
the id in front leaves. One action of the registry keeps this, in `Follows.perform`. -/
namespace ClassAtlas

/-- Something that is done to a registry. An instance that is looked up by its id may be
changed in place, by actions of its own. -/
inductive RegistryAction where
  | insert (i : ProgramInstance)
  | setMaxInstances (maxInstances : Nat)
  | unload (id : String)
  | unloadAll
  | change (id : String) (a : Action)

def RegistryAction.inserted? : RegistryAction → Option String
  | insert i => some i.id
  | _ => none

/-- The instance that was inserted last under an id, as it is after an action. -/
def RegistryAction.track (id : String) (known : Option ProgramInstance) :
    RegistryAction → Option ProgramInstance
  | insert i => if i.id = id then some i else known
  | change other a => if other = id then known.map fun i => i.perform a else known
  | _ => known

/-- Each id once, in the order of the latest insertions: of equal ids the last one counts. -/
def insertionOrder (history : List RegistryAction) : List String :=
  (history.filterMap RegistryAction.inserted?).dedup

/-- The instance given to the latest insertion of an id, with what was done to it since. -/
def latest (history : List RegistryAction) (id : String) : Option ProgramInstance :=
  history.foldl (RegistryAction.track id) none

@[simp] theorem latest_append (history : List RegistryAction) (a : RegistryAction) (id : String) :
    latest (history ++ [a]) id = a.track id (latest history id) := by
  simp [latest]

theorem dedup_append_singleton (ids : List String) (id : String) :
    (ids ++ [id]).dedup = ids.dedup.filter (· ≠ id) ++ [id] := by
  induction ids with
  | nil => simp
  | cons first rest ih =>
    rw [List.cons_append]
    by_cases repeated : first ∈ rest
    · rw [List.dedup_cons_of_mem (List.mem_append_left _ repeated), ih,
        List.dedup_cons_of_mem repeated]
    · by_cases same : first = id
      · rw [List.dedup_cons_of_mem (by simp [same]), ih, List.dedup_cons_of_notMem repeated]
        simp [same]
      · rw [List.dedup_cons_of_notMem (by simp [same, repeated]), ih,
          List.dedup_cons_of_notMem repeated]
        simp [same]

theorem insertionOrder_insert (history : List RegistryAction) (i : ProgramInstance) :
    insertionOrder (history ++ [.insert i]) =
      (insertionOrder history).filter (· ≠ i.id) ++ [i.id] := by
  rw [insertionOrder, List.filterMap_append]
  exact dedup_append_singleton _ _

theorem insertionOrder_of_none {a : RegistryAction} (nothing : a.inserted? = none)
    (history : List RegistryAction) :
    insertionOrder (history ++ [a]) = insertionOrder history := by
  simp [insertionOrder, nothing]

namespace InstanceRegistry

def perform (r : InstanceRegistry) : RegistryAction → InstanceRegistry
  | .insert i => (r.insert i).2
  | .setMaxInstances maxInstances => (r.setMaxInstances maxInstances).2
  | .unload id => (r.unload id).2
  | .unloadAll => r.unloadAll.2
  | .change id a => r.modify id fun i => i.perform a

def run (r : InstanceRegistry) (history : List RegistryAction) : InstanceRegistry :=
  history.foldl perform r

/-! What the operations do to the list of instances. -/

theorem evict_ids (r : InstanceRegistry) : r.evict.1 ++ r.evict.2.ids = r.ids := by
  simp only [evict, ids, ← List.map_append, List.take_append_drop]

theorem size_evict (r : InstanceRegistry) : r.evict.2.size = min r.size r.maxInstances := by
  simp only [evict, size, List.length_drop]
  omega

theorem length_ids (r : InstanceRegistry) : r.ids.length = r.size := List.length_map _

theorem evicted_eq (r : InstanceRegistry) :
    r.evict.1 = r.ids.take (r.size - r.maxInstances) := List.map_take

theorem instances_evict (r : InstanceRegistry) : r.evict.2.instances.Sublist r.instances :=
  List.drop_sublist _ _

theorem eraseP_eq_filter {instances : List ProgramInstance}
    (distinct : (instances.map ProgramInstance.id).Nodup) (id : String) :
    (instances.eraseP fun i => i.id = id) = instances.filter fun i => i.id ≠ id := by
  induction instances with
  | nil => rfl
  | cons first rest ih =>
    rw [List.map_cons, List.nodup_cons] at distinct
    by_cases same : first.id = id
    · have others : ∀ i ∈ rest, decide (i.id ≠ id) = true := by
        intro i listed
        rw [decide_eq_true_eq]
        rintro rfl
        exact distinct.1 (same ▸ List.mem_map_of_mem listed)
      rw [List.eraseP_cons_of_pos (by simp [same]), List.filter_cons_of_neg (by simp [same]),
        List.filter_eq_self.2 others]
    · rw [List.eraseP_cons_of_neg (by simp [same]), List.filter_cons_of_pos (by simp [same]),
        ih distinct.2]

theorem unload_eq {r : InstanceRegistry} (distinct : r.ids.Nodup) (id : String) :
    (r.unload id).2 = { r with instances := r.instances.filter fun i => i.id ≠ id } := by
  rw [unload, eraseP_eq_filter distinct]

theorem isSome_get?_iff {r : InstanceRegistry} {id : String} :
    (r.get? id).isSome ↔ id ∈ r.ids := by
  simp [get?, ids]

/-- The queue behind an insertion, before it is cut down to the bound. -/
def queued (r : InstanceRegistry) (i : ProgramInstance) : InstanceRegistry :=
  { r with instances := (r.instances.filter fun other => other.id ≠ i.id) ++ [i] }

theorem insert_eq {r : InstanceRegistry} (distinct : r.ids.Nodup) (i : ProgramInstance) :
    r.insert i = (r.queued i).evict := by
  rw [insert, unload_eq distinct]
  rfl

theorem map_id_filter (instances : List ProgramInstance) (id : String) :
    (instances.filter fun i => i.id ≠ id).map ProgramInstance.id =
      (instances.map ProgramInstance.id).filter (· ≠ id) := by
  rw [List.filter_map]
  rfl

theorem ids_queued (r : InstanceRegistry) (i : ProgramInstance) :
    (r.queued i).ids = r.ids.filter (· ≠ i.id) ++ [i.id] := by
  rw [ids, queued, List.map_append, map_id_filter]
  rfl

/-! The invariant. -/

/-- Instances that a history leads to: each as it was inserted last and changed since, in
the order of these insertions. -/
structure Lists (instances : List ProgramInstance) (history : List RegistryAction) : Prop where
  order : (instances.map ProgramInstance.id).Sublist (insertionOrder history)
  current : ∀ i ∈ instances, latest history i.id = some i

/-- A queue within its bound that a history leads to. -/
structure Follows (r : InstanceRegistry) (history : List RegistryAction) : Prop where
  bound_pos : 1 ≤ r.maxInstances
  size_le : r.size ≤ r.maxInstances
  lists : Lists r.instances history

theorem Lists.distinct {instances : List ProgramInstance} {history : List RegistryAction}
    (lists : Lists instances history) : (instances.map ProgramInstance.id).Nodup :=
  lists.order.nodup (List.nodup_dedup _)

theorem Lists.sublist {instances fewer : List ProgramInstance} {history : List RegistryAction}
    (lists : Lists instances history) (sub : fewer.Sublist instances) : Lists fewer history where
  order := (sub.map _).trans lists.order
  current i listed := lists.current i (sub.subset listed)

section Step
variable {instances : List ProgramInstance} {history : List RegistryAction}
  (lists : Lists instances history)
include lists

theorem Lists.insert (i : ProgramInstance) :
    Lists ((instances.filter fun other => other.id ≠ i.id) ++ [i])
      (history ++ [.insert i]) where
  order := by
    rw [insertionOrder_insert, List.map_append, map_id_filter]
    exact (lists.order.filter _).append (List.Sublist.refl _)
  current other listed := by
    rw [latest_append, RegistryAction.track]
    rcases List.mem_append.1 listed with kept | new
    · rw [List.mem_filter, decide_eq_true_eq] at kept
      rw [if_neg (Ne.symm kept.2)]
      exact lists.current other kept.1
    · rw [List.mem_singleton.1 new, if_pos rfl]

theorem Lists.change (id : String) (a : Action) :
    Lists (instances.map fun i => if i.id = id then i.perform a else i)
      (history ++ [.change id a]) where
  order := by
    have same : (instances.map fun i => if i.id = id then i.perform a else i).map
        ProgramInstance.id = instances.map ProgramInstance.id := by
      rw [List.map_map]
      apply List.map_congr_left
      intro i _
      dsimp only [Function.comp]
      split
      · exact i.id_perform a
      · rfl
    rw [same, insertionOrder_of_none rfl]
    exact lists.order
  current i listed := by
    obtain ⟨before, wasListed, rfl⟩ := List.mem_map.1 listed
    have known := lists.current before wasListed
    rw [latest_append, RegistryAction.track]
    split
    · next named => rw [before.id_perform a, known, if_pos named.symm, Option.map_some]
    · next other => rw [known, if_neg (Ne.symm other)]

/-- An action that neither inserts nor changes an instance leaves the list valid. -/
theorem Lists.idle {a : RegistryAction} (nothing : a.inserted? = none)
    (same : ∀ id known, a.track id known = known) : Lists instances (history ++ [a]) where
  order := by
    rw [insertionOrder_of_none nothing]
    exact lists.order
  current i listed := by
    rw [latest_append, same]
    exact lists.current i listed

end Step

theorem follows_evict {r : InstanceRegistry} {history : List RegistryAction}
    (bound_pos : 1 ≤ r.maxInstances) (lists : Lists r.instances history) :
    r.evict.2.Follows history where
  bound_pos := bound_pos
  size_le := by
    rw [size_evict]
    exact Nat.min_le_right _ _
  lists := lists.sublist r.instances_evict

section Follows
variable {r : InstanceRegistry} {history : List RegistryAction} (follows : r.Follows history)
include follows

theorem Follows.perform (a : RegistryAction) : (r.perform a).Follows (history ++ [a]) := by
  have fewer {kept : List ProgramInstance} (sub : kept.Sublist r.instances)
      (nothing : a.inserted? = none) (same : ∀ id known, a.track id known = known) :
      Follows { r with instances := kept } (history ++ [a]) :=
    ⟨follows.bound_pos, Nat.le_trans sub.length_le follows.size_le,
      (follows.lists.idle nothing same).sublist sub⟩
  cases a with
  | insert i =>
    rw [InstanceRegistry.perform, insert_eq follows.lists.distinct]
    exact follows_evict follows.bound_pos (follows.lists.insert i)
  | setMaxInstances maxInstances =>
    exact follows_evict (Nat.le_max_right _ _) (follows.lists.idle rfl fun _ _ => rfl)
  | unload id => exact fewer List.eraseP_sublist rfl fun _ _ => rfl
  | unloadAll => exact fewer (List.nil_sublist _) rfl fun _ _ => rfl
  | change id a =>
    refine ⟨follows.bound_pos, ?_, follows.lists.change id a⟩
    have kept : (r.perform (.change id a)).size = r.size := List.length_map _
    rw [kept]
    exact follows.size_le

/-- At most the oldest id leaves with an insertion, and none where the id was present. -/
theorem Follows.evicted_insert (i : ProgramInstance) :
    (r.insert i).1 = [] ∨
      i.id ∉ r.ids ∧ ∃ id, r.ids.head? = some id ∧ (r.insert i).1 = [id] := by
  have bound := follows.size_le
  rw [← length_ids] at bound
  have excess : (r.insert i).1 = (r.ids.filter (· ≠ i.id) ++ [i.id]).take
      ((r.ids.filter (· ≠ i.id)).length + 1 - r.maxInstances) := by
    rw [insert_eq follows.lists.distinct, evicted_eq, ← length_ids, ids_queued,
      List.length_append, List.length_singleton]
    rfl
  by_cases present : i.id ∈ r.ids
  · have shorter : (r.ids.filter (· ≠ i.id)).length < r.ids.length :=
      List.length_filter_lt_length_iff_exists.2 ⟨i.id, present, by simp⟩
    left
    rw [excess, Nat.sub_eq_zero_of_le (by omega), List.take_zero]
  · have others : r.ids.filter (· ≠ i.id) = r.ids := by
      rw [List.filter_eq_self]
      intro id listed
      rw [decide_eq_true_eq]
      rintro rfl
      exact present listed
    rw [others] at excess
    rcases Nat.lt_or_eq_of_le bound with room | full
    · left
      rw [excess, Nat.sub_eq_zero_of_le room, List.take_zero]
    · -- a full queue is not empty, since the bound is at least one
      right
      have nonempty : r.ids ≠ [] := by
        rw [← List.length_pos_iff, full]
        exact follows.bound_pos
      obtain ⟨oldest, rest, queue⟩ := List.exists_cons_of_ne_nil nonempty
      refine ⟨present, oldest, by rw [queue, List.head?_cons], ?_⟩
      rw [excess, full, Nat.add_sub_cancel_left, queue, List.cons_append, List.take_succ_cons,
        List.take_zero]

theorem Follows.get?_of_mem {id : String} (present : id ∈ r.ids) :
    ∃ i, r.get? id = some i ∧ latest history id = some i := by
  obtain ⟨i, found⟩ := Option.isSome_iff_exists.1 (isSome_get?_iff.2 present)
  have named : i.id = id := by simpa using List.find?_some found
  refine ⟨i, found, ?_⟩
  rw [← named]
  exact follows.lists.current i (List.mem_of_find?_eq_some found)

theorem Follows.run (later : List RegistryAction) : (r.run later).Follows (history ++ later) := by
  induction later generalizing r history with
  | nil => rwa [List.append_nil]
  | cons a rest ih =>
    have next := ih (follows.perform a)
    rwa [List.append_assoc] at next

end Follows

/-! What the operations that return something do to a queue. -/

/-- The inserted id goes behind all others and stays. Only the oldest may leave for it, and
not if it only takes its own place again. -/
structure Inserts (r : InstanceRegistry) (i : ProgramInstance) : Prop where
  queue : (r.insert i).1 ++ (r.insert i).2.ids = r.ids.filter (· ≠ i.id) ++ [i.id]
  kept : i.id ∉ (r.insert i).1
  replaced : i.id ∈ r.ids → (r.insert i).1 = []
  oldest : (r.insert i).1 = [] ∨ ∃ id, r.ids.head? = some id ∧ (r.insert i).1 = [id]

structure Resizes (r : InstanceRegistry) (maxInstances : Nat) : Prop where
  queue : (r.setMaxInstances maxInstances).1 ++ (r.setMaxInstances maxInstances).2.ids = r.ids
  size : (r.setMaxInstances maxInstances).2.size = min r.size (max maxInstances 1)

structure Removes (r : InstanceRegistry) (id : String) : Prop where
  found : (r.unload id).1 = true ↔ id ∈ r.ids
  others : (r.unload id).2 = { r with instances := r.instances.filter fun i => i.id ≠ id }

section Laws
variable {r : InstanceRegistry} {history : List RegistryAction} (follows : r.Follows history)
include follows

theorem Follows.inserts (i : ProgramInstance) : r.Inserts i where
  queue := by rw [insert_eq follows.lists.distinct, evict_ids, ids_queued]
  kept := by
    rcases follows.evicted_insert i with none_left | ⟨absent, id, isOldest, left⟩
    · simp [none_left]
    · rw [left, List.mem_singleton]
      rintro rfl
      exact absent (List.mem_of_mem_head? isOldest)
  replaced present := by
    rcases follows.evicted_insert i with none_left | ⟨absent, _⟩
    · exact none_left
    · exact absurd present absent
  oldest := (follows.evicted_insert i).imp_right And.right

theorem Follows.removes (id : String) : r.Removes id :=
  ⟨isSome_get?_iff, unload_eq follows.lists.distinct id⟩

end Laws

theorem resizes (r : InstanceRegistry) (maxInstances : Nat) : r.Resizes maxInstances :=
  ⟨evict_ids _, size_evict _⟩

/-- A registry is opened with a bound of its own or with the configured one. -/
inductive Opening where
  | bound (maxInstances : Nat)
  | config (c : ServiceConfig)

def Opening.registry : Opening → InstanceRegistry
  | bound maxInstances => new maxInstances
  | config c => ofConfig c

theorem Opening.follows_nil (o : Opening) : o.registry.Follows [] := by
  have follows (maxInstances : Nat) : (new maxInstances).Follows [] :=
    ⟨Nat.le_max_right _ _, Nat.zero_le _, List.nil_sublist _, nofun⟩
  cases o with
  | bound maxInstances => exact follows maxInstances
  | config c => exact follows c.maxInstances.toNat

/-- In every state of every run the registry is a queue of distinct ids within its bound,
each with the instance of its latest insertion, and its operations treat it as one. -/
theorem queue_run (o : Opening) (history : List RegistryAction) :
    (o.registry.run history).Follows history ∧
      (o.registry.run history).ids.Nodup ∧
      (∀ id ∈ (o.registry.run history).ids, ∃ i,
        (o.registry.run history).get? id = some i ∧ latest history id = some i) ∧
      (∀ i, (o.registry.run history).Inserts i) ∧
      (∀ maxInstances, (o.registry.run history).Resizes maxInstances) ∧
      ∀ id, (o.registry.run history).Removes id := by
  have follows : (o.registry.run history).Follows history := o.follows_nil.run history
  exact ⟨follows, follows.lists.distinct, fun _ => follows.get?_of_mem, follows.inserts,
    resizes _, follows.removes⟩

example (p : Provider) :
    let fresh (id : String) : ProgramInstance := ⟨id, "", p, none⟩
    let history : List RegistryAction :=
      [.insert (fresh "a"), .insert (fresh "b"), .insert (fresh "a"), .insert (fresh "c")]
    ((new 2).run history).ids = ["a", "c"] ∧ insertionOrder history = ["b", "a", "c"] := by
  cbv

end InstanceRegistry

end ClassAtlas
