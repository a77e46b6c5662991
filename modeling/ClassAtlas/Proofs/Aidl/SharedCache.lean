import ClassAtlas.Graph
import ClassAtlas.Proofs.Aidl.Cache

/-! Lookups that share one cache. A lookup asks the cache, computes and stores, and
between its steps there may be any steps of others. The cache is locked for each
access, so an access is one step, and a computation reads nothing that changes. In
whatever order the steps come, a lookup answers as it would on a cache of its own. -/
namespace ClassAtlas

structure LookupRequest where
  name : String
  force : Bool

/-- Where the classes are found. What is found under a name has that name. -/
structure ClassLocator where
  find? : String → Option ClassSymbol
  fullName_of_find? : ∀ name c, find? name = some c → c.fullName = name

def ProgramGraph.locator (g : ProgramGraph) : ClassLocator where
  find? := g.findClass?
  fullName_of_find? _ _ found := by simpa using List.find?_some found

/-- How far a lookup has come. -/
inductive LookupStage where
  | asking
  | computing
  | storing (found : AidlInterface)
  | answered (answer : Except Failure AidlInterface)

namespace LookupStage

def answer? : LookupStage → Option (Except Failure AidlInterface)
  | .answered answer => some answer
  | _ => none

/-- How many steps there are at most up to the answer. -/
def stepsLeft : LookupStage → Nat
  | .asking => 3
  | .computing => 2
  | .storing _ => 1
  | .answered _ => 0

theorem stepsLeft_le (stage : LookupStage) : stage.stepsLeft ≤ 3 := by
  cases stage <;> simp [stepsLeft]

theorem isSome_answer?_iff {stage : LookupStage} :
    stage.answer?.isSome ↔ stage.stepsLeft = 0 := by
  cases stage <;> simp [answer?, stepsLeft]

end LookupStage

structure LookupTask where
  request : LookupRequest
  stage : LookupStage

/-- A forced lookup does not ask the cache. -/
def LookupTask.start (r : LookupRequest) : LookupTask :=
  ⟨r, if r.force then .computing else .asking⟩

structure SharedLookups where
  cache : ResolutionCache
  tasks : List LookupTask

namespace SharedLookups

def start (requests : List LookupRequest) : SharedLookups :=
  ⟨.empty, requests.map LookupTask.start⟩

def answer? (s : SharedLookups) (n : Nat) : Option (Except Failure AidlInterface) :=
  s.tasks[n]?.bind fun t => t.stage.answer?

end SharedLookups

section Steps
variable (classes : List ClassSymbol) (locator : ClassLocator)

/-- The answer of a lookup that has a new cache to itself. There is nothing in it that
could be passed by, so a forced one answers alike. -/
def freshAnswer (name : String) : Except Failure AidlInterface :=
  (ResolutionCache.empty.lookup classes name false locator.find?).answer

/-- One step of a lookup: the cache after it, and how far the lookup is then. -/
def LookupStage.advance (cache : ResolutionCache) (name : String) :
    LookupStage → ResolutionCache × LookupStage
  | .asking =>
    match cache.get? name with
    | some hit => (cache, .answered (.ok hit))
    | none => (cache, .computing)
  | .computing =>
    match (cache.compute classes name locator.find?).answer with
    | .ok found => (cache, .storing found)
    | .error why => (cache, .answered (.error why))
  | .storing found => (cache.insert found, .answered (.ok found))
  | .answered answer => (cache, .answered answer)

namespace SharedLookups

/-- The lookup with this number takes a step, if there is one. -/
def step (s : SharedLookups) (n : Nat) : SharedLookups :=
  match s.tasks[n]? with
  | none => s
  | some t =>
    let next := t.stage.advance classes locator s.cache t.request.name
    ⟨next.1, s.tasks.set n { t with stage := next.2 }⟩

def run (s : SharedLookups) (schedule : List Nat) : SharedLookups :=
  schedule.foldl (step classes locator) s

/-- The steps of a lookup that nobody interrupts are a lookup. -/
theorem run_alone (cache : ResolutionCache) (r : LookupRequest) :
    run classes locator ⟨cache, [.start r]⟩ [0, 0, 0] =
      ⟨(cache.lookup classes r.name r.force locator.find?).cache,
        [⟨r, .answered (cache.lookup classes r.name r.force locator.find?).answer⟩]⟩ := by
  have computes : run classes locator ⟨cache, [⟨r, .computing⟩]⟩ [0, 0] =
      ⟨(cache.compute classes r.name locator.find?).cache,
        [⟨r, .answered (cache.compute classes r.name locator.find?).answer⟩]⟩ := by
    cases result : ResolutionCache.computed classes r.name locator.find? with
    | ok i =>
      simp [run, step, LookupStage.advance, result,
        ResolutionCache.cache_compute_of_ok cache _ _ _ result]
    | error why =>
      simp [run, step, LookupStage.advance, result,
        ResolutionCache.cache_compute_of_error cache _ _ _ result]
  have idle (cache : ResolutionCache) (answer : Except Failure AidlInterface) :
      step classes locator ⟨cache, [⟨r, .answered answer⟩]⟩ 0 =
        ⟨cache, [⟨r, .answered answer⟩]⟩ := rfl
  cases forced : r.force with
  | true =>
    have begun : LookupTask.start r = ⟨r, .computing⟩ := by simp [LookupTask.start, forced]
    rw [begun, ResolutionCache.lookup_force, ← idle, ← computes]
    rfl
  | false =>
    have begun : LookupTask.start r = ⟨r, .asking⟩ := by simp [LookupTask.start, forced]
    cases cached : cache.get? r.name with
    | some hit =>
      rw [begun, ResolutionCache.lookup_hit _ _ _ _ cached]
      simp [run, step, LookupStage.advance, cached]
    | none =>
      rw [begun, ResolutionCache.lookup_miss _ _ _ _ cached, ← computes]
      simp [run, step, LookupStage.advance, cached]

end SharedLookups

theorem answer_lookup_empty (name : String) (force : Bool) :
    (ResolutionCache.empty.lookup classes name force locator.find?).answer =
      ResolutionCache.computed classes name locator.find? := by
  have missing := ResolutionCache.get?_empty name
  rw [ResolutionCache.lookup_miss _ _ _ _ missing, ResolutionCache.answer_compute]

theorem freshAnswer_eq (name : String) :
    freshAnswer classes locator name =
      ResolutionCache.computed classes name locator.find? :=
  answer_lookup_empty classes locator name false

theorem interfaceName_of_freshAnswer {name : String} {found : AidlInterface}
    (fresh : freshAnswer classes locator name = .ok found) : found.interfaceName = name := by
  rw [freshAnswer_eq] at fresh
  exact ResolutionCache.interfaceName_of_computed (locator.fullName_of_find? name) fresh

/-- What a lookup under a name has got so far is what it gets on a new cache, and what
it has stored is still there. -/
inductive LookupStage.Faithful (cache : ResolutionCache) (name : String) : LookupStage → Prop where
  | asking : Faithful cache name .asking
  | computing : Faithful cache name .computing
  | storing {found : AidlInterface} (fresh : freshAnswer classes locator name = .ok found) :
      Faithful cache name (.storing found)
  | found {found : AidlInterface} (fresh : freshAnswer classes locator name = .ok found)
      (stored : cache.get? name = some found) : Faithful cache name (.answered (.ok found))
  | failed {why : Failure} (fresh : freshAnswer classes locator name = .error why) :
      Faithful cache name (.answered (.error why))

namespace LookupStage.Faithful
variable {classes locator} {cache : ResolutionCache} {name : String} {stage : LookupStage}
  (faithful : stage.Faithful classes locator cache name)
include faithful

theorem eq_freshAnswer {answer : Except Failure AidlInterface}
    (given : stage.answer? = some answer) : answer = freshAnswer classes locator name := by
  cases faithful with
  | asking => cases given
  | computing => cases given
  | storing fresh => cases given
  | found fresh stored => cases given; exact fresh.symm
  | failed fresh => cases given; exact fresh.symm

theorem exists_get? (done : stage.answer?.isSome) {i : AidlInterface}
    (fresh : freshAnswer classes locator name = .ok i) : ∃ j, cache.get? name = some j := by
  cases faithful with
  | asking => cases done
  | computing => cases done
  | storing own => cases done
  | found own stored => exact ⟨_, stored⟩
  | failed own => rw [own] at fresh; cases fresh

/-- Entries are fresh answers, so an entry is only ever replaced by itself. -/
theorem insert {other : String} {i : AidlInterface}
    (fresh : freshAnswer classes locator other = .ok i) :
    stage.Faithful classes locator (cache.insert i) name := by
  cases faithful with
  | asking => exact .asking
  | computing => exact .computing
  | storing own => exact .storing own
  | failed own => exact .failed own
  | found own stored =>
    refine .found own ?_
    rw [ResolutionCache.get?_insert, interfaceName_of_freshAnswer classes locator fresh]
    by_cases same : other = name
    · subst same
      rw [if_pos rfl, Except.ok.inj (fresh.symm.trans own)]
    · rw [if_neg same, stored]

/-- The one step in which a lookup changes the cache stores its fresh answer. -/
theorem advance
    (entries : ∀ key i, cache.get? key = some i → freshAnswer classes locator key = .ok i) :
    (stage.advance classes locator cache name).2.Faithful classes locator
        (stage.advance classes locator cache name).1 name ∧
      ((stage.advance classes locator cache name).1 = cache ∨
        ∃ i, freshAnswer classes locator name = .ok i ∧
          (stage.advance classes locator cache name).1 = cache.insert i) := by
  cases faithful with
  | asking =>
    cases cached : cache.get? name with
    | some hit =>
      simp only [LookupStage.advance, cached, true_or, and_true]
      exact .found (entries name hit cached) cached
    | none =>
      simp only [LookupStage.advance, cached, true_or, and_true]
      exact .computing
  | computing =>
    have answer := ResolutionCache.answer_compute cache classes name locator.find?
    rw [← freshAnswer_eq] at answer
    cases fresh : freshAnswer classes locator name with
    | ok found =>
      simp only [LookupStage.advance, answer, fresh, true_or, and_true]
      exact .storing fresh
    | error why =>
      simp only [LookupStage.advance, answer, fresh, true_or, and_true]
      exact .failed fresh
  | storing fresh =>
    refine ⟨.found fresh ?_, .inr ⟨_, fresh, rfl⟩⟩
    rw [LookupStage.advance, ResolutionCache.get?_insert,
      interfaceName_of_freshAnswer classes locator fresh, if_pos rfl]
  | found fresh stored => exact ⟨.found fresh stored, .inl rfl⟩
  | failed fresh => exact ⟨.failed fresh, .inl rfl⟩

end LookupStage.Faithful

namespace SharedLookups

/-- What every step keeps. -/
structure Consistent (requests : List LookupRequest) (s : SharedLookups) : Prop where
  requested : ∀ t ∈ s.tasks, t.request ∈ requests
  faithful : ∀ t ∈ s.tasks, t.stage.Faithful classes locator s.cache t.request.name
  entries : ∀ name i, s.cache.get? name = some i →
    freshAnswer classes locator name = .ok i ∧ ∃ r ∈ requests, r.name = name

theorem consistent_start (requests : List LookupRequest) :
    Consistent classes locator requests (start requests) where
  requested t member := by
    obtain ⟨r, listed, rfl⟩ := List.mem_map.1 member
    exact listed
  faithful t member := by
    obtain ⟨r, _, rfl⟩ := List.mem_map.1 member
    cases forced : r.force with
    | true => simpa [LookupTask.start, forced] using .computing
    | false => simpa [LookupTask.start, forced] using .asking
  entries _ _ stored := by cases stored

variable {classes locator} in
theorem Consistent.step {requests : List LookupRequest} {s : SharedLookups}
    (consistent : Consistent classes locator requests s) (n : Nat) :
    Consistent classes locator requests (s.step classes locator n) := by
  unfold SharedLookups.step
  cases here : s.tasks[n]? with
  | none => exact consistent
  | some t =>
    have member := List.mem_of_getElem? here
    obtain ⟨faithful, change⟩ := (consistent.faithful t member).advance
      fun name i stored => (consistent.entries name i stored).1
    dsimp only
    generalize t.stage.advance classes locator s.cache t.request.name = next at faithful change
    constructor
    · intro u inNext
      rcases List.mem_or_eq_of_mem_set inNext with old | rfl
      · exact consistent.requested u old
      · exact consistent.requested t member
    · intro u inNext
      rcases List.mem_or_eq_of_mem_set inNext with old | rfl
      · have kept := consistent.faithful u old
        rcases change with same | ⟨i, fresh, stored⟩
        · rwa [same]
        · rw [stored]
          exact kept.insert fresh
      · exact faithful
    · intro name i stored
      rcases change with same | ⟨j, fresh, inserted⟩
      · exact consistent.entries name i (same ▸ stored)
      · rw [inserted, ResolutionCache.get?_insert,
          interfaceName_of_freshAnswer classes locator fresh] at stored
        split at stored
        · next same =>
          cases stored
          exact ⟨same ▸ fresh, t.request, consistent.requested t member, same⟩
        · exact consistent.entries name i stored

theorem consistent_run (requests : List LookupRequest) (schedule : List Nat) :
    Consistent classes locator requests ((start requests).run classes locator schedule) := by
  have kept (s : SharedLookups) (consistent : Consistent classes locator requests s) :
      Consistent classes locator requests (s.run classes locator schedule) := by
    induction schedule generalizing s with
    | nil => exact consistent
    | cons n rest ih => exact ih _ (consistent.step n)
  exact kept _ (consistent_start classes locator requests)

theorem stepsLeft_advance (cache : ResolutionCache) (name : String) (stage : LookupStage) :
    (stage.advance classes locator cache name).2.stepsLeft ≤ stage.stepsLeft - 1 := by
  cases stage with
  | asking =>
    cases cached : cache.get? name <;>
      simp [LookupStage.advance, cached, LookupStage.stepsLeft]
  | computing =>
    cases result : ResolutionCache.computed classes name locator.find? <;>
      simp [LookupStage.advance, result, LookupStage.stepsLeft]
  | storing found => exact Nat.le_refl _
  | answered answer => exact Nat.le_refl _

theorem stepsLeft_step {s : SharedLookups} {n : Nat} {t : LookupTask}
    (here : s.tasks[n]? = some t) (m : Nat) :
    ∃ u, (s.step classes locator m).tasks[n]? = some u ∧ u.request = t.request ∧
      u.stage.stepsLeft ≤ t.stage.stepsLeft - [m].count n := by
  by_cases own : m = n
  · subst own
    have bound := (List.getElem?_eq_some_iff.1 here).1
    have closer := stepsLeft_advance classes locator s.cache t.request.name t.stage
    refine ⟨{ t with stage := (t.stage.advance classes locator s.cache t.request.name).2 }, ?_,
      rfl, by simpa using closer⟩
    simp [step, here, List.getElem?_set_self bound]
  · refine ⟨t, ?_, rfl, by simp [own]⟩
    unfold step
    cases other : s.tasks[m]? with
    | none => exact here
    | some v => rw [List.getElem?_set_ne own, here]

/-- A lookup comes closer to its answer with each of its own steps, and the steps of
others do not set it back. -/
theorem stepsLeft_run {s : SharedLookups} {n : Nat} {t : LookupTask}
    (here : s.tasks[n]? = some t) (schedule : List Nat) :
    ∃ u, (s.run classes locator schedule).tasks[n]? = some u ∧ u.request = t.request ∧
      u.stage.stepsLeft ≤ t.stage.stepsLeft - schedule.count n := by
  induction schedule generalizing s t with
  | nil => exact ⟨t, here, rfl, Nat.le_refl _⟩
  | cons m rest ih =>
    obtain ⟨u, next, sameRequest, closer⟩ := stepsLeft_step classes locator here m
    obtain ⟨v, last, kept, closest⟩ := ih next
    refine ⟨v, last, kept.trans sameRequest, ?_⟩
    have counted : (m :: rest).count n = [m].count n + rest.count n := by
      rw [← List.singleton_append, List.count_append]
    omega

theorem task_run {requests : List LookupRequest} {n : Nat} {r : LookupRequest}
    (listed : requests[n]? = some r) (schedule : List Nat) :
    ∃ t, ((start requests).run classes locator schedule).tasks[n]? = some t ∧ t.request = r ∧
      t.stage.stepsLeft ≤ 3 - schedule.count n := by
  have started : (start requests).tasks[n]? = some (.start r) := by
    rw [start, List.getElem?_map, listed, Option.map_some]
  obtain ⟨t, here, asked, closer⟩ := stepsLeft_run classes locator started schedule
  have longest := (LookupTask.start r).stage.stepsLeft_le
  exact ⟨t, here, asked, by omega⟩

/-- What can be told of lookups that share a new cache, in whatever order they take
their steps. Three steps of its own are enough for each of them. -/
structure AgreesWithFresh (requests : List LookupRequest) (schedule : List Nat)
    (s : SharedLookups) : Prop where
  answers : ∀ n r answer, requests[n]? = some r → s.answer? n = some answer →
    answer = freshAnswer classes locator r.name
  answered : ∀ n r, requests[n]? = some r → 3 ≤ schedule.count n →
    s.answer? n = some (freshAnswer classes locator r.name)
  entries : ∀ name i, s.cache.get? name = some i → freshAnswer classes locator name = .ok i
  names : (∀ n r, requests[n]? = some r → (s.answer? n).isSome) →
    ∀ name, name ∈ s.cache.names ↔
      (∃ r ∈ requests, r.name = name) ∧ ∃ i, freshAnswer classes locator name = .ok i

theorem agreesWithFresh_run (requests : List LookupRequest) (schedule : List Nat) :
    AgreesWithFresh classes locator requests schedule
      ((start requests).run classes locator schedule) := by
  have consistent := consistent_run classes locator requests schedule
  have answers (n : Nat) (r : LookupRequest) (answer : Except Failure AidlInterface)
      (listed : requests[n]? = some r)
      (given : ((start requests).run classes locator schedule).answer? n = some answer) :
      answer = freshAnswer classes locator r.name := by
    obtain ⟨t, here, rfl, _⟩ := task_run classes locator listed schedule
    rw [answer?, here, Option.bind_some] at given
    exact (consistent.faithful t (List.mem_of_getElem? here)).eq_freshAnswer given
  refine ⟨answers, ?_, fun name i stored => (consistent.entries name i stored).1, ?_⟩
  · intro n r listed often
    obtain ⟨t, here, _, closer⟩ := task_run classes locator listed schedule
    have done : t.stage.stepsLeft = 0 := by omega
    obtain ⟨answer, last⟩ := Option.isSome_iff_exists.1 (LookupStage.isSome_answer?_iff.2 done)
    have given : ((start requests).run classes locator schedule).answer? n = some answer := by
      rw [answer?, here, Option.bind_some, last]
    rw [given, answers n r answer listed given]
  · intro finished name
    rw [ResolutionCache.mem_names_iff, Option.isSome_iff_exists]
    constructor
    · rintro ⟨i, stored⟩
      obtain ⟨fresh, requested⟩ := consistent.entries name i stored
      exact ⟨requested, i, fresh⟩
    · rintro ⟨⟨r, asked, rfl⟩, i, fresh⟩
      obtain ⟨n, listed⟩ := List.getElem?_of_mem asked
      obtain ⟨t, here, rfl, _⟩ := task_run classes locator listed schedule
      have done := finished n t.request listed
      rw [answer?, here, Option.bind_some] at done
      exact (consistent.faithful t (List.mem_of_getElem? here)).exists_get? done fresh

/-- The first lookup does not find what the second has not stored yet. -/
example :
    let i : ClassSymbol := {
      fullName := "a.I"
      innerClasses := [
        { fullName := "a.I.Default", name := "Default" },
        { fullName := "a.I.Stub", name := "Stub"
          innerClasses := [{ fullName := "a.I.Stub.Proxy", name := "Proxy" }] }] }
    let g : ProgramGraph := { classes := [i] }
    let s := (start [⟨"a.I", false⟩, ⟨"a.I", true⟩]).run g.allClasses g.locator [1, 0, 1, 0, 0]
    s.answer? 0 = some (.ok ⟨"a.I", [], none⟩) ∧ s.answer? 1 = s.answer? 0 ∧
      s.cache.entries.map Prod.fst = ["a.I"] :=
  ⟨rfl, rfl, rfl⟩

end SharedLookups

end Steps

end ClassAtlas
