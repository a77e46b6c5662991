import ClassAtlas.Proofs.Aidl.SharedCache

/-! What a lookup has to do, and what it leaves. The work is counted by running the lookup with an
access that counts, and the counting changes nothing else. A lookup that the cache answers does
nothing. Any other locates the class once, and searches once if it is an interface; only then is
anything stored, under the name of the class that was located. So in a row of lookups, each of
which locates a class of the name it was asked for, an interface that was found once is not
worked for again unless a lookup is forced, and the latest one that was worked for stands. -/
namespace ClassAtlas

namespace Scan
variable {α : Type} (accepts : α → Bool)

/-- The test, with a record of the items that it is put to. -/
def recording (a : α) : StateM (List α) Bool := do
  modify (· ++ [a])
  return accepts a

/-- The items that a search puts to the test, if it ends at the first match. -/
def asked (items : List α) : List α :=
  ((items.findM? (recording accepts)).run []).2

/-- The record only grows at its end, whatever stands in it before. -/
theorem run_findM?_recording (items seen : List α) :
    ((items.findM? (recording accepts)).run seen).2 =
      seen ++ items.take (run accepts items).tested := by
  induction items generalizing seen with
  | nil => rw [run, List.take_zero, List.append_nil]; rfl
  | cons a rest ih =>
    have step : ((a :: rest).findM? (recording accepts)).run seen =
        if accepts a then (some a, seen ++ [a])
        else (rest.findM? (recording accepts)).run (seen ++ [a]) := by
      have tested : (recording accepts a).run seen = (accepts a, seen ++ [a]) := rfl
      rw [List.findM?, StateT.run_bind, tested]
      cases accepts a <;> rfl
    rw [step]
    cases accepted : accepts a with
    | true => simp [run, accepted]
    | false => simp [run, accepted, ih]

theorem asked_eq_take (items : List α) :
    asked accepts items = items.take (run accepts items).tested := by
  rw [asked, run_findM?_recording, List.nil_append]

theorem tested_le (items : List α) : (run accepts items).tested ≤ items.length := by
  induction items with
  | nil => exact Nat.le_refl 0
  | cons a rest ih => cases accepted : accepts a <;> simp [run, accepted, ih]

theorem length_asked (items : List α) :
    (asked accepts items).length = (run accepts items).tested := by
  rw [asked_eq_take, List.length_take, Nat.min_eq_left (tested_le accepts items)]

end Scan

/-- The classes of a list up to and including the first that extends a stub, all of them if
none does, and the full name of that first. -/
inductive UpToExtender (stub : String) (classes : List ClassSymbol) :
    List ClassSymbol → Option String → Prop where
  | first {before after : List ClassSymbol} {c : ClassSymbol}
      (split : classes = before ++ c :: after)
      (earlier : ∀ d ∈ before, d.superclass ≠ some stub) (declared : c.superclass = some stub) :
      UpToExtender stub classes (before ++ [c]) (some c.fullName)
  | nobody (absent : ∀ c ∈ classes, c.superclass ≠ some stub) :
      UpToExtender stub classes classes none

theorem AidlInterface.upToExtender_asked (i : AidlInterface) (classes : List ClassSymbol) :
    UpToExtender i.stubName classes (Scan.asked i.isExtendedBy classes)
      ((i.scanImplementation classes).found.map ClassSymbol.fullName) := by
  rw [Scan.asked_eq_take, scanImplementation]
  induction classes with
  | nil => exact .nobody (by simp)
  | cons c rest ih =>
    by_cases here : c.superclass = some i.stubName
    · have extended : i.isExtendedBy c = true := by simpa [isExtendedBy] using here
      rw [Scan.run, if_pos extended]
      exact @UpToExtender.first _ _ [] rest c rfl (by simp) here
    · have passed : ¬ i.isExtendedBy c = true := by simpa [isExtendedBy] using here
      rw [Scan.run, if_neg passed]
      dsimp only
      rw [List.take_succ_cons]
      generalize rest.take _ = asked at ih ⊢
      generalize Option.map _ _ = name at ih ⊢
      cases ih with
      | @first before after d split earlier declared =>
        subst split
        exact @UpToExtender.first _ _ (c :: before) after d rfl
          (List.forall_mem_cons.2 ⟨here, earlier⟩) declared
      | nobody absent => exact .nobody (List.forall_mem_cons.2 ⟨here, absent⟩)

/-- Access that keeps no count. -/
def ProgramAccess.plain (classes : List ClassSymbol) (locate : String → Option ClassSymbol) :
    ProgramAccess Id where
  locate name := pure (locate name)
  search accepts := pure (classes.find? accepts)

namespace ResolutionCache
variable (cache : ResolutionCache) (classes : List ClassSymbol) (name : String)
  (locate : String → Option ClassSymbol)

theorem computeM_plain :
    (cache.computeM (.plain classes locate) name).run =
      ((cache.compute classes name locate).answer, (cache.compute classes name locate).cache) := by
  rw [compute_eq, computeM, ProgramAccess.plain, pure_bind]
  cases locate name with
  | none => rfl
  | some c =>
    cases shape : AidlInterface.detect? c with
    | none => simp [shape]
    | some detected => simp [shape, AidlInterface.scanImplementation, Scan.found_run]

/-- Without the count a lookup has the same answer and leaves the same cache. -/
theorem lookupM_plain (force : Bool) :
    (cache.lookupM (.plain classes locate) name force).run =
      ((cache.lookup classes name force locate).answer,
        (cache.lookup classes name force locate).cache) := by
  rw [lookup, lookupM, lookupM]
  cases (if force then none else cache.get? name) with
  | some hit => rfl
  | none => exact computeM_plain cache classes name locate

end ResolutionCache

/-- A lookup with all that it is given: the classes that are searched for an implementation,
and a way to locate a class by its name. -/
structure LookupCall extends LookupRequest where
  classes : List ClassSymbol
  locate : String → Option ClassSymbol

/-- Only a class of the requested name is located. -/
def LookupCall.LocatesByName (call : LookupCall) : Prop :=
  ∀ c, call.locate call.name = some c → c.fullName = call.name

/-- A lookup that was made, and what came of it. -/
structure LookupEvent where
  call : LookupCall
  outcome : Lookup

/-- The interface that was worked for under a name: one that was found and did not come from
the cache. -/
def LookupEvent.workedFor? (name : String) (e : LookupEvent) : Option AidlInterface :=
  if e.call.name = name ∧ e.outcome.work.located ≠ 0 then e.outcome.answer.toOption else none

def latestWorkedFor? (name : String) (events : List LookupEvent) : Option AidlInterface :=
  (events.filterMap (LookupEvent.workedFor? name)).getLast?

namespace ResolutionCache

def serve (cache : ResolutionCache) (call : LookupCall) : Lookup :=
  cache.lookup call.classes call.name call.force call.locate

def serveAll (cache : ResolutionCache) (calls : List LookupCall) : ResolutionCache :=
  calls.foldl (fun cache call => (cache.serve call).cache) cache

theorem serveAll_cons (cache : ResolutionCache) (call : LookupCall) (rest : List LookupCall) :
    cache.serveAll (call :: rest) = (cache.serve call).cache.serveAll rest := rfl

def events (cache : ResolutionCache) : List LookupCall → List LookupEvent
  | [] => []
  | call :: rest => ⟨call, cache.serve call⟩ :: events (cache.serve call).cache rest

/-- The cache has no answer to a lookup, or must not give it. -/
def LeavesWork (cache : ResolutionCache) (call : LookupCall) : Prop :=
  call.force = true ∨ cache.get? call.name = none

/-- What is promised of one lookup. -/
structure Accounts (cache : ResolutionCache) (call : LookupCall) : Prop where
  hit : call.force = false → ∀ i, cache.get? call.name = some i →
    cache.serve call = ⟨.ok i, cache, ⟨0, 0, 0⟩⟩
  unlocated : cache.LeavesWork call → call.locate call.name = none →
    cache.serve call = ⟨.error (.notFound (.type call.name)), cache, ⟨1, 0, 0⟩⟩
  shapeless : cache.LeavesWork call → ∀ c, call.locate call.name = some c → ¬ c.HasAidlShape →
    cache.serve call = ⟨.error (.notFound (.aidlShape call.name)), cache, ⟨1, 0, 0⟩⟩
  found : cache.LeavesWork call → ∀ c, call.locate call.name = some c → c.HasAidlShape →
    ∃ implementation asked, UpToExtender (c.fullName ++ "$Stub") call.classes asked implementation ∧
      asked = Scan.asked c.asInterface.isExtendedBy call.classes ∧
      (cache.serve call).answer = .ok (c.asInterface.resolved implementation) ∧
      (cache.serve call).work = ⟨1, 1, asked.length⟩ ∧
      ∀ key, (cache.serve call).cache.get? key =
        if c.fullName = key then some (c.asInterface.resolved implementation) else cache.get? key

/-- What is promised of an unforced lookup that follows others: if one of the same name found
something, it has from the cache the latest that was worked for or, if none was, what was there
before all of them. -/
def Remembers (cache : ResolutionCache) (history : List LookupCall) : Prop :=
  ∀ call : LookupCall, call.force = false →
    (∃ e ∈ cache.events history, e.call.name = call.name ∧ ∃ i, e.outcome.answer = .ok i) →
    ∃ i, (latestWorkedFor? call.name (cache.events history)).or (cache.get? call.name) = some i ∧
      (cache.serveAll history).serve call = ⟨.ok i, cache.serveAll history, ⟨0, 0, 0⟩⟩

section Serve
variable {cache : ResolutionCache} {call : LookupCall}

theorem serve_eq_compute (work : cache.LeavesWork call) :
    cache.serve call = cache.compute call.classes call.name call.locate := by
  rcases work with forced | missing
  · rw [serve, forced, lookup_force]
  · rw [serve, lookup_miss _ _ _ _ missing]

theorem serve_of_get? (unforced : call.force = false) {i : AidlInterface}
    (stored : cache.get? call.name = some i) : cache.serve call = ⟨.ok i, cache, ⟨0, 0, 0⟩⟩ := by
  rw [serve, unforced, lookup_hit _ _ _ _ stored]

theorem leavesWork_or_hit (cache : ResolutionCache) (call : LookupCall) :
    cache.LeavesWork call ∨ call.force = false ∧ ∃ i, cache.get? call.name = some i := by
  unfold LeavesWork
  cases call.force <;> cases cache.get? call.name <;> simp

theorem accounts (cache : ResolutionCache) (call : LookupCall) : cache.Accounts call where
  hit unforced _ := serve_of_get? unforced
  unlocated work missing := by
    rw [serve_eq_compute work, compute_eq, missing]
  shapeless work c located plain := by
    have undetected : AidlInterface.detect? c = none := by
      rw [← Option.not_isSome_iff_eq_none, AidlInterface.isSome_detect?_iff]
      exact plain
    rw [serve_eq_compute work, compute_eq, located]
    simp only [undetected]
  found work c located shape := by
    have detected : AidlInterface.detect? c = some c.asInterface :=
      AidlInterface.detect?_eq_some_iff.2 ⟨shape, rfl⟩
    have served : cache.serve call =
        let scan := c.asInterface.scanImplementation call.classes
        let found := c.asInterface.resolved (scan.found.map ClassSymbol.fullName)
        ⟨.ok found, cache.insert found, ⟨1, 1, scan.tested⟩⟩ := by
      rw [serve_eq_compute work, compute_eq, located]
      simp only [detected]
    rw [served]
    refine ⟨_, _, c.asInterface.upToExtender_asked call.classes, rfl, rfl, ?_, ?_⟩
    · rw [Scan.length_asked]
      rfl
    · exact fun key => get?_insert cache _ key

/-! Rows of lookups. -/

theorem located_of_leavesWork (work : cache.LeavesWork call) :
    (cache.serve call).work.located = 1 := by
  rw [serve_eq_compute work, compute_eq]
  split
  · rfl
  · split <;> rfl

/-- A lookup changes what is stored under a name exactly by working for it. -/
theorem get?_serve (faithful : call.LocatesByName) (name : String) :
    (cache.serve call).cache.get? name =
      (LookupEvent.workedFor? name ⟨call, cache.serve call⟩).or (cache.get? name) := by
  rcases leavesWork_or_hit cache call with work | ⟨unforced, i, stored⟩
  · have located := located_of_leavesWork work
    rw [LookupEvent.workedFor?]
    dsimp only
    rw [located]
    rw [serve_eq_compute work] at *
    cases result : computed call.classes call.name call.locate with
    | error why =>
      rw [cache_compute_of_error _ _ _ _ result, answer_compute, result]
      simp [Except.toOption]
    | ok i =>
      have named : i.interfaceName = call.name := interfaceName_of_computed faithful result
      rw [cache_compute_of_ok _ _ _ _ result, answer_compute, result, get?_insert, named]
      by_cases same : call.name = name <;> simp [same, Except.toOption]
  · rw [serve_of_get? unforced stored]
    simp [LookupEvent.workedFor?]

theorem get?_serve_of_ok (faithful : call.LocatesByName) {i : AidlInterface}
    (found : (cache.serve call).answer = .ok i) :
    (cache.serve call).cache.get? call.name = some i := by
  rcases leavesWork_or_hit cache call with work | ⟨unforced, hit, stored⟩
  · rw [get?_serve faithful, LookupEvent.workedFor?]
    simp [located_of_leavesWork work, found, Except.toOption]
  · rw [serve_of_get? unforced stored] at found ⊢
    rw [stored, Except.ok.inj found]

end Serve

section Rows
variable {history : List LookupCall} (faithful : ∀ past ∈ history, past.LocatesByName)
include faithful

/-- The latest that was worked for under a name stands, whatever the cache held before. -/
theorem get?_serveAll (cache : ResolutionCache) (name : String) :
    (cache.serveAll history).get? name =
      (latestWorkedFor? name (cache.events history)).or (cache.get? name) := by
  induction history generalizing cache with
  | nil => rfl
  | cons call rest ih =>
    obtain ⟨here, later⟩ := List.forall_mem_cons.1 faithful
    rw [serveAll_cons, ih later, get?_serve here, ← Option.or_assoc, latestWorkedFor?,
      latestWorkedFor?, events, List.filterMap_cons]
    cases LookupEvent.workedFor? name ⟨call, cache.serve call⟩ with
    | none => simp
    | some i => simp [List.getLast?_cons]

theorem exists_get?_serveAll {cache : ResolutionCache} {e : LookupEvent}
    (member : e ∈ cache.events history) {i : AidlInterface} (found : e.outcome.answer = .ok i) :
    ∃ j, (cache.serveAll history).get? e.call.name = some j := by
  induction history generalizing cache with
  | nil => cases member
  | cons call rest ih =>
    obtain ⟨here, later⟩ := List.forall_mem_cons.1 faithful
    rcases List.mem_cons.1 member with rfl | after
    · rw [serveAll_cons, get?_serveAll later, get?_serve_of_ok here found]
      exact ⟨_, Option.or_some⟩
    · exact ih later after

theorem remembers (cache : ResolutionCache) : cache.Remembers history := by
  intro call unforced ⟨e, member, named, i, found⟩
  obtain ⟨j, stored⟩ := exists_get?_serveAll faithful member found
  rw [named] at stored
  refine ⟨j, ?_, serve_of_get? unforced stored⟩
  rw [← get?_serveAll faithful, stored]

end Rows

/-- Every lookup does what it must and no more, and what a row of lookups has found is not
worked for again. -/
theorem lookups_account (cache : ResolutionCache) :
    (∀ call, cache.Accounts call) ∧
      ∀ history : List LookupCall, (∀ past ∈ history, past.LocatesByName) →
        cache.Remembers history :=
  ⟨accounts cache, fun _ faithful => remembers faithful cache⟩

/-! An interface that is looked up, and looked up again by force when its implementation is
another one. -/

def beacon : ClassSymbol where
  fullName := "a.Beacon"
  innerClasses := [
    { fullName := "a.Beacon.Default", name := "Default" },
    { fullName := "a.Beacon.Stub", name := "Stub"
      innerClasses := [{ fullName := "a.Beacon.Stub.Proxy", name := "Proxy" }] }]

def beaconCall (implementation : String) (force : Bool) : LookupCall where
  name := "a.Beacon"
  force := force
  classes := [beacon, { fullName := implementation, superclass := some "a.Beacon$Stub" }]
  locate name := [beacon].find? fun c => c.fullName = name

def beaconHistory : List LookupCall := [beaconCall "a.Old" false, beaconCall "a.New" true]

theorem lookups_account_beacon :
    (∀ past ∈ beaconHistory, past.LocatesByName) ∧
      (empty.serveAll beaconHistory).serve (beaconCall "a.Newest" false) =
        ⟨.ok ⟨"a.Beacon", [], some "a.New"⟩, empty.serveAll beaconHistory, ⟨0, 0, 0⟩⟩ := by
  have faithful : ∀ past ∈ beaconHistory, past.LocatesByName := by
    intro past member c located
    have named : past.name = "a.Beacon" ∧
        past.locate = fun name => [beacon].find? fun c => c.fullName = name := by
      simp only [beaconHistory, List.mem_cons, List.not_mem_nil, or_false] at member
      rcases member with rfl | rfl <;> exact ⟨rfl, rfl⟩
    rw [named.2] at located
    simpa using List.find?_some located
  refine ⟨faithful, ?_⟩
  obtain ⟨i, latest, served⟩ := (lookups_account .empty).2 beaconHistory faithful
    (beaconCall "a.Newest" false) rfl ⟨_, List.mem_cons_self, rfl, _, rfl⟩
  have new : i = ⟨"a.Beacon", [], some "a.New"⟩ := (Option.some.inj latest).symm
  rw [served, new]

end ResolutionCache
end ClassAtlas
