import ClassAtlas.Aidl.Cache
import ClassAtlas.Proofs.Aidl.Resolution
import ClassAtlas.Proofs.Aidl.Shape

/-! What the interface cache holds after each of its operations. A lookup either
hands out an entry and changes nothing, or computes; what it computes does not
depend on the cache, and only a computed interface is stored. -/
namespace ClassAtlas

namespace ResolutionCache

@[simp] theorem get?_empty (name : String) : empty.get? name = none := rfl

theorem get?_insert (cache : ResolutionCache) (i : AidlInterface) (name : String) :
    (cache.insert i).get? name =
      if i.interfaceName = name then some i else cache.get? name := by
  unfold get? insert
  by_cases same : i.interfaceName = name
  · simp [same]
  · have differs : (name == i.interfaceName) = false := by simpa using Ne.symm same
    rw [if_neg same, List.lookup_cons, differs]
    induction cache.entries with
    | nil => rfl
    | cons entry rest ih =>
      obtain ⟨key, value⟩ := entry
      by_cases kept : key = i.interfaceName
      · subst kept
        simpa [List.lookup_cons, differs] using ih
      · cases hit : name == key <;> simp_all [List.lookup_cons]

theorem mem_names_iff {cache : ResolutionCache} {name : String} :
    name ∈ cache.names ↔ (cache.get? name).isSome := by
  unfold names get?
  rw [List.mem_mergeSort, List.lookup_isSome_iff]
  simp

theorem mem_entries_insert {cache : ResolutionCache} {i : AidlInterface}
    {entry : String × AidlInterface} (member : entry ∈ (cache.insert i).entries) :
    entry = (i.interfaceName, i) ∨ entry ∈ cache.entries := by
  unfold insert at member
  rcases List.mem_cons.1 member with same | old
  · exact .inl same
  · exact .inr (List.mem_filter.1 old).1

@[simp] theorem insertAll_nil (cache : ResolutionCache) : cache.insertAll [] = cache := rfl

@[simp] theorem insertAll_cons (cache : ResolutionCache) (i : AidlInterface)
    (rest : List AidlInterface) :
    cache.insertAll (i :: rest) = (cache.insert i).insertAll rest := rfl

theorem get?_insertAll (cache : ResolutionCache) (interfaces : List AidlInterface)
    (name : String) :
    (cache.insertAll interfaces).get? name =
      ((interfaces.filter fun i => i.interfaceName = name).getLast?).or (cache.get? name) := by
  induction interfaces generalizing cache with
  | nil => simp
  | cons i rest ih =>
    rw [insertAll_cons, ih, get?_insert]
    by_cases same : i.interfaceName = name
    · rw [List.filter_cons_of_pos (by simpa using same), List.getLast?_cons, if_pos same]
      cases (rest.filter fun i => i.interfaceName = name).getLast? <;> simp
    · rw [List.filter_cons_of_neg (by simpa using same), if_neg same]

theorem mem_entries_of_get? {cache : ResolutionCache} {name : String} {i : AidlInterface}
    (stored : cache.get? name = some i) : (name, i) ∈ cache.entries := by
  obtain ⟨before, after, split, _⟩ := List.lookup_eq_some_iff.1 stored
  rw [split]
  exact List.mem_append_right _ List.mem_cons_self

theorem exists_get?_insertAll {cache : ResolutionCache} {interfaces : List AidlInterface}
    {i : AidlInterface} (listed : i ∈ interfaces) :
    ∃ j, (cache.insertAll interfaces).get? i.interfaceName = some j := by
  have kept : i ∈ interfaces.filter fun j => j.interfaceName = i.interfaceName :=
    List.mem_filter.2 ⟨listed, by simp⟩
  rw [get?_insertAll, List.getLast?_eq_some_getLast (List.ne_nil_of_mem kept), Option.some_or]
  exact ⟨_, rfl⟩

theorem mem_entries_insertAll {cache : ResolutionCache} {interfaces : List AidlInterface}
    {entry : String × AidlInterface} (member : entry ∈ (cache.insertAll interfaces).entries) :
    (∃ i ∈ interfaces, entry = (i.interfaceName, i)) ∨ entry ∈ cache.entries := by
  induction interfaces generalizing cache with
  | nil => exact .inr member
  | cons i rest ih =>
    rcases ih member with ⟨later, isLater, same⟩ | inserted
    · exact .inl ⟨later, List.mem_cons_of_mem _ isLater, same⟩
    · rcases mem_entries_insert inserted with same | old
      · exact .inl ⟨i, List.mem_cons_self, same⟩
      · exact .inr old

end ResolutionCache

namespace ProgramAccess
variable (classes : List ClassSymbol) (locate : String → Option ClassSymbol) (work : Work)

@[simp] theorem run_locate (name : String) :
    ((counting classes locate).locate name).run work =
      pure (locate name, { work with located := work.located + 1 }) := rfl

@[simp] theorem run_search (accepts : ClassSymbol → Bool) :
    ((counting classes locate).search accepts).run work =
      pure ((Scan.run accepts classes).found,
        { work with
          searches := work.searches + 1
          tested := work.tested + (Scan.run accepts classes).tested }) := rfl

end ProgramAccess

namespace ResolutionCache

section Lookup
variable (cache : ResolutionCache) (classes : List ClassSymbol) (name : String)
  (locate : String → Option ClassSymbol)

/-- The answer to a lookup that does not use the cache. -/
def computed (classes : List ClassSymbol) (name : String)
    (locate : String → Option ClassSymbol) : Except Failure AidlInterface :=
  match locate name with
  | none => .error (.notFound (.type name))
  | some c =>
    match AidlInterface.detect? c with
    | none => .error (.notFound (.aidlShape name))
    | some i => .ok (i.resolvedIn classes)

/-- What a computation comes to, with its work as it was counted: the class is located once,
and one search is made if it has the shape. -/
theorem compute_eq :
    cache.compute classes name locate =
      match locate name with
      | none => ⟨.error (.notFound (.type name)), cache, ⟨1, 0, 0⟩⟩
      | some c =>
        match AidlInterface.detect? c with
        | none => ⟨.error (.notFound (.aidlShape name)), cache, ⟨1, 0, 0⟩⟩
        | some detected =>
          let scan := detected.scanImplementation classes
          let found := detected.resolved (scan.found.map ClassSymbol.fullName)
          ⟨.ok found, cache.insert found, ⟨1, 1, scan.tested⟩⟩ := by
  unfold compute computeM Lookup.ofCounted
  rw [StateT.run_bind, ProgramAccess.run_locate]
  cases locate name with
  | none => rfl
  | some c =>
    cases shape : AidlInterface.detect? c with
    | none => simp [shape, Work.zero]
    | some detected => simp [shape, Work.zero, AidlInterface.scanImplementation]

/-- The answer of a computation is the same for every cache, and nothing but that
answer is stored. -/
theorem compute_spec :
    (cache.compute classes name locate).answer = computed classes name locate ∧
      (cache.compute classes name locate).cache =
        match computed classes name locate with
        | .ok i => cache.insert i
        | .error _ => cache := by
  rw [compute_eq, computed]
  cases locate name with
  | none => exact ⟨rfl, rfl⟩
  | some c =>
    cases shape : AidlInterface.detect? c with
    | none => simp [shape]
    | some i =>
      have found : i.resolved ((i.scanImplementation classes).found.map ClassSymbol.fullName) =
          i.resolvedIn classes := by
        unfold AidlInterface.resolvedIn
        rw [← AidlInterface.implementationIn?_eq]
        rfl
      simp [shape, found]

@[simp] theorem answer_compute :
    (cache.compute classes name locate).answer = computed classes name locate :=
  (compute_spec cache classes name locate).1

theorem cache_compute_of_ok {i : AidlInterface}
    (found : computed classes name locate = .ok i) :
    (cache.compute classes name locate).cache = cache.insert i := by
  rw [(compute_spec cache classes name locate).2, found]

theorem cache_compute_of_error {why : Failure}
    (failed : computed classes name locate = .error why) :
    (cache.compute classes name locate).cache = cache := by
  rw [(compute_spec cache classes name locate).2, failed]

theorem lookup_force : cache.lookup classes name true locate =
    cache.compute classes name locate := rfl

theorem lookup_hit {hit : AidlInterface} (cached : cache.get? name = some hit) :
    cache.lookup classes name false locate = ⟨.ok hit, cache, ⟨0, 0, 0⟩⟩ := by
  rw [lookup, lookupM, if_neg Bool.false_ne_true, cached]
  rfl

theorem lookup_miss (missing : cache.get? name = none) (force : Bool) :
    cache.lookup classes name force locate = cache.compute classes name locate := by
  cases force <;> simp [lookup, lookupM, compute, missing]

theorem cache_lookup_cases (force : Bool) :
    (cache.lookup classes name force locate).cache = cache ∨
      ∃ i, computed classes name locate = .ok i ∧
        (cache.lookup classes name force locate).cache = cache.insert i := by
  have compute_cases : (cache.compute classes name locate).cache = cache ∨
      ∃ i, computed classes name locate = .ok i ∧
        (cache.compute classes name locate).cache = cache.insert i := by
    cases result : computed classes name locate with
    | error why => exact .inl (cache_compute_of_error cache classes name locate result)
    | ok i => exact .inr ⟨i, rfl, cache_compute_of_ok cache classes name locate result⟩
  cases force with
  | true => exact compute_cases
  | false =>
    cases cached : cache.get? name with
    | some hit => exact .inl (by rw [lookup_hit cache classes name locate cached])
    | none => rw [lookup_miss cache classes name locate cached]; exact compute_cases

theorem cache_lookup_of_error {force : Bool} {why : Failure}
    (failed : (cache.lookup classes name force locate).answer = .error why) :
    (cache.lookup classes name force locate).cache = cache := by
  cases force with
  | true =>
    rw [lookup_force, answer_compute] at failed
    exact cache_compute_of_error cache classes name locate failed
  | false =>
    cases cached : cache.get? name with
    | some hit => rw [lookup_hit cache classes name locate cached]
    | none =>
      rw [lookup_miss cache classes name locate cached] at failed ⊢
      rw [answer_compute] at failed
      exact cache_compute_of_error cache classes name locate failed

end Lookup

theorem computed_eq_ok_iff {classes : List ClassSymbol} {name : String}
    {locate : String → Option ClassSymbol} {i : AidlInterface} :
    computed classes name locate = .ok i ↔
      ∃ found, (locate name).bind AidlInterface.detect? = some found ∧
        found.resolvedIn classes = i := by
  unfold computed
  cases locate name with
  | none => simp
  | some c => cases shape : AidlInterface.detect? c <;> simp [shape]

/-- What is computed bears the name of the class that was located. -/
theorem interfaceName_of_computed {classes : List ClassSymbol} {name : String}
    {locate : String → Option ClassSymbol} {i : AidlInterface}
    (named : ∀ c, locate name = some c → c.fullName = name)
    (found : computed classes name locate = .ok i) : i.interfaceName = name := by
  obtain ⟨detected, bound, rfl⟩ := computed_eq_ok_iff.1 found
  obtain ⟨c, located, shape⟩ := Option.bind_eq_some_iff.1 bound
  rw [AidlInterface.interfaceName_resolvedIn, AidlInterface.interfaceName_of_detect? shape]
  exact named c located

end ResolutionCache

end ClassAtlas
