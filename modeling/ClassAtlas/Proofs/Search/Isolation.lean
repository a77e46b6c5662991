import ClassAtlas.Proofs.Text.Cut
import ClassAtlas.Search
import Mathlib.Data.List.Basic
import Mathlib.Data.List.Flatten
import Mathlib.Data.List.Infix

/-! A class that fails does not disturb a search. Each class contributes on its own, all its
methods that hold the text or none of them, and the result is what the classes contribute
one after the other. -/
namespace ClassAtlas.Search

/-- Whether a method is reconstructed with the needle in its body. -/
def holds (p : Provider) (needle : String) (m : MethodSymbol) : Bool :=
  match p.methodSource m with
  | .ok (some body) => needle.toList <:+: body.toList
  | _ => false

/-- Why a class contributes nothing: its reconstruction or that of one of its methods ends
in a mishap, or its source lacks the needle. -/
inductive Silent (p : Provider) (needle : String) (c : ClassSymbol) : Prop where
  | classFails {mishap : Mishap} (failed : p.classSource c = .error mishap)
  | lacks {source : String} (found : p.classSource c = .ok source)
      (absent : ¬ needle.toList <:+: source.toList)
  | methodFails {m : MethodSymbol} {mishap : Mishap} (listed : m ∈ c.methods)
      (failed : p.methodSource m = .error mishap)

theorem contains_eq (source needle : String) :
    contains source needle = decide (needle.toList <:+: source.toList) :=
  Bool.eq_iff_iff.2 (Text.occursIn_iff.trans decide_eq_true_iff.symm)

/-! Filtering with a test that may fail. -/

section Filter
variable {α : Type} {test : α → Except Mishap Bool} {items : List α}

theorem filterM_of_ok {pass : α → Bool} (total : ∀ a ∈ items, test a = .ok (pass a)) :
    items.filterM test = .ok (items.filter pass) := by
  have collected (kept : List α) :
      items.filterAuxM test kept = .ok ((items.filter pass).reverse ++ kept) := by
    induction items generalizing kept with
    | nil => rfl
    | cons a rest ih =>
      obtain ⟨here, later⟩ := List.forall_mem_cons.1 total
      rw [List.filterAuxM, here]
      change rest.filterAuxM test _ = _
      rw [ih later]
      cases passes : pass a <;> simp [passes]
  rw [List.filterM, collected]
  simp [bind, Except.bind, pure, Except.pure]

theorem filterM_of_error {a : α} {mishap : Mishap} (listed : a ∈ items)
    (failed : test a = .error mishap) : ∃ first, items.filterM test = .error first := by
  have stopped (kept : List α) : ∃ first, items.filterAuxM test kept = .error first := by
    induction items generalizing kept with
    | nil => cases listed
    | cons b rest ih =>
      rw [List.filterAuxM]
      cases outcome : test b with
      | error first => exact ⟨first, rfl⟩
      | ok passes =>
        rcases List.mem_cons.1 listed with rfl | later
        · rw [failed] at outcome
          cases outcome
        · exact ih later _
  obtain ⟨first, same⟩ := stopped []
  exact ⟨first, by rw [List.filterM, same]; rfl⟩

end Filter

/-! One class. -/

section Class
variable {p : Provider} {needle source : String} {c : ClassSymbol} {m : MethodSymbol}

/-- The test of one method. -/
def probe (p : Provider) (needle : String) (m : MethodSymbol) : Except Mishap Bool := do
  return ((← p.methodSource m).map fun body => contains body needle).getD false

theorem probe_of_ok {body : Option String} (read : p.methodSource m = .ok body) :
    probe p needle m = .ok (holds p needle m) := by
  unfold probe holds
  rw [read]
  cases body with
  | none => rfl
  | some text =>
    change Except.ok (contains text needle) = _
    rw [contains_eq]

theorem probe_of_error {mishap : Mishap} (failed : p.methodSource m = .error mishap) :
    probe p needle m = .error mishap := by
  rw [probe, failed]
  rfl

theorem methodsIn_of_ok (found : p.classSource c = .ok source) :
    methodsIn p needle c = if needle.toList <:+: source.toList then
      c.methods.filterM (probe p needle) else .ok [] := by
  unfold methodsIn
  rw [found]
  change (if contains source needle then c.methods.filterM (probe p needle) else .ok []) = _
  simp only [contains_eq, decide_eq_true_iff]

theorem filterM_probe (readable : ∀ m ∈ c.methods, ∀ mishap, p.methodSource m ≠ .error mishap) :
    c.methods.filterM (probe p needle) = .ok (c.methods.filter (holds p needle)) := by
  apply filterM_of_ok
  intro m listed
  cases read : p.methodSource m with
  | error mishap => exact absurd read (readable m listed mishap)
  | ok body => exact probe_of_ok read

theorem hits_of_not_silent (heard : ¬ Silent p needle c) :
    hits p needle c = (c.methods.filter (holds p needle)).map MethodSymbol.signature := by
  cases found : p.classSource c with
  | error mishap => exact absurd (.classFails found) heard
  | ok source =>
    have present : needle.toList <:+: source.toList :=
      Decidable.by_contra fun absent => heard (.lacks found absent)
    have readable : ∀ m ∈ c.methods, ∀ mishap, p.methodSource m ≠ .error mishap :=
      fun m listed mishap failed => heard (.methodFails listed failed)
    rw [hits, methodsIn_of_ok found, if_pos present, filterM_probe readable]

theorem hits_of_silent (silent : Silent p needle c) : hits p needle c = [] := by
  cases found : p.classSource c with
  | error mishap =>
    rw [hits, methodsIn, found]
    rfl
  | ok source =>
    by_cases present : needle.toList <:+: source.toList
    · cases silent with
      | classFails failed =>
        rw [failed] at found
        cases found
      | lacks same absent =>
        obtain rfl := Except.ok.inj (same.symm.trans found)
        exact absurd present absent
      | methodFails listed failed =>
        obtain ⟨first, stopped⟩ := filterM_of_error listed (probe_of_error failed)
        rw [hits, methodsIn_of_ok found, if_pos present, stopped]
    · rw [hits, methodsIn_of_ok found, if_neg present]
      rfl

theorem hits_sublist : (hits p needle c).Sublist (c.methods.map MethodSymbol.signature) := by
  by_cases silent : Silent p needle c
  · rw [hits_of_silent silent]
    exact List.nil_sublist _
  · rw [hits_of_not_silent silent]
    exact List.filter_sublist.map _

end Class

/-- Both providers answer alike, or fail alike, for a class and each of its methods. -/
structure SameSources (p q : Provider) (c : ClassSymbol) : Prop where
  ofClass : q.classSource c = p.classSource c
  ofMethods : ∀ m ∈ c.methods, q.methodSource m = p.methodSource m

section Providers
variable {p q : Provider} {needle : String} {c : ClassSymbol}

theorem SameSources.symm (same : SameSources p q c) : SameSources q p c :=
  ⟨same.ofClass.symm, fun m listed => (same.ofMethods m listed).symm⟩

theorem SameSources.silent (same : SameSources p q c) (silent : Silent p needle c) :
    Silent q needle c := by
  cases silent with
  | classFails failed => exact .classFails (same.ofClass.trans failed)
  | lacks found absent => exact .lacks (same.ofClass.trans found) absent
  | methodFails listed failed => exact .methodFails listed ((same.ofMethods _ listed).trans failed)

theorem SameSources.hits_eq (same : SameSources p q c) : hits q needle c = hits p needle c := by
  have sameHolds : ∀ m ∈ c.methods, holds q needle m = holds p needle m := by
    intro m listed
    rw [holds, holds, same.ofMethods m listed]
  by_cases silent : Silent p needle c
  · rw [hits_of_silent silent, hits_of_silent (same.silent silent)]
  · rw [hits_of_not_silent silent, hits_of_not_silent (mt same.symm.silent silent),
      List.filter_congr sameHolds]

end Providers

/-! Many classes. -/

section Classes
variable {p q : Provider} {needle : String} {c : ClassSymbol} {xs ys : List ClassSymbol}

@[simp] theorem run_empty : run p xs "" = [] :=
  if_pos rfl

theorem run_of_ne (nonempty : needle ≠ "") : run p xs needle = xs.flatMap (hits p needle) :=
  if_neg nonempty

theorem run_singleton (nonempty : needle ≠ "") : run p [c] needle = hits p needle c := by
  rw [run_of_ne nonempty, List.flatMap_singleton]

theorem run_append : run p (xs ++ ys) needle = run p xs needle ++ run p ys needle := by
  by_cases empty : needle = ""
  · simp [empty]
  · rw [run_of_ne empty, run_of_ne empty, run_of_ne empty, List.flatMap_append]

theorem run_sublist :
    (run p xs needle).Sublist (xs.flatMap fun c => c.methods.map MethodSymbol.signature) := by
  by_cases empty : needle = ""
  · simp [empty]
  · rw [run_of_ne empty]
    exact .flatMap_right xs fun _ _ => hits_sublist

theorem run_congr (same : ∀ c ∈ xs, SameSources p q c) : run q xs needle = run p xs needle := by
  unfold run
  rw [List.flatMap_congr fun c listed => (same c listed).hits_eq]

end Classes

/-- What a search promises of its result, whatever fails in it. -/
structure Isolates (p : Provider) (needle : String) : Prop where
  append : ∀ xs ys, run p (xs ++ ys) needle = run p xs needle ++ run p ys needle
  inOrder : ∀ xs, (run p xs needle).Sublist
    (xs.flatMap fun c => c.methods.map MethodSymbol.signature)
  every : ∀ c, needle ≠ "" → ¬ Silent p needle c →
    run p [c] needle = (c.methods.filter (holds p needle)).map MethodSymbol.signature
  nothing : ∀ c, needle = "" ∨ Silent p needle c → run p [c] needle = []
  /-- Whatever a provider does to one class, the others contribute what they did. -/
  undisturbed : ∀ (q : Provider) (xs ys : List ClassSymbol) (c : ClassSymbol),
    (∀ d ∈ xs ++ ys, SameSources p q d) →
      run q (xs ++ c :: ys) needle = run p xs needle ++ run q [c] needle ++ run p ys needle

theorem isolates (p : Provider) (needle : String) : Isolates p needle where
  append _ _ := run_append
  inOrder _ := run_sublist
  every c nonempty heard := by
    rw [run_singleton nonempty, hits_of_not_silent heard]
  nothing c why := by
    by_cases empty : needle = ""
    · simp [empty]
    · rw [run_singleton empty, hits_of_silent (why.resolve_left empty)]
  undisturbed q xs ys c same := by
    obtain ⟨before, after⟩ := List.forall_mem_append.1 same
    rw [List.append_cons, run_append, run_append, run_congr before, run_congr after]

/-! A provider that crashes in the second method of a class, after the first one was found. -/

/-- Answers with the written sources. -/
def written : Provider where
  name := "written"
  accepts _ := true
  load _ _ := .ok (.ofClasses [] none)
  classSource c := .ok (c.source.getD "")
  methodSource m := .ok m.source

def crashing : Provider :=
  { written with
    methodSource := fun m => if m.name = "crash" then .error .crash else .ok m.source }

def crashMethod : MethodSymbol := { name := "crash", returnType := "void" }

def sender (name : String) (others : List MethodSymbol) : ClassSymbol :=
  { fullName := name
    source := some "token();"
    methods := { name := "send", returnType := "void", declaringClass := name,
                 source := some "token();" } :: others }

theorem not_silent_written (name : String) (others : List MethodSymbol) :
    ¬ Silent written "token" (sender name others) := by
  intro silent
  cases silent with
  | classFails failed => cases failed
  | lacks found absent =>
    cases found
    have present : "token".toList <:+: "token();".toList := by decide
    exact absent present
  | methodFails _ failed => cases failed

theorem sameSources_sender (name : String) : SameSources written crashing (sender name []) :=
  ⟨rfl, List.forall_mem_singleton.2 rfl⟩

theorem isolates_halfway :
    run written [sender "a.B" [crashMethod]] "token" = ["a.B.send():void"] ∧
      run crashing [sender "a.A" [], sender "a.B" [crashMethod], sender "a.C" []] "token" =
        ["a.A.send():void", "a.C.send():void"] := by
  have silent : Silent crashing "token" (sender "a.B" [crashMethod]) :=
    .methodFails (List.mem_cons_of_mem _ (List.mem_singleton_self _)) rfl
  have found (name : String) (others : List MethodSymbol) :=
    (isolates written "token").every _ (by decide) (not_silent_written name others)
  constructor
  · rw [found]
    decide
  · have whole := (isolates written "token").undisturbed crashing [sender "a.A" []]
      [sender "a.C" []] (sender "a.B" [crashMethod]) (List.forall_mem_cons.2
        ⟨sameSources_sender _, List.forall_mem_singleton.2 (sameSources_sender _)⟩)
    rw [(isolates crashing "token").nothing _ (.inr silent), found, found] at whole
    exact whole.trans (by decide)

end ClassAtlas.Search
