import ClassAtlas.Proofs.Search.Isolation

/-! Passing over a class whose own source lacks the text loses nothing, provided the source
of a class holds the bodies of its methods. Against a search that reconstructs the methods of
every class: a class that is passed over has no body with the text, and if one of its methods
cannot be reconstructed, then it contributes nothing there either. -/
namespace ClassAtlas.Search

/-- The methods of a class whose bodies hold the needle, without a look at what its own source
holds. -/
def methodsAnywhere (p : Provider) (needle : String) (c : ClassSymbol) :
    Except Mishap (List MethodSymbol) := do
  let _ ← p.classSource c
  c.methods.filterM (probe p needle)

def hitsAnywhere (p : Provider) (needle : String) (c : ClassSymbol) : List String :=
  match methodsAnywhere p needle c with
  | .ok methods => methods.map MethodSymbol.signature
  | .error _ => []

/-- The search in which no class is passed over. -/
def runThorough (p : Provider) (classes : List ClassSymbol) (needle : String) : List String :=
  if needle = "" then [] else classes.flatMap (hitsAnywhere p needle)

/-- The reconstruction of a class or of one of its methods ends in a mishap. -/
inductive Fails (p : Provider) (c : ClassSymbol) : Prop where
  | ofClass {mishap : Mishap} (failed : p.classSource c = .error mishap)
  | ofMethod {m : MethodSymbol} {mishap : Mishap} (listed : m ∈ c.methods)
      (failed : p.methodSource m = .error mishap)

/-- If a class is reconstructed, its source holds every body that its methods are
reconstructed with. -/
def HoldsBodies (p : Provider) (c : ClassSymbol) : Prop :=
  ∀ source, p.classSource c = .ok source →
    ∀ m ∈ c.methods, ∀ body, p.methodSource m = .ok (some body) →
      body.toList <:+: source.toList

section Class
variable {p : Provider} {needle source : String} {c : ClassSymbol} {m : MethodSymbol}

theorem Fails.silent (fails : Fails p c) : Silent p needle c := by
  cases fails with
  | ofClass failed => exact .classFails failed
  | ofMethod listed failed => exact .methodFails listed failed

theorem exists_source_of_not_fails (sound : ¬ Fails p c) :
    ∃ source, p.classSource c = .ok source := by
  cases found : p.classSource c with
  | error mishap => exact absurd (.ofClass found) sound
  | ok source => exact ⟨source, rfl⟩

theorem methodsAnywhere_of_ok (found : p.classSource c = .ok source) :
    methodsAnywhere p needle c = c.methods.filterM (probe p needle) := by
  rw [methodsAnywhere, found]
  rfl

theorem hitsAnywhere_of_fails (fails : Fails p c) : hitsAnywhere p needle c = [] := by
  cases found : p.classSource c with
  | error mishap =>
    rw [hitsAnywhere, methodsAnywhere, found]
    rfl
  | ok source =>
    cases fails with
    | ofClass failed =>
      rw [failed] at found
      cases found
    | ofMethod listed failed =>
      obtain ⟨first, stopped⟩ := filterM_of_error listed (probe_of_error failed)
      rw [hitsAnywhere, methodsAnywhere_of_ok found, stopped]

theorem hitsAnywhere_of_not_fails (sound : ¬ Fails p c) :
    hitsAnywhere p needle c = (c.methods.filter (holds p needle)).map MethodSymbol.signature := by
  obtain ⟨source, found⟩ := exists_source_of_not_fails sound
  have readable : ∀ m ∈ c.methods, ∀ mishap, p.methodSource m ≠ .error mishap :=
    fun m listed mishap failed => sound (.ofMethod listed failed)
  rw [hitsAnywhere, methodsAnywhere_of_ok found, filterM_probe readable]

theorem exists_body_of_holds (held : holds p needle m = true) :
    ∃ body, p.methodSource m = .ok (some body) ∧ needle.toList <:+: body.toList := by
  unfold holds at held
  split at held
  · next body read => exact ⟨body, read, of_decide_eq_true held⟩
  · cases held

/-- A body with the needle would bring the needle into the source of the class. -/
theorem filter_holds_of_lacks (covers : HoldsBodies p c) (found : p.classSource c = .ok source)
    (absent : ¬ needle.toList <:+: source.toList) : c.methods.filter (holds p needle) = [] := by
  rw [List.filter_eq_nil_iff]
  intro m listed held
  obtain ⟨body, read, inBody⟩ := exists_body_of_holds held
  exact absent (inBody.trans (covers source found m listed body read))

theorem hits_eq_hitsAnywhere (covers : HoldsBodies p c) :
    hits p needle c = hitsAnywhere p needle c := by
  by_cases fails : Fails p c
  · rw [hits_of_silent fails.silent, hitsAnywhere_of_fails fails]
  · rw [hitsAnywhere_of_not_fails fails]
    by_cases silent : Silent p needle c
    · rw [hits_of_silent silent]
      cases silent with
      | classFails failed => exact absurd (.ofClass failed) fails
      | methodFails listed failed => exact absurd (.ofMethod listed failed) fails
      | lacks found absent => rw [filter_holds_of_lacks covers found absent, List.map_nil]
    · exact hits_of_not_silent silent

end Class

section Classes
variable {p : Provider} {needle : String} {c : ClassSymbol} {classes : List ClassSymbol}

theorem runThorough_of_fails (fails : Fails p c) : runThorough p [c] needle = [] := by
  unfold runThorough
  split
  · rfl
  · rw [List.flatMap_singleton, hitsAnywhere_of_fails fails]

theorem run_of_fails (fails : Fails p c) : run p [c] needle = [] := by
  unfold run
  split
  · rfl
  · rw [List.flatMap_singleton, hits_of_silent fails.silent]

/-- Both searches return the same, and in both a class that fails contributes nothing. -/
theorem run_eq_runThorough (covers : ∀ c ∈ classes, HoldsBodies p c) :
    run p classes needle = runThorough p classes needle ∧
      ∀ c, Fails p c → run p [c] needle = [] ∧ runThorough p [c] needle = [] := by
  constructor
  · unfold run runThorough
    rw [List.flatMap_congr fun c listed => hits_eq_hitsAnywhere (covers c listed)]
  · exact fun c fails => ⟨run_of_fails fails, runThorough_of_fails fails⟩

end Classes

/-! A class that is passed over although one of its methods would have crashed, beside one
with a method that has no body. -/

def bodiless : MethodSymbol := { name := "open", returnType := "void", declaringClass := "a.A" }

def idler : ClassSymbol where
  fullName := "a.K"
  source := some "idle();"
  methods := [{ name := "idle", returnType := "void", declaringClass := "a.K",
                source := some "idle();" }, crashMethod]

theorem holdsBodies_idler : HoldsBodies crashing idler := by
  intro source found m listed body read
  cases found
  have two : m = idler.methods.head (by decide) ∨ m = crashMethod := by
    simpa [idler] using listed
  rcases two with rfl | rfl
  · cases read
    exact List.infix_rfl
  · cases read

theorem holdsBodies_sender : HoldsBodies crashing (sender "a.A" [bodiless]) := by
  intro source found m listed body read
  cases found
  have two : m = (sender "a.A" []).methods.head (by decide) ∨ m = bodiless := by
    simpa [sender] using listed
  rcases two with rfl | rfl
  · cases read
    exact List.infix_rfl
  · cases read

theorem run_eq_runThorough_idler :
    (∀ c ∈ [idler, sender "a.A" [bodiless]], HoldsBodies crashing c) ∧ Fails crashing idler ∧
      run crashing [idler] "token" = [] ∧ runThorough crashing [idler] "token" = [] ∧
        run crashing [idler, sender "a.A" [bodiless]] "token" = ["a.A.send():void"] ∧
          runThorough crashing [idler, sender "a.A" [bodiless]] "token" = ["a.A.send():void"] := by
  have covers : ∀ c ∈ [idler, sender "a.A" [bodiless]], HoldsBodies crashing c :=
    List.forall_mem_cons.2 ⟨holdsBodies_idler, List.forall_mem_singleton.2 holdsBodies_sender⟩
  have fails : Fails crashing idler := .ofMethod (m := crashMethod) (by simp [idler]) rfl
  have found : run crashing [idler, sender "a.A" [bodiless]] "token" = ["a.A.send():void"] := by
    decide
  have same : run crashing [idler, sender "a.A" [bodiless]] "token" =
      runThorough crashing [idler, sender "a.A" [bodiless]] "token" :=
    (run_eq_runThorough covers).1
  obtain ⟨passedOver, stopped⟩ := (run_eq_runThorough covers).2 idler fails
  exact ⟨covers, fails, passedOver, stopped, found, same ▸ found⟩

end ClassAtlas.Search
