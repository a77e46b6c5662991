import ClassAtlas.Proofs.Graph.Normalization
import ClassAtlas.Provider.Snapshot

/-! Snapshots are merged in the order of their inputs, or not at all. The first input that
cannot be loaded decides; if there is none, a program of two lists of inputs is that of the
first list followed by that of the second, and where both have an answer the first one
gives it. Nothing is said of how files are read, parsed and digested. -/
namespace ClassAtlas

/-! A list of steps that may fail. -/

section Steps
variable {α β : Type} {step : α → Except Failure β} {items : List α}

theorem mapM_eq_ok_iff {results : List β} :
    items.mapM step = .ok results ↔ List.Forall₂ (fun a b => step a = .ok b) items results := by
  induction items generalizing results with
  | nil =>
    rw [List.mapM_nil, List.forall₂_nil_left_iff]
    exact ⟨fun same => (Except.ok.inj same).symm, fun same => same ▸ rfl⟩
  | cons a rest ih =>
    rw [List.mapM_cons, bind_eq_ok_iff]
    constructor
    · rintro ⟨b, here, more⟩
      obtain ⟨bs, later, same⟩ := bind_eq_ok_iff.1 more
      cases same
      exact .cons here (ih.1 later)
    · rintro (_ | ⟨here, later⟩)
      exact ⟨_, here, bind_eq_ok_iff.2 ⟨_, ih.2 later, rfl⟩⟩

/-- The first step that fails, with all before it passed, decides. -/
theorem mapM_eq_error_iff {why : Failure} :
    items.mapM step = .error why ↔
      ∃ before a after, items = before ++ a :: after ∧
        (∀ earlier ∈ before, ∃ b, step earlier = .ok b) ∧ step a = .error why := by
  induction items with
  | nil =>
    rw [List.mapM_nil]
    constructor
    · intro failed
      cases failed
    · rintro ⟨before, a, after, glued, _⟩
      exact absurd glued (by simp)
  | cons first rest ih =>
    rw [List.mapM_cons, bind_eq_error_iff]
    constructor
    · rintro (here | ⟨b, passed, more⟩)
      · exact ⟨[], first, rest, rfl, by simp, here⟩
      · have later : rest.mapM step = .error why := by
          rcases bind_eq_error_iff.1 more with later | ⟨_, _, pure_failed⟩
          · exact later
          · cases pure_failed
        obtain ⟨before, a, after, glued, allPassed, failed⟩ := ih.1 later
        refine ⟨first :: before, a, after, by rw [glued, List.cons_append], ?_, failed⟩
        exact List.forall_mem_cons.2 ⟨⟨b, passed⟩, allPassed⟩
    · rintro ⟨before, a, after, glued, allPassed, failed⟩
      cases before with
      | nil =>
        cases glued
        exact .inl failed
      | cons b before =>
        cases glued
        obtain ⟨⟨result, passed⟩, othersPassed⟩ := List.forall_mem_cons.1 allPassed
        have later := ih.2 ⟨before, a, after, rfl, othersPassed, failed⟩
        exact .inr ⟨result, passed, bind_eq_error_iff.2 (.inl later)⟩

end Steps

namespace Snapshot

/-- Why an input cannot be loaded: its format is not known, it cannot be read, or what it
holds is no snapshot. -/
inductive Refused (w : World) (path : String) : Failure → Prop where
  | extension (foreign : Format.ofPath? path = none) :
      Refused w path (.invalidPath path .unsupportedExtension)
  | unreadable {format : Format} {why : Obstacle} (known : Format.ofPath? path = some format)
      (blocked : w.readFile path = .error why) :
      Refused w path (.invalidPath path (.unreadable why))
  | unparsable {format : Format} {bytes : List UInt8} {fault : Document.ReadFault}
      (known : Format.ofPath? path = some format) (read : w.readFile path = .ok bytes)
      (broken : parse format bytes = .error fault) : Refused w path (.unparsable path fault)

/-- Some input is refused, and none before it. -/
def FirstRefused (w : World) (inputs : List String) (why : Failure) : Prop :=
  ∃ before path after, inputs = before ++ path :: after ∧
    (∀ earlier ∈ before, ∀ other, ¬ Refused w earlier other) ∧ Refused w path why

/-- What the inputs hold, one after the other. -/
def Bodies (w : World) (inputs : List String) (bodies : List (List UInt8)) : Prop :=
  List.Forall₂ (fun path body => w.readFile path = .ok body) inputs bodies

/-- The program of two lists of inputs, against the programs of the two lists. -/
structure Merges (w : World) (xs ys : List String) (first second whole : ProgramGraph) :
    Prop where
  classes : whole.classes = first.classes ++ second.classes
  manifest : whole.manifest = first.manifest.or second.manifest
  allClasses : whole.allClasses = first.allClasses ++ second.allClasses
  findClass? : ∀ name,
    whole.findClass? name = (first.findClass? name).or (second.findClass? name)
  inputs : whole.inputs = xs ++ ys
  fingerprint : ∃ bodies, Bodies w (xs ++ ys) bodies ∧
    whole.fingerprint = some (Digest.sha256Hex bodies.flatten)
  loadedAt : whole.loadedAt = some w.time

section Input
variable {w : World} {path : String}

theorem readInput_eq_error_iff {why : Failure} :
    readInput w path = .error why ↔ Refused w path why := by
  constructor
  · intro failed
    unfold readInput at failed
    split at failed
    · next foreign =>
      cases failed
      exact .extension foreign
    · next format known =>
      split at failed
      · next blocked =>
        cases failed
        exact .unreadable known blocked
      · next bytes read =>
        split at failed
        · next broken =>
          cases failed
          exact .unparsable known read broken
        · cases failed
  · intro refused
    unfold readInput
    cases refused with
    | extension foreign => rw [foreign]
    | unreadable known blocked => simp only [known, blocked]
    | unparsable known read broken => simp only [known, read, broken]

theorem readFile_of_readInput {part : List UInt8 × Snapshot}
    (held : readInput w path = .ok part) : w.readFile path = .ok part.1 := by
  unfold readInput at held
  split at held
  · cases held
  · split at held
    · cases held
    · next bytes read =>
      split at held
      · cases held
      · cases held
        exact read

theorem exists_readInput_iff :
    (∃ part, readInput w path = .ok part) ↔ ∀ why, ¬ Refused w path why := by
  constructor
  · rintro ⟨part, held⟩ why refused
    rw [readInput_eq_error_iff.2 refused] at held
    cases held
  · intro accepted
    cases outcome : readInput w path with
    | error why => exact absurd (readInput_eq_error_iff.1 outcome) (accepted why)
    | ok part => exact ⟨part, rfl⟩

end Input

section Load
variable {w : World} {inputs : List String}

/-- The program of inputs that were read. -/
def assemble (w : World) (inputs : List String) (parts : List (List UInt8 × Snapshot)) :
    ProgramGraph :=
  { merge (parts.map Prod.snd) with
    inputs := inputs
    fingerprint := some (Digest.sha256Hex (parts.flatMap Prod.fst))
    loadedAt := some w.time }

theorem load_eq_ok_iff {g : ProgramGraph} :
    load w inputs = .ok g ↔
      ∃ parts, inputs.mapM (readInput w) = .ok parts ∧ g = assemble w inputs parts := by
  unfold load
  rw [bind_eq_ok_iff]
  refine exists_congr fun parts => and_congr_right fun _ => ?_
  exact ⟨fun same => (Except.ok.inj same).symm, fun same => same ▸ rfl⟩

theorem load_eq_error_iff {why : Failure} :
    load w inputs = .error why ↔ FirstRefused w inputs why := by
  have stopped : load w inputs = .error why ↔ inputs.mapM (readInput w) = .error why := by
    unfold load
    rw [bind_eq_error_iff]
    exact or_iff_left fun ⟨_, _, failed⟩ => by cases failed
  rw [stopped, mapM_eq_error_iff]
  simp only [FirstRefused, exists_readInput_iff, readInput_eq_error_iff]

theorem load_singleton_eq_error_iff {path : String} {why : Failure} :
    load w [path] = .error why ↔ Refused w path why := by
  rw [load_eq_error_iff]
  constructor
  · rintro ⟨before, other, after, glued, _, refused⟩
    cases before with
    | nil => cases glued; exact refused
    | cons b before => exact absurd glued (by simp)
  · intro refused
    exact ⟨[], path, [], rfl, by simp, refused⟩

theorem bodies_of_mapM {parts : List (List UInt8 × Snapshot)}
    (held : inputs.mapM (readInput w) = .ok parts) : Bodies w inputs (parts.map Prod.fst) := by
  rw [Bodies, List.forall₂_map_right_iff]
  exact (mapM_eq_ok_iff.1 held).imp fun _ _ => readFile_of_readInput

end Load

section Append
variable {w : World} {xs ys : List String} {first second whole : ProgramGraph}

theorem merges_assemble {ps qs : List (List UInt8 × Snapshot)}
    (firstHeld : xs.mapM (readInput w) = .ok ps) (secondHeld : ys.mapM (readInput w) = .ok qs) :
    Merges w xs ys (assemble w xs ps) (assemble w ys qs) (assemble w (xs ++ ys) (ps ++ qs)) := by
  have classes : (assemble w (xs ++ ys) (ps ++ qs)).classes =
      (assemble w xs ps).classes ++ (assemble w ys qs).classes := by
    simp [assemble, merge, ProgramGraph.ofClasses, ClassSymbol.normalizeAll_eq_map]
  have allClasses : (assemble w (xs ++ ys) (ps ++ qs)).allClasses =
      (assemble w xs ps).allClasses ++ (assemble w ys qs).allClasses := by
    rw [ProgramGraph.allClasses, classes, ClassSymbol.flattenAll_append]
    rfl
  refine ⟨classes, ?_, allClasses, ?_, rfl, ?_, rfl⟩
  · simp [assemble, merge, ProgramGraph.ofClasses]
  · intro name
    rw [ProgramGraph.findClass?, allClasses, List.find?_append]
    rfl
  · refine ⟨ps.map Prod.fst ++ qs.map Prod.fst, ?_, ?_⟩
    · exact List.rel_append (bodies_of_mapM firstHeld) (bodies_of_mapM secondHeld)
    · rw [assemble, ← List.map_append, ← List.flatMap_def]

/-- A program is told by what it merges. -/
theorem Merges.unique {other : ProgramGraph} (merged : Merges w xs ys first second whole)
    (alike : Merges w xs ys first second other) : whole = other := by
  have fingerprint : whole.fingerprint = other.fingerprint := by
    obtain ⟨bodies, read, digested⟩ := merged.fingerprint
    obtain ⟨bodies', read', digested'⟩ := alike.fingerprint
    have functional : Relator.RightUnique fun path body => w.readFile path = .ok body :=
      fun _ _ _ one two => Except.ok.inj (one.symm.trans two)
    rw [digested, digested', functional.forall₂ read read']
  have classes := merged.classes.trans alike.classes.symm
  have manifest := merged.manifest.trans alike.manifest.symm
  have inputs := merged.inputs.trans alike.inputs.symm
  have loadedAt := merged.loadedAt.trans alike.loadedAt.symm
  cases whole
  cases other
  cases classes
  cases manifest
  cases inputs
  cases fingerprint
  cases loadedAt
  rfl

theorem load_append_eq_ok_iff :
    load w (xs ++ ys) = .ok whole ↔ ∃ first second, load w xs = .ok first ∧
      load w ys = .ok second ∧ Merges w xs ys first second whole := by
  constructor
  · intro loaded
    obtain ⟨parts, held, rfl⟩ := load_eq_ok_iff.1 loaded
    rw [List.mapM_append, bind_eq_ok_iff] at held
    obtain ⟨ps, firstHeld, more⟩ := held
    obtain ⟨qs, secondHeld, same⟩ := bind_eq_ok_iff.1 more
    cases same
    exact ⟨_, _, load_eq_ok_iff.2 ⟨ps, firstHeld, rfl⟩, load_eq_ok_iff.2 ⟨qs, secondHeld, rfl⟩,
      merges_assemble firstHeld secondHeld⟩
  · rintro ⟨first, second, firstLoaded, secondLoaded, merged⟩
    obtain ⟨ps, firstHeld, rfl⟩ := load_eq_ok_iff.1 firstLoaded
    obtain ⟨qs, secondHeld, rfl⟩ := load_eq_ok_iff.1 secondLoaded
    have held : (xs ++ ys).mapM (readInput w) = .ok (ps ++ qs) := by
      rw [List.mapM_append, firstHeld, secondHeld]
      rfl
    rw [merged.unique (merges_assemble firstHeld secondHeld)]
    exact load_eq_ok_iff.2 ⟨ps ++ qs, held, rfl⟩

end Append

/-- What is promised of inputs that are loaded together. -/
structure LoadsInOrder (w : World) (xs ys : List String) : Prop where
  alone : ∀ path why, load w [path] = .error why ↔ Refused w path why
  fails : (∃ why, load w (xs ++ ys) = .error why) ↔
    ∃ path ∈ xs ++ ys, ∃ why, load w [path] = .error why
  earliest : ∀ why, load w (xs ++ ys) = .error why ↔ FirstRefused w (xs ++ ys) why
  merges : ∀ whole, load w (xs ++ ys) = .ok whole ↔
    ∃ first second, load w xs = .ok first ∧ load w ys = .ok second ∧
      Merges w xs ys first second whole

theorem exists_load_error_iff {w : World} {inputs : List String} :
    (∃ why, load w inputs = .error why) ↔
      ∃ path ∈ inputs, ∃ why, load w [path] = .error why := by
  constructor
  · rintro ⟨why, failed⟩
    obtain ⟨before, path, after, rfl, _, refused⟩ := load_eq_error_iff.1 failed
    exact ⟨path, by simp, why, load_singleton_eq_error_iff.2 refused⟩
  · rintro ⟨path, listed, why, failed⟩
    obtain ⟨before, after, rfl⟩ := List.append_of_mem listed
    cases outcome : load w (before ++ path :: after) with
    | error first => exact ⟨first, rfl⟩
    | ok g =>
      obtain ⟨_, rest, _, restLoaded, _⟩ := load_append_eq_ok_iff.1 outcome
      have headed : load w ([path] ++ after) = .ok rest := restLoaded
      obtain ⟨part, _, loaded, _⟩ := load_append_eq_ok_iff.1 headed
      rw [failed] at loaded
      cases loaded

theorem loadsInOrder (w : World) (xs ys : List String) : LoadsInOrder w xs ys where
  alone _ _ := load_singleton_eq_error_iff
  fails := exists_load_error_iff
  earliest _ := load_eq_error_iff
  merges _ := load_append_eq_ok_iff

end Snapshot

end ClassAtlas
