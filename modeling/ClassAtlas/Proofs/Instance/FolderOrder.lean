import ClassAtlas.Proofs.Instance.Lifecycle
import ClassAtlas.Proofs.Snapshot.Merging
import ClassAtlas.Proofs.Text.ByteOrder

/-! The order in which a folder is listed makes no difference to a load of it. What the
provider is given are the files that it accepts, in the order of the bytes of their names,
so two loads of one folder differ in no more than the times that they note, and whatever
the first of several classes decides is decided by the same one. -/
namespace ClassAtlas

/-- What two worlds have at a path, if they may list a folder in different orders. -/
inductive SameListing : Except Obstacle Entry → Except Obstacle Entry → Prop where
  | same (found : Except Obstacle Entry) : SameListing found found
  | reordered {names other : List String} (perm : names.Perm other) :
      SameListing (.ok (.folder (.ok names))) (.ok (.folder (.ok other)))

/-- The same files and folders, listed in any order and looked at whenever. -/
def World.Relists (w other : World) : Prop :=
  ∀ path, SameListing (w.entry path) (other.entry path)

/-! Everything but the time of the load. -/

def ProgramGraph.untimed (g : ProgramGraph) : ProgramGraph := { g with loadedAt := none }

def ProgramInstance.untimed (i : ProgramInstance) : ProgramInstance :=
  { i with program := i.program.map fun p => { p with graph := p.graph.untimed } }

def Answer.untimed : Answer → Answer
  | .summary info => .summary { info with loadedAt := none }
  | answer => answer

/-- In both worlds a provider loads the same from the same inputs: when it is asked and how
folders are listed is nothing to it. -/
def Provider.LoadsAlike (p : Provider) (w other : World) : Prop :=
  ∀ inputs, (p.load w inputs).map ProgramGraph.untimed =
    (p.load other inputs).map ProgramGraph.untimed

/-- Where several classes or inputs could answer, the same one does. -/
structure ProgramGraph.ChoosesAlike (g h : ProgramGraph) : Prop where
  manifest : g.manifest = h.manifest
  findClass? : ∀ name, g.findClass? name = h.findClass? name
  firstExtender? : ∀ stubName, AidlInterface.firstExtender? g.allClasses stubName =
    AidlInterface.firstExtender? h.allClasses stubName

section Relisted
variable {w other : World} (relisted : w.Relists other)
include relisted

theorem entry_of_relists (path : String) :
    other.entry path = w.entry path ∨ ∃ names names', names.Perm names' ∧
      w.entry path = .ok (.folder (.ok names)) ∧ other.entry path = .ok (.folder (.ok names')) := by
  have listing := relisted path
  generalize w.entry path = found at listing ⊢
  generalize other.entry path = found' at listing ⊢
  cases listing with
  | same => exact .inl rfl
  | reordered perm => exact .inr ⟨_, _, perm, rfl, rfl⟩

theorem isFile_of_relists (path : String) : other.isFile path = w.isFile path := by
  unfold World.isFile
  obtain same | ⟨_, _, _, listed, listed'⟩ := entry_of_relists relisted path
  · rw [same]
  · rw [listed, listed']

theorem readFile_of_relists (path : String) : other.readFile path = w.readFile path := by
  unfold World.readFile
  obtain same | ⟨_, _, _, listed, listed'⟩ := entry_of_relists relisted path
  · rw [same]
  · rw [listed, listed']
    rfl

/-- A folder that is listed in one order is listed in another one as well. -/
theorem exists_listing_of_relists {path : String} {names : List String}
    (listed : w.entry path = .ok (.folder (.ok names))) :
    ∃ names', other.entry path = .ok (.folder (.ok names')) ∧ names.Perm names' := by
  obtain same | ⟨_, names', perm, before, after⟩ := entry_of_relists relisted path
  · exact ⟨names, same.trans listed, .refl names⟩
  · cases listed.symm.trans before
    exact ⟨names', after, perm⟩

end Relisted

namespace ProgramInstance

/-- A name in the folder stands for a file that the provider accepts. -/
def takes (i : ProgramInstance) (w : World) (name : String) : Bool :=
  w.isFile (Path.join i.path name) && i.provider.accepts (Path.join i.path name)

/-- The names of a listing that are loaded: those of accepted files, as often as they are
listed, in the order of their bytes. -/
structure Keeps (i : ProgramInstance) (w : World) (names kept : List String) : Prop where
  perm : kept.Perm (names.filter (i.takes w))
  ordered : kept.Pairwise fun a b => Text.utf8 a ≤ Text.utf8 b
  once : names.Nodup → kept.Pairwise fun a b => Text.utf8 a < Text.utf8 b

/-- What a load of a folder comes to in two worlds. A provider that loads alike leaves the
same program bound in both, and no questions tell the one from the other. -/
structure LoadsInAnyOrder (i : ProgramInstance) (w other : World) : Prop where
  nothing : ∀ names, w.entry i.path = .ok (.folder (.ok names)) →
    (∀ name ∈ names, i.takes w name = false) →
      let refused := (.error (.invalidPath i.path .nothingLoadable), { i with program := none })
      i.loadFolder w = refused ∧ i.loadFolder other = refused
  /-- Whatever the provider does, it does it with the same inputs. -/
  something : ∀ names, w.entry i.path = .ok (.folder (.ok names)) →
    (∃ name ∈ names, i.takes w name) →
      ∃ kept, i.Keeps w names kept ∧
        let inputs := kept.map (Path.join i.path)
        i.loadFolder w = i.bindLoaded (i.provider.load w inputs) ∧
          i.loadFolder other = i.bindLoaded (i.provider.load other inputs)
  same : i.provider.LoadsAlike w other →
    (i.loadFolder w).1 = (i.loadFolder other).1 ∧
      (i.loadFolder w).2.untimed = (i.loadFolder other).2.untimed
  choices : i.provider.LoadsAlike w other → ∀ g h, (i.loadFolder w).2.graph? = some g →
    (i.loadFolder other).2.graph? = some h → g.ChoosesAlike h
  answers : i.provider.LoadsAlike w other → ∀ history q,
    (((i.loadFolder w).2.after history).ask q).1.untimed =
      (((i.loadFolder other).2.after history).ask q).1.untimed
  /-- Snapshots are loaded alike, and what is accepted has an extension that is known. -/
  snapshots : i.provider = Snapshot.provider → i.provider.LoadsAlike w other ∧
    ∀ path, (i.loadFolder w).1 ≠ .error (.invalidPath path .unsupportedExtension)

/-! What is kept of a listing. -/

section Kept
variable {i : ProgramInstance} {w other : World} {names names' kept kept' : List String}

theorem keeps_mergeSort (i : ProgramInstance) (w : World) (names : List String) :
    i.Keeps w names ((names.mergeSort fun a b => decide (a ≤ b)).filter (i.takes w)) := by
  have sorted : (names.mergeSort fun a b => decide (a ≤ b)).Pairwise fun a b => a ≤ b := by
    have ordered := @List.pairwise_mergeSort String (fun a b => decide (a ≤ b))
      (by simpa using fun a b c => String.le_trans) (by simpa using String.le_total) names
    simpa using ordered
  have perm := (List.mergeSort_perm names fun a b => decide (a ≤ b)).filter (i.takes w)
  refine ⟨perm, (sorted.filter _).imp Text.utf8_le_iff.2, fun distinct => ?_⟩
  have keptOnce := perm.nodup_iff.2 (distinct.filter _)
  refine ((sorted.filter _).and keptOnce).imp fun {a b} ⟨ordered, differ⟩ => ?_
  exact Text.utf8_lt_iff.2 (lt_of_le_of_ne ordered differ)

theorem Keeps.unique (keeps : i.Keeps w names kept) (alike : i.Keeps w names kept') :
    kept = kept' := by
  refine List.Perm.eq_of_pairwise ?_ keeps.ordered alike.ordered (keeps.perm.trans alike.perm.symm)
  intro a b _ _ upward downward
  exact String.le_antisymm (Text.utf8_le_iff.1 upward) (Text.utf8_le_iff.1 downward)

theorem takes_of_relists (relisted : w.Relists other) : i.takes other = i.takes w := by
  funext name
  rw [takes, takes, isFile_of_relists relisted]

theorem Keeps.relist (relisted : w.Relists other) (perm : names.Perm names')
    (keeps : i.Keeps w names kept) : i.Keeps other names' kept where
  perm := by
    rw [takes_of_relists relisted]
    exact keeps.perm.trans (perm.filter _)
  ordered := keeps.ordered
  once distinct := keeps.once (perm.nodup_iff.2 distinct)

end Kept

theorem aidlInterface_untimed (i : ProgramInstance) (interfaceName : String) (force : Bool) :
    i.untimed.aidlInterface interfaceName force =
      ((i.aidlInterface interfaceName force).1,
        (i.aidlInterface interfaceName force).2.untimed) := by
  obtain ⟨id, path, provider, program⟩ := i
  unfold aidlInterface
  cases program with
  | none => rfl
  | some p => cases normalizeClassName interfaceName <;> rfl

theorem ask_untimed (i : ProgramInstance) (q : Question) :
    i.untimed.ask q = ((i.ask q).1.untimed, (i.ask q).2.untimed) := by
  cases q with
  | aidlInterface n force => rw [ask, aidlInterface_untimed]; rfl
  | aidlMethods n => rw [ask, aidlMethods, aidlInterface_untimed]; rfl
  | aidlImplementation n => rw [ask, aidlImplementation, aidlInterface_untimed]; rfl
  | _ =>
    obtain ⟨id, path, provider, program⟩ := i
    cases program <;> rfl

theorem after_untimed (i : ProgramInstance) (history : List Question) :
    i.untimed.after history = (i.after history).untimed := by
  induction history generalizing i with
  | nil => rfl
  | cons q rest ih => rw [after_cons, after_cons, ask_untimed, ih]

/-! What a load comes to. -/

section Load
variable {i : ProgramInstance} {w other : World} {names names' kept : List String}

theorem inputsAmong_eq (i : ProgramInstance) (w : World) (names : List String) :
    i.inputsAmong w names =
      ((names.mergeSort fun a b => decide (a ≤ b)).filter (i.takes w)).map (Path.join i.path) :=
  List.filter_map

theorem inputsAmong_of_keeps (keeps : i.Keeps w names kept) :
    i.inputsAmong w names = kept.map (Path.join i.path) := by
  rw [inputsAmong_eq, (i.keeps_mergeSort w names).unique keeps]

theorem loadFolder_of_nothing (listed : w.entry i.path = .ok (.folder (.ok names)))
    (nothing : ∀ name ∈ names, i.takes w name = false) :
    i.loadFolder w = (.error (.invalidPath i.path .nothingLoadable), { i with program := none }) := by
  have empty : i.inputsAmong w names = [] := by
    rw [inputsAmong_eq, List.map_eq_nil_iff, List.filter_eq_nil_iff]
    simpa using nothing
  rw [loadFolder, readFolder, listed]
  simp only [empty]
  rfl

theorem loadFolder_of_keeps (listed : w.entry i.path = .ok (.folder (.ok names)))
    (something : ∃ name ∈ names, i.takes w name) (keeps : i.Keeps w names kept) :
    i.loadFolder w = i.bindLoaded (i.provider.load w (kept.map (Path.join i.path))) := by
  obtain ⟨name, mem, taken⟩ := something
  have mem' : name ∈ kept := keeps.perm.mem_iff.2 (List.mem_filter.2 ⟨mem, taken⟩)
  rw [loadFolder, readFolder, listed]
  simp only [inputsAmong_of_keeps keeps]
  cases kept with
  | nil => cases mem'
  | cons first rest => rfl

theorem inputsAmong_of_relists (i : ProgramInstance) (relisted : w.Relists other)
    (perm : names.Perm names') : i.inputsAmong other names' = i.inputsAmong w names := by
  rw [inputsAmong_of_keeps ((i.keeps_mergeSort w names).relist relisted perm), inputsAmong_eq]

/-- What is no folder, or cannot be listed, is refused in the same words. -/
theorem readFolder_alike (relisted : w.Relists other) (alike : i.provider.LoadsAlike w other) :
    (i.readFolder w).map ProgramGraph.untimed = (i.readFolder other).map ProgramGraph.untimed := by
  by_cases folder : ∃ names, w.entry i.path = .ok (.folder (.ok names))
  · obtain ⟨names, listed⟩ := folder
    obtain ⟨names', listed', perm⟩ := exists_listing_of_relists relisted listed
    rw [readFolder, readFolder, listed, listed']
    simp only [i.inputsAmong_of_relists relisted perm]
    cases i.inputsAmong w names with
    | nil => rfl
    | cons first rest => exact alike _
  · have entry : other.entry i.path = w.entry i.path :=
      (entry_of_relists relisted i.path).resolve_right
        fun ⟨names, _, _, listed, _⟩ => folder ⟨names, listed⟩
    rw [readFolder, readFolder, entry]
    generalize w.entry i.path = found at folder
    rcases found with obstacle | bytes | (why | names)
    · rfl
    · rfl
    · rfl
    · exact absurd ⟨names, rfl⟩ folder

theorem bindLoaded_alike {read read' : Except Failure ProgramGraph}
    (alike : read.map ProgramGraph.untimed = read'.map ProgramGraph.untimed) :
    (i.bindLoaded read).1 = (i.bindLoaded read').1 ∧
      (i.bindLoaded read).2.untimed = (i.bindLoaded read').2.untimed := by
  cases read with
  | error why =>
    cases read' with
    | error why' => cases alike; exact ⟨rfl, rfl⟩
    | ok h => cases alike
  | ok g =>
    cases read' with
    | error why' => cases alike
    | ok h =>
      have same : g.untimed = h.untimed := Except.ok.inj alike
      refine ⟨rfl, ?_⟩
      simp only [bindLoaded, bind, untimed, Option.map_some, same]

end Load

theorem choosesAlike_of_untimed {g h : ProgramGraph} (same : g.untimed = h.untimed) :
    g.ChoosesAlike h := by
  have manifest : g.untimed.manifest = h.untimed.manifest := by rw [same]
  have classes : g.untimed.allClasses = h.untimed.allClasses := by rw [same]
  refine ⟨manifest, fun name => ?_, fun stubName => ?_⟩
  · exact congrArg (List.find? fun c => c.fullName = name) classes
  · exact congrArg (AidlInterface.firstExtender? · stubName) classes

theorem graph?_untimed (i : ProgramInstance) :
    i.untimed.graph? = i.graph?.map ProgramGraph.untimed := by
  rw [graph?, untimed, graph?, Option.map_map, Option.map_map]
  rfl

section Snapshots
variable {i : ProgramInstance} {w other : World}

theorem loadsAlike_snapshot (relisted : w.Relists other) :
    Snapshot.provider.LoadsAlike w other := by
  intro inputs
  have reads : Snapshot.readInput other = Snapshot.readInput w := by
    funext path
    unfold Snapshot.readInput
    rw [readFile_of_relists relisted]
  change (Snapshot.load w inputs).map _ = (Snapshot.load other inputs).map _
  unfold Snapshot.load
  rw [reads]
  cases inputs.mapM (Snapshot.readInput w) <;> rfl

theorem load_ne_unsupported {inputs : List String} (path : String)
    (accepted : ∀ input ∈ inputs, Snapshot.provider.accepts input) :
    Snapshot.load w inputs ≠ .error (.invalidPath path .unsupportedExtension) := by
  intro failed
  obtain ⟨before, _, after, glued, _, refused⟩ := Snapshot.load_eq_error_iff.1 failed
  cases refused with
  | extension foreign =>
    have known : (Snapshot.Format.ofPath? path).isSome := accepted path (by simp [glued])
    rw [foreign] at known
    cases known

theorem loadFolder_ne_unsupported (snapshots : i.provider = Snapshot.provider) (path : String) :
    (i.loadFolder w).1 ≠ .error (.invalidPath path .unsupportedExtension) := by
  intro failed
  obtain ⟨read, _⟩ := ((i.settles_bindLoaded (i.readFolder w)).error_iff _).1 failed
  unfold readFolder at read
  rcases found : w.entry i.path with obstacle | bytes | (why | names) <;> rw [found] at read
  · cases read
  · cases read
  · cases read
  · have accepted : ∀ input ∈ i.inputsAmong w names, Snapshot.provider.accepts input := by
      intro input mem
      rw [← snapshots]
      exact (Bool.and_eq_true_iff.1 (List.mem_filter.1 mem).2).2
    dsimp only at read
    split at read
    · cases read
    · rw [snapshots] at read
      exact load_ne_unsupported path accepted read

end Snapshots

theorem loadFolder_alike (i : ProgramInstance) {w other : World} (relisted : w.Relists other)
    (alike : i.provider.LoadsAlike w other) :
    (i.loadFolder w).1 = (i.loadFolder other).1 ∧
      (i.loadFolder w).2.untimed = (i.loadFolder other).2.untimed :=
  bindLoaded_alike (readFolder_alike relisted alike)

theorem loadsInAnyOrder (i : ProgramInstance) {w other : World} (relisted : w.Relists other) :
    i.LoadsInAnyOrder w other where
  nothing names listed nothing := by
    obtain ⟨names', listed', perm⟩ := exists_listing_of_relists relisted listed
    refine ⟨loadFolder_of_nothing listed nothing, loadFolder_of_nothing listed' ?_⟩
    intro name mem
    rw [takes_of_relists relisted]
    exact nothing name (perm.mem_iff.2 mem)
  something names listed := by
    rintro ⟨name, mem, taken⟩
    obtain ⟨names', listed', perm⟩ := exists_listing_of_relists relisted listed
    have keeps := i.keeps_mergeSort w names
    have taken' : i.takes other name := by rwa [takes_of_relists relisted]
    exact ⟨_, keeps, loadFolder_of_keeps listed ⟨name, mem, taken⟩ keeps,
      loadFolder_of_keeps listed' ⟨name, perm.mem_iff.1 mem, taken'⟩ (keeps.relist relisted perm)⟩
  same := i.loadFolder_alike relisted
  choices alike g h bound bound' := by
    have same := congrArg graph? (i.loadFolder_alike relisted alike).2
    rw [graph?_untimed, graph?_untimed, bound, bound'] at same
    exact choosesAlike_of_untimed (Option.some.inj same)
  answers alike history q := by
    have answer (j : ProgramInstance) :
        ((j.after history).ask q).1.untimed = ((j.untimed.after history).ask q).1 := by
      rw [after_untimed, ask_untimed]
    rw [answer, answer, (i.loadFolder_alike relisted alike).2]
  snapshots snapshots :=
    ⟨snapshots ▸ loadsAlike_snapshot relisted, loadFolder_ne_unsupported snapshots⟩

/-- A folder with two snapshots, a text, and a folder that is named like a snapshot. -/
def shelf (listed : List String) (time : String) : World where
  time := time
  entry path :=
    match path with
    | "in" => .ok (.folder (.ok listed))
    | "in/a.json" => .ok (.file (.ok (Text.utf8 "\x7b\x7d")))
    | "in/b.json" => .ok (.file (.ok (Text.utf8 "\x7b\x7d")))
    | "in/notes.txt" => .ok (.file (.ok []))
    | "in/old.json" => .ok (.folder (.ok []))
    | _ => .error .missing

def onShelf : ProgramInstance := ofPath "shelf" "in" Snapshot.provider

theorem relists_shelf {listed listed' : List String} (perm : listed.Perm listed')
    (time time' : String) : (shelf listed time).Relists (shelf listed' time') := by
  intro path
  unfold shelf
  dsimp only
  split
  · exact .reordered perm
  all_goals exact .same _

theorem loadsInAnyOrder_shelf :
    let morning := shelf ["b.json", "old.json", "notes.txt", "a.json"] "morning"
    let evening := shelf ["notes.txt", "a.json", "b.json", "old.json"] "evening"
    let inputs := ["in/a.json", "in/b.json"]
    morning.Relists evening ∧
      onShelf.loadFolder morning = onShelf.bindLoaded (Snapshot.load morning inputs) ∧
      onShelf.loadFolder evening = onShelf.bindLoaded (Snapshot.load evening inputs) ∧
      (onShelf.loadFolder morning).2.untimed = (onShelf.loadFolder evening).2.untimed := by
  intro morning evening inputs
  have relisted : morning.Relists evening := relists_shelf (by decide) _ _
  have loads := onShelf.loadsInAnyOrder relisted
  obtain ⟨kept, keeps, atMorning, atEvening⟩ :=
    loads.something _ rfl ⟨"a.json", by decide, by decide⟩
  have same : kept = ["a.json", "b.json"] :=
    keeps.unique ⟨by decide, by decide, fun _ => by decide⟩
  subst same
  exact ⟨relisted, atMorning, atEvening, (loads.same (loads.snapshots rfl).1).2⟩

end ProgramInstance

end ClassAtlas
