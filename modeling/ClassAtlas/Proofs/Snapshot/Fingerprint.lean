import ClassAtlas.Proofs.Json.Closing
import ClassAtlas.Proofs.Snapshot.Merging
import ClassAtlas.Proofs.Text.Utf8

/-! What a fingerprint says of a program. It is taken of the bytes of all inputs, one behind the
other, so it tells neither where an input ends nor in which format it is read. JSON makes up for
that: its texts can be cut out of the bytes again, up to blanks. YAML does not, because nothing
in a YAML text tells that it is over; a comment, for one, may have been meant as the next input.
So the program is told by its fingerprint once it is known where its YAML inputs stand. -/
namespace ClassAtlas.Snapshot

/-- An input with what it is read as. -/
structure Part where
  format : Format
  bytes : List UInt8
  snapshot : Snapshot
  parsed : parse format bytes = .ok snapshot

def Part.read (part : Part) : List UInt8 × Snapshot := (part.bytes, part.snapshot)

/-- A path leads to an input. -/
structure Holds (w : World) (path : String) (part : Part) : Prop where
  format : Format.ofPath? path = some part.format
  bytes : w.readFile path = .ok part.bytes

/-- There is one thing that a path leads to, and it is read in one way. -/
theorem rightUnique_holds (w : World) : Relator.RightUnique (Holds w) := by
  rintro path ⟨format, bytes, snapshot, parsed⟩ ⟨_, _, _, alsoParsed⟩ holds alsoHolds
  cases holds.format.symm.trans alsoHolds.format
  cases holds.bytes.symm.trans alsoHolds.bytes
  cases parsed.symm.trans alsoParsed
  rfl

def bytesOf (parts : List Part) : List UInt8 := parts.flatMap Part.bytes

/-- The stretches that the YAML inputs take up: for each how many bytes are left where it starts,
and how many of them are its own. -/
def yamlPlaces : List Part → List (Nat × Nat)
  | [] => []
  | part :: rest =>
    match part.format with
    | .json => yamlPlaces rest
    | .yaml => ((bytesOf (part :: rest)).length, part.bytes.length) :: yamlPlaces rest

/-- Two messages that the digest does not tell apart. -/
def Collide (message other : List UInt8) : Prop :=
  message ≠ other ∧ Digest.sha256Hex message = Digest.sha256Hex other

/-- What two programs have in common if they have one fingerprint. -/
structure Identified (xs ys : List String) (parts others : List Part) (g h : ProgramGraph) :
    Prop where
  bytes : bytesOf parts = bytesOf others
  placed : yamlPlaces parts = yamlPlaces others → g.classes = h.classes ∧ g.manifest = h.manifest
  json : (∀ path ∈ xs ++ ys, Format.ofPath? path = some .json) →
    g.classes = h.classes ∧ g.manifest = h.manifest

/-! The inputs of a program that was loaded. -/

section Load
variable {w : World} {inputs : List String}

theorem readInput_eq_ok_iff {path : String} {held : List UInt8 × Snapshot} :
    readInput w path = .ok held ↔ ∃ part, Holds w path part ∧ held = part.read := by
  constructor
  · intro loaded
    unfold readInput at loaded
    split at loaded
    · cases loaded
    · next format known =>
      split at loaded
      · cases loaded
      · next bytes read =>
        split at loaded
        · cases loaded
        · next snapshot parsed =>
          cases loaded
          exact ⟨⟨format, bytes, snapshot, parsed⟩, ⟨known, read⟩, rfl⟩
  · rintro ⟨part, ⟨known, read⟩, rfl⟩
    simp only [readInput, known, read, part.parsed, Part.read]

theorem mapM_readInput_eq_ok_iff {held : List (List UInt8 × Snapshot)} :
    inputs.mapM (readInput w) = .ok held ↔
      ∃ parts, List.Forall₂ (Holds w) inputs parts ∧ held = parts.map Part.read := by
  rw [mapM_eq_ok_iff]
  simp only [readInput_eq_ok_iff]
  constructor
  · intro all
    induction all with
    | nil => exact ⟨[], .nil, rfl⟩
    | cons here _ ih =>
      obtain ⟨part, holds, rfl⟩ := here
      obtain ⟨parts, later, rfl⟩ := ih
      exact ⟨part :: parts, .cons holds later, rfl⟩
  · rintro ⟨parts, all, rfl⟩
    rw [List.forall₂_map_right_iff]
    exact all.imp fun _ part holds => ⟨part, holds, rfl⟩

theorem load_eq_ok_iff_parts {g : ProgramGraph} :
    load w inputs = .ok g ↔ ∃ parts, List.Forall₂ (Holds w) inputs parts ∧
      g = assemble w inputs (parts.map Part.read) := by
  rw [load_eq_ok_iff]
  simp only [mapM_readInput_eq_ok_iff]
  constructor
  · rintro ⟨_, ⟨parts, all, rfl⟩, same⟩
    exact ⟨parts, all, same⟩
  · rintro ⟨parts, all, same⟩
    exact ⟨_, ⟨parts, all, rfl⟩, same⟩

variable (parts : List Part)

theorem fingerprint_assemble :
    (assemble w inputs (parts.map Part.read)).fingerprint =
      some (Digest.sha256Hex (bytesOf parts)) := by
  rw [assemble, List.flatMap_map]
  rfl

theorem classes_assemble :
    (assemble w inputs (parts.map Part.read)).classes =
      (merge (parts.map Part.snapshot)).classes := by
  rw [assemble, List.map_map]
  rfl

theorem manifest_assemble :
    (assemble w inputs (parts.map Part.read)).manifest =
      (merge (parts.map Part.snapshot)).manifest := by
  rw [assemble, List.map_map]
  rfl

end Load

/-! The inputs are told by their bytes and the places of the YAML ones. -/

section Cutting
variable {first other : Part} {rest behind : List Part}

theorem bytesOf_cons (part : Part) (rest : List Part) :
    bytesOf (part :: rest) = part.bytes ++ bytesOf rest := List.flatMap_cons

theorem Part.read_of_json (part : Part) (json : part.format = .json) :
    Json.read reader (Text.cells part.bytes) = .ok part.snapshot := by
  have parsed := part.parsed
  rw [json] at parsed
  exact parsed

theorem yamlPlaces_of_json (json : first.format = .json) :
    yamlPlaces (first :: rest) = yamlPlaces rest := by
  rw [yamlPlaces, json]

theorem yamlPlaces_of_yaml (yaml : first.format = .yaml) :
    yamlPlaces (first :: rest) =
      ((bytesOf (first :: rest)).length, first.bytes.length) :: yamlPlaces rest := by
  rw [yamlPlaces, yaml]

theorem yamlPlaces_eq_nil {w : World} {inputs : List String} {parts : List Part}
    (held : List.Forall₂ (Holds w) inputs parts)
    (json : ∀ path ∈ inputs, Format.ofPath? path = some .json) : yamlPlaces parts = [] := by
  induction held with
  | nil => rfl
  | cons here _ ih =>
    obtain ⟨head, tail⟩ := List.forall_mem_cons.1 json
    rw [yamlPlaces_of_json (Option.some.inj (here.format.symm.trans head)), ih tail]

theorem left_le_of_mem_yamlPlaces {parts : List Part} {place : Nat × Nat}
    (listed : place ∈ yamlPlaces parts) : place.1 ≤ (bytesOf parts).length := by
  induction parts with
  | nil => cases listed
  | cons part rest ih =>
    have inside : (bytesOf rest).length ≤ (bytesOf (part :: rest)).length := by
      rw [bytesOf_cons, List.length_append]
      omega
    cases kind : part.format with
    | json =>
      rw [yamlPlaces_of_json kind] at listed
      exact Nat.le_trans (ih listed) inside
    | yaml =>
      rw [yamlPlaces_of_yaml kind] at listed
      rcases List.mem_cons.1 listed with rfl | later
      · exact Nat.le_refl _
      · exact Nat.le_trans (ih later) inside

/-- A JSON input is no run of blanks, so no YAML input can follow in its place. -/
theorem exists_json_of_json {parts : List Part} (json : first.format = .json)
    (same : Json.UpToBlanks (bytesOf (first :: rest)) (bytesOf parts))
    (places : yamlPlaces (first :: rest) = yamlPlaces parts) :
    ∃ other behind, parts = other :: behind ∧ other.format = .json := by
  have long : ¬ (bytesOf parts).length ≤ (bytesOf rest).length := fun short =>
    Json.not_upToBlanks_of_length_le (Json.takesNoWord_layout layout) (first.read_of_json json)
      short (bytesOf_cons first rest ▸ same)
  cases parts with
  | nil => exact absurd (Nat.zero_le _) long
  | cons other behind =>
    refine ⟨other, behind, rfl, ?_⟩
    cases kind : other.format with
    | json => rfl
    | yaml =>
      rw [yamlPlaces_of_json json, yamlPlaces_of_yaml kind] at places
      have listed : ((bytesOf (other :: behind)).length, other.bytes.length) ∈ yamlPlaces rest :=
        places ▸ List.mem_cons_self
      exact absurd (left_le_of_mem_yamlPlaces listed) long

theorem exists_yaml_of_yaml {parts : List Part} (yaml : first.format = .yaml)
    (same : Json.UpToBlanks (bytesOf (first :: rest)) (bytesOf parts))
    (places : yamlPlaces (first :: rest) = yamlPlaces parts) :
    ∃ other behind, parts = other :: behind ∧ other.format = .yaml := by
  cases parts with
  | nil =>
    rw [yamlPlaces_of_yaml yaml] at places
    cases places
  | cons other behind =>
    refine ⟨other, behind, rfl, ?_⟩
    cases kind : other.format with
    | yaml => rfl
    | json =>
      obtain ⟨_, _, glued, json⟩ := exists_json_of_json kind same.symm places.symm
      cases glued
      rw [yaml] at json
      cases json

/-- YAML inputs at one place are cut out of the bytes alike. -/
theorem yaml_unique (yaml : first.format = .yaml) (alike : other.format = .yaml)
    (same : Json.UpToBlanks (bytesOf (first :: rest)) (bytesOf (other :: behind)))
    (places : yamlPlaces (first :: rest) = yamlPlaces (other :: behind)) :
    first.snapshot = other.snapshot ∧ bytesOf rest = bytesOf behind ∧
      yamlPlaces rest = yamlPlaces behind := by
  rw [yamlPlaces_of_yaml yaml, yamlPlaces_of_yaml alike] at places
  obtain ⟨place, later⟩ := List.cons.inj places
  obtain ⟨left, own⟩ := Prod.mk.inj place
  have equal := same.eq_of_length left
  rw [bytesOf_cons, bytesOf_cons] at equal
  obtain ⟨head, tail⟩ := List.append_inj equal own
  have parsed := first.parsed
  rw [yaml, head, ← alike] at parsed
  exact ⟨Except.ok.inj (parsed.symm.trans other.parsed), tail, later⟩

theorem snapshots_unique {parts others : List Part}
    (same : Json.UpToBlanks (bytesOf parts) (bytesOf others))
    (places : yamlPlaces parts = yamlPlaces others) :
    parts.map Part.snapshot = others.map Part.snapshot := by
  induction parts generalizing others with
  | nil =>
    cases others with
    | nil => rfl
    | cons other behind =>
      cases kind : other.format with
      | json =>
        obtain ⟨_, _, impossible, _⟩ := exists_json_of_json kind same.symm places.symm
        cases impossible
      | yaml =>
        obtain ⟨_, _, impossible, _⟩ := exists_yaml_of_yaml kind same.symm places.symm
        cases impossible
  | cons first rest ih =>
    cases kind : first.format with
    | json =>
      obtain ⟨other, behind, rfl, json⟩ := exists_json_of_json kind same places
      rw [bytesOf_cons, bytesOf_cons] at same
      rw [yamlPlaces_of_json kind, yamlPlaces_of_json json] at places
      obtain ⟨head, tail⟩ := Json.read_unique (Json.takesNoWord_layout layout)
        (first.read_of_json kind) (other.read_of_json json) same
      rw [List.map_cons, List.map_cons, head, ih tail places]
    | yaml =>
      obtain ⟨other, behind, rfl, yaml⟩ := exists_yaml_of_yaml kind same places
      obtain ⟨head, tail, later⟩ := yaml_unique kind yaml same places
      rw [List.map_cons, List.map_cons, head, ih (tail ▸ Json.UpToBlanks.refl _) later]

theorem assemble_alike {w v : World} {xs ys : List String} {parts others : List Part}
    (same : bytesOf parts = bytesOf others) (places : yamlPlaces parts = yamlPlaces others) :
    (assemble w xs (parts.map Part.read)).classes =
        (assemble v ys (others.map Part.read)).classes ∧
      (assemble w xs (parts.map Part.read)).manifest =
        (assemble v ys (others.map Part.read)).manifest := by
  have snapshots := snapshots_unique (same ▸ Json.UpToBlanks.refl _) places
  rw [classes_assemble, classes_assemble, manifest_assemble, manifest_assemble, snapshots]
  exact ⟨rfl, rfl⟩

end Cutting

/-! Two JSON texts with a blank between them, cut before it and behind it, and a YAML text that
ends in a comment, with and without what may follow it. -/

def Part.tight : Part := ⟨.json, Text.utf8 "\x7b\"manifest\":\"a\"\x7d", ⟨some "a", []⟩, rfl⟩

def Part.loose : Part := ⟨.json, Text.utf8 "\x7b\"manifest\":\"a\"\x7d ", ⟨some "a", []⟩, rfl⟩

def Part.led : Part := ⟨.json, Text.utf8 " \x7b\x7d", ⟨none, []⟩, rfl⟩

def Part.bare : Part := ⟨.json, Text.utf8 "\x7b\x7d", ⟨none, []⟩, rfl⟩

def Part.commented : Part := ⟨.yaml, Text.utf8 "\x7b\x7d #", ⟨none, []⟩, rfl⟩

def Part.whole : Part :=
  ⟨.yaml, Text.utf8 "\x7b\x7d #\x7b\"manifest\":\"a\"\x7d", ⟨none, []⟩, rfl⟩

def folder : World where
  entry path :=
    let files : List (String × Part) :=
      [("tight.json", .tight), ("loose.json", .loose), ("led.json", .led), ("bare.json", .bare),
       ("commented.yaml", .commented), ("whole.yaml", .whole)]
    match files.lookup path with
    | some part => .ok (.file (.ok part.bytes))
    | none => .error .missing
  time := ""

def pathsBefore : List String := ["commented.yaml", "tight.json", "led.json"]

def partsBefore : List Part := [.commented, .tight, .led]

def pathsBehind : List String := ["commented.yaml", "loose.json", "bare.json"]

def partsBehind : List Part := [.commented, .loose, .bare]

theorem holds_before : List.Forall₂ (Holds folder) pathsBefore partsBefore :=
  .cons ⟨rfl, rfl⟩ (.cons ⟨rfl, rfl⟩ (.cons ⟨rfl, rfl⟩ .nil))

theorem holds_behind : List.Forall₂ (Holds folder) pathsBehind partsBehind :=
  .cons ⟨rfl, rfl⟩ (.cons ⟨rfl, rfl⟩ (.cons ⟨rfl, rfl⟩ .nil))

/-- Programs of one fingerprint have the same bytes, unless the digest collides on them, and are
the same if their YAML inputs take up the same stretches of these bytes, as they do if there are
none. -/
theorem fingerprint_identifies {w v : World} {xs ys : List String} {g h : ProgramGraph}
    (loaded : load w xs = .ok g) (alsoLoaded : load v ys = .ok h) :
    ∃ parts others, List.Forall₂ (Holds w) xs parts ∧ List.Forall₂ (Holds v) ys others ∧
      (g.fingerprint = h.fingerprint → ¬ Collide (bytesOf parts) (bytesOf others) →
        Identified xs ys parts others g h) := by
  obtain ⟨parts, held, rfl⟩ := load_eq_ok_iff_parts.1 loaded
  obtain ⟨others, alsoHeld, rfl⟩ := load_eq_ok_iff_parts.1 alsoLoaded
  refine ⟨parts, others, held, alsoHeld, fun fingerprints collisionFree => ?_⟩
  rw [fingerprint_assemble, fingerprint_assemble] at fingerprints
  have same : bytesOf parts = bytesOf others := by
    by_cases equal : bytesOf parts = bytesOf others
    · exact equal
    · exact absurd ⟨equal, Option.some.inj fingerprints⟩ collisionFree
  refine ⟨same, assemble_alike same, fun json => assemble_alike same ?_⟩
  obtain ⟨first, second⟩ := List.forall_mem_append.1 json
  rw [yamlPlaces_eq_nil held first, yamlPlaces_eq_nil alsoHeld second]

/-- The blank between the two JSON texts may be cut to either of them. -/
theorem fingerprint_identifies_recut :
    ∃ g h, load folder pathsBefore = .ok g ∧ load folder pathsBehind = .ok h ∧
      List.Forall₂ (Holds folder) pathsBefore partsBefore ∧
      List.Forall₂ (Holds folder) pathsBehind partsBehind ∧
      g.fingerprint = h.fingerprint ∧ ¬ Collide (bytesOf partsBefore) (bytesOf partsBehind) ∧
      yamlPlaces partsBefore = yamlPlaces partsBehind ∧
      g.classes = h.classes ∧ g.manifest = h.manifest ∧ g.manifest = some "a" := by
  have first : load folder pathsBefore = .ok _ := load_eq_ok_iff_parts.2 ⟨_, holds_before, rfl⟩
  have second : load folder pathsBehind = .ok _ := load_eq_ok_iff_parts.2 ⟨_, holds_behind, rfl⟩
  obtain ⟨parts, others, held, alsoHeld, identified⟩ := fingerprint_identifies first second
  cases (rightUnique_holds folder).forall₂ held holds_before
  cases (rightUnique_holds folder).forall₂ alsoHeld holds_behind
  have same : bytesOf partsBefore = bytesOf partsBehind := rfl
  have distinct : ¬ Collide (bytesOf partsBefore) (bytesOf partsBehind) :=
    fun collide => collide.1 same
  have places : yamlPlaces partsBefore = yamlPlaces partsBehind := rfl
  have fingerprints :
      (assemble folder pathsBefore (partsBefore.map Part.read)).fingerprint =
        (assemble folder pathsBehind (partsBehind.map Part.read)).fingerprint := by
    rw [fingerprint_assemble, fingerprint_assemble, same]
  obtain ⟨classes, manifest⟩ := (identified fingerprints distinct).placed places
  exact ⟨_, _, first, second, held, alsoHeld, fingerprints, distinct, places, classes, manifest,
    manifest_assemble partsBefore⟩

/-- A fingerprint does not tell a comment from an input: both programs are of the same bytes, but
only one has a manifest. -/
theorem fingerprint_blind_to_cuts :
    ∃ g h, load folder ["whole.yaml"] = .ok g ∧
      load folder ["commented.yaml", "tight.json"] = .ok h ∧
      g.fingerprint = some (Digest.sha256Hex Part.whole.bytes) ∧
      h.fingerprint = some (Digest.sha256Hex Part.whole.bytes) ∧ g.manifest ≠ h.manifest := by
  refine ⟨_, _, load_eq_ok_iff_parts.2 ⟨[.whole], .cons ⟨rfl, rfl⟩ .nil, rfl⟩,
    load_eq_ok_iff_parts.2 ⟨[.commented, .tight], .cons ⟨rfl, rfl⟩ (.cons ⟨rfl, rfl⟩ .nil), rfl⟩,
    ?_, ?_, ?_⟩
  · rw [fingerprint_assemble, bytesOf_cons, show bytesOf [] = [] from rfl, List.append_nil]
  · have same : bytesOf [.commented, .tight] = Part.whole.bytes := rfl
    rw [fingerprint_assemble, same]
  · rw [manifest_assemble, manifest_assemble]
    exact nofun

end ClassAtlas.Snapshot
