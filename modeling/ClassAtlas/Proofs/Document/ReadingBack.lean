import ClassAtlas.Document.Record
import ClassAtlas.Proofs.Json.Trees
import Mathlib.Data.List.Nodup

/-! Reading back what was written. A reader and a way to write belong together where every
written value is read as what it was, as long as its nesting fits the levels that are left.
Records are treated by their rows: the fields of a layout, each with what is written of it. -/
namespace ClassAtlas.Document

variable {α : Type}

/-- The tree of a written value is read as `a`, if its nesting fits. -/
def ReadsAt (reader : Reader α) (levels : Nat) (json : Json) (a : α) : Prop :=
  json.depth ≤ levels → reader Json.format levels json.toTree = pure a

def ReadsBack (reader : Reader α) (write : α → Json) : Prop :=
  ∀ levels a, ReadsAt reader levels (write a) a

/-! Values without parts. -/

theorem readsBack_text (wanted : String) : ReadsBack (Reader.text wanted) Json.string :=
  fun _ _ _ => rfl

theorem readsBack_string : ReadsBack Reader.string Json.string := readsBack_text "a string"

theorem readsBack_boolean : ReadsBack Reader.boolean Json.bool := fun _ _ _ => rfl

theorem readsAt_natural {bound n : Nat} {wanted : String} {levels : Nat} (small : n < bound)
    (fits : n ≤ Json.greatestWord) : ReadsAt (Reader.natural bound wanted) levels (.number n) n := by
  intro _
  have below : 0 ≤ (n : Int) ∧ (n : Int) < bound := by omega
  simp only [Json.toTree, Reader.natural, Tree.follow, pure_bind, Json.found_toDigits n fits,
    below, and_self, if_true, Int.toNat_natCast]

/-! Lists and optional values. -/

theorem depth_le_depthAll {items : List Json} {item : Json} (inside : item ∈ items) :
    item.depth ≤ Json.depthAll items := by
  induction inside with
  | head rest => exact Nat.le_max_left _ _
  | tail other _ ih => exact ih.trans (Nat.le_max_right _ _)

theorem mapM_map_eq_pure {β : Type} {f : β → Read α} {write : α → β} :
    ∀ {items : List α}, (∀ a ∈ items, f (write a) = pure a) →
      (items.map write).mapM f = pure items
  | [], _ => rfl
  | a :: items, reads => by
    have others : ∀ a ∈ items, f (write a) = pure a := fun a inside => reads a (.tail _ inside)
    rw [List.map_cons, List.mapM_cons, reads a List.mem_cons_self, pure_bind,
      mapM_map_eq_pure others, pure_bind]

theorem readsAt_list {item : Reader α} {write : α → Json} {levels : Nat} {items : List α}
    (reads : ∀ below < levels, ∀ a ∈ items, ReadsAt item below (write a) a) :
    ReadsAt (Reader.list item) levels (.array (items.map write)) items := by
  intro room
  cases levels with
  | zero => exact absurd room (Nat.not_succ_le_zero _)
  | succ below =>
    have fits : ∀ a ∈ items, item Json.format below (write a).toTree = pure a := by
      intro a inside
      refine reads below (Nat.lt_succ_self _) a inside ?_
      exact (depth_le_depthAll (List.mem_map_of_mem inside)).trans (Nat.le_of_succ_le_succ room)
    change ((Json.toTrees (items.map write)).mapM (item Json.format below) : Read _) = _
    rw [Json.toTrees_eq_map, List.map_map]
    exact mapM_map_eq_pure fits

theorem readsBack_list {item : Reader α} {write : α → Json} (reads : ReadsBack item write) :
    ReadsBack (Reader.list item) fun items => .array (items.map write) :=
  fun _ _ => readsAt_list fun below _ a _ => reads below a

/-- Only null stands for an unset value. -/
theorem optional_of_ne_null {item : Reader α} {levels : Nat} {json : Json} {a : α}
    (set : json ≠ .null) (reads : ReadsAt item levels json a) :
    ReadsAt (Reader.optional item) levels json (some a) := by
  intro room
  have value : (do return some (← item Json.format levels json.toTree) : Read _) = pure (some a) := by
    rw [reads room, pure_bind]
  cases json with
  | null => exact absurd rfl set
  | bool _ | number _ | string _ | array _ | object _ => exact value

/-! Records. -/

/-- A field, what is written of it, and how it is taken over from one record to another. -/
structure Row (α : Type) where
  field : Field α
  written : α → Option Json
  restore : α → α → α

namespace Row

def members (a : α) (row : Row α) : List (String × Json) :=
  (row.written a).toList.map fun json => (row.field.name, json)

structure ReadsBack (row : Row α) (levels : Nat) (a : α) : Prop where
  put : ∀ json, row.written a = some json → json.depth ≤ levels →
    ∀ b, row.field.put Json.format levels json.toTree b = pure (row.restore a b)
  /-- A field that is not written keeps the value it has in the blank record. -/
  unset : row.written a = none → ∀ b, row.restore a b = b
  required : row.field.need = .required → row.written a ≠ none

/-- A field that is always written. -/
def of {β : Type} (name : String) (need : Need) (reader : Reader β) (write : β → Json)
    (get : α → β) (set : β → α → α) : Row α :=
  ⟨.of name need reader set, fun a => some (write (get a)), fun a => set (get a)⟩

/-- A field that is left out where it is unset. -/
def optional {β : Type} (name : String) (reader : Reader β) (write : β → Json)
    (get : α → Option β) (set : Option β → α → α) : Row α :=
  ⟨.of name .defaulted (Reader.optional reader) set, fun a => (get a).map write,
    fun a => if (get a).isSome then set (get a) else id⟩

section Fields
variable {β : Type} {name : String} {need : Need} {reader : Reader β} {write : β → Json}
  {levels : Nat} {a : α}

theorem readsBack_of {get : α → β} {set : β → α → α}
    (reads : ReadsAt reader levels (write (get a)) (get a)) :
    (Row.of name need reader write get set).ReadsBack levels a where
  put := by
    rintro json same room b
    cases same
    change (do return set (← reader Json.format levels _) b : Read _) = _
    rw [reads room, pure_bind]
    rfl
  unset := nofun
  required := nofun

theorem readsBack_optional {get : α → Option β} {set : Option β → α → α}
    (reads : ∀ x, get a = some x → ReadsAt (Reader.optional reader) levels (write x) (some x)) :
    (Row.optional name reader write get set).ReadsBack levels a where
  put := by
    intro json same room b
    obtain ⟨x, holds, rfl⟩ := Option.map_eq_some_iff.mp same
    change (do return set (← Reader.optional reader Json.format levels _) b : Read _) = _
    rw [reads x holds room, pure_bind]
    simp [optional, holds]
  unset := by
    intro unset b
    have nothing : get a = none := Option.map_eq_none_iff.mp unset
    simp [optional, nothing]
  required := nofun

end Fields

def restoreAll (rows : List (Row α)) (a b : α) : α :=
  rows.foldl (fun b row => row.restore a b) b

theorem restoreAll_cons (row : Row α) (rows : List (Row α)) (a b : α) :
    restoreAll (row :: rows) a b = restoreAll rows a (row.restore a b) := rfl

def membersOf (rows : List (Row α)) (a : α) : List (String × Json) :=
  rows.flatMap (members a)

section Members
variable {row : Row α} {a : α} (rows : List (Row α))

theorem membersOf_unset (unset : row.written a = none) :
    membersOf (row :: rows) a = membersOf rows a := by
  rw [membersOf, List.flatMap_cons, members, unset]
  rfl

theorem membersOf_set {json : Json} (set : row.written a = some json) :
    membersOf (row :: rows) a = (row.field.name, json) :: membersOf rows a := by
  rw [membersOf, List.flatMap_cons, members, set]
  rfl

theorem name_mem_membersOf {rows : List (Row α)} (inside : row ∈ rows)
    (written : row.written a ≠ none) :
    row.field.name ∈ (membersOf rows a).map Prod.fst := by
  obtain ⟨json, set⟩ := Option.ne_none_iff_exists'.mp written
  refine List.mem_map.mpr ⟨(row.field.name, json), ?_, rfl⟩
  refine List.mem_flatMap.mpr ⟨row, inside, ?_⟩
  rw [members, set]
  exact List.mem_singleton_self _

end Members

end Row

section Records
variable {layout : Layout α} {levels : Nat} {a : α}

theorem readMembers_cons {seen : List String} {value value' : α} {key : String} {json : Json}
    {field : Field α} (found : layout.fields.find? (fun field => field.name = key) = some field)
    (fresh : key ∉ seen) (put : field.put Json.format levels json.toTree value = pure value')
    (rest : List (String × Json)) :
    layout.readMembers Json.format levels seen value (Json.toMembers ((key, json) :: rest)) =
      layout.readMembers Json.format levels (key :: seen) value' (Json.toMembers rest) := by
  have name : Reader.fieldName Json.format levels (.scalar (Json.textScalar key)) = pure key := rfl
  rw [Json.toMembers, Layout.readMembers, name, pure_bind, found]
  simp [fresh, put]

/-- Reading the members that were written restores the rows one by one. -/
theorem readMembers_rows :
    ∀ {rows : List (Row α)} (seen : List String) (value : α),
      (∀ row ∈ rows, layout.fields.find? (fun field => field.name = row.field.name) =
        some row.field) →
      (∀ row ∈ rows, row.ReadsBack levels a) →
      (rows.map fun row => row.field.name).Nodup →
      (∀ row ∈ rows, row.field.name ∉ seen) →
      Json.depthMembers (Row.membersOf rows a) ≤ levels →
      layout.readMembers Json.format levels seen value
          (Json.toMembers (Row.membersOf rows a)) =
        pure (((Row.membersOf rows a).map Prod.fst).reverse ++ seen,
          Row.restoreAll rows a value)
  | [], _, _, _, _, _, _, _ => rfl
  | row :: rows, seen, value, found, reads, distinct, fresh, room => by
    obtain ⟨here, reads⟩ := List.forall_mem_cons.mp reads
    obtain ⟨foundHere, found⟩ := List.forall_mem_cons.mp found
    obtain ⟨freshHere, fresh⟩ := List.forall_mem_cons.mp fresh
    obtain ⟨apart, distinct⟩ := List.nodup_cons.mp distinct
    cases written : row.written a with
    | none =>
      rw [Row.membersOf_unset rows written] at room ⊢
      rw [readMembers_rows seen value found reads distinct fresh room, Row.restoreAll_cons,
        here.unset written]
    | some json =>
      rw [Row.membersOf_set rows written] at room ⊢
      have fits : json.depth ≤ levels := (Nat.le_max_left _ _).trans room
      have freshLater : ∀ later ∈ rows, later.field.name ∉ row.field.name :: seen := by
        intro later inside mentioned
        rcases List.mem_cons.mp mentioned with same | before
        · exact apart (List.mem_map.mpr ⟨later, inside, same⟩)
        · exact fresh later inside before
      rw [readMembers_cons foundHere freshHere (here.put json written fits value),
        readMembers_rows (row.field.name :: seen) (row.restore a value) found reads distinct
          freshLater ((Nat.le_max_right _ _).trans room)]
      simp [Row.restoreAll_cons]

theorem find?_of_distinct {field : Field α} :
    ∀ {fields : List (Field α)}, (fields.map Field.name).Nodup → field ∈ fields →
      fields.find? (fun other => other.name = field.name) = some field
  | first :: fields, distinct, inside => by
    obtain ⟨apart, distinct⟩ := List.nodup_cons.mp distinct
    rcases List.mem_cons.mp inside with rfl | later
    · exact List.find?_cons_of_pos (by simp)
    · have other : first.name ≠ field.name := fun same =>
        apart (List.mem_map.mpr ⟨field, later, same.symm⟩)
      rw [List.find?_cons_of_neg (by simpa using other)]
      exact find?_of_distinct distinct later

theorem missing?_rows {rows : List (Row α)} (fields : layout.fields = rows.map Row.field)
    (reads : ∀ row ∈ rows, row.ReadsBack levels a) :
    layout.missing? (((Row.membersOf rows a).map Prod.fst).reverse ++ []) = none := by
  rw [Layout.missing?, Option.map_eq_none_iff, List.find?_eq_none, fields]
  intro field inside missing
  obtain ⟨row, listed, rfl⟩ := List.mem_map.mp inside
  simp only [Bool.and_eq_true, decide_eq_true_eq] at missing
  have written := Row.name_mem_membersOf listed ((reads row listed).required missing.1)
  simp [written] at missing

/-- A layout reads what its rows have written, if the rows restore the whole record. -/
theorem readsAt_rows {rows : List (Row α)} (fields : layout.fields = rows.map Row.field)
    (distinct : (layout.fields.map Field.name).Nodup)
    (reads : ∀ below < levels, ∀ row ∈ rows, row.ReadsBack below a)
    (restores : Row.restoreAll rows a layout.blank = a) :
    ReadsAt layout.reader levels (.object (Row.membersOf rows a)) a := by
  intro room
  cases levels with
  | zero => exact absurd room (Nat.not_succ_le_zero _)
  | succ below =>
    have reads := reads below (Nat.lt_succ_self _)
    have found : ∀ row ∈ rows, layout.fields.find? (fun field => field.name = row.field.name) =
        some row.field := fun row inside =>
      find?_of_distinct distinct (fields ▸ List.mem_map_of_mem inside)
    have names : (rows.map fun row => row.field.name).Nodup := by
      rw [fields, List.map_map] at distinct
      exact distinct
    have members := readMembers_rows [] layout.blank found reads names
      (fun _ _ => List.not_mem_nil) (Nat.le_of_succ_le_succ room)
    change layout.readRecord Json.format below (Json.toMembers (Row.membersOf rows a)) = _
    rw [Layout.readRecord, members, pure_bind]
    simp only [missing?_rows fields reads, restores]

end Records

end ClassAtlas.Document
