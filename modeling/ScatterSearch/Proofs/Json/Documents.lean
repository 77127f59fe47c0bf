import Mathlib.Data.List.Induction
import Mathlib.Data.List.Perm.Basic
import Mathlib.Data.List.Sort
import Mathlib.Data.String.Basic
import ScatterSearch.Decode.Decoder

/-!
# What documents tell

A document tells a value if nothing is wrong with it, no object in it has a name twice, and its
value is that one (`Doc.Tells`). A value in hand tells itself, and so does a text that holds it, in
whatever order the fields of its objects stand. `Shape.of` opens such a document: the parts of the
document tell the parts of the value.
-/

namespace ScatterSearch

/-! ## Fields in order -/

namespace Json

variable {name : String} {v : Json} {fields : List (String × Json)}

theorem insertField_perm (h : name ∉ fields.map (·.1)) :
    (insertField name v fields).Perm ((name, v) :: fields) := by
  induction fields with
  | nil => exact .rfl
  | cons f fields ih =>
    obtain ⟨k, w⟩ := f
    rw [List.map_cons, List.mem_cons, not_or] at h
    rw [insertField]
    split
    · exact .rfl
    · rw [if_neg h.1]
      exact ((ih h.2).cons _).trans (.swap _ _ _)

/-- A field that comes last is set last. -/
theorem sortFields_concat (fields : List (String × Json)) (f : String × Json) :
    sortFields (fields ++ [f]) = insertField f.1 f.2 (sortFields fields) := by
  rw [sortFields, List.foldl_append]
  rfl

/-- To put fields in order neither adds nor loses one, if each has a name of its own. -/
theorem sortFields_perm (h : (fields.map (·.1)).Nodup) : (sortFields fields).Perm fields := by
  induction fields using List.reverseRecOn with
  | nil => exact .rfl
  | append_singleton fields f ih =>
    rw [List.map_append, List.nodup_append] at h
    obtain ⟨hfields, -, hnew⟩ := h
    have hperm := ih hfields
    have hnot : f.1 ∉ (sortFields fields).map (·.1) := fun hmem =>
      hnew _ ((hperm.map _).mem_iff.1 hmem) _ List.mem_cons_self rfl
    rw [sortFields_concat]
    exact (insertField_perm hnot).trans ((hperm.cons _).trans (List.perm_append_singleton _ _).symm)

end Json

/-! ## Documents without faults -/

/-- Nothing is wrong with a document, and none of its objects has a name twice. -/
inductive Doc.Clean : Doc → Prop
  | value (j : Json) : Clean (.value j)
  | arr {items : List Doc} (hitems : ∀ d ∈ items, Clean d) : Clean (.arr items none)
  | obj {fields : List (String × Option Fault × Doc)} (hnames : (fields.map (·.1)).Nodup)
      (hgood : ∀ f ∈ fields, f.2.1 = none) (hfields : ∀ f ∈ fields, Clean f.2.2) :
      Clean (.obj fields none)

/-- A document holds a value, and nothing is wrong with it. -/
structure Doc.Tells (doc : Doc) (j : Json) : Prop where
  clean : doc.Clean
  json : doc.toJson = j

/-- A text holds a value, with its fields in any order, and nothing after it. -/
def Json.WrittenAs (j : Json) (body : String) : Prop :=
  ∃ doc, Doc.ofText body = (doc, none) ∧ doc.Tells j

/-- The fields of a document tell the fields of a value, each once and in any order. -/
structure Doc.FieldsTell (docs : List (String × Option Fault × Doc))
    (fields : List (String × Json)) : Prop where
  names : (docs.map (·.1)).Nodup
  known : ∀ d ∈ docs, d.2.1 = none ∧ ∃ j, (d.1, j) ∈ fields ∧ d.2.2.Tells j
  finds : ∀ f ∈ fields, ∃ doc, (f.1, none, doc) ∈ docs ∧ doc.Tells f.2

namespace Doc

variable {strict : Bool} {doc : Doc} {items : List Doc} {j : Json}
  {docs : List (String × Option Fault × Doc)} {fields fields' : List (String × Json)}

theorem firstFaultIn_eq_none (h : ∀ d ∈ items, d.firstFault strict = none) :
    firstFaultIn strict items = none := by
  induction items with
  | nil => rfl
  | cons d items ih =>
    rw [firstFaultIn, h d List.mem_cons_self, ih fun d hd => h d (List.mem_cons_of_mem _ hd)]
    rfl

theorem firstFaultAmong_eq_none (hgood : ∀ d ∈ docs, d.2.1 = none)
    (h : ∀ d ∈ docs, d.2.2.firstFault strict = none) : firstFaultAmong strict docs = none := by
  induction docs with
  | nil => rfl
  | cons d docs ih =>
    obtain ⟨k, bad, doc⟩ := d
    have hbad : bad = none := hgood _ List.mem_cons_self
    rw [firstFaultAmong, hbad, h (k, bad, doc) List.mem_cons_self,
      ih (fun d hd => hgood d (List.mem_cons_of_mem _ hd))
        (fun d hd => h d (List.mem_cons_of_mem _ hd))]
    cases strict <;> rfl

/-- A clean document has no fault. -/
theorem Clean.firstFault_eq (h : doc.Clean) : doc.firstFault strict = none := by
  induction h with
  | value j => rfl
  | arr hitems ih => rw [firstFault, firstFaultIn_eq_none ih]; rfl
  | obj hnames hgood hfields ih => rw [firstFault, firstFaultAmong_eq_none hgood ih]; rfl

theorem itemsToJson_eq (items : List Doc) : itemsToJson items = items.map toJson := by
  induction items with
  | nil => rfl
  | cons d items ih => rw [itemsToJson, ih, List.map_cons]

theorem fieldsToJson_eq (docs : List (String × Option Fault × Doc)) :
    fieldsToJson docs = docs.map fun d => (d.1, d.2.2.toJson) := by
  induction docs with
  | nil => rfl
  | cons d docs ih => rw [fieldsToJson, ih, List.map_cons]

/-! ## Opening a document -/

/-- A value tells itself. -/
theorem tells_value (j : Json) : (Doc.value j).Tells j := ⟨.value j, rfl⟩

/-- A document of a value without parts has none either. -/
theorem Tells.shape_leaf (h : doc.Tells j) (hj : Shape.ofJson j = .leaf j) :
    Shape.of doc = .leaf j := by
  obtain ⟨hclean, rfl⟩ := h
  cases hclean with
  | value j => exact hj
  | arr hitems => cases hj
  | obj hnames hgood hfields => cases hj

/-- Only `null` looks like it. -/
theorem Tells.shape_ne_null (h : doc.Tells j) (hj : j ≠ .null) : Shape.of doc ≠ .leaf .null := by
  obtain ⟨hclean, rfl⟩ := h
  intro hshape
  cases hclean with
  | value j =>
    refine hj ?_
    cases j <;> first | rfl | cases hshape
  | arr hitems => cases hshape
  | obj hnames hgood hfields => cases hshape

theorem Tells.shape_seq {js : List Json} (h : doc.Tells (.arr js)) :
    ∃ items, Shape.of doc = .seq items none ∧ List.Forall₂ Tells items js := by
  obtain ⟨hclean, hjson⟩ := h
  cases hclean with
  | value j =>
    obtain rfl : j = .arr js := hjson
    exact ⟨_, rfl, List.forall₂_map_left_iff.2 (List.forall₂_same.2 fun j _ => tells_value j)⟩
  | @arr items hitems =>
    have hjs : items.map toJson = js := by
      rw [Doc.toJson, itemsToJson_eq] at hjson
      exact Json.arr.inj hjson
    subst hjs
    exact ⟨items, rfl, List.forall₂_map_right_iff.2 (List.forall₂_same.2 fun d hd =>
      ⟨hitems d hd, rfl⟩)⟩
  | obj hnames hgood hfields => cases hjson

theorem Tells.shape_map (h : doc.Tells (.obj fields)) (hfields : (fields.map (·.1)).Nodup) :
    ∃ docs, Shape.of doc = .map docs none ∧ FieldsTell docs fields := by
  obtain ⟨hclean, hjson⟩ := h
  cases hclean with
  | value j =>
    obtain rfl : j = .obj fields := hjson
    refine ⟨_, rfl, ?_, ?_, ?_⟩
    · rwa [List.map_map]
    · intro d hd
      obtain ⟨f, hf, rfl⟩ := List.mem_map.1 hd
      exact ⟨rfl, f.2, hf, tells_value f.2⟩
    · exact fun f hf => ⟨.value f.2, List.mem_map.2 ⟨f, hf, rfl⟩, tells_value f.2⟩
  | arr hitems => cases hjson
  | @obj docs hnames hgood hclean =>
    have hsorted : Json.sortFields (docs.map fun d => (d.1, d.2.2.toJson)) = fields := by
      rw [Doc.toJson, fieldsToJson_eq] at hjson
      exact Json.obj.inj hjson
    have hperm : fields.Perm (docs.map fun d => (d.1, d.2.2.toJson)) := by
      rw [← hsorted]
      exact Json.sortFields_perm (by rwa [List.map_map])
    refine ⟨docs, rfl, hnames, fun d hd => ⟨hgood d hd, _, ?_, hclean d hd, rfl⟩, fun f hf => ?_⟩
    · exact hperm.mem_iff.2 (List.mem_map.2 ⟨d, hd, rfl⟩)
    · obtain ⟨d, hd, rfl⟩ := List.mem_map.1 (hperm.mem_iff.1 hf)
      obtain ⟨k, bad, doc⟩ := d
      obtain rfl : bad = none := hgood _ hd
      exact ⟨doc, hd, hclean _ hd, rfl⟩

namespace FieldsTell

/-- The order of the fields does not matter. -/
theorem perm (h : FieldsTell docs fields) (hperm : fields.Perm fields') :
    FieldsTell docs fields' where
  names := h.names
  known d hd := by
    obtain ⟨hgood, j, hj, htells⟩ := h.known d hd
    exact ⟨hgood, j, hperm.mem_iff.1 hj, htells⟩
  finds f hf := h.finds f (hperm.mem_iff.2 hf)

/-- What is left when a field is taken out. -/
theorem without {name : String} (h : FieldsTell docs ((name, j) :: fields))
    (hname : name ∉ fields.map (·.1)) : FieldsTell (docs.filter (·.1 ≠ name)) fields where
  names := h.names.sublist (List.filter_sublist.map _)
  known d hd := by
    obtain ⟨hd, hne⟩ := List.mem_filter.1 hd
    obtain ⟨hgood, j', hj, htells⟩ := h.known d hd
    rcases List.mem_cons.1 hj with heq | hj
    · exact absurd (Prod.mk.inj heq).1 (of_decide_eq_true hne)
    · exact ⟨hgood, j', hj, htells⟩
  finds f hf := by
    obtain ⟨doc, hdoc, htells⟩ := h.finds f (List.mem_cons_of_mem _ hf)
    have hne : f.1 ≠ name := fun heq => hname (heq ▸ List.mem_map.2 ⟨f, hf, rfl⟩)
    exact ⟨doc, List.mem_filter.2 ⟨hdoc, decide_eq_true hne⟩, htells⟩

/-- The document of a field is found under its name. -/
theorem find_eq (h : FieldsTell docs fields) {f : String × Json} (hf : f ∈ fields) :
    ∃ doc, (docs.find? (·.1 = f.1)).map (·.2.2) = some doc ∧ doc.Tells f.2 := by
  obtain ⟨doc, hdoc, htells⟩ := h.finds f hf
  refine ⟨doc, ?_, htells⟩
  cases hfind : docs.find? (·.1 = f.1) with
  | none => exact absurd (decide_eq_true rfl) (List.find?_eq_none.1 hfind _ hdoc)
  | some d =>
    have hname : d.1 = f.1 := by simpa using List.find?_some hfind
    rw [List.inj_on_of_nodup_map h.names (List.mem_of_find?_eq_some hfind) hdoc hname]
    rfl

end FieldsTell

end Doc

end ScatterSearch
