import ScatterSearch.Proofs.Decode.Reads

/-!
# Fields that are left out

A file gives only the settings that differ from their defaults. A record whose fields all have
defaults is read from an object that lacks any of them, in whatever order the others stand: of each
field that is left out it has the default, and of each other one what is given
(`Record.Restores.reads`). Like `Record.Takes`, of which this is the general case for such records,
`Record.Restores` follows the description of the fields. If one field is given a value that cannot
be read, the record is refused with that field's error (`Record.Restores.refuses`).
-/

namespace ScatterSearch

/-- A decoder refuses every document that tells a JSON value, with one error. -/
def Decoder.Refuses {α : Type} (d : Decoder α) (j : Json) (e : DecodeError) : Prop :=
  ∀ o doc, Doc.Tells doc j → d o doc = .error e

namespace Decoder.Refuses

variable {α β : Type} {d : Decoder α} {j : Json} {e : DecodeError}

theorem run_eq (h : d.Refuses j e) : d.run j = .error e := h .value (.value j) (Doc.tells_value j)

theorem parse_eq (h : d.Refuses j e) {body : String} (hbody : j.WrittenAs body) :
    d.parse body = .error e := by
  obtain ⟨doc, htext, hdoc⟩ := hbody
  simp only [parse, htext, h .text doc hdoc]
  rfl

theorem map (f : α → β) (h : d.Refuses j e) : (d.map f).Refuses j e := fun o doc hdoc =>
  congrArg (Except.map f) (h o doc hdoc)

theorem errorOf_eq (h : d.Refuses j e) {o : Origin} {doc : Doc} (hdoc : doc.Tells j) :
    Record.errorOf d o doc = some e := by
  rw [Record.errorOf, h o doc hdoc]

end Decoder.Refuses

/-- An object without the fields of some names. Nothing is left out of other values. -/
def Json.without (omitted : String → Bool) : Json → Json
  | .obj fields => .obj (fields.filter fun f => !omitted f.1)
  | j => j

namespace Doc.FieldsTell

variable {docs : List (String × Option Fault × Doc)} {fields : List (String × Json)}
  {omitted : String → Bool} {name : String}

/-- There is no field of a name that is left out. -/
theorem find_omitted (h : FieldsTell docs (fields.filter fun f => !omitted f.1))
    (hname : omitted name = true) : (docs.find? (·.1 = name)).map (·.2.2) = none := by
  rw [Option.map_eq_none_iff, List.find?_eq_none]
  intro d hd heq
  obtain ⟨-, j, hj, -⟩ := h.known d hd
  have hgiven := (List.mem_filter.1 hj).2
  rw [of_decide_eq_true heq, hname] at hgiven
  cases hgiven

end Doc.FieldsTell

namespace Record

variable {α β : Type} {r : Record α} {f : Record (α → β)} {g : α → β} {a : α} {d : Decoder α}
  {j : Json} {fields values values' : List (String × Json)} {omitted : String → Bool}

/-- A record makes a value of the values of its fields when some of them are left out. The values
come in the order of the record's description, those that are left out among them. -/
structure Restores (r : Record α) (omitted : String → Bool) (values : List (String × Json))
    (a : α) : Prop where
  checks : List.Forall₂ (fun field f => field.name = f.1 ∧
    (omitted f.1 = false → ∀ o doc, Doc.Tells doc f.2 → field.check o doc = none)) r.fields values
  build : ∀ o find,
    (∀ f ∈ values, omitted f.1 = false → ∃ doc, find f.1 = some doc ∧ Doc.Tells doc f.2) →
    (∀ f ∈ values, omitted f.1 = true → find f.1 = none) → r.build o find = .ok a

namespace Restores

/-- A field that is left out has its default. It does not matter then whether it could be read. -/
theorem unlessOmitted (name : String) {default : α} (h : omitted name = false → d.Reads j a) :
    (withDefault name d default).Restores omitted [(name, j)]
      (if omitted name then default else a) where
  checks := .cons ⟨rfl, fun hname _ _ hdoc => (h hname).errorOf_eq hdoc⟩ .nil
  build o find hgiven homitted := by
    rw [Record.withDefault]
    cases hname : omitted name with
    | false =>
      obtain ⟨doc, hdoc, htells⟩ := hgiven _ List.mem_cons_self hname
      simp only [hdoc, Bool.false_eq_true, if_false]
      exact h hname o doc htells
    | true => simp only [homitted _ List.mem_cons_self hname, if_true]

theorem withDefault (name : String) {default : α} (h : d.Reads j a) :
    (withDefault name d default).Restores omitted [(name, j)]
      (if omitted name then default else a) :=
  unlessOmitted name fun _ => h

theorem map (f : α → β) (h : r.Restores omitted values a) :
    (f <$> r).Restores omitted values (f a) where
  checks := h.checks
  build o find hgiven homitted := congrArg (Except.map f) (h.build o find hgiven homitted)

theorem seq (hf : f.Restores omitted values g) (h : r.Restores omitted values' a) :
    (f <*> r).Restores omitted (values ++ values') (g a) where
  checks := List.rel_append hf.checks h.checks
  build o find hgiven homitted := by
    change (do
      let g ← f.build o find
      let a ← r.build o find
      return g a) = _
    rw [hf.build o find (fun f hf => hgiven f (List.mem_append_left _ hf))
        fun f hf => homitted f (List.mem_append_left _ hf),
      h.build o find (fun f hf => hgiven f (List.mem_append_right _ hf))
        fun f hf => homitted f (List.mem_append_right _ hf)]
    rfl

/-- A record is read from an object that lacks some of its fields, with the others in any order. -/
theorem reads (expecting : String) (h : r.Restores omitted values a)
    (hnames : (values.map (·.1)).Nodup) (hfields : fields.Perm values) :
    (r.decoder expecting).Reads ((Json.obj fields).without omitted) a := by
  intro o doc hdoc
  have hgiven : ((fields.filter fun f => !omitted f.1).map (·.1)).Nodup :=
    ((hfields.map _).nodup_iff.2 hnames).sublist (List.filter_sublist.map _)
  obtain ⟨docs, hshape, hdocs⟩ := hdoc.shape_map hgiven
  replace hdocs := hdocs.perm (hfields.filter _)
  have hscan : scan r.fields o [] docs = .ok () := by
    refine scan_of_fieldsTell (h.checks.imp ?_) hnames (List.filter_subset_self _) hdocs
    rintro field f ⟨hname, hcheck⟩
    exact ⟨hname, fun hf => hcheck (by simpa using (List.mem_filter.1 hf).2)⟩
  have hbuild := h.build o (fun name => (docs.find? (·.1 = name)).map (·.2.2))
    (fun f hf hname => hdocs.find_eq (List.mem_filter.2 ⟨hf, by rw [hname]; rfl⟩))
    fun f _ hname => hdocs.find_omitted hname
  simp only [decoder, hshape]
  rw [ofMap, hscan, hbuild]
  rfl

end Restores

/-! ## Values that cannot be read -/

/-- The fields with another value for the one of some name. -/
def replaceField (name : String) (j : Json) (fields : List (String × Json)) :
    List (String × Json) :=
  fields.map fun f => if f.1 = name then (name, j) else f

theorem map_fst_replaceField {name : String} :
    (replaceField name j fields).map (·.1) = fields.map (·.1) := by
  rw [replaceField, List.map_map]
  refine List.map_congr_left fun f _ => ?_
  by_cases h : f.1 = name
  · simp [h]
  · simp [h]

theorem mem_replaceField {name : String} {f : String × Json} (hf : f ∈ replaceField name j fields) :
    f = (name, j) ∨ f ∈ fields ∧ f.1 ≠ name := by
  obtain ⟨f', hf', rfl⟩ := List.mem_map.1 hf
  by_cases h : f'.1 = name
  · exact .inl (if_pos h)
  · rw [if_neg h]
    exact .inr ⟨hf', h⟩

/-- Known fields are gone through up to the first that does not pass its check. -/
theorem scan_eq_error {known : List Field} {docs : List (String × Option Fault × Doc)} {o : Origin}
    {e : DecodeError}
    (hdocs : ∀ d ∈ docs, d.2.1 = none ∧ ∃ field, known.find? (·.name = d.1) = some field ∧
      (field.check o d.2.2 = none ∨ field.check o d.2.2 = some e))
    (hbad : ∃ d ∈ docs, ∃ field, known.find? (·.name = d.1) = some field ∧
      field.check o d.2.2 = some e)
    (hnames : (docs.map (·.1)).Nodup) (seen : List String) (hseen : ∀ d ∈ docs, d.1 ∉ seen) :
    scan known o seen docs = .error e := by
  induction docs generalizing seen with
  | nil =>
    obtain ⟨d, hd, -⟩ := hbad
    cases hd
  | cons d docs ih =>
    obtain ⟨name, bad, doc⟩ := d
    obtain ⟨hgood, field, hfind, hcheck⟩ := hdocs _ List.mem_cons_self
    obtain rfl : bad = none := hgood
    obtain ⟨hnot, hnames⟩ := List.nodup_cons.1 hnames
    rw [scan]
    simp only [hfind, if_neg (hseen _ List.mem_cons_self)]
    rcases hcheck with hpass | hfail
    · simp only [hpass]
      refine ih (fun d hd => hdocs d (List.mem_cons_of_mem _ hd)) ?_ hnames _ fun d hd => ?_
      · obtain ⟨d, hd, field', hfind', hfail⟩ := hbad
        rcases List.mem_cons.1 hd with rfl | hd
        · obtain rfl := Option.some.inj (hfind.symm.trans hfind')
          cases hpass.symm.trans hfail
        · exact ⟨d, hd, field', hfind', hfail⟩
      · rw [List.mem_cons, not_or]
        exact ⟨fun heq => hnot (List.mem_map.2 ⟨d, hd, heq⟩),
          hseen d (List.mem_cons_of_mem _ hd)⟩
    · simp only [hfail]
      rfl

/-- A record is refused if one field is given a value that its check refuses, and the others are as
they should be. -/
theorem Restores.refuses (expecting : String) (h : r.Restores omitted values a)
    (hnames : (values.map (·.1)).Nodup) (hfields : fields.Perm values) {name : String}
    {field : Field} {e : DecodeError} (hname : name ∈ values.map (·.1))
    (hgiven : omitted name = false) (hfield : r.fields.find? (·.name = name) = some field)
    (hcheck : ∀ o doc, Doc.Tells doc j → field.check o doc = some e) :
    (r.decoder expecting).Refuses ((Json.obj (replaceField name j fields)).without omitted) e := by
  intro o doc hdoc
  have honce : (((replaceField name j fields).filter fun f => !omitted f.1).map (·.1)).Nodup := by
    refine List.Nodup.sublist (List.filter_sublist.map _) ?_
    rw [map_fst_replaceField]
    exact (hfields.map _).nodup_iff.2 hnames
  obtain ⟨docs, hshape, hdocs⟩ := hdoc.shape_map honce
  have hscan : scan r.fields o [] docs = .error e := by
    refine scan_eq_error (fun d hd => ?_) ?_ hdocs.names [] fun _ _ => List.not_mem_nil
    · obtain ⟨hgood, j', hj', htells⟩ := hdocs.known d hd
      refine ⟨hgood, ?_⟩
      obtain ⟨hmem, hleft⟩ := List.mem_filter.1 hj'
      rcases mem_replaceField hmem with heq | ⟨hmem, -⟩
      · obtain ⟨hd, rfl⟩ := Prod.mk.inj heq
        exact ⟨field, hd ▸ hfield, .inr (hcheck o _ htells)⟩
      · obtain ⟨field', hfind, hpass⟩ := find?_of_checks h.checks hnames (hfields.mem_iff.1 hmem)
        exact ⟨field', hfind, .inl (hpass (by simpa using hleft) o _ htells)⟩
    · obtain ⟨f, hf, rfl⟩ := List.mem_map.1 ((hfields.map _).mem_iff.2 hname)
      have hmem : (f.1, j) ∈ (replaceField f.1 j fields).filter fun f => !omitted f.1 :=
        List.mem_filter.2 ⟨List.mem_map.2 ⟨f, hf, if_pos rfl⟩, by rw [hgiven]; rfl⟩
      obtain ⟨doc', hdoc', htells⟩ := hdocs.finds _ hmem
      exact ⟨_, hdoc', field, hfield, hcheck o doc' htells⟩
  simp only [decoder, hshape]
  rw [ofMap, hscan]
  rfl

end Record

end ScatterSearch
