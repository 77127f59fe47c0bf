import Mathlib.Data.List.Nodup
import Mathlib.Data.List.Perm.Subperm
import ScatterSearch.Cluster.Error
import ScatterSearch.Decode.Union
import ScatterSearch.Proofs.Json.Documents

/-!
# What decoders read

A decoder reads a value out of a JSON value if it finds it in every document that tells that JSON
value (`Decoder.Reads`). What a compound decoder reads follows from what its parts read:

* `Decoder.Reads.string`, `list`, `option` and so on, for one decoder each;
* `Record.Takes`, for records, follows the description of their fields, and `Record.Takes.reads`
  turns it into a decoder that reads its fields in any order;
* `Decoder.Reads.tagged`, for unions, finds the tag wherever it stands.
-/

namespace ScatterSearch

/-- A decoder reads a value out of every document that tells its encoding. -/
def Decoder.Reads {α : Type} (d : Decoder α) (j : Json) (a : α) : Prop :=
  ∀ o doc, Doc.Tells doc j → d o doc = .ok a

namespace Decoder.Reads

variable {α β : Type} {d : Decoder α} {e : Decoder β} {j k : Json} {a : α} {b : β}

/-! ## Values in hand, payloads and texts -/

/-- What is read from every text of a value is read from the value. -/
theorem run_eq (h : d.Reads j a) : d.run j = .ok a := h .value (.value j) (Doc.tells_value j)

theorem ofPayload_eq (h : d.Reads j a) : d.ofPayload j = .ok a := by
  rw [ofPayload, h.run_eq]
  rfl

theorem parse_eq (h : d.Reads j a) {body : String} (hbody : j.WrittenAs body) :
    d.parse body = .ok a := by
  obtain ⟨doc, htext, hdoc⟩ := hbody
  simp only [parse, htext, h .text doc hdoc]
  rfl

/-- What is read has no error. -/
theorem errorOf_eq (h : d.Reads j a) {o : Origin} {doc : Doc} (hdoc : doc.Tells j) :
    Record.errorOf d o doc = none := by
  rw [Record.errorOf, h o doc hdoc]

/-! ## Single values -/

/-- A payload is kept as it is, whatever it holds. -/
theorem any (j : Json) : Decoder.any.Reads j j := by
  intro o doc h
  simp only [Decoder.any, h.clean.firstFault_eq, h.json]

theorem string (s : String) : Decoder.string.Reads (.str s) s := by
  intro o doc h
  simp only [Decoder.string, h.shape_leaf rfl]

theorem bool (b : Bool) : Decoder.bool.Reads (.bool b) b := by
  intro o doc h
  simp only [Decoder.bool, h.shape_leaf rfl]

/-- A number is read as it was written. -/
theorem unsigned (name : String) (n : UInt64) : (Decoder.unsigned name).Reads (.uint64 n) n := by
  intro o doc h
  have hpos : (0 : Int) ≤ (n.toNat : Int) := Int.natCast_nonneg _
  simp [Decoder.unsigned, h.shape_leaf rfl, Json.uint64, hpos]

theorem u64 (n : UInt64) : Decoder.u64.Reads (.uint64 n) n := unsigned "u64" n

theorem count (n : UInt64) : Decoder.count.Reads (.uint64 n) n := unsigned "usize" n

theorem map (f : α → β) (h : d.Reads j a) : (d.map f).Reads j (f a) := fun o doc hdoc =>
  congrArg (Except.map f) (h o doc hdoc)

/-- A name is read as the one that it is picked for. -/
theorem enum {alternatives : List (String × α)} {name : String}
    (h : pick alternatives name = .ok a) : (Decoder.enum alternatives).Reads (.str name) a := by
  intro o doc hdoc
  simp only [Decoder.enum, hdoc.shape_leaf rfl]
  exact h

/-- What may be missing is told from `null`, which nothing else is written as. -/
theorem option {write : α → Json} (h : ∀ a, d.Reads (write a) a) (hnull : ∀ a, write a ≠ .null) :
    ∀ x : Option α, d.option.Reads (.option write x) x
  | none => by
    intro o doc hdoc
    have hshape : Shape.of doc = .leaf .null := hdoc.shape_leaf rfl
    rw [Decoder.option, hshape]
  | some a => by
    intro o doc hdoc
    have hshape := hdoc.shape_ne_null (hnull a)
    rw [Decoder.option]
    split
    · exact absurd ‹_› hshape
    · rw [h a o doc hdoc]
      rfl

/-! ## Sequences -/

/-- A list is read one item after the other. -/
theorem list {write : α → Json} (h : ∀ a, d.Reads (write a) a) (as : List α) :
    d.list.Reads (.arr (as.map write)) as := by
  intro o doc hdoc
  obtain ⟨docs, hshape, hdocs⟩ := hdoc.shape_seq
  have hitems : docs.mapM (d o) = .ok as := by
    clear hshape hdoc
    induction as generalizing docs with
    | nil =>
      cases hdocs
      rfl
    | cons a as ih =>
      obtain _ | ⟨hhead, htail⟩ := hdocs
      rw [List.mapM_cons, h a o _ hhead, ih _ htail]
      rfl
  simp only [Decoder.list, hshape, hitems]
  rfl

/-- Two values are read from a list of two. -/
theorem pair (h : d.Reads j a) (h' : e.Reads k b) : (d.pair e).Reads (.arr [j, k]) (a, b) := by
  intro o doc hdoc
  obtain ⟨docs, hshape, hdocs⟩ := hdoc.shape_seq
  obtain _ | ⟨hj, _ | ⟨hk, _ | _⟩⟩ := hdocs
  simp only [Decoder.pair, hshape, h o _ hj, h' o _ hk]
  rfl

end Decoder.Reads

open Decoder

/-! ## Records -/

namespace Record

variable {α β : Type} {r : Record α} {f : Record (α → β)} {g : α → β} {a : α}
  {d : Decoder α} {j : Json} {fields values values' : List (String × Json)}
  {docs : List (String × Option Fault × Doc)} {o : Origin}

/-- A record makes a value of the values of its fields: each passes the check of its field, and what
is found under the names of the fields makes up the whole. The values come in the order of the
record's description. -/
structure Takes (r : Record α) (values : List (String × Json)) (a : α) : Prop where
  checks : List.Forall₂ (fun field f => field.name = f.1 ∧
    ∀ o doc, Doc.Tells doc f.2 → field.check o doc = none) r.fields values
  build : ∀ o find, (∀ f ∈ values, ∃ doc, find f.1 = some doc ∧ Doc.Tells doc f.2) →
    r.build o find = .ok a

namespace Takes

/-- A record of one field, whose value is what its decoder makes of what is found. -/
theorem single (name : String) {spare : Bool}
    {build : Origin → (String → Option Doc) → Except DecodeError α} (h : d.Reads j a)
    (hbuild : ∀ o find doc, find name = some doc → build o find = d o doc) :
    Takes ⟨[⟨name, spare, errorOf d⟩], build⟩ [(name, j)] a where
  checks := .cons ⟨rfl, fun _ _ hdoc => h.errorOf_eq hdoc⟩ .nil
  build o find hfind := by
    obtain ⟨doc, hdoc, htells⟩ := hfind _ List.mem_cons_self
    exact (hbuild o find doc hdoc).trans (h o doc htells)

theorem required (name : String) (h : d.Reads j a) : (required name d).Takes [(name, j)] a :=
  single name h fun o find doc hdoc => by simp only [hdoc]

theorem optional (name : String) {x : Option α} (h : d.option.Reads j x) :
    (optional name d).Takes [(name, j)] x :=
  single name h fun o find doc hdoc => by simp only [hdoc]

/-- A field with a default, and given. -/
theorem withDefault (name : String) {default : α} (h : d.Reads j a) :
    (withDefault name d default).Takes [(name, j)] a :=
  single name h fun o find doc hdoc => by simp only [hdoc]

theorem map (f : α → β) (h : r.Takes values a) : (f <$> r).Takes values (f a) where
  checks := h.checks
  build o find hfind := congrArg (Except.map f) (h.build o find hfind)

/-- The fields of two records are those of both. -/
theorem seq (hf : f.Takes values g) (h : r.Takes values' a) :
    (f <*> r).Takes (values ++ values') (g a) where
  checks := List.rel_append hf.checks h.checks
  build o find hfind := by
    change (do
      let g ← f.build o find
      let a ← r.build o find
      return g a) = _
    rw [hf.build o find fun f hf => hfind f (List.mem_append_left _ hf),
      h.build o find fun f hf => hfind f (List.mem_append_right _ hf)]
    rfl

end Takes

/-- A description may name its fields in another order than the encoding. -/
theorem perm_of_subset (hnames : (fields.map (·.1)).Nodup) (hsub : fields ⊆ values)
    (hlength : values.length ≤ fields.length) : fields.Perm values :=
  (List.subperm_of_subset hnames.of_map hsub).perm_of_length_le hlength

/-- The field of a name is found, with what is known of it. -/
theorem find?_of_checks {known : List Field} {P : Field → String × Json → Prop}
    (h : List.Forall₂ (fun field f => field.name = f.1 ∧ P field f) known values)
    (hnames : (values.map (·.1)).Nodup) {f : String × Json} (hf : f ∈ values) :
    ∃ field, known.find? (·.name = f.1) = some field ∧ P field f := by
  induction h with
  | nil => cases hf
  | @cons field f' known values hhead htail ih =>
    obtain ⟨hname, hholds⟩ := hhead
    obtain ⟨hnot, hnames⟩ := List.nodup_cons.1 hnames
    rcases List.mem_cons.1 hf with rfl | hf
    · exact ⟨field, List.find?_cons_of_pos (by simpa using hname), hholds⟩
    · have hne : field.name ≠ f.1 := fun heq =>
        hnot (List.mem_map.2 ⟨f, hf, heq.symm.trans hname⟩)
      obtain ⟨field', hfind, hholds'⟩ := ih hnames hf
      exact ⟨field', by rwa [List.find?_cons_of_neg (by simpa using hne)], hholds'⟩

/-- Fields that are known, stand once each and pass their checks are gone through to the end. -/
theorem scan_eq_ok {known : List Field} (hdocs : ∀ d ∈ docs, d.2.1 = none ∧
      ∃ field, known.find? (·.name = d.1) = some field ∧ field.check o d.2.2 = none)
    (hnames : (docs.map (·.1)).Nodup) (seen : List String) (hseen : ∀ d ∈ docs, d.1 ∉ seen) :
    scan known o seen docs = .ok () := by
  induction docs generalizing seen with
  | nil => rfl
  | cons d docs ih =>
    obtain ⟨name, bad, doc⟩ := d
    obtain ⟨hbad, field, hfind, hcheck⟩ := hdocs _ List.mem_cons_self
    obtain rfl : bad = none := hbad
    obtain ⟨hnot, hnames⟩ := List.nodup_cons.1 hnames
    rw [scan]
    simp only [hfind, if_neg (hseen _ List.mem_cons_self), hcheck]
    refine ih (fun d hd => hdocs d (List.mem_cons_of_mem _ hd)) hnames _ fun d hd => ?_
    rw [List.mem_cons, not_or]
    exact ⟨fun heq => hnot (List.mem_map.2 ⟨d, hd, heq⟩), hseen d (List.mem_cons_of_mem _ hd)⟩

/-- Fields that tell values of known fields are gone through to the end, whether all are there or
not. Only those that are there have to pass their checks. -/
theorem scan_of_fieldsTell {known : List Field}
    (h : List.Forall₂ (fun field f => field.name = f.1 ∧
      (f ∈ values' → ∀ o doc, Doc.Tells doc f.2 → field.check o doc = none)) known values)
    (hnames : (values.map (·.1)).Nodup) (hsub : values' ⊆ values)
    (hdocs : Doc.FieldsTell docs values') : scan known o [] docs = .ok () := by
  refine scan_eq_ok (fun d hd => ?_) hdocs.names [] fun _ _ => List.not_mem_nil
  obtain ⟨hgood, j, hj, htells⟩ := hdocs.known d hd
  obtain ⟨field, hfind, hcheck⟩ := find?_of_checks h hnames (hsub hj)
  exact ⟨hgood, field, hfind, hcheck hj o _ htells⟩

/-- A record is read from the fields of a document that tells their values. -/
theorem Takes.ofMap_eq (h : r.Takes values a) (hnames : (values.map (·.1)).Nodup)
    (hdocs : Doc.FieldsTell docs values) : r.ofMap o docs none = .ok a := by
  have hchecks := h.checks.imp fun _ f hf =>
    And.imp_right (fun hcheck (_ : f ∈ values) => hcheck) hf
  rw [ofMap, scan_of_fieldsTell hchecks hnames (fun _ => id) hdocs,
    h.build o _ fun f hf => hdocs.find_eq hf]
  rfl

/-- A record is read from an object that has its fields, each once and in any order. -/
theorem Takes.reads (expecting : String) (h : r.Takes values a)
    (hnames : (values.map (·.1)).Nodup) (hfields : fields.Perm values) :
    (r.decoder expecting).Reads (.obj fields) a := by
  intro o doc hdoc
  obtain ⟨docs, hshape, hdocs⟩ := hdoc.shape_map ((hfields.map _).nodup_iff.2 hnames)
  simp only [decoder, hshape]
  exact h.ofMap_eq hnames (hdocs.perm hfields)

end Record

/-! ## Unions -/

namespace Decoder

variable {α : Type} {variants : List (Variant α)} {v : Variant α} {tagName unionName : String}
  {o : Origin} {docs before after : List (String × Option Fault × Doc)}
  {fields values : List (String × Json)} {a : α}

/-- Fields without the tag leave what was found as it is. -/
theorem splitTag_of_not_mem (hgood : ∀ d ∈ docs, d.2.1 = none ∧ d.2.2.firstFault true = none)
    (htag : tagName ∉ docs.map (·.1)) (found : Option (Variant α)) :
    splitTag tagName variants o found docs = .ok found := by
  induction docs with
  | nil => rfl
  | cons d docs ih =>
    obtain ⟨name, bad, doc⟩ := d
    obtain ⟨hbad, hfault⟩ := hgood _ List.mem_cons_self
    rw [List.map_cons, List.mem_cons, not_or] at htag
    obtain rfl : bad = none := hbad
    have hdoc : doc.firstFault true = none := hfault
    rw [splitTag, if_neg (Ne.symm htag.1), hdoc]
    exact ih (fun d hd => hgood d (List.mem_cons_of_mem _ hd)) htag.2

/-- The tag is found wherever it stands. -/
theorem splitTag_of_mem {doc : Doc}
    (hgood : ∀ d ∈ before ++ (tagName, none, doc) :: after,
      d.2.1 = none ∧ d.2.2.firstFault true = none)
    (hnames : ((before ++ (tagName, none, doc) :: after).map (·.1)).Nodup)
    (hdoc : tag variants o doc = .ok v) :
    splitTag tagName variants o none (before ++ (tagName, none, doc) :: after) = .ok (some v) := by
  induction before with
  | nil =>
    obtain ⟨hnot, -⟩ := List.nodup_cons.1 hnames
    rw [List.nil_append, splitTag, if_pos rfl, hdoc]
    exact splitTag_of_not_mem (fun d hd => hgood d (List.mem_cons_of_mem _ hd)) hnot (some v)
  | cons d before ih =>
    obtain ⟨name, bad, doc'⟩ := d
    obtain ⟨hbad, hfault⟩ := hgood _ List.mem_cons_self
    obtain rfl : bad = none := hbad
    obtain ⟨hnot, hnames⟩ := List.nodup_cons.1 hnames
    have hdoc' : doc'.firstFault true = none := hfault
    have hne : name ≠ tagName := fun heq => hnot (by simp [heq])
    rw [List.cons_append, splitTag, if_neg hne, hdoc']
    exact ih (fun d hd => hgood d (List.mem_cons_of_mem _ hd)) hnames

/-- A union is read from an object that has the fields of one alternative and the tag that names it,
in any order. -/
theorem Reads.tagged (hpick : pick (variants.map fun v => (v.name, v)) v.name = .ok v)
    (h : v.record.Takes values a) (hnames : (tagName :: values.map (·.1)).Nodup)
    (hfields : fields.Perm ((tagName, .str v.name) :: values)) :
    (Decoder.tagged unionName tagName variants).Reads (.obj fields) a := by
  intro o doc hdoc
  obtain ⟨hnot, hvalues⟩ := List.nodup_cons.1 hnames
  obtain ⟨docs, hshape, hdocs⟩ := hdoc.shape_map ((hfields.map _).nodup_iff.2 hnames)
  replace hdocs := hdocs.perm hfields
  have hsplit : splitTag tagName variants o none docs = .ok (some v) := by
    obtain ⟨doc, hmem, htells⟩ := hdocs.finds _ List.mem_cons_self
    have htag : tag variants o doc = .ok v := by
      simp only [tag, htells.shape_leaf rfl]
      exact hpick
    have hgood : ∀ d ∈ docs, d.2.1 = none ∧ d.2.2.firstFault true = none := fun d hd => by
      obtain ⟨hgood, j, -, htells⟩ := hdocs.known d hd
      exact ⟨hgood, htells.clean.firstFault_eq⟩
    have honce := hdocs.names
    obtain ⟨before, after, rfl⟩ := List.append_of_mem hmem
    exact splitTag_of_mem hgood honce htag
  simp only [Decoder.tagged, hshape, hsplit]
  exact h.ofMap_eq hvalues (hdocs.without hnot)

end Decoder

end ScatterSearch
