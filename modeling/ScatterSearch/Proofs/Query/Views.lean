import Mathlib.Data.List.Sort
import ScatterSearch.Node.Node
import ScatterSearch.Proofs.Query.Visibility

/-!
# What a registry shows of itself

A registry can be asked for the queries of a table, for their uuids, for one query, and for the
cancellation of one. Each of these looks through the records by itself, and yet they never
contradict each other, whatever was done before (`views_agree`).

* `registrations` and `SweptAt` look at the acts: which queries were registered, in order, and which
  of them a sweep found to have ended long enough ago;
* `QueryStatus.entry` is the part of a record that the views are made from. Only registrations and
  sweeps touch it, and `entries_perform` and `entries_cleanup` say how. What it `Tells` is true of
  the acts, whatever comes next;
* `Knows` is what a cancellation is answered by. It is about entries alone, which a cancellation
  leaves as they are, so it makes no difference whether one asks before or after.

The records of a table stand at increasing places (`Lists.exists_places`), and numbers are given out
by place. That makes the first of several queries with one uuid the one with the least number, in
whatever order the records are met.
-/

namespace ScatterSearch

namespace Lists

variable {α : Type}

/-- What is picked from a list stands in it at increasing places. -/
theorem exists_places (P : α → Bool) (xs : List α) :
    ∃ places : List Nat, places.Pairwise (· < ·) ∧
      (∀ i, i ∈ places ↔ ∃ x, xs[i]? = some x ∧ P x = true) ∧
      (xs.filter P).map some = places.map (xs[·]?) := by
  have hall : xs.map some = (List.range xs.length).map (xs[·]?) := by
    refine List.ext_getElem (by simp) fun i _ _ => ?_
    simp
  refine ⟨(List.range xs.length).filter fun i => xs[i]?.any P,
    List.pairwise_lt_range.filter _, fun i => ?_, ?_⟩
  · rw [List.mem_filter, List.mem_range, Option.any_eq_true]
    constructor
    · exact fun h => h.2
    · rintro ⟨x, hx, hP⟩
      exact ⟨(List.getElem?_eq_some_iff.1 hx).1, x, hx, hP⟩
  · calc (xs.filter P).map some = (xs.map some).filter (·.any P) := by rw [List.filter_map]; rfl
      _ = ((List.range xs.length).map (xs[·]?)).filter (·.any P) := by rw [hall]
      _ = _ := by rw [List.filter_map]; rfl

/-- Where numbers increase, the first of some elements is the one with the least number. -/
theorem find?_eq_some_iff_least {number : α → UInt64} {P : α → Bool} {xs : List α}
    (h : xs.Pairwise (number · < number ·)) {x : α} :
    xs.find? P = some x ↔
      x ∈ xs ∧ P x = true ∧ ∀ y ∈ xs, P y = true → number x ≤ number y := by
  induction xs with
  | nil => simp
  | cons z xs ih =>
    obtain ⟨hfirst, hrest⟩ := List.pairwise_cons.1 h
    cases hP : P z with
    | false =>
      rw [List.find?_cons_of_neg (by simp [hP]), ih hrest]
      constructor
      · rintro ⟨hx, hPx, hleast⟩
        refine ⟨List.mem_cons_of_mem _ hx, hPx, fun y hy hPy => ?_⟩
        rcases List.mem_cons.1 hy with rfl | hy
        · exact absurd hPy (by simp [hP])
        · exact hleast y hy hPy
      · rintro ⟨hx, hPx, hleast⟩
        rcases List.mem_cons.1 hx with rfl | hx
        · exact absurd hPx (by simp [hP])
        · exact ⟨hx, hPx, fun y hy => hleast y (List.mem_cons_of_mem _ hy)⟩
    | true =>
      rw [List.find?_cons_of_pos hP, Option.some.injEq]
      constructor
      · rintro rfl
        refine ⟨List.mem_cons_self, hP, fun y hy _ => ?_⟩
        rcases List.mem_cons.1 hy with rfl | hy
        · exact UInt64.le_refl _
        · exact UInt64.le_of_lt (hfirst y hy)
      · rintro ⟨hx, -, hleast⟩
        rcases List.mem_cons.1 hx with rfl | hx
        · rfl
        · exact absurd (hleast z List.mem_cons_self hP) (UInt64.not_le.2 (hfirst x hx))

end Lists

/-- What a registry goes by when it is asked. -/
structure QueryEntry where
  id : UInt64
  table : String
  query : QueryDescriptor
  listed : Bool

namespace QueryStatus

variable {s : QueryStatus} {target : QueryState} {now : Nat}

/-- The part of a record that no end changes. -/
def entry (s : QueryStatus) : QueryEntry := ⟨s.id, s.table, s.query, s.listed⟩

/-- Whether a record has no greater number than another. -/
def notAfter (s t : QueryStatus) : Bool := decide (s.id ≤ t.id)

@[simp] theorem entry_moveTo : (s.moveTo target now).entry = s.entry := by
  rw [moveTo]
  split <;> rfl

end QueryStatus

namespace StatusRegistry

/-- The query that an act registers, with its table. -/
def Act.registration? : Act → Option (String × QueryDescriptor)
  | .deed (.register table query) => some (table, query)
  | _ => none

/-- The queries that some acts register, with their tables, in order. -/
def registrations (acts : List (Nat × Act)) : List (String × QueryDescriptor) :=
  acts.filterMap (·.2.registration?)

/-- One of some acts was a sweep, and it found that the query at a place had ended at least a delay
before. -/
def SweptAt (delay : Nat) (acts : List (Nat × Act)) (place : Nat) : Prop :=
  ∃ earlier now later q ended, acts = earlier ++ (now, .deed .cleanup) :: later ∧
    (tally delay earlier).2.status? place = some q ∧ q.finished = some ended ∧ delay ≤ now - ended

/-- A query with this uuid is among the queries of the table. -/
def Knows (r : StatusRegistry) (table uuid : String) : Prop :=
  ∃ q ∈ r.list table, q.query.uuid = uuid

/-- The entries of all records. -/
def entries (r : StatusRegistry) : List QueryEntry := r.records.map (·.entry)

variable {r : StatusRegistry} {a : Act} {acts : List (Nat × Act)} {q q' : QueryStatus}
  {place now delay : Nat} {table uuid : String} {query : QueryDescriptor}

/-! ## One act -/

theorem entries_interrupt {p : QueryStatus → Bool} {target : QueryState} :
    (r.interrupt p target now).2.entries = r.entries := by
  rw [entries, interrupt, List.map_map]
  refine List.map_congr_left fun s _ => ?_
  rw [Function.comp_apply]
  split
  · exact QueryStatus.entry_moveTo
  · rfl

/-- Unless it is a sweep, an act leaves all entries as they are, and adds one if it registers a
query. -/
theorem entries_perform (h : a ≠ .deed .cleanup) :
    (a.perform now r).entries = r.entries ++
      a.registration?.toList.map fun (table, query) => ⟨r.nextId, table, query, true⟩ := by
  have hsame {r' : StatusRegistry} (hr' : r'.entries = r.entries) : r'.entries = r.entries ++ [] :=
    hr'.trans (List.append_nil _).symm
  cases a with
  | setFlag other value =>
    have hflag (s : QueryStatus) : QueryStatus.entry { s with running := value } = s.entry := rfl
    exact hsame (Lists.map_modify_eq hflag other r.records)
  | deed d =>
    cases d with
    | register table query => exact List.map_append
    | finish other =>
      exact hsame (Lists.map_modify_eq (fun _ => QueryStatus.entry_moveTo) other r.records)
    | cancel table uuid => exact hsame entries_interrupt
    | cancelAll => exact hsame entries_interrupt
    | cleanup => exact absurd rfl h

/-- A sweep takes out what ended long enough ago. -/
theorem entries_cleanup : (r.cleanup now).2.entries = r.records.map fun s =>
    { s.entry with listed := s.listed && !s.isCleanable r.cleanupDelay now } := by
  rw [entries, cleanup, List.map_map]
  refine List.map_congr_left fun s _ => ?_
  rw [Function.comp_apply]
  cases hlisted : s.listed <;> cases hswept : s.isCleanable r.cleanupDelay now <;>
    simp [QueryStatus.entry, hlisted, hswept]

theorem getElem?_entries : r.entries[place]? = (r.status? place).map (·.entry) := List.getElem?_map

/-! ## Runs -/

/-- An act registers one query at most. -/
theorem registrations_concat :
    registrations (acts ++ [(now, a)]) = registrations acts ++ a.registration?.toList := by
  rw [registrations, List.filterMap_append]
  cases h : a.registration? <;> simp [registrations, h]

theorem cleanupDelay_tally : (tally delay acts).2.cleanupDelay = delay := by
  induction acts using List.reverseRecOn with
  | nil => rfl
  | append_singleton acts a ih => rw [tally_concat, cleanupDelay_perform, ih]

/-- There are as many records as registrations. -/
theorem length_entries_tally (delay : Nat) (acts : List (Nat × Act)) :
    (tally delay acts).2.entries.length = (registrations acts).length := by
  induction acts using List.reverseRecOn with
  | nil => rfl
  | append_singleton acts a ih =>
    obtain ⟨now, a⟩ := a
    rw [tally_concat, registrations_concat, List.length_append, ← ih]
    by_cases ha : a = .deed .cleanup
    · subst ha
      rw [Act.perform, Deed.perform, entries_cleanup, entries, List.length_map, List.length_map]
      rfl
    · rw [entries_perform ha, List.length_append, List.length_map]

/-- There is a record for every registration. -/
theorem length_records_tally (delay : Nat) (acts : List (Nat × Act)) :
    (tally delay acts).2.records.length = (registrations acts).length := by
  rw [← length_entries_tally delay, entries, List.length_map]

/-- Only a query that was registered can be swept. -/
theorem SweptAt.lt_length (h : SweptAt delay acts place) : place < (registrations acts).length := by
  obtain ⟨earlier, now, later, q, ended, rfl, hq, -⟩ := h
  have hlt : place < (tally delay earlier).2.records.length := (List.getElem?_eq_some_iff.1 hq).1
  rw [registrations, List.filterMap_append, List.length_append]
  exact Nat.lt_of_lt_of_le (length_records_tally delay earlier ▸ hlt) (Nat.le_add_right _ _)

theorem sweptAt_concat : SweptAt delay (acts ++ [(now, a)]) place ↔ SweptAt delay acts place ∨
    a = .deed .cleanup ∧ ∃ q, (tally delay acts).2.status? place = some q ∧
      q.isCleanable delay now = true := by
  constructor
  · rintro ⟨earlier, now', later, q, ended, heq, hq, hended, hdelay⟩
    rcases Lists.concat_eq_split heq with ⟨rfl, ha, -⟩ | ⟨rest, -, rfl⟩
    · obtain ⟨rfl, rfl⟩ := Prod.mk.inj ha
      exact .inr ⟨rfl, q, hq, QueryStatus.isCleanable_iff.2 ⟨ended, hended, hdelay⟩⟩
    · exact .inl ⟨earlier, now', rest, q, ended, rfl, hq, hended, hdelay⟩
  · rintro (⟨earlier, now', later, q, ended, rfl, h⟩ | ⟨rfl, q, hq, hcleanable⟩)
    · exact ⟨earlier, now', later ++ [(now, a)], q, ended, by simp, h⟩
    · obtain ⟨ended, hended, hdelay⟩ := QueryStatus.isCleanable_iff.1 hcleanable
      exact ⟨acts, now, [], q, ended, rfl, hq, hended, hdelay⟩

/-- What an entry says after some acts: its number is that of its place, its query was registered
there, and it is listed until the query is swept. -/
structure Tells (delay : Nat) (acts : List (Nat × Act)) (place : Nat) (e : QueryEntry) : Prop where
  id_eq : e.id = UInt64.ofNat (place + 1)
  registered : (registrations acts)[place]? = some (e.table, e.query)
  listed_iff : e.listed = true ↔ ¬ SweptAt delay acts place

namespace Tells

variable {e : QueryEntry}

theorem registered_concat (h : Tells delay acts place e) :
    (registrations (acts ++ [(now, a)]))[place]? = some (e.table, e.query) := by
  rw [registrations_concat]
  exact Lists.getElem?_of_prefix (List.prefix_append _ _) h.registered

/-- Without a sweep an entry goes on. -/
theorem stays (h : Tells delay acts place e) (ha : a ≠ .deed .cleanup) :
    Tells delay (acts ++ [(now, a)]) place e := by
  refine ⟨h.id_eq, h.registered_concat, h.listed_iff.trans (not_congr ?_)⟩
  rw [sweptAt_concat]
  exact (or_iff_left fun hsweep => ha hsweep.1).symm

/-- A sweep takes an entry out if its query has ended long enough ago. -/
theorem swept (h : Tells delay acts place q.entry)
    (hq : (tally delay acts).2.status? place = some q) :
    Tells delay (acts ++ [(now, .deed .cleanup)]) place
      { q.entry with listed := q.listed && !q.isCleanable delay now } := by
  refine ⟨h.id_eq, h.registered_concat, ?_⟩
  have hnow : (∃ q', (tally delay acts).2.status? place = some q' ∧
      q'.isCleanable delay now = true) ↔ q.isCleanable delay now = true := by
    rw [hq]
    simp
  rw [sweptAt_concat, hnow, not_or, ← h.listed_iff]
  simp [QueryStatus.entry]

/-- A query that is registered is listed. -/
theorem fresh (hreg : a.registration? = some (table, query)) (ha : a ≠ .deed .cleanup) :
    Tells delay (acts ++ [(now, a)]) (registrations acts).length
      ⟨UInt64.ofNat ((registrations acts).length + 1), table, query, true⟩ := by
  refine ⟨rfl, ?_, iff_of_true rfl fun hswept => ?_⟩
  · rw [registrations_concat, hreg]
    exact List.getElem?_concat_length
  · rcases sweptAt_concat.1 hswept with hswept | ⟨hsweep, -⟩
    · exact Nat.lt_irrefl _ hswept.lt_length
    · exact ha hsweep

end Tells

/-- Every entry tells of its registration. -/
theorem tells_entry {e : QueryEntry} (he : (tally delay acts).2.entries[place]? = some e) :
    Tells delay acts place e := by
  induction acts using List.reverseRecOn generalizing e with
  | nil => cases he
  | append_singleton acts a ih =>
    obtain ⟨now, a⟩ := a
    rw [tally_concat] at he
    by_cases ha : a = .deed .cleanup
    · subst ha
      rw [Act.perform, Deed.perform, entries_cleanup, List.getElem?_map, cleanupDelay_tally,
        Option.map_eq_some_iff] at he
      obtain ⟨q, hq, rfl⟩ := he
      have hentry : (tally delay acts).2.entries[place]? = some q.entry := by
        rw [getElem?_entries, status?, hq]
        rfl
      exact (ih hentry).swept hq
    · rw [entries_perform ha] at he
      cases hreg : a.registration? with
      | none =>
        rw [hreg] at he
        exact (ih (by simpa using he)).stays ha
      | some fresh =>
        rw [hreg] at he
        rcases Lists.getElem?_concat he with he | ⟨rfl, rfl⟩
        · exact (ih he).stays ha
        · -- the number comes from the records, of which there are as many as registrations
          rw [nextId, length_records_tally, length_entries_tally]
          exact .fresh hreg ha

theorem tells_status? (hq : (tally delay acts).2.status? place = some q) :
    Tells delay acts place q.entry := by
  refine tells_entry ?_
  rw [getElem?_entries, hq]
  rfl

/-- While the numbers last, they increase from each record to the next. -/
theorem pairwise_id (delay : Nat) (h : (registrations acts).length < 2 ^ 64) :
    (tally delay acts).2.records.Pairwise (·.id < ·.id) := by
  have hid {i : Nat} (hi : i < (tally delay acts).2.records.length) :
      (tally delay acts).2.records[i].id.toNat = i + 1 := by
    have hlt : i < (registrations acts).length := length_records_tally delay acts ▸ hi
    have heq : (tally delay acts).2.records[i].id = UInt64.ofNat (i + 1) :=
      (tells_status? (List.getElem?_eq_getElem hi)).id_eq
    rw [heq, UInt64.toNat_ofNat']
    omega
  refine List.pairwise_iff_getElem.2 fun i j hi hj hij => ?_
  rw [UInt64.lt_iff_toNat_lt, hid hi, hid hj]
  exact Nat.succ_lt_succ hij

/-! ## Views -/

/-- The views of a table look only at what it lists. -/
theorem get?_eq_find? :
    r.get? table uuid = (r.list table).find? fun q => decide (q.query.uuid = uuid) := by
  rw [list, List.find?_filter, get?]
  refine congrArg (List.find? · r.listed) (funext fun q => ?_)
  rw [Bool.eq_iff_iff]
  simp [QueryStatus.isFor]

/-- A query is found if the registry knows it. -/
theorem isSome_get? : (r.get? table uuid).isSome = true ↔ r.Knows table uuid := by
  rw [get?_eq_find?, List.find?_isSome, Knows]
  simp

/-- An id is listed if the registry knows it. -/
theorem mem_listIds : uuid ∈ r.listIds table ↔ r.Knows table uuid := by
  rw [listIds, List.mem_mergeSort, List.mem_eraseDups, List.mem_map]
  rfl

/-- Ids are listed in order, and once. -/
theorem pairwise_listIds (r : StatusRegistry) (table : String) :
    (r.listIds table).Pairwise (· < ·) := by
  have hsorted : (r.listIds table).Pairwise fun a b => decide (a ≤ b) = true :=
    List.pairwise_mergeSort (by simpa using fun a b c => String.le_trans)
      (by simpa using String.le_total) _
  have hnodup : (r.listIds table).Nodup :=
    (List.mergeSort_perm _ _).nodup_iff.2 (Lists.nodup_eraseDups _)
  refine (hsorted.and hnodup).imp ?_
  rintro a b ⟨hle, hne⟩
  exact Std.lt_of_le_of_ne (of_decide_eq_true hle) hne

/-- A registry knows a query by its entries. -/
theorem knows_iff : r.Knows table uuid ↔
    ∃ e ∈ r.entries, e.listed = true ∧ e.table = table ∧ e.query.uuid = uuid := by
  simp only [Knows, list, listed, entries, List.mem_filter, List.mem_map, exists_exists_and_eq_and,
    beq_iff_eq]
  constructor
  · rintro ⟨q, ⟨⟨hq, hlisted⟩, htable⟩, huuid⟩
    exact ⟨q, hq, hlisted, htable, huuid⟩
  · rintro ⟨q, hq, hlisted, htable, huuid⟩
    exact ⟨q, ⟨⟨hq, hlisted⟩, htable⟩, huuid⟩

/-- To cancel queries changes nothing about which queries are known. -/
theorem knows_cancel {t u : String} :
    (r.cancel now t u).2.Knows table uuid ↔ r.Knows table uuid := by
  rw [knows_iff, knows_iff, cancel, entries_interrupt]

/-- A request to cancel finds its query if the registry knows it. -/
theorem cancelRequest_found (now : Nat) :
    (r.cancelRequest now table uuid).1.1 = true ↔ r.Knows table uuid := by
  have hfound : (r.cancelRequest now table uuid).1.1 =
      (decide (0 < (r.cancel now table uuid).1) ||
        ((r.cancel now table uuid).2.get? table uuid).isSome) := rfl
  rw [hfound, Bool.or_eq_true, isSome_get?, knows_cancel, decide_eq_true_eq]
  -- what is cancelled is listed, so the first of the two is no way in of its own
  refine or_iff_right_of_imp fun hpos => ?_
  obtain ⟨q, hq⟩ := List.exists_mem_of_length_pos hpos
  obtain ⟨hmem, hreaches⟩ := List.mem_filter.1 hq
  rw [reaches, Bool.and_eq_true, Bool.and_eq_true, QueryStatus.isFor, Bool.and_eq_true, beq_iff_eq,
    beq_iff_eq] at hreaches
  obtain ⟨⟨hlisted, htable, huuid⟩, -⟩ := hreaches
  exact knows_iff.2 ⟨q.entry, List.mem_map_of_mem hmem, hlisted, htable, huuid⟩

/-- What a table lists are the queries that were registered for it and not swept, in order. -/
theorem exists_places_list (delay : Nat) (acts : List (Nat × Act)) (table : String) :
    ∃ places : List Nat, places.Pairwise (· < ·) ∧
      (∀ place, place ∈ places ↔
        (∃ query, (registrations acts)[place]? = some (table, query)) ∧
          ¬ SweptAt delay acts place) ∧
      ((tally delay acts).2.list table).map some = places.map (tally delay acts).2.status? := by
  obtain ⟨places, hsorted, hmem, hmap⟩ := Lists.exists_places
    (fun s : QueryStatus => s.table == table && s.listed) (tally delay acts).2.records
  refine ⟨places, hsorted, fun place => ?_, ?_⟩
  · rw [hmem]
    constructor
    · rintro ⟨q, hq, hP⟩
      rw [Bool.and_eq_true, beq_iff_eq] at hP
      obtain ⟨rfl, hlisted⟩ := hP
      exact ⟨⟨q.query, (tells_status? hq).registered⟩, (tells_status? hq).listed_iff.1 hlisted⟩
    · rintro ⟨⟨query, hregistered⟩, hnot⟩
      have hlt : place < (tally delay acts).2.records.length :=
        length_records_tally delay acts ▸ (List.getElem?_eq_some_iff.1 hregistered).1
      have hq := List.getElem?_eq_getElem hlt
      have htells := tells_status? hq
      have htable : table = (tally delay acts).2.records[place].table :=
        congrArg Prod.fst (Option.some.inj (hregistered.symm.trans htells.registered))
      refine ⟨_, hq, ?_⟩
      rw [Bool.and_eq_true, beq_iff_eq]
      exact ⟨htable.symm, htells.listed_iff.2 hnot⟩
  · rw [list, listed, List.filter_filter]
    exact hmap

/-- The queries of a table are those that one meets on any walk, sorted by number. -/
theorem sort_walk (h : r.records.Pairwise (·.id < ·.id)) {walk : List QueryStatus}
    (hwalk : walk.Perm r.listed) (table : String) :
    (walk.filter (·.table == table)).mergeSort QueryStatus.notAfter = r.list table := by
  have hperm : ((walk.filter (·.table == table)).mergeSort QueryStatus.notAfter).Perm
      (r.list table) := (List.mergeSort_perm _ _).trans (hwalk.filter _)
  have hlt : (r.list table).Pairwise (·.id < ·.id) := (h.filter _).filter _
  -- no two records have one number, so the order by number has no ties
  have hnodup : ((r.list table).map (·.id)).Nodup :=
    List.pairwise_map.2 (hlt.imp fun h => UInt64.ne_of_lt h)
  have htotal (a b : QueryStatus) : (a.notAfter b || b.notAfter a) = true := by
    simpa [QueryStatus.notAfter] using UInt64.le_total a.id b.id
  have htrans (a b c : QueryStatus) (hab : a.notAfter b = true) (hbc : b.notAfter c = true) :
      a.notAfter c = true :=
    decide_eq_true (UInt64.le_trans (of_decide_eq_true hab) (of_decide_eq_true hbc))
  refine List.Perm.eq_of_pairwise (fun a b ha hb hab hba => ?_)
    (List.pairwise_mergeSort htrans htotal _)
    (hlt.imp fun h => decide_eq_true (UInt64.le_of_lt h)) hperm
  exact List.inj_on_of_nodup_map hnodup (hperm.mem_iff.1 ha) hb
    (UInt64.le_antisymm (of_decide_eq_true hab) (of_decide_eq_true hba))

/-- A query that is asked for is the one with the least number of those that one meets on any walk.
-/
theorem get?_walk (h : r.records.Pairwise (·.id < ·.id)) {walk : List QueryStatus}
    (hwalk : walk.Perm r.listed) (table uuid : String) (q : QueryStatus) :
    r.get? table uuid = some q ↔ q ∈ walk ∧ q.isFor table uuid = true ∧
      ∀ q' ∈ walk, q'.isFor table uuid = true → q.id ≤ q'.id := by
  simp only [hwalk.mem_iff]
  exact Lists.find?_eq_some_iff_least (h.filter _)

/-- A node answers a request to cancel by whether the registry knows the query. -/
theorem act_cancelQuery (n : Node) (now : Nat) (clock : UInt64) (request : HttpRequest)
    (table uuid : String) : ∃ code body n',
      n.act now clock request .cancelQuery [table, uuid] = (.answered ⟨code, body⟩, n') ∧
      n'.registry = (n.registry.cancel now table uuid).2 ∧ (code = 200 ∨ code = 404) ∧
      (code = 200 ↔ n.registry.Knows table uuid) := by
  refine ⟨if (n.registry.cancelRequest now table uuid).1.1 then 200 else 404, _, _, rfl, rfl, ?_⟩
  rw [← cancelRequest_found now]
  generalize (n.registry.cancelRequest now table uuid).1.1 = found
  cases found <;> simp

/-- **The views of a registry agree.** Whatever was done with a registry, a table lists the queries
that were registered for it and not swept since, in order; the record of each has the number of its
place, and as long as numbers last they increase. In whatever order one walks through what is
listed, the queries of the table are those one meets, sorted by number, and the one that is found
under a uuid is that with the least number: the first in the list of the table. The uuids of a table
are those in its list, in increasing order and each once. And a request to cancel is answered by 200
if the list has the uuid, else by 404, no matter if one looks before the cancellation or after it.
-/
theorem views_agree (delay : Nat) (acts : List (Nat × Act)) (table uuid : String) :
    let r := (tally delay acts).2
    (∃ places : List Nat, places.Pairwise (· < ·) ∧
      (∀ place, place ∈ places ↔
        (∃ query, (registrations acts)[place]? = some (table, query)) ∧
          ¬ SweptAt delay acts place) ∧
      (r.list table).map some = places.map r.status?) ∧
    (∀ place q, r.status? place = some q →
      q.id = UInt64.ofNat (place + 1) ∧ (registrations acts)[place]? = some (q.table, q.query)) ∧
    ((registrations acts).length < 2 ^ 64 →
      (r.list table).Pairwise (·.id < ·.id) ∧
      ∀ walk : List QueryStatus, walk.Perm r.listed →
        (walk.filter (·.table == table)).mergeSort QueryStatus.notAfter = r.list table ∧
        ∀ q, r.get? table uuid = some q ↔ q ∈ walk ∧ q.isFor table uuid = true ∧
          ∀ q' ∈ walk, q'.isFor table uuid = true → q.id ≤ q'.id) ∧
    r.get? table uuid = (r.list table).find? (fun q => decide (q.query.uuid = uuid)) ∧
    (r.listIds table).Pairwise (· < ·) ∧
    (∀ u, u ∈ r.listIds table ↔ r.Knows table u) ∧
    ∀ (n : Node) (now : Nat) (clock : UInt64) (request : HttpRequest), n.registry = r →
      ∃ code body n',
        n.act now clock request .cancelQuery [table, uuid] = (.answered ⟨code, body⟩, n') ∧
        n'.registry = (tally delay (acts ++ [(now, .deed (.cancel table uuid))])).2 ∧
        (code = 200 ∨ code = 404) ∧ (code = 200 ↔ r.Knows table uuid) ∧
        (code = 200 ↔ n'.registry.Knows table uuid) := by
  intro r
  refine ⟨exists_places_list delay acts table, fun place q hq => ?_, fun hlength => ?_,
    get?_eq_find?, pairwise_listIds r table, fun _ => mem_listIds,
    fun n now clock request hn => ?_⟩
  · exact ⟨(tells_status? hq).id_eq, (tells_status? hq).registered⟩
  · have hids := pairwise_id delay hlength
    exact ⟨(hids.filter _).filter _, fun walk hwalk =>
      ⟨sort_walk hids hwalk table, get?_walk hids hwalk table uuid⟩⟩
  · obtain ⟨code, body, n', hact, hn', hcode, hknows⟩ :=
      act_cancelQuery n now clock request table uuid
    rw [hn] at hn' hknows
    refine ⟨code, body, n', hact, ?_, hcode, hknows, ?_⟩
    · rw [hn', tally_concat]
      rfl
    · rw [hknows, hn', knows_cancel]

-- of two queries of a table with one uuid the earlier has been swept
example : ((tally 5 [(0, .deed (.register "t" (.named "q"))),
      (1, .deed (.register "u" (.named "q"))), (2, .deed (.register "t" (.named "q"))),
      (3, .deed (.finish 0)), (9, .deed .cleanup)]).2.get? "t" "q").map (·.id) = some 3 := by
  decide

end StatusRegistry

end ScatterSearch
