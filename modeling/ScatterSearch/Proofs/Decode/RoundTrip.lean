import Mathlib.Data.List.Permutation
import Mathlib.Data.Set.List
import ScatterSearch.Client.Client
import ScatterSearch.Command.Parts
import ScatterSearch.Proofs.Lists
import ScatterSearch.Proofs.Search.Hits
import ScatterSearch.Search.Arguments
import ScatterSearch.Search.Message

/-!
# What is sent arrives

Every type that nodes and clients exchange is read back from its encoding as it was
(`Wire.roundTrips`), payloads included, whatever their fields are called. The tables and shards of a
command are sets and the entries of a report are maps: what comes back has the same members, and the
same entry under each name.
-/

namespace ScatterSearch

open Decoder Record

/-- What is written is read back as it was. -/
def Wire.Lossless (α : Type) [Wire α] : Prop :=
  ∀ a : α, (Wire.decode : Decoder α).run (encode a) = .ok a

/-! ## Commands and replies -/

theorem CommandKind.reads (k : CommandKind) :
    (Wire.decode : Decoder CommandKind).Reads (encode k) k := by
  cases k <;> exact .enum rfl

theorem ExecutionId.reads (i : ExecutionId) :
    (Wire.decode : Decoder ExecutionId).Reads (encode i) i :=
  .map ExecutionId.mk (.string i.text)

theorem ExecuteRequest.reads (r : ExecuteRequest) :
    (Wire.decode : Decoder ExecuteRequest).Reads (encode r) r :=
  (((((Takes.required "command" (.string r.command)).map ExecuteRequest.mk).seq
    (.required "kind" r.kind.reads)).seq
    (.required "arguments" (.any r.arguments))).seq
    (.required "shards" (.list Shard.reads r.shards))).reads _ (by simp)
      (perm_of_subset (by simp) (by simp) (by simp))

theorem ReconnectRequest.reads (r : ReconnectRequest) :
    (Wire.decode : Decoder ReconnectRequest).Reads (encode r) r :=
  ((Takes.required "execution_id" r.executionId.reads).map ReconnectRequest.mk).reads _
    (by simp) .rfl

theorem PingReply.reads (r : PingReply) : (Wire.decode : Decoder PingReply).Reads (encode r) r :=
  (((Takes.required "server" (.string r.server)).map PingReply.mk).seq
    (.required "executions_in_flight" (.count r.executionsInFlight))).reads _ (by simp)
      (.swap _ _ _)

/-- A response is read as it was written, whatever values it has. -/
theorem Response.reads : ∀ r : Response, (Wire.decode : Decoder Response).Reads (encode r) r
  | .shardValues values => by
    have hvalues : (Decoder.list (Decoder.pair Wire.decode Decoder.any)).Reads
        (.arr (values.map fun e => .arr [encode e.1, e.2])) values :=
      .list (fun entry => .pair entry.1.reads (.any entry.2)) values
    have htakes := (Takes.required "values" hvalues).map Response.shardValues
    exact .tagged (v := ⟨"shard_values", "ShardValues", _⟩) rfl htakes (by simp) .rfl
  | .serverValue value => by
    have htakes := (Takes.required "value" (.any value)).map Response.serverValue
    exact .tagged (v := ⟨"server_value", "ServerValue", _⟩) rfl htakes (by simp) .rfl

/-- The tag of a reply is told from the tag of the response in it. -/
theorem CommandReply.reads :
    ∀ r : CommandReply, (Wire.decode : Decoder CommandReply).Reads (encode r) r
  | .complete response => by
    have htakes := (Takes.required "response" response.reads).map CommandReply.complete
    exact .tagged (v := ⟨"complete", "Complete", _⟩) rfl htakes (by simp) (.swap _ _ _)
  | .running id => by
    have htakes := (Takes.required "execution_id" id.reads).map CommandReply.running
    exact .tagged (v := ⟨"running", "Running", _⟩) rfl htakes (by simp) (.swap _ _ _)
  | .failed message => by
    have htakes := (Takes.required "message" (.string message)).map CommandReply.failed
    exact .tagged (v := ⟨"failed", "Failed", _⟩) rfl htakes (by simp) (.swap _ _ _)

/-! ## Queries and searches -/

/-- A query is read as it was written; no fresh id is needed. -/
theorem QueryDescriptor.reads (fresh : String) (q : QueryDescriptor) :
    (QueryDescriptor.decode fresh).Reads q.encode q :=
  ((((((Takes.withDefault "uuid" (.string q.uuid)).map QueryDescriptor.mk).seq
    (.withDefault "query" (.any q.query))).seq
    (.withDefault "minimum_number_of_results" (.u64 q.minimumResults))).seq
    (.withDefault "max_query_time_ms" (.u64 q.maxQueryTime))).seq
    (.withDefault "user" (.option .string (by simp) q.user))).reads _ (by simp)
      (perm_of_subset (by simp) (by simp) (by simp))

theorem QueryState.reads (s : QueryState) :
    (Wire.decode : Decoder QueryState).Reads (encode s) s := by
  cases s <;> exact .enum rfl

theorem StatusId.reads (i : StatusId) : (Wire.decode : Decoder StatusId).Reads (encode i) i :=
  .map StatusId.mk (.u64 i.number)

theorem StatusView.reads (v : StatusView) :
    (Wire.decode : Decoder StatusView).Reads (encode v) v :=
  ((((((((((Takes.required "id" v.id.reads).map StatusView.mk).seq
    (.required "table" (.string v.table))).seq
    (.required "uuid" (.string v.uuid))).seq
    (.required "query" (.any v.query))).seq
    (.optional "user" (.option .string (by simp) v.user))).seq
    (.required "state" v.state.reads)).seq
    (.required "running" (.bool v.running))).seq
    (.required "started_at_ms" (.u64 v.startedAt))).seq
    (.required "elapsed_ms" (.u64 v.elapsed))).reads _ (by simp)
      (perm_of_subset (by simp) (by simp) (by simp))

theorem CancelReport.reads (r : CancelReport) :
    (Wire.decode : Decoder CancelReport).Reads (encode r) r :=
  ((((Takes.required "table" (.string r.table)).map CancelReport.mk).seq
    (.required "uuid" (.string r.uuid))).seq
    (.required "cancelled" (.count r.cancelled))).reads _ (by simp)
      (perm_of_subset (by simp) (by simp) (by simp))

theorem SearchArguments.reads (a : SearchArguments) :
    (Wire.decode : Decoder SearchArguments).Reads (encode a) a :=
  (((Takes.required "text" (.string a.text)).map SearchArguments.mk).seq
    (.withDefault "limit" (.count a.limit))).reads _ (by simp) (.swap _ _ _)

theorem SearchResults.reads (r : SearchResults) :
    (Wire.decode : Decoder SearchResults).Reads (encode r) r :=
  ((((Takes.required "total_results" (.u64 r.totalResults)).map SearchResults.mk).seq
    (.required "hits" (.list SearchHit.reads r.hits))).seq
    (.required "shards_answered" (.count r.shardsAnswered))).reads _ (by simp)
      (perm_of_subset (by simp) (by simp) (by simp))

theorem MergeState.reads (s : MergeState) :
    (Wire.decode : Decoder MergeState).Reads (encode s) s := by
  cases s <;> exact .enum rfl

theorem SearchResponse.reads (r : SearchResponse) :
    (Wire.decode : Decoder SearchResponse).Reads (encode r) r :=
  (((((((Takes.required "uuid" (.string r.uuid)).map SearchResponse.mk).seq
    (.required "table" (.string r.table))).seq
    (.required "total_results" (.u64 r.totalResults))).seq
    (.required "hits" (.list SearchHit.reads r.hits))).seq
    (.required "shards_answered" (.count r.shardsAnswered))).seq
    (.required "state" r.state.reads)).reads _ (by simp)
      (perm_of_subset (by simp) (by simp) (by simp))

/-! ## Commands as sets -/

/-- The same command: its tables and its shards count as sets. -/
structure CommandParts.Same (p q : CommandParts) : Prop where
  name : p.name = q.name
  args : p.args = q.args
  tables : ∀ t, t ∈ p.tables ↔ t ∈ q.tables
  shards : ∀ s, s ∈ p.shards ↔ s ∈ q.shards

/-- A command as it is read: its tables and shards in order, each once. -/
def CommandParts.sorted (p : CommandParts) : CommandParts where
  name := p.name
  tables := (p.tables.mergeSort fun a b => decide (a ≤ b)).eraseDups
  shards := (p.shards.mergeSort Shard.le).eraseDups
  args := p.args

/-- The parts of a command are read as they were, but in order. -/
theorem CommandParts.reads (p : CommandParts) :
    (Wire.decode : Decoder CommandParts).Reads (encode p) p.sorted :=
  (((((Takes.required "name" (.string p.name)).map CommandParts.mk).seq
    (.required "tables" (.map List.eraseDups (.list .string _)))).seq
    (.required "shards" (.map List.eraseDups (.list Shard.reads _)))).seq
    (.required "args" (.any p.args))).reads _ (by simp)
      (perm_of_subset (by simp [Json.strings]) (by simp [Json.strings]) (by simp))

/-- In order they are the same sets. -/
theorem CommandParts.sorted_same (p : CommandParts) : p.sorted.Same p where
  name := rfl
  args := rfl
  tables t := by simp only [sorted, List.mem_eraseDups, List.mem_mergeSort]
  shards s := by simp only [sorted, List.mem_eraseDups, List.mem_mergeSort]

/-! ## Reports as maps -/

namespace Response

variable {κ ν μ : Type} [DecidableEq κ] {key : κ} {entries : List (κ × ν)}

/-- The last entry of a key is among the rest, or is the first entry. -/
theorem lastFor_cons (entry : κ × ν) (entries : List (κ × ν)) :
    lastFor key (entry :: entries) =
      (lastFor key entries).or (if entry.1 = key then some entry.2 else none) := by
  rw [lastFor, List.reverse_cons, List.find?_append, Option.map_or, List.find?_singleton]
  by_cases h : entry.1 = key <;> simp [lastFor, h]

/-- An entry that is added is the last one of its key. -/
theorem lastFor_concat (entries : List (κ × ν)) (entry : κ × ν) :
    lastFor key (entries ++ [entry]) =
      if entry.1 = key then some entry.2 else lastFor key entries := by
  rw [lastFor, List.reverse_append]
  by_cases h : entry.1 = key <;> simp [lastFor, h]

theorem lastFor_eq_none (h : key ∉ entries.map (·.1)) : lastFor key entries = none := by
  rw [lastFor, Option.map_eq_none_iff, List.find?_eq_none]
  intro entry hentry heq
  exact h (List.mem_map.2 ⟨entry, List.mem_reverse.1 hentry, of_decide_eq_true heq⟩)

/-- A function of the values is one of the last value. -/
theorem lastFor_map (f : ν → μ) (entries : List (κ × ν)) :
    lastFor key (entries.map fun e => (e.1, f e.2)) = (lastFor key entries).map f := by
  induction entries with
  | nil => rfl
  | cons entry entries ih =>
    rw [List.map_cons, lastFor_cons, lastFor_cons, ih, Option.map_or]
    by_cases h : entry.1 = key <;> simp [h]

end Response

namespace Json

open Response (lastFor lastFor_cons lastFor_concat lastFor_eq_none)

variable {name key : String} {v : Json} {fields : List (String × Json)}

/-- In increasing order of the names. -/
def Ascending (fields : List (String × Json)) : Prop := (fields.map (·.1)).Pairwise (· < ·)

/-- What is in an object after a field is set. -/
theorem mem_insertField {f : String × Json} (h : f ∈ insertField name v fields) :
    f = (name, v) ∨ f ∈ fields := by
  induction fields with
  | nil => exact .inl (List.mem_singleton.1 h)
  | cons f' fields ih =>
    rw [insertField] at h
    split at h
    · exact List.mem_cons.1 h
    · split at h
      · exact (List.mem_cons.1 h).imp_right (List.mem_cons_of_mem _)
      · rcases List.mem_cons.1 h with rfl | h
        · exact .inr List.mem_cons_self
        · exact (ih h).imp_right (List.mem_cons_of_mem _)

/-- A field is set in its place. -/
theorem Ascending.insertField (h : Ascending fields) : Ascending (insertField name v fields) := by
  induction fields with
  | nil => exact List.pairwise_singleton _ _
  | cons f fields ih =>
    obtain ⟨k, w⟩ := f
    obtain ⟨hk, hfields⟩ := List.pairwise_cons.1 h
    rw [Json.insertField]
    split
    · rename_i hlt
      refine List.pairwise_cons.2 ⟨fun k' hk' => ?_, h⟩
      rcases List.mem_cons.1 hk' with rfl | hk'
      · exact hlt
      · exact lt_trans hlt (hk k' hk')
    · rename_i hnot
      split
      · rename_i heq
        subst heq
        exact List.pairwise_cons.2 ⟨hk, hfields⟩
      · rename_i hne
        refine List.pairwise_cons.2 ⟨fun k' hk' => ?_, ih hfields⟩
        obtain ⟨f, hf, rfl⟩ := List.mem_map.1 hk'
        rcases mem_insertField hf with rfl | hf
        · exact lt_of_le_of_ne (not_lt.1 hnot) (Ne.symm hne)
        · exact hk _ (List.mem_map.2 ⟨f, hf, rfl⟩)

/-- After a field is set it has that value, and the others have theirs. -/
theorem lastFor_insertField (h : Ascending fields) :
    lastFor key (insertField name v fields) =
      if name = key then some v else lastFor key fields := by
  induction fields with
  | nil => exact lastFor_cons _ _
  | cons f fields ih =>
    obtain ⟨k, w⟩ := f
    obtain ⟨hk, hfields⟩ := List.pairwise_cons.1 h
    rw [insertField]
    split
    · rename_i hlt
      rw [lastFor_cons]
      by_cases hkey : name = key
      · subst hkey
        rw [lastFor_eq_none fun hmem => ?_, if_pos rfl]
        · rfl
        · rcases List.mem_cons.1 hmem with rfl | hmem
          · exact lt_irrefl _ hlt
          · exact lt_irrefl _ (lt_trans hlt (hk _ hmem))
      · rw [if_neg hkey, if_neg hkey, Option.or_none]
    · split
      · rename_i heq
        subst heq
        rw [lastFor_cons, lastFor_cons]
        by_cases hkey : name = key
        · subst hkey
          rw [lastFor_eq_none fun hmem => lt_irrefl _ (hk _ hmem), if_pos rfl, if_pos rfl]
          rfl
        · simp [hkey]
      · rename_i hne
        rw [lastFor_cons, lastFor_cons, ih hfields]
        by_cases hkey : name = key <;> simp [hkey]

/-- Sorted fields ascend. -/
theorem ascending_sortFields (fields : List (String × Json)) : Ascending (sortFields fields) := by
  induction fields using List.reverseRecOn with
  | nil => exact List.Pairwise.nil
  | append_singleton fields f ih =>
    rw [sortFields_concat]
    exact ih.insertField

/-- To put fields in order keeps the last field of each name, and no other. -/
theorem lastFor_sortFields (fields : List (String × Json)) :
    lastFor key (sortFields fields) = lastFor key fields := by
  induction fields using List.reverseRecOn with
  | nil => rfl
  | append_singleton fields f ih =>
    rw [sortFields_concat, lastFor_insertField (ascending_sortFields fields), lastFor_concat, ih]

/-- To sort fields adds none. -/
theorem mem_of_mem_sortFields {f : String × Json} (h : f ∈ sortFields fields) : f ∈ fields := by
  induction fields using List.reverseRecOn with
  | nil => exact h
  | append_singleton fields f' ih =>
    rw [sortFields_concat] at h
    rcases mem_insertField h with rfl | h
    · exact List.mem_append_right _ List.mem_cons_self
    · exact List.mem_append_left _ (ih h)

/-- Fields that are written in one way are still written so when they are in order. -/
theorem sortFields_map {α : Type} (write : α → Json) (entries : List (String × α)) :
    ∃ sorted : List (String × α),
      sortFields (entries.map fun e => (e.1, write e.2)) =
        sorted.map fun e => (e.1, write e.2) := by
  have hrange : sortFields (entries.map fun e => (e.1, write e.2)) ∈
      Set.range (List.map fun e : String × α => (e.1, write e.2)) := by
    rw [Set.range_list_map]
    intro f hf
    obtain ⟨e, -, rfl⟩ := List.mem_map.1 (mem_of_mem_sortFields hf)
    exact ⟨e, rfl⟩
  obtain ⟨sorted, hsorted⟩ := hrange
  exact ⟨sorted, hsorted.symm⟩

end Json

/-- The entries of a value in hand are read in their order. -/
theorem Decoder.entries_eq {α : Type} {d : Decoder α} {write : α → Json}
    (h : ∀ a, d.Reads (write a) a) (entries : List (String × α)) (o : Origin) :
    Decoder.entries d o (.value (.obj (entries.map fun e => (e.1, write e.2)))) = .ok entries := by
  have hentries : ((entries.map fun e => (e.1, write e.2)).map fun e =>
      (e.1, (none : Option Fault), Doc.value e.2)).mapM (fun e => do
        rejectFault e.2.1
        return (e.1, ← d o e.2.2)) = .ok entries := by
    induction entries with
    | nil => rfl
    | cons e entries ih =>
      rw [List.map_cons, List.map_cons, List.mapM_cons, ih]
      simp only [h e.2 o _ (Doc.tells_value _)]
      rfl
  simp only [Decoder.entries, Shape.of, Shape.ofJson, hentries]
  rfl

namespace ClusterReport

variable {r : ClusterReport} {values : List (String × Json)} {failures : List (String × String)}

/-- The same report: of the entries under one name the last counts. -/
structure Same (p q : ClusterReport) : Prop where
  command : p.command = q.command
  values : ∀ name, Response.lastFor name p.values = Response.lastFor name q.values
  failures : ∀ name, Response.lastFor name p.failures = Response.lastFor name q.failures

/-- A report is what is read of its fields. -/
theorem run_eq
    (hvalues : Decoder.entries Decoder.any .value (.value (.object r.values)) = .ok values)
    (hfailures : Decoder.entries Decoder.string .value
      (.value (.object (r.failures.map fun e => (e.1, .str e.2)))) = .ok failures) :
    (Wire.decode : Decoder ClusterReport).run (encode r) = .ok ⟨r.command, values, failures⟩ := by
  have hcheck : ∀ {α : Type} {d : Decoder α} {doc : Doc} {a : α}, d .value doc = .ok a →
      errorOf d .value doc = none := fun h => by rw [errorOf, h]
  change Record.ofMap _ .value [_, _, _] none = _
  rw [ofMap, scan_eq_ok ?_ (by simp) [] (by simp)]
  · change (do
      let g ← (do
        let g ← Except.map ClusterReport.mk (Decoder.string .value (.value (.str r.command)))
        let values ← Decoder.entries Decoder.any .value (.value (.object r.values))
        return g values)
      let failures ← Decoder.entries Decoder.string .value
        (.value (.object (r.failures.map fun e : String × String => (e.1, .str e.2))))
      return g failures) = _
    rw [hvalues, hfailures]
    rfl
  · exact List.forall_mem_cons.2 ⟨⟨rfl, _, rfl, rfl⟩, List.forall_mem_cons.2
      ⟨⟨rfl, _, rfl, hcheck hfailures⟩, List.forall_mem_singleton.2
        ⟨rfl, _, rfl, hcheck hvalues⟩⟩⟩

/-- A report is read as the same report, with its entries in order. -/
theorem exists_run_eq (r : ClusterReport) :
    ∃ q : ClusterReport, (Wire.decode : Decoder ClusterReport).run (encode r) = .ok q ∧
      q.Same r := by
  obtain ⟨failures, hfailures⟩ := Json.sortFields_map .str r.failures
  have hreadFailures := entries_eq Reads.string failures .value
  have hreadValues := entries_eq Reads.any (Json.sortFields r.values) .value
  rw [← hfailures] at hreadFailures
  rw [List.map_id'] at hreadValues
  refine ⟨_, run_eq hreadValues hreadFailures, rfl, fun name => ?_, fun name => ?_⟩
  · exact Json.lastFor_sortFields r.values
  · have hmap : (Response.lastFor name failures).map Json.str =
        (Response.lastFor name r.failures).map Json.str := by
      rw [← Response.lastFor_map, ← Response.lastFor_map, ← hfailures, Json.lastFor_sortFields]
    exact Option.map_injective (fun _ _ h => Json.str.inj h) hmap

end ClusterReport

/-! ## All of them -/

/-- What is written on one side is read on the other. A client that gets a reply in whatever text
makes of it what the reply itself says. -/
theorem Wire.roundTrips :
    Wire.Lossless CommandReply ∧ Wire.Lossless Response ∧ Wire.Lossless ExecuteRequest ∧
    Wire.Lossless ReconnectRequest ∧ Wire.Lossless PingReply ∧ Wire.Lossless Shard ∧
    (∀ p : CommandParts, ∃ q, (Wire.decode : Decoder CommandParts).run (encode p) = .ok q ∧
      q.Same p ∧ q.tables.Nodup ∧ q.shards.Nodup) ∧
    (∀ (fresh : String) (q : QueryDescriptor),
      (QueryDescriptor.decode fresh).run q.encode = .ok q) ∧
    Wire.Lossless StatusView ∧ Wire.Lossless SearchArguments ∧ Wire.Lossless ShardHits ∧
    Wire.Lossless SearchResults ∧ Wire.Lossless SearchResponse ∧ Wire.Lossless CancelReport ∧
    (∀ r : ClusterReport, ∃ q, (Wire.decode : Decoder ClusterReport).run (encode r) = .ok q ∧
      q.Same r) ∧
    ∀ (reply : CommandReply) {τ : Type} (web : Web τ) (c : Client) (path : String) (message : Json)
      (net net' : τ) (status : Nat) (body : String),
      web net ⟨"POST", c.server, path, some message⟩ = (.answered status body, net') →
      (encode reply).WrittenAs body →
      c.post web path message net = (reply.toResult, net') := by
  refine ⟨fun r => r.reads.run_eq, fun r => r.reads.run_eq, fun r => r.reads.run_eq,
    fun r => r.reads.run_eq, fun r => r.reads.run_eq, fun s => s.reads.run_eq, fun p => ?parts,
    fun fresh q => (q.reads fresh).run_eq, fun v => v.reads.run_eq, fun a => a.reads.run_eq,
    fun h => h.reads.run_eq, fun r => r.reads.run_eq, fun r => r.reads.run_eq,
    fun r => r.reads.run_eq, fun r => r.exists_run_eq, ?client⟩
  case parts =>
    exact ⟨p.sorted, p.reads.run_eq, p.sorted_same, Lists.nodup_eraseDups _,
      Lists.nodup_eraseDups _⟩
  case client =>
    intro reply τ web c path message net net' status body hweb hbody
    simp only [Client.post, hweb, Client.readReply, reply.reads.parse_eq hbody]

/-- The value of a server, with a field that is called like the tag beside it. -/
def CommandReply.lookalike : CommandReply :=
  .complete (.serverValue (.obj [("kind", .str "")]))

/-- A text of that reply in which the fields have changed places. -/
def CommandReply.lookalikeText : String :=
  "\x7b\"status\":\"complete\",\"response\":" ++
    "\x7b\"value\":\x7b\"kind\":\"\"\x7d,\"kind\":\"server_value\"\x7d\x7d"

/-- The text is one of that reply. -/
theorem CommandReply.lookalike_writtenAs :
    (encode CommandReply.lookalike).WrittenAs CommandReply.lookalikeText := by
  have hpayload : (Doc.obj [("kind", none, .value (.str ""))] none).Clean :=
    .obj (by simp) (by simp) (by simp [Doc.Clean.value])
  have hresponse : (Doc.obj [("value", none, .obj [("kind", none, .value (.str ""))] none),
      ("kind", none, .value (.str "server_value"))] none).Clean :=
    .obj (by simp) (by simp) (by simp [Doc.Clean.value, hpayload])
  exact ⟨.obj [("status", none, .value (.str "complete")), ("response", none, _)] none, by cbv,
    .obj (by simp) (by simp) (by simp [Doc.Clean.value, hresponse]), by cbv⟩

theorem Wire.lookalike_roundTrips :
    (encode CommandReply.lookalike).WrittenAs CommandReply.lookalikeText ∧
    Client.post (fun _ _ => (.answered 200 CommandReply.lookalikeText, ())) ⟨0, ⟨"a:1"⟩⟩ executePath
      .null () = (CommandReply.lookalike.toResult, ()) := by
  obtain ⟨-, -, -, -, -, -, -, -, -, -, -, -, -, -, -, hclient⟩ := Wire.roundTrips
  exact ⟨CommandReply.lookalike_writtenAs,
    hclient _ _ _ _ _ _ _ _ _ rfl CommandReply.lookalike_writtenAs⟩

end ScatterSearch
