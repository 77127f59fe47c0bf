import ScatterSearch.Node.Config
import ScatterSearch.Proofs.Cluster.SocketAddress
import ScatterSearch.Proofs.Decode.Omissions
import ScatterSearch.Proofs.Search.Hits

/-!
# Files that give some of the settings

Every setting of a node has a default, and so has every part of the settings. What is left out of a
file is therefore as it is by default, whether it is a whole part or one setting of it, and what is
given is taken as it is (`NodeConfig.omitted_settings_default`). A setting that may be absent is
given all the same where the file says `null`. The threshold alone may be a double for which there
is no number in JSON (`NodeConfig.Legible`).

Each part is one `Record.Restores`, built like the description of its fields; the parts together
are another.
-/

namespace ScatterSearch

open Decoder Record

/-! ## Sections -/

/-- The settings with those of some names as they are by default. -/
def ExecutorConfig.reset (omitted : String → Bool) (c : ExecutorConfig) : ExecutorConfig where
  workerCount := if omitted "worker_count" then default.workerCount else c.workerCount
  reconnectBudget :=
    if omitted "reconnect_budget_ms" then default.reconnectBudget else c.reconnectBudget
  maxArgumentBytes :=
    if omitted "max_argument_bytes" then default.maxArgumentBytes else c.maxArgumentBytes

@[inherit_doc ExecutorConfig.reset]
def ClientConfig.reset (omitted : String → Bool) (c : ClientConfig) : ClientConfig where
  requestTimeout :=
    if omitted "request_timeout_ms" then default.requestTimeout else c.requestTimeout
  pingAttempts := if omitted "ping_attempts" then default.pingAttempts else c.pingAttempts
  pingTimeout := if omitted "ping_timeout_ms" then default.pingTimeout else c.pingTimeout
  maxIdlePerServer :=
    if omitted "max_idle_per_server" then default.maxIdlePerServer else c.maxIdlePerServer

@[inherit_doc ExecutorConfig.reset]
def StatusConfig.reset (omitted : String → Bool) (c : StatusConfig) : StatusConfig where
  cleanupInterval :=
    if omitted "cleanup_interval_ms" then default.cleanupInterval else c.cleanupInterval
  cleanupDelay := if omitted "cleanup_delay_ms" then default.cleanupDelay else c.cleanupDelay

@[inherit_doc ExecutorConfig.reset]
def BackPressureConfig.reset (omitted : String → Bool) (c : BackPressureConfig) :
    BackPressureConfig where
  enabled := if omitted "enabled" then default.enabled else c.enabled
  checkInterval := if omitted "check_interval_ms" then default.checkInterval else c.checkInterval
  memoryLimit := if omitted "memory_limit_bytes" then default.memoryLimit else c.memoryLimit
  threshold := if omitted "threshold" then default.threshold else c.threshold

@[inherit_doc ExecutorConfig.reset]
def ExecutionConfig.reset (omitted : String → Bool) (c : ExecutionConfig) : ExecutionConfig where
  wait := if omitted "wait_ms" then default.wait else c.wait
  retention := if omitted "retention_ms" then default.retention else c.retention

variable {omitted : String → Bool}

theorem ExecutorConfig.reads (c : ExecutorConfig) :
    (Wire.decode : Decoder ExecutorConfig).Reads ((encode c).without omitted) (c.reset omitted) :=
  ((((Restores.withDefault "worker_count" (.count c.workerCount)).map ExecutorConfig.mk).seq
    (.withDefault "reconnect_budget_ms" (.option .u64 (by simp [Json.uint64]) _))).seq
    (.withDefault "max_argument_bytes" (.count c.maxArgumentBytes))).reads _ (by simp)
      (perm_of_subset (by simp) (by simp) (by simp))

theorem ClientConfig.reads (c : ClientConfig) :
    (Wire.decode : Decoder ClientConfig).Reads ((encode c).without omitted) (c.reset omitted) :=
  (((((Restores.withDefault "request_timeout_ms" (.u64 c.requestTimeout)).map ClientConfig.mk).seq
    (.withDefault "ping_attempts" (.count c.pingAttempts))).seq
    (.withDefault "ping_timeout_ms" (.u64 c.pingTimeout))).seq
    (.withDefault "max_idle_per_server" (.count c.maxIdlePerServer))).reads _ (by simp)
      (perm_of_subset (by simp) (by simp) (by simp))

theorem StatusConfig.reads (c : StatusConfig) :
    (Wire.decode : Decoder StatusConfig).Reads ((encode c).without omitted) (c.reset omitted) :=
  (((Restores.withDefault "cleanup_interval_ms" (.u64 c.cleanupInterval)).map StatusConfig.mk).seq
    (.withDefault "cleanup_delay_ms" (.u64 c.cleanupDelay))).reads _ (by simp) (.swap _ _ _)

/-- A double is read from a number that has a fraction as it is. -/
theorem Decoder.Reads.binary64 (x : Binary64) : Decoder.binary64.Reads (.num (.real x)) x := by
  intro o doc h
  simp only [Decoder.binary64, h.shape_leaf rfl, Number.toBinary64]

/-- A double that has a number in JSON. -/
def Double.IsFinite (x : Double) : Prop := ∃ y, x = .finite y

/-- A finite number is read as it was written. -/
theorem Double.IsFinite.reads {x : Double} (h : x.IsFinite) :
    Decoder.double.Reads (.double x) x := by
  obtain ⟨y, rfl⟩ := h
  exact .map Double.finite (.binary64 y)

/-- Any other double has none, and so it is not read again. -/
theorem Decoder.refuses_null_double : Decoder.double.Refuses .null (.wrongType .null "f64") := by
  refine .map Double.finite fun o doc h => ?_
  simp only [Decoder.binary64, h.shape_leaf rfl]
  rfl

/-- Any other is written as null. -/
theorem Double.encode_of_not_isFinite {x : Double} (h : ¬ x.IsFinite) : Json.double x = .null := by
  cases x with
  | finite y => exact absurd ⟨y, rfl⟩ h
  | infinite | nan => rfl

namespace BackPressureConfig

/-- The fields in the order in which they are declared. -/
def values (c : BackPressureConfig) : List (String × Json) :=
  [("enabled", .bool c.enabled), ("check_interval_ms", .uint64 c.checkInterval),
    ("memory_limit_bytes", .option .uint64 c.memoryLimit), ("threshold", .double c.threshold)]

variable {c : BackPressureConfig}

/-- A threshold that is left out need not be finite. -/
theorem restores (hthreshold : omitted "threshold" = false → c.threshold.IsFinite) :
    record.Restores omitted c.values (c.reset omitted) :=
  ((((Restores.withDefault "enabled" (.bool c.enabled)).map BackPressureConfig.mk).seq
    (.withDefault "check_interval_ms" (.u64 c.checkInterval))).seq
    (.withDefault "memory_limit_bytes" (.option .u64 (by simp [Json.uint64]) _))).seq
    (.unlessOmitted "threshold" fun hname => (hthreshold hname).reads)

/-- What is left out is read as its default, and the rest as it was written. -/
theorem reads (hthreshold : omitted "threshold" = false → c.threshold.IsFinite) :
    (Wire.decode : Decoder BackPressureConfig).Reads ((encode c).without omitted)
      (c.reset omitted) :=
  (restores hthreshold).reads _ (by simp [values])
    (perm_of_subset (by simp) (by simp [values]) (by simp [values]))

/-- A threshold that is given and no finite number is refused. -/
theorem refuses (hgiven : omitted "threshold" = false) (hthreshold : ¬ c.threshold.IsFinite) :
    (Wire.decode : Decoder BackPressureConfig).Refuses ((encode c).without omitted)
      (.wrongType .null "f64") := by
  have hrestores : record.Restores omitted { c with threshold := .finite .zero }.values _ :=
    restores fun _ => ⟨.zero, rfl⟩
  have hencode : encode c = .obj (replaceField "threshold" .null
      [("check_interval_ms", .uint64 c.checkInterval), ("enabled", .bool c.enabled),
        ("memory_limit_bytes", .option .uint64 c.memoryLimit),
        ("threshold", .double (.finite .zero))]) := by
    simp [encode, replaceField, Double.encode_of_not_isFinite hthreshold]
  rw [hencode]
  exact hrestores.refuses _ (by simp [values])
    (perm_of_subset (by simp) (by simp [values]) (by simp [values])) (by simp [values]) hgiven rfl
    fun _ _ hdoc => Decoder.refuses_null_double.errorOf_eq hdoc

end BackPressureConfig

theorem ExecutionConfig.reads (c : ExecutionConfig) :
    (Wire.decode : Decoder ExecutionConfig).Reads ((encode c).without omitted)
      (c.reset omitted) :=
  (((Restores.withDefault "wait_ms" (.u64 c.wait)).map ExecutionConfig.mk).seq
    (.withDefault "retention_ms" (.u64 c.retention))).reads _ (by simp) (.swap _ _ _)

theorem Server.reads (s : Server) : (Wire.decode : Decoder Server).Reads (encode s) s :=
  .map Server.mk (.string s.name)

theorem ServerLayout.reads (l : ServerLayout) :
    (Wire.decode : Decoder ServerLayout).Reads (encode l) l :=
  (((Takes.required "server" l.server.reads).map ServerLayout.mk).seq
    (.required "shards" (.list Shard.reads l.shards))).reads _ (by simp) .rfl

/-- An address is read as it was written. -/
theorem SocketAddress.reads {a : SocketAddress} (h : a.Valid) :
    (Wire.decode : Decoder SocketAddress).Reads (encode a) a := by
  intro o doc hdoc
  change SocketAddress.decode o doc = _
  rw [SocketAddress.decode]
  simp only [hdoc.shape_leaf rfl, encode, parse?_text h]

/-! ## Whole files -/

/-- What is left out of a file: parts of it, and settings in its sections. -/
structure Omission where
  part : String → Bool
  setting : String → String → Bool

namespace Omission

/-- The parts of a file without the settings that are left out of them. Parts that are no sections
are kept as they are. -/
def inside (o : Omission) : Json → Json
  | .obj parts => .obj (parts.map fun p => (p.1, p.2.without (o.setting p.1)))
  | j => j

/-- What is left of a file. -/
def apply (o : Omission) (j : Json) : Json := (o.inside j).without o.part

/-- Nothing is left out. -/
def none : Omission := ⟨fun _ => false, fun _ _ => false⟩

end Omission

namespace NodeConfig

/-- The settings with those that are left out as they are by default. -/
def reset (o : Omission) (c : NodeConfig) : NodeConfig where
  bind := if o.part "bind" then default.bind else c.bind
  executor :=
    if o.part "executor" then default.executor else c.executor.reset (o.setting "executor")
  client := if o.part "client" then default.client else c.client.reset (o.setting "client")
  status := if o.part "status" then default.status else c.status.reset (o.setting "status")
  backpressure :=
    if o.part "backpressure" then default.backpressure
    else c.backpressure.reset (o.setting "backpressure")
  execution :=
    if o.part "execution" then default.execution else c.execution.reset (o.setting "execution")
  layout := if o.part "layout" then default.layout else c.layout

variable {c : NodeConfig}

/-- What is given of the settings can be read again: the threshold is finite, or left out. There is
no number in JSON for any other double. -/
def Legible (o : Omission) (c : NodeConfig) : Prop :=
  o.part "backpressure" = true ∨ o.setting "backpressure" "threshold" = true ∨
    c.backpressure.threshold.IsFinite

variable {o : Omission}

/-- The parts in the order in which they are declared, without the settings that are left out of
them. -/
def values (o : Omission) (c : NodeConfig) : List (String × Json) :=
  [("bind", encode c.bind), ("executor", (encode c.executor).without (o.setting "executor")),
    ("client", (encode c.client).without (o.setting "client")),
    ("status", (encode c.status).without (o.setting "status")),
    ("backpressure", (encode c.backpressure).without (o.setting "backpressure")),
    ("execution", (encode c.execution).without (o.setting "execution")),
    ("layout", .arr (c.layout.map encode))]

/-- The same parts as they stand in the encoding. -/
def parts (o : Omission) (c : NodeConfig) : List (String × Json) :=
  [("backpressure", (encode c.backpressure).without (o.setting "backpressure")),
    ("bind", encode c.bind), ("client", (encode c.client).without (o.setting "client")),
    ("execution", (encode c.execution).without (o.setting "execution")),
    ("executor", (encode c.executor).without (o.setting "executor")),
    ("layout", .arr (c.layout.map encode)),
    ("status", (encode c.status).without (o.setting "status"))]

theorem inside_encode : o.inside (encode c) = .obj (c.parts o) := rfl

/-- The parts that are written are the values, in another order. -/
theorem parts_perm : (c.parts o).Perm (c.values o) :=
  perm_of_subset (by simp [parts]) (by simp [parts, values]) (by simp [parts, values])

/-- What is left of the settings restores them, but for what was left out. -/
theorem restores (hbind : c.bind.Valid) (hlegible : c.Legible o) :
    record.Restores o.part (c.values o) (c.reset o) := by
  have hthreshold (hpart : o.part "backpressure" = false)
      (hsetting : o.setting "backpressure" "threshold" = false) :
      c.backpressure.threshold.IsFinite := by
    rcases hlegible with h | h | h
    · cases h.symm.trans hpart
    · cases h.symm.trans hsetting
    · exact h
  exact (((((((Restores.withDefault "bind" (SocketAddress.reads hbind)).map NodeConfig.mk).seq
    (.withDefault "executor" c.executor.reads)).seq
    (.withDefault "client" c.client.reads)).seq
    (.withDefault "status" c.status.reads)).seq
    (.unlessOmitted "backpressure" fun hpart => BackPressureConfig.reads (hthreshold hpart))).seq
    (.withDefault "execution" c.execution.reads)).seq
    (.withDefault "layout" (.list ServerLayout.reads c.layout))

theorem reads (hbind : c.bind.Valid) (hlegible : c.Legible o) :
    (Wire.decode : Decoder NodeConfig).Reads (o.apply (encode c)) (c.reset o) :=
  (restores hbind hlegible).reads _ (by simp [values]) parts_perm

/-- If the threshold is illegible, they are refused. -/
theorem refuses (hbind : c.bind.Valid) (hillegible : ¬ c.Legible o) :
    (Wire.decode : Decoder NodeConfig).Refuses (o.apply (encode c)) (.wrongType .null "f64") := by
  obtain ⟨hpart, hsetting, hthreshold⟩ : o.part "backpressure" = false ∧
      o.setting "backpressure" "threshold" = false ∧ ¬ c.backpressure.threshold.IsFinite := by
    simpa [Legible] using hillegible
  -- with a threshold that can be read, the settings would be read
  let c' := { c with backpressure := { c.backpressure with threshold := .finite .zero } }
  have hrestores : record.Restores o.part (c'.values o) _ :=
    restores hbind (.inr (.inr ⟨.zero, rfl⟩))
  have hparts : c.parts o = replaceField "backpressure"
      ((encode c.backpressure).without (o.setting "backpressure")) (c'.parts o) := by
    simp [parts, replaceField, c']
  rw [Omission.apply, inside_encode, hparts]
  exact hrestores.refuses _ (by simp [values]) parts_perm (by simp [values]) hpart rfl
    fun _ _ hdoc => (BackPressureConfig.refuses hsetting hthreshold).errorOf_eq hdoc

theorem apply_none (c : NodeConfig) : Omission.none.apply (encode c) = encode c := rfl

theorem reset_none (c : NodeConfig) : c.reset .none = c := rfl

/-- What settings must satisfy to be usable. -/
structure Usable (c : NodeConfig) : Prop where
  sweeps : c.status.cleanupInterval ≠ 0
  looks : c.backpressure.checkInterval ≠ 0
  evicts : c.execution.retention ≠ 0
  /-- a request outlives the wait of the node that it is sent to -/
  outlives : c.execution.wait < c.client.requestTimeout
  works : c.executor.workerCount ≠ 0

/-- Settings have no problem if they are usable. -/
theorem problem_eq_none_iff (c : NodeConfig) : c.problem = none ↔ c.Usable := by
  have hiff : c.problem = none ↔ c.status.cleanupInterval ≠ 0 ∧ c.backpressure.checkInterval ≠ 0 ∧
      c.execution.retention ≠ 0 ∧ ¬ c.client.requestTimeout ≤ c.execution.wait ∧
      c.executor.workerCount ≠ 0 := by
    simp only [problem, Option.or_eq_none_iff, ite_eq_right_iff, reduceCtorEq, imp_false, and_assoc]
  rw [hiff, UInt64.not_le]
  exact ⟨fun ⟨h₁, h₂, h₃, h₄, h₅⟩ => ⟨h₁, h₂, h₃, h₄, h₅⟩,
    fun ⟨h₁, h₂, h₃, h₄, h₅⟩ => ⟨h₁, h₂, h₃, h₄, h₅⟩⟩

theorem load_text (path body : String) : load path (.ok body) = (do
    let config ← (Decoder.parse (Wire.decode : Decoder NodeConfig) body).mapError
      (ConfigError.undecodable path)
    match config.problem with
    | some reason => throw (ConfigError.unusable path reason)
    | none => return config) := rfl

/-- A text that cannot be decoded is not loaded. -/
theorem load_undecodable {body : String} {e : DecodeError} (path : String)
    (h : Decoder.parse (Wire.decode : Decoder NodeConfig) body = .error e) :
    load path (.ok body) = .error (.undecodable path e) := by
  rw [load_text, h]
  rfl

/-- The text of a file is read, and its settings are checked. -/
theorem load_eq {body : String} (path : String)
    (h : Decoder.parse (Wire.decode : Decoder NodeConfig) body = .ok c) :
    load path (.ok body) = match c.problem with
      | some reason => .error (.unusable path reason)
      | none => .ok c := by
  rw [load_text, h]
  rfl

/-- A text that can be is loaded if the settings have no problem. -/
theorem load_eq_ok_iff {path body : String} {loaded : NodeConfig}
    (h : Decoder.parse (Wire.decode : Decoder NodeConfig) body = .ok c) :
    load path (.ok body) = .ok loaded ↔ loaded = c ∧ c.problem = none := by
  rw [load_eq path h]
  cases c.problem with
  | some reason => simp
  | none => simp [eq_comm]

/-- A file gives any part of the settings. Read from what is left of the encoding of some settings,
they are as they were but for those that are left out, which are as they are by default, whole parts
and single settings alike; with nothing left out they are as they were. So it is with a text that
holds what is left, in whatever order, and such a file is loaded just if those settings are
usable.

Only a threshold that is given and is not finite cannot be read again: JSON has no number for it. -/
theorem omitted_settings_default (hbind : c.bind.Valid) :
    (c.backpressure.threshold.IsFinite →
      (Wire.decode : Decoder NodeConfig).run (encode c) = .ok c) ∧
    (∀ o : Omission, c.Legible o →
      (Wire.decode : Decoder NodeConfig).run (o.apply (encode c)) = .ok (c.reset o) ∧
      ((c.reset o).problem = none ↔ (c.reset o).Usable) ∧
      ∀ path body : String, (o.apply (encode c)).WrittenAs body →
        Decoder.parse (Wire.decode : Decoder NodeConfig) body = .ok (c.reset o) ∧
        (∀ loaded, load path (.ok body) = .ok loaded ↔
          loaded = c.reset o ∧ (c.reset o).problem = none) ∧
        ∀ reason, (c.reset o).problem = some reason →
          load path (.ok body) = .error (.unusable path reason)) ∧
    ∀ o : Omission, ¬ c.Legible o →
      (Wire.decode : Decoder NodeConfig).run (o.apply (encode c)) =
        .error (.wrongType .null "f64") ∧
      ∀ path body : String, (o.apply (encode c)).WrittenAs body →
        load path (.ok body) = .error (.undecodable path (.wrongType .null "f64")) := by
  refine ⟨fun hfinite => ?whole, fun o hlegible =>
    ⟨(reads hbind hlegible).run_eq, problem_eq_none_iff _, ?text⟩, fun o hillegible =>
    ⟨(refuses hbind hillegible).run_eq, fun path body hbody => ?refused⟩⟩
  case whole =>
    have hreads := (reads hbind (o := .none) (.inr (.inr hfinite))).run_eq
    rwa [apply_none, reset_none] at hreads
  case text =>
    intro path body hbody
    have hparse := (reads hbind hlegible).parse_eq hbody
    refine ⟨hparse, fun loaded => load_eq_ok_iff hparse, fun reason hreason => ?_⟩
    rw [load_eq path hparse, hreason]
  case refused => exact load_undecodable path ((refuses hbind hillegible).parse_eq hbody)

/-- The default settings with a threshold that is no number. -/
def unmeasured : NodeConfig :=
  { default with backpressure := { BackPressureConfig.default with threshold := .nan } }

/-- They are usable, and yet what they are written as is refused. -/
theorem unmeasured_unread : unmeasured.bind.Valid ∧ unmeasured.problem = none ∧
    (Wire.decode : Decoder NodeConfig).run (encode unmeasured) = .error (.wrongType .null "f64") ∧
    (Wire.decode : Decoder NodeConfig).run (encode unmeasured) ≠ .ok unmeasured := by
  have hbind : unmeasured.bind.Valid := ⟨by decide, by decide⟩
  have hillegible : ¬ unmeasured.Legible .none := by
    rintro (h | h | ⟨x, h⟩) <;> cases h
  have hrefused := (refuses hbind hillegible).run_eq
  rw [apply_none] at hrefused
  refine ⟨hbind, by decide, hrefused, ?_⟩
  rw [hrefused]
  exact fun h => nomatch h

/-- Settings all of whose parts but the layout differ from the default. -/
def remote : NodeConfig :=
  { default with
    bind := .v4 [10, 0, 0, 7] 41000
    executor := ⟨4, none, 10⟩
    client := ⟨1, 1, 1, 1⟩ }

/-- All is left out but the address and that calls come back for ever. -/
def remoteOmission : Omission where
  part name := name ≠ "bind" ∧ name ≠ "executor"
  setting _ name := name ≠ "reconnect_budget_ms"

/-- What is left, with the parts the other way round. -/
def remoteText : String :=
  "\x7b\"executor\":\x7b\"reconnect_budget_ms\":null\x7d,\"bind\":\"10.0.0.7:41000\"\x7d"

theorem remote_writtenAs : (remoteOmission.apply (encode remote)).WrittenAs remoteText := by
  have hexecutor : (Doc.obj [("reconnect_budget_ms", none, .value .null)] none).Clean :=
    .obj (by simp) (by simp) (by simp [Doc.Clean.value])
  exact ⟨.obj [("executor", none, _), ("bind", none, .value (.str "10.0.0.7:41000"))] none, by cbv,
    .obj (by simp) (by simp) (by simp [Doc.Clean.value, hexecutor]), by rfl⟩

/-- From that text the remote settings are loaded. -/
theorem remote_loads : remote.bind.Valid ∧
    load "node.json" (.ok remoteText) = .ok { default with
      bind := .v4 [10, 0, 0, 7] 41000
      executor := { ExecutorConfig.default with reconnectBudget := none } } := by
  have hbind : remote.bind.Valid := ⟨by decide, by decide⟩
  obtain ⟨-, hpartial, -⟩ := omitted_settings_default hbind
  obtain ⟨-, -, htext⟩ := hpartial remoteOmission (.inl (by decide))
  obtain ⟨-, hload, -⟩ := htext "node.json" remoteText remote_writtenAs
  exact ⟨hbind, (hload _).2 ⟨by decide, by decide⟩⟩

end NodeConfig

end ScatterSearch
