import ScatterSearch.Cluster.Server
import ScatterSearch.Cluster.Shard

/-!
# Configuration

All settings of a node, by part. Every setting has a default, so a file gives only those that
differ. `NodeConfig.load` reads a file's text and refuses settings that cannot work together.
-/

namespace ScatterSearch

/-- Settings of outbound calls. -/
structure ExecutorConfig where
  /-- how many calls may run at once -/
  workerCount : UInt64
  /-- how long a call keeps coming back to its execution; `none` is for ever -/
  reconnectBudget : Option UInt64
  maxArgumentBytes : UInt64
  deriving DecidableEq, Repr

namespace ExecutorConfig

/-- The settings of a node that is told nothing. -/
def default : ExecutorConfig := ⟨32, some 60000, 1048576⟩

instance : Wire ExecutorConfig where
  encode c := .obj [("max_argument_bytes", .uint64 c.maxArgumentBytes),
    ("reconnect_budget_ms", .option .uint64 c.reconnectBudget),
    ("worker_count", .uint64 c.workerCount)]
  decode := Record.decoder "struct ExecutorConfig" <|
    ExecutorConfig.mk <$> Record.withDefault "worker_count" Decoder.count default.workerCount
      <*> Record.withDefault "reconnect_budget_ms" (Decoder.option Decoder.u64)
        default.reconnectBudget
      <*> Record.withDefault "max_argument_bytes" Decoder.count default.maxArgumentBytes

end ExecutorConfig

/-- Settings of connections to other nodes. -/
structure ClientConfig where
  requestTimeout : UInt64
  pingAttempts : UInt64
  pingTimeout : UInt64
  maxIdlePerServer : UInt64
  deriving DecidableEq, Repr

namespace ClientConfig

/-- The settings of a node that is told nothing. -/
def default : ClientConfig := ⟨30000, 3, 500, 8⟩

instance : Wire ClientConfig where
  encode c := .obj [("max_idle_per_server", .uint64 c.maxIdlePerServer),
    ("ping_attempts", .uint64 c.pingAttempts), ("ping_timeout_ms", .uint64 c.pingTimeout),
    ("request_timeout_ms", .uint64 c.requestTimeout)]
  decode := Record.decoder "struct ClientConfig" <|
    ClientConfig.mk <$> Record.withDefault "request_timeout_ms" Decoder.u64 default.requestTimeout
      <*> Record.withDefault "ping_attempts" Decoder.count default.pingAttempts
      <*> Record.withDefault "ping_timeout_ms" Decoder.u64 default.pingTimeout
      <*> Record.withDefault "max_idle_per_server" Decoder.count default.maxIdlePerServer

end ClientConfig

/-- Settings of the registry of queries. -/
structure StatusConfig where
  /-- how often finished queries are swept -/
  cleanupInterval : UInt64
  /-- how long a finished query stays visible -/
  cleanupDelay : UInt64
  deriving DecidableEq, Repr

namespace StatusConfig

/-- The settings of a node that is told nothing. -/
def default : StatusConfig := ⟨10000, 10000⟩

instance : Wire StatusConfig where
  encode c := .obj [("cleanup_delay_ms", .uint64 c.cleanupDelay),
    ("cleanup_interval_ms", .uint64 c.cleanupInterval)]
  decode := Record.decoder "struct StatusConfig" <|
    StatusConfig.mk <$> Record.withDefault "cleanup_interval_ms" Decoder.u64 default.cleanupInterval
      <*> Record.withDefault "cleanup_delay_ms" Decoder.u64 default.cleanupDelay

end StatusConfig

/-- Settings of the watch over the node's memory. -/
structure BackPressureConfig where
  enabled : Bool
  checkInterval : UInt64
  /-- without a limit nothing is watched -/
  memoryLimit : Option UInt64
  /-- the part of the limit at which running queries are stopped -/
  threshold : Double
  deriving DecidableEq, Repr

namespace BackPressureConfig

/-- Nine tenths. -/
def defaultThreshold : Double := .finite ((Binary64.ofDecimal false 9 (-1)).getD .zero)

/-- The settings of a node that is told nothing. -/
def default : BackPressureConfig := ⟨true, 1000, none, defaultThreshold⟩

/-- The settings as a file gives them. -/
def record : Record BackPressureConfig :=
  BackPressureConfig.mk <$> Record.withDefault "enabled" Decoder.bool default.enabled
    <*> Record.withDefault "check_interval_ms" Decoder.u64 default.checkInterval
    <*> Record.withDefault "memory_limit_bytes" (Decoder.option Decoder.u64) default.memoryLimit
    <*> Record.withDefault "threshold" Decoder.double default.threshold

instance : Wire BackPressureConfig where
  encode c := .obj [("check_interval_ms", .uint64 c.checkInterval), ("enabled", .bool c.enabled),
    ("memory_limit_bytes", .option .uint64 c.memoryLimit), ("threshold", .double c.threshold)]
  decode := record.decoder "struct BackPressureConfig"

end BackPressureConfig

/-- Settings of the executions that others start on the node. -/
structure ExecutionConfig where
  /-- how long a request waits before it is told that its execution still runs -/
  wait : UInt64
  /-- how long a result is kept that nobody comes back for -/
  retention : UInt64
  deriving DecidableEq, Repr

namespace ExecutionConfig

/-- The settings of a node that is told nothing. -/
def default : ExecutionConfig := ⟨5000, 60000⟩

instance : Wire ExecutionConfig where
  encode c := .obj [("retention_ms", .uint64 c.retention), ("wait_ms", .uint64 c.wait)]
  decode := Record.decoder "struct ExecutionConfig" <|
    ExecutionConfig.mk <$> Record.withDefault "wait_ms" Decoder.u64 default.wait
      <*> Record.withDefault "retention_ms" Decoder.u64 default.retention

end ExecutionConfig

/-- The shards of one server, as a file lists them. -/
structure ServerLayout where
  server : Server
  shards : List Shard
  deriving DecidableEq, Repr

instance : Wire ServerLayout where
  encode l := .obj [("server", encode l.server), ("shards", .arr (l.shards.map encode))]
  decode := Record.decoder "struct ServerLayout" <|
    ServerLayout.mk <$> Record.required "server" Wire.decode
      <*> Record.required "shards" (Decoder.list Wire.decode)

/-- All settings of a node. -/
structure NodeConfig where
  bind : SocketAddress
  executor : ExecutorConfig
  client : ClientConfig
  status : StatusConfig
  backpressure : BackPressureConfig
  execution : ExecutionConfig
  layout : List ServerLayout
  deriving DecidableEq, Repr

/-- Why a node cannot be configured. -/
inductive ConfigError where
  | unreadable (path reason : String)
  | undecodable (path : String) (error : DecodeError)
  | unusable (path reason : String)
  deriving DecidableEq, Repr

namespace ConfigError

/-- What was being done when it went wrong. -/
def context : ConfigError → String
  | .unreadable path _ => "reading config file " ++ path
  | .undecodable path _ => "parsing config file " ++ path
  | .unusable path _ => "invalid config file " ++ path

/-- What went wrong. -/
def cause : ConfigError → String
  | .unreadable _ reason => reason
  | .undecodable _ error => error.message
  | .unusable _ reason => reason

end ConfigError

namespace NodeConfig

/-- The settings of a node that is told nothing. -/
def default : NodeConfig :=
  ⟨.v4 [127, 0, 0, 1] 40020, .default, .default, .default, .default, .default, []⟩

/-- The settings as a file gives them. -/
def record : Record NodeConfig :=
  NodeConfig.mk <$> Record.withDefault "bind" Wire.decode default.bind
    <*> Record.withDefault "executor" Wire.decode default.executor
    <*> Record.withDefault "client" Wire.decode default.client
    <*> Record.withDefault "status" Wire.decode default.status
    <*> Record.withDefault "backpressure" Wire.decode default.backpressure
    <*> Record.withDefault "execution" Wire.decode default.execution
    <*> Record.withDefault "layout" (Decoder.list Wire.decode) default.layout

instance : Wire NodeConfig where
  encode c := .obj [("backpressure", encode c.backpressure), ("bind", encode c.bind),
    ("client", encode c.client), ("execution", encode c.execution), ("executor", encode c.executor),
    ("layout", .arr (c.layout.map encode)), ("status", encode c.status)]
  decode := record.decoder "struct NodeConfig"

/-- What makes settings unusable: a period of zero, a request that gives up before its answer can
come, or no worker. -/
def problem (c : NodeConfig) : Option String :=
  let positive (field : String) (value : UInt64) : Option String :=
    if value = 0 then some (field ++ " must be greater than zero") else none
  (positive "status.cleanup_interval_ms" c.status.cleanupInterval)
    |>.or (positive "backpressure.check_interval_ms" c.backpressure.checkInterval)
    |>.or (positive "execution.retention_ms" c.execution.retention)
    |>.or (if c.client.requestTimeout ≤ c.execution.wait then
        some ("client.request_timeout_ms (" ++ Nat.repr c.client.requestTimeout.toNat ++
          ") must exceed execution.wait_ms (" ++ Nat.repr c.execution.wait.toNat ++ ")")
      else none)
    |>.or (positive "executor.worker_count" c.executor.workerCount)

/-- The settings in the text of a file; a file that cannot be read comes with the reason. -/
def load (path : String) (text : Except String String) : Except ConfigError NodeConfig := do
  let raw ← text.mapError (.unreadable path)
  let config ← (Decoder.parse (Wire.decode : Decoder NodeConfig) raw).mapError (.undecodable path)
  match config.problem with
  | some reason => throw (.unusable path reason)
  | none => return config

end NodeConfig

end ScatterSearch
