/-
The settings of a gateway. Each has a default and can come from the
environment, where a text that is no number of the right size counts as
absent. `problem?` names the first setting that the gateway cannot run
with.
-/
import CheckGateway.Text.Blank
import CheckGateway.Error

namespace CheckGateway

/-- The settings shared by every tenant; times are in milliseconds except
where the name says seconds. -/
structure Config where
  /-- How long a snapshot, or a failure to take one, is served. -/
  cacheTtl : Nat := 60000
  /-- Message queue entries read per page. -/
  messagePageSize : Nat := 50
  globalPoolSize : Nat := 5
  jobPoolSize : Nat := 1
  diskPoolSize : Nat := 1
  /-- Requests that may wait per pool. -/
  queueCapacity : Nat := 64
  /-- How long a request may wait for room in a queue. -/
  submissionTimeout : Nat := 360000
  loginTimeout : Nat := 10000
  readTimeout : Nat := 300000
  lingerSeconds : Nat := 1
  /-- How long a tenant may be idle before it is evicted. -/
  tenantIdleTimeout : Nat := 7200000
  reaperInterval : Nat := 60000
  deriving DecidableEq, Repr

namespace Config

/-- The largest number of workers in a global pool. -/
def maxGlobalPoolSize : Nat := 10

/-- The largest unsigned number of 32 bits. -/
def nat32Max : Nat := 4294967295

/-- The settings that an environment gives. -/
def ofEnvironment (lookup : String → Option String) : Config :=
  let number (max : Nat) (name : String) (default : Nat) : Nat :=
    ((lookup ("CHECKRELAY_" ++ name)).bind fun text =>
      Text.readNatural? max (Text.trim text)).getD default
  let long := number Text.nat64Max
  let base : Config := {}
  { cacheTtl := long "CACHE_TTL_MS" base.cacheTtl
    messagePageSize := long "MESSAGE_PAGE_SIZE" base.messagePageSize
    globalPoolSize := long "GLOBAL_POOL_SIZE" base.globalPoolSize
    jobPoolSize := long "JOB_POOL_SIZE" base.jobPoolSize
    diskPoolSize := long "DISK_POOL_SIZE" base.diskPoolSize
    queueCapacity := long "QUEUE_CAPACITY" base.queueCapacity
    submissionTimeout := long "WORKER_QUEUE_TIMEOUT_MS" base.submissionTimeout
    loginTimeout := long "LOGIN_TIMEOUT_MS" base.loginTimeout
    readTimeout := long "READ_TIMEOUT_MS" base.readTimeout
    lingerSeconds := number nat32Max "SO_LINGER_SECS" base.lingerSeconds
    tenantIdleTimeout := long "TENANT_IDLE_TIMEOUT_MS" base.tenantIdleTimeout
    reaperInterval := long "REAPER_INTERVAL_MS" base.reaperInterval }

/-- The first setting that the gateway cannot run with. -/
def problem? (c : Config) : Option InvalidSetting :=
  let invalid (field : String) (value : Nat) (reason : String) :=
    some (InvalidSetting.mk field (Text.ofInt value) reason)
  if c.globalPoolSize = 0 ∨ maxGlobalPoolSize < c.globalPoolSize then
    invalid "global_pool_size" c.globalPoolSize "must be between 1 and 10"
  else if c.jobPoolSize = 0 then
    invalid "job_pool_size" c.jobPoolSize "must be at least 1"
  else if c.diskPoolSize = 0 then
    invalid "disk_pool_size" c.diskPoolSize "must be at least 1"
  else if c.queueCapacity = 0 then
    invalid "queue_capacity" c.queueCapacity "must be at least 1"
  else if c.messagePageSize = 0 then
    invalid "message_page_size" c.messagePageSize "must be at least 1"
  else if c.reaperInterval = 0 then
    invalid "reaper_interval" c.reaperInterval "must be non-zero"
  else none

/-- The settings are such that the gateway can run with them. -/
def isValid (c : Config) : Bool := c.problem?.isNone

/-- Refuses settings that the gateway cannot run with. -/
def validate (c : Config) : Outcome Unit :=
  match c.problem? with
  | none => .ok ()
  | some setting => .error (.invalidSetting setting)

end Config

/-- How connections to remote systems are made. -/
structure SocketPolicy where
  lingerSeconds : Nat
  keepAlive : Bool
  noDelay : Bool
  loginTimeout : Nat
  readTimeout : Nat
  deriving DecidableEq, Repr

/-- The policy that the settings ask for. -/
def Config.socketPolicy (c : Config) : SocketPolicy where
  lingerSeconds := c.lingerSeconds
  keepAlive := false
  noDelay := true
  loginTimeout := c.loginTimeout
  readTimeout := c.readTimeout

/-- The policy of the default settings. -/
def SocketPolicy.standard : SocketPolicy := ({} : Config).socketPolicy

end CheckGateway
