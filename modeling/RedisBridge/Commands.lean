import Mathlib.Data.List.Defs

/-!
The command tables of the bridge: the default allowlist, the commands denied on
shared connections, and the two profiles that scoped tokens may reach.
-/
namespace RedisBridge.Commands

def allowedCommands : List String :=
  ["APPEND", "BITCOUNT", "BITOP", "BITPOS", "DECR", "DECRBY", "DEL", "EXISTS", "EXPIRE",
    "EXPIREAT", "GET", "GETBIT", "GETDEL", "GETEX", "GETRANGE", "GETSET", "HDEL", "HEXISTS",
    "HGET", "HGETALL", "HINCRBY", "HINCRBYFLOAT", "HKEYS", "HLEN", "HMGET", "HMSET",
    "HRANDFIELD", "HSCAN", "HSET", "HSETNX", "HSTRLEN", "HVALS", "INCR", "INCRBY",
    "INCRBYFLOAT", "LINDEX", "LLEN", "LMOVE", "LPOP", "LPOS", "LPUSH", "LRANGE", "LREM",
    "LSET", "LTRIM", "MGET", "MSET", "MSETNX", "PERSIST", "PEXPIRE", "PEXPIREAT", "PFADD",
    "PFCOUNT", "PFMERGE", "PING", "PSETEX", "PTTL", "RPOP", "RPOPLPUSH", "RPUSH", "SADD",
    "SCAN", "SCARD", "SDIFF", "SDIFFSTORE", "SET", "SETBIT", "SETEX", "SETNX", "SETRANGE",
    "SINTER", "SINTERSTORE", "SISMEMBER", "SMEMBERS", "SMISMEMBER", "SMOVE", "SPOP",
    "SRANDMEMBER", "SREM", "SSCAN", "STRLEN", "SUNION", "SUNIONSTORE", "TTL", "TYPE", "UNLINK",
    "XADD", "XDEL", "XLEN", "XRANGE", "XREVRANGE", "XTRIM", "ZADD", "ZCARD", "ZCOUNT", "ZDIFF",
    "ZDIFFSTORE", "ZINCRBY", "ZINTER", "ZINTERSTORE", "ZLEXCOUNT", "ZMSCORE", "ZPOPMAX",
    "ZPOPMIN", "ZRANGE", "ZRANGEBYLEX", "ZRANGEBYSCORE", "ZRANK", "ZREM", "ZREMRANGEBYLEX",
    "ZREMRANGEBYRANK", "ZREMRANGEBYSCORE", "ZREVRANGE", "ZREVRANGEBYLEX", "ZREVRANGEBYSCORE",
    "ZREVRANK", "ZSCAN", "ZSCORE", "ZUNION", "ZUNIONSTORE"]

def deniedCommands : List String :=
  ["EVAL", "EVAL_RO", "EVALSHA", "EVALSHA_RO", "FCALL", "FCALL_RO", "FUNCTION", "SCRIPT",
    "ACL", "CLIENT", "CLUSTER", "COMMAND", "CONFIG", "MODULE", "XGROUP", "ASKING", "AUTH",
    "HELLO", "QUIT", "READONLY", "READWRITE", "RESET", "SELECT", "DISCARD", "EXEC", "MULTI",
    "UNWATCH", "WATCH", "BGREWRITEAOF", "BGSAVE", "BLMOVE", "BLMPOP", "BLPOP", "BRPOP",
    "BRPOPLPUSH", "BZPOPMAX", "BZPOPMIN", "BZMPOP", "DBSIZE", "DEBUG", "FLUSHALL", "FLUSHDB",
    "INFO", "KEYS", "LASTSAVE", "LATENCY", "MEMORY", "MIGRATE", "MONITOR", "PSUBSCRIBE",
    "PSYNC", "PUNSUBSCRIBE", "PUBLISH", "PUBSUB", "REPLCONF", "REPLICAOF", "RESTORE", "ROLE",
    "SAVE", "SHUTDOWN", "SLAVEOF", "SLOWLOG", "SORT", "SORT_RO", "SSUBSCRIBE", "SUNSUBSCRIBE",
    "SUBSCRIBE", "SWAPDB", "SYNC", "UNSUBSCRIBE", "WAIT", "WAITAOF", "XREAD", "XREADGROUP"]

def ratelimitCommands : List String :=
  ["EVAL", "EVALSHA", "SCRIPT"]

def realtimeCommands : List String :=
  ["EXPIRE", "PUBLISH", "XADD", "XRANGE"]

theorem ratelimit_subset_denied : ∀ c ∈ ratelimitCommands, c ∈ deniedCommands := by decide

theorem ratelimit_disjoint_realtime : ∀ c ∈ ratelimitCommands, c ∉ realtimeCommands := by decide

theorem script_mem_ratelimit : "SCRIPT" ∈ ratelimitCommands := by decide

end RedisBridge.Commands
