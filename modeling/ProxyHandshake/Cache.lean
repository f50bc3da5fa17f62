import ProxyHandshake.Negotiation
import ProxyHandshake.Url.Basic

/-!
# Handles kept for later

A handle is kept for the proxy for which it was acquired until its time runs out or the proxy
rejects it.  Proxies are told apart by scheme, host and port, however their URLs are spelled.
-/

namespace ProxyHandshake

/-- The identity of a proxy. -/
def Url.proxyKey (proxy : Url) : String :=
  let host := Text.lower (proxy.hostText?.getD "")
  match proxy.effectivePort? with
  | some port => proxy.scheme ++ "://" ++ host ++ ":" ++ toString port
  | none => proxy.scheme ++ "://" ++ host

structure Kept (κ : Type) where
  handle : κ
  validUntil : Instant
deriving DecidableEq, Repr

structure Cache (κ : Type) where
  entries : List (String × Kept κ)
deriving DecidableEq, Repr

namespace Cache

variable {κ : Type}

def empty : Cache κ := ⟨[]⟩

def get? (cache : Cache κ) (key : String) : Option (Kept κ) :=
  cache.entries.lookup key

def isCached (cache : Cache κ) (key : String) : Bool :=
  (cache.get? key).isSome

def forget (cache : Cache κ) (key : String) : Cache κ :=
  ⟨cache.entries.filter fun entry => entry.1 ≠ key⟩

def put (cache : Cache κ) (key : String) (kept : Kept κ) : Cache κ :=
  ⟨(key, kept) :: (cache.forget key).entries⟩

/-- The handle kept for `key` that is valid at `now`; one that is not is forgotten. -/
def lookup (cache : Cache κ) (key : String) (now : Instant) : Option κ × Cache κ :=
  match cache.get? key with
  | none => (none, cache)
  | some kept => if now < kept.validUntil then (some kept.handle, cache) else (none, cache.forget key)

/-- Keep a handle that was still valid when the lookup for it began. -/
def store (cache : Cache κ) (key : String) (since : Instant) (acquired : Acquired κ) : Cache κ :=
  match acquired.validUntil with
  | some validUntil =>
    if since < validUntil then cache.put key ⟨acquired.handle, validUntil⟩ else cache
  | none => cache

/-- The handle kept for `key`, or else the outcome of `acquire`, which is kept if it can be. -/
def getOrAcquire {ε : Type} (cache : Cache κ) (key : String) (now : Instant)
    (acquire : Unit → Except ε (Acquired κ)) : Except ε κ × Cache κ :=
  match cache.lookup key now with
  | (some handle, cache) => (.ok handle, cache)
  | (none, cache) =>
    match acquire () with
    | .error e => (.error e, cache)
    | .ok acquired => (.ok acquired.handle, cache.store key now acquired)

end Cache

end ProxyHandshake
