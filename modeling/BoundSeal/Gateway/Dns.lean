import BoundSeal.Rust.Net
import BoundSeal.Rust.Result
import BoundSeal.Shared

/-!
# DNS pins (`nxb-dns`)

The first observation of a host in a context pins its address set and resolver;
later observations must match. Contexts, resolvers and hosts are compared after
normalisation.
-/

namespace BoundSeal.Gateway

open Rust

/-- `DnsObservation`. -/
structure DnsObservation where
  contextId : String
  host : String
  addresses : BTreeSet IpAddr
  resolverId : String
  ttlSeconds : ℕ
  observedAtMilliseconds : ℕ

inductive DnsPinStatus where
  | pinned
  | matched
  deriving DecidableEq, Repr

/-- `DnsPin`. -/
structure DnsPin where
  contextId : String
  host : String
  addresses : BTreeSet IpAddr
  resolverId : String
  firstObservedAtMilliseconds : ℕ
  lastObservedAtMilliseconds : ℕ
  initialTtlSeconds : ℕ
  latestTtlSeconds : ℕ

structure DnsPinSet where
  pins : BTreeMap (Lex (String × String)) DnsPin

inductive DnsPinError where
  | invalidContextId
  | invalidResolverId
  | invalidHost
  | emptyAddressSet
  | clockRegression
  | resolverChanged (expected observed : String)
  | rebindingDetected (host : String) (pinned observed : BTreeSet IpAddr)

/-- `is_valid_host` of this crate. -/
def isValidHost (value : String) : Bool :=
  let host := normalizeHost value
  if host = "" ∨ host.utf8ByteSize > 253 ∨ containsChar ':' host ∨ containsChar '/' host then false
  else (splitChar '.' host).all isDnsLabel

/-- `validate_observation`. -/
def validateObservation (observation : DnsObservation) : Except DnsPinError Unit := do
  failIf (¬ isValidIdentifier observation.contextId) .invalidContextId
  failIf (¬ isValidIdentifier observation.resolverId) .invalidResolverId
  failIf (¬ isValidHost observation.host) .invalidHost
  failIf (observation.addresses.isEmpty = true) .emptyAddressSet

/-- The key a context and a host are pinned under. -/
def pinKey (contextId host : String) : Lex (String × String) :=
  toLex (normalizeIdentifier contextId, normalizeHost host)

namespace DnsPinSet

/-- `DnsPinSet::new`. -/
def new : DnsPinSet := ⟨∅⟩

variable (self : DnsPinSet)

/-- `DnsPinSet::pin_or_validate`; an error leaves the pins as
they were. -/
def pinOrValidate (observation : DnsObservation) : Except DnsPinError (DnsPinStatus × DnsPinSet) := do
  validateObservation observation
  let contextId := normalizeIdentifier observation.contextId
  let resolverId := normalizeIdentifier observation.resolverId
  let host := normalizeHost observation.host
  let key := toLex (contextId, host)
  match self.pins[key]? with
  | some pin =>
    failIf (observation.observedAtMilliseconds < pin.lastObservedAtMilliseconds) .clockRegression
    failIf (resolverId ≠ pin.resolverId) (.resolverChanged pin.resolverId resolverId)
    failIf (observation.addresses ≠ pin.addresses)
      (.rebindingDetected host pin.addresses observation.addresses)
    pure (.matched, ⟨self.pins.insert key { pin with
      lastObservedAtMilliseconds := observation.observedAtMilliseconds
      latestTtlSeconds := observation.ttlSeconds }⟩)
  | none =>
    pure (.pinned, ⟨self.pins.insert key
      { contextId
        host
        addresses := observation.addresses
        resolverId
        firstObservedAtMilliseconds := observation.observedAtMilliseconds
        lastObservedAtMilliseconds := observation.observedAtMilliseconds
        initialTtlSeconds := observation.ttlSeconds
        latestTtlSeconds := observation.ttlSeconds }⟩)

/-- `DnsPinSet::release_context`. -/
def releaseContext (contextId : String) : ℕ × DnsPinSet :=
  let normalized := normalizeIdentifier contextId
  let pins := self.pins.filter fun key _ => (ofLex key).1 != normalized
  (self.pins.size - pins.size, ⟨pins⟩)

/-- A context and host are pinned to an address set and a resolver. -/
def PinnedTo (key : Lex (String × String)) (addresses : BTreeSet IpAddr) (resolverId : String) : Prop :=
  ∃ pin, self.pins[key]? = some pin ∧ pin.addresses = addresses ∧ pin.resolverId = resolverId

variable {self} {next : DnsPinSet}

section

variable {observation : DnsObservation} {status : DnsPinStatus}
  (h : self.pinOrValidate observation = .ok (status, next))

include h

/-- **An accepted observation is what its key is pinned to, before and after**, and
every other pin stands. -/
theorem pinOrValidate_spec :
    let key := pinKey observation.contextId observation.host
    let resolverId := normalizeIdentifier observation.resolverId
    next.PinnedTo key observation.addresses resolverId ∧
      (∀ addresses resolver, self.PinnedTo key addresses resolver →
        addresses = observation.addresses ∧ resolver = resolverId) ∧
      ∀ other, other ≠ key → next.pins[other]? = self.pins[other]? := by
  simp only [pinOrValidate, do_eq_ok] at h
  obtain ⟨-, h⟩ := h
  cases hpin : self.pins[toLex (normalizeIdentifier observation.contextId,
      normalizeHost observation.host)]? with
  | some pin =>
    rw [hpin] at h
    simp only [do_eq_ok, not_not] at h
    obtain ⟨-, hresolver, haddresses, hnext⟩ := h
    obtain ⟨-, rfl⟩ := Prod.mk.inj hnext
    refine ⟨⟨_, getElem?_insert_self _ _ _, haddresses.symm, hresolver.symm⟩, ?_, ?_⟩
    · rintro addresses resolver ⟨pin', hpin', rfl, rfl⟩
      rw [pinKey, hpin] at hpin'
      cases hpin'
      exact ⟨haddresses.symm, hresolver.symm⟩
    · intro other hne
      exact getElem?_insert_of_ne _ _ hne.symm
  | none =>
    rw [hpin, pure_eq_ok] at h
    obtain ⟨-, rfl⟩ := Prod.mk.inj h
    refine ⟨⟨_, getElem?_insert_self _ _ _, rfl, rfl⟩, ?_, ?_⟩
    · rintro addresses resolver ⟨pin', hpin', -⟩
      rw [pinKey, hpin] at hpin'
      cases hpin'
    · intro other hne
      exact getElem?_insert_of_ne _ _ hne.symm

theorem PinnedTo.pinOrValidate {key : Lex (String × String)}
    {addresses : BTreeSet IpAddr} {resolverId : String}
    (hpin : self.PinnedTo key addresses resolverId) : next.PinnedTo key addresses resolverId := by
  obtain ⟨hnew, hold, hother⟩ := pinOrValidate_spec h
  by_cases hkey : key = pinKey observation.contextId observation.host
  · subst hkey
    obtain ⟨rfl, rfl⟩ := hold addresses resolverId hpin
    exact hnew
  · obtain ⟨pin, hget, haddr, hres⟩ := hpin
    exact ⟨pin, (hother key hkey).trans hget, haddr, hres⟩

end

theorem PinnedTo.releaseContext {key : Lex (String × String)} {addresses : BTreeSet IpAddr}
    {resolverId contextId : String} (hpin : self.PinnedTo key addresses resolverId)
    (hne : (ofLex key).1 ≠ normalizeIdentifier contextId) :
    (self.releaseContext contextId).2.PinnedTo key addresses resolverId := by
  obtain ⟨pin, hget, haddr, hres⟩ := hpin
  refine ⟨pin, ?_, haddr, hres⟩
  rw [DnsPinSet.releaseContext, Std.ExtTreeMap.getElem?_filter', hget]
  simp [hne]

end DnsPinSet

end BoundSeal.Gateway
