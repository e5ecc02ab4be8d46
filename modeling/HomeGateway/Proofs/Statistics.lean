import Mathlib
import HomeGateway.Statistics

/-!
The counters by their names. Whatever goes wrong is counted once in a counter of its own and once
in those that count everything of its kind, and no other counter moves. Over time, counters go up
by what is counted, and the sums of those of one kind stay even.
-/

namespace HomeGateway

/-- The name of a counter. -/
inductive Tally where
  | events
  | registrationsDropped
  | deviceListFull
  | unsupportedType
  | setupRefused
  | noEndpointDeclared
  | tooManyEndpoints
  | eventsDropped
  | dataDropped
  | commandsDropped
  | noEventSlot
  | noEndpointSelected
  | badEndpoint
  | badPayloadSize
  | noDataMemory
  | notDecoded
  | neverReferenced
  | subscriptionsRefused
  deriving DecidableEq

/-- The counter for the registrations that fail with a cause. Two causes are not of registrations. -/
def RegistryError.tally? : RegistryError → Option Tally
  | .outOfCapacity _ => some .deviceListFull
  | .unsupportedType _ => some .unsupportedType
  | .endpointInit _ => some .setupRefused
  | .noEndpoints => some .noEndpointDeclared
  | .tooManyEndpoints _ _ => some .tooManyEndpoints
  | .noDevices => none
  | .deviceNotFound => none

/-- The counter for the events that are dropped for a cause. -/
def IngestError.tally : IngestError → Tally
  | .poolExhausted => .noEventSlot
  | .noEndpoint => .noEndpointSelected
  | .invalidEndpoint _ => .badEndpoint
  | .noCommandHandler _ => .badEndpoint
  | .payloadSizeMismatch _ _ => .badPayloadSize
  | .noMemory _ => .noDataMemory
  | .decode _ => .notDecoded
  | .command _ => .notDecoded

theorem RegistryError.tallies_nodup {cause : RegistryError} {reason : Tally}
    (h : cause.tally? = some reason) : [Tally.registrationsDropped, reason].Nodup := by
  cases cause <;> cases h <;> decide

theorem IngestError.tallies_nodup (cause : IngestError) (command : Bool) :
    [Tally.eventsDropped, if command then .commandsDropped else .dataDropped,
      cause.tally].Nodup := by
  cases command <;> cases cause <;> simp [IngestError.tally]

namespace Counters

def read (c : Counters) : Tally → UInt32
  | .events => c.events
  | .registrationsDropped => c.registrationsDropped
  | .deviceListFull => c.deviceListFull
  | .unsupportedType => c.unsupportedType
  | .setupRefused => c.setupRefused
  | .noEndpointDeclared => c.noEndpointDeclared
  | .tooManyEndpoints => c.tooManyEndpoints
  | .eventsDropped => c.eventsDropped
  | .dataDropped => c.dataDropped
  | .commandsDropped => c.commandsDropped
  | .noEventSlot => c.noEventSlot
  | .noEndpointSelected => c.noEndpointSelected
  | .badEndpoint => c.badEndpoint
  | .badPayloadSize => c.badPayloadSize
  | .noDataMemory => c.noDataMemory
  | .notDecoded => c.notDecoded
  | .neverReferenced => c.neverReferenced
  | .subscriptionsRefused => c.subscriptionsRefused

/-- These counters went up by one, all others stayed. -/
def Raised (c next : Counters) (tallies : List Tally) : Prop :=
  ∀ t, next.read t = if t ∈ tallies then c.read t + 1 else c.read t

theorem registrationFailed_raised (c : Counters) {cause : RegistryError} {t : Tally}
    (h : cause.tally? = some t) :
    c.Raised (c.registrationFailed cause) [.registrationsDropped, t] := by
  intro other
  cases cause with
  | noDevices => cases h
  | deviceNotFound => cases h
  | outOfCapacity | unsupportedType | endpointInit | noEndpoints | tooManyEndpoints =>
    cases h
    cases other <;> rfl

theorem eventDropped_raised (c : Counters) (cause : IngestError) (command : Bool) :
    c.Raised (c.eventDropped cause command)
      [.eventsDropped, if command then .commandsDropped else .dataDropped, cause.tally] := by
  intro other
  cases command <;> cases cause <;> cases other <;> rfl

/-- From one reading to a later one, each counter went up by as much as it stands in the list. The
refused subscriptions are left out. -/
def Gained (c next : Counters) (bumps : List Tally) : Prop :=
  ∀ t, t ≠ .subscriptionsRefused → next.read t = c.read t + UInt32.ofNat (bumps.count t)

variable {c mid next : Counters} {bumps more : List Tally}

theorem Gained.refl (c : Counters) : c.Gained c [] := by
  intro t _
  exact (UInt32.add_zero _).symm

theorem Gained.trans (hfirst : c.Gained mid bumps) (hmore : mid.Gained next more) :
    c.Gained next (bumps ++ more) := by
  intro t ht
  rw [hmore t ht, hfirst t ht, List.count_append, UInt32.ofNat_add, UInt32.add_assoc]

theorem Raised.gained {tallies : List Tally} (h : c.Raised next tallies) (honce : tallies.Nodup) :
    c.Gained next tallies := by
  intro t _
  rw [h t]
  split
  · rename_i hin
    rw [List.count_eq_one_of_mem honce hin]
    rfl
  · rename_i hout
    rw [List.count_eq_zero.mpr hout]
    exact (UInt32.add_zero _).symm

theorem eventDropped_gained (c : Counters) (cause : IngestError) (command : Bool) :
    c.Gained (c.eventDropped cause command)
      [.eventsDropped, if command then .commandsDropped else .dataDropped, cause.tally] :=
  (c.eventDropped_raised cause command).gained (cause.tallies_nodup command)

theorem eventDispatched_gained (c : Counters) (kept : Bool) :
    c.Gained (c.eventDispatched kept) (.events :: if kept then [] else [.neverReferenced]) := by
  intro t _
  cases kept <;> cases t <;> first | rfl | exact (UInt32.add_zero _).symm

theorem subscriptionRefused_gained (c : Counters) : c.Gained c.subscriptionRefused [] := by
  intro t ht
  cases t <;> first | exact (UInt32.add_zero _).symm | exact absurd rfl ht

/-- Counters that began at nothing. -/
theorem Gained.read_eq (h : ({} : Counters).Gained next bumps) {t : Tally}
    (ht : t ≠ .subscriptionsRefused) : UInt32.ofNat (bumps.count t) = next.read t := by
  rw [h t ht]
  cases t <;> exact (UInt32.zero_add _).symm

end Counters

/-- What was counted is even: each failure stands once under its kind and once under its reason. -/
structure Even (bumps : List Tally) : Prop where
  registrations : bumps.count .registrationsDropped = bumps.count .deviceListFull +
    bumps.count .unsupportedType + bumps.count .setupRefused + bumps.count .noEndpointDeclared +
    bumps.count .tooManyEndpoints
  dropped : bumps.count .eventsDropped = bumps.count .dataDropped + bumps.count .commandsDropped
  causes : bumps.count .eventsDropped = bumps.count .noEventSlot +
    bumps.count .noEndpointSelected + bumps.count .badEndpoint + bumps.count .badPayloadSize +
    bumps.count .noDataMemory + bumps.count .notDecoded

namespace Even

theorem nil : Even [] := ⟨rfl, rfl, rfl⟩

theorem append {first second : List Tally} (hfirst : Even first) (hsecond : Even second) :
    Even (first ++ second) := by
  obtain ⟨hregistrations, hdropped, hcauses⟩ := hfirst
  obtain ⟨hmoreRegistrations, hmoreDropped, hmoreCauses⟩ := hsecond
  constructor
  · simp only [List.count_append]
    omega
  · simp only [List.count_append]
    omega
  · simp only [List.count_append]
    omega

theorem registration {cause : RegistryError} {reason : Tally} (h : cause.tally? = some reason) :
    Even [.registrationsDropped, reason] := by
  cases cause <;> cases h <;> exact ⟨rfl, rfl, rfl⟩

theorem drop (cause : IngestError) (command : Bool) :
    Even [.eventsDropped, if command then .commandsDropped else .dataDropped, cause.tally] := by
  cases command <;> cases cause <;> exact ⟨rfl, rfl, rfl⟩

theorem dispatch (kept : Bool) : Even (.events :: if kept then [] else [.neverReferenced]) := by
  cases kept <;> exact ⟨rfl, rfl, rfl⟩

end Even

/-- How often the counters that follow the operations of a hub stand in a list. -/
structure Share where
  registrations : Nat
  data : Nat
  commands : Nat
  events : Nat
  neverReferenced : Nat

namespace Share

def add (first second : Share) : Share where
  registrations := first.registrations + second.registrations
  data := first.data + second.data
  commands := first.commands + second.commands
  events := first.events + second.events
  neverReferenced := first.neverReferenced + second.neverReferenced

def ofTallies (bumps : List Tally) : Share where
  registrations := bumps.count .registrationsDropped
  data := bumps.count .dataDropped
  commands := bumps.count .commandsDropped
  events := bumps.count .events
  neverReferenced := bumps.count .neverReferenced

theorem ofTallies_append (first second : List Tally) :
    ofTallies (first ++ second) = (ofTallies first).add (ofTallies second) := by
  simp only [ofTallies, add, List.count_append]

theorem ofTallies_registration {cause : RegistryError} {reason : Tally}
    (h : cause.tally? = some reason) :
    ofTallies [.registrationsDropped, reason] = ⟨1, 0, 0, 0, 0⟩ := by
  cases cause <;> cases h <;> rfl

theorem ofTallies_drop (cause : IngestError) (command : Bool) :
    ofTallies [.eventsDropped, if command then .commandsDropped else .dataDropped, cause.tally] =
      ⟨0, (!command).toNat, command.toNat, 0, 0⟩ := by
  cases command <;> cases cause <;> rfl

theorem ofTallies_dispatch (kept : Bool) :
    ofTallies (.events :: if kept then [] else [.neverReferenced]) =
      ⟨0, 0, 0, 1, (!kept).toNat⟩ := by
  cases kept <;> rfl

end Share

namespace Counters

/-- The counters that split a number into its parts or its reasons add up to it, modulo the size of
a word. -/
structure Balanced (c : Counters) : Prop where
  registrations : c.registrationsDropped = c.deviceListFull + c.unsupportedType + c.setupRefused +
    c.noEndpointDeclared + c.tooManyEndpoints
  dropped : c.eventsDropped = c.dataDropped + c.commandsDropped
  causes : c.eventsDropped = c.noEventSlot + c.noEndpointSelected + c.badEndpoint +
    c.badPayloadSize + c.noDataMemory + c.notDecoded

theorem Gained.balanced {c : Counters} {bumps : List Tally} (h : ({} : Counters).Gained c bumps)
    (heven : Even bumps) : c.Balanced := by
  constructor
  · have hsum := congrArg UInt32.ofNat heven.registrations
    simpa (disch := decide) only [UInt32.ofNat_add, h.read_eq, read] using hsum
  · have hsum := congrArg UInt32.ofNat heven.dropped
    simpa (disch := decide) only [UInt32.ofNat_add, h.read_eq, read] using hsum
  · have hsum := congrArg UInt32.ofNat heven.causes
    simpa (disch := decide) only [UInt32.ofNat_add, h.read_eq, read] using hsum

end Counters

end HomeGateway
