import ProxyHandshake.Configuration
import ProxyHandshake.Proofs.Entries
import ProxyHandshake.Proofs.Location

/-!
# The environment for the library

The configured files are put into the environment before the library is used, whatever it held before.  The
keytab and the ticket cache have a variable each, and both are set if both are configured, also where a
password goes before them.  So the library reads the file that the credentials name, byte for byte, and
their check passes.
-/

namespace ProxyHandshake

theorem Environment.get?_set (environment : Environment) (name other : String) (value : Bytes) :
    (environment.set name value).get? other =
      if other = name then some value else environment.get? other :=
  lookup_cons_filter_ne environment.entries name other value

namespace Configuration

open Credentials

/-- The path that the configuration has for a variable. -/
def exportedPath? (configuration : Configuration) (name : String) : Option Bytes :=
  if name = cacheVariable then configuration.ticketCache
  else if name = keytabVariable then configuration.keytab
  else none

theorem get?_exported (configuration : Configuration) (environment : Environment) (name : String) :
    (configuration.exported environment).get? name =
      (configuration.exportedPath? name).or (environment.get? name) := by
  unfold exported exportedPath?
  cases configuration.ticketCache with
  | none =>
      cases configuration.keytab with
      | none => simp
      | some keytab =>
          -- The other variable was not set.
          by_cases hcache : name = cacheVariable
          · subst hcache
            simp [Environment.get?_set, keytabVariable, cacheVariable]
          · simp only [Environment.get?_set, if_neg hcache]
            split <;> rfl
  | some cache =>
      simp only [Environment.get?_set]
      by_cases hcache : name = cacheVariable
      · simp [hcache]
      · cases configuration.keytab with
        | none => simp [hcache]
        | some keytab =>
            simp only [Environment.get?_set, if_neg hcache]
            split <;> rfl

/-- Whichever source the credentials are, the configuration has its path for its variable. -/
theorem exportedPath?_of_location
    {configuration : Configuration} {name : String} {expected : Bytes}
    (hlocation : configuration.credentials.location? = some (name, expected)) :
    configuration.exportedPath? name = some expected := by
  have hapart : keytabVariable ≠ cacheVariable := by decide
  unfold Configuration.credentials at hlocation
  split at hlocation
  · cases hlocation
  · split at hlocation
    next keytab _ hkeytab =>
      obtain ⟨rfl, rfl⟩ := Prod.mk.inj (Option.some.inj hlocation)
      rw [exportedPath?, if_neg hapart, if_pos rfl]
      exact hkeytab
    next cache hkeytab hcache =>
      obtain ⟨rfl, rfl⟩ := Prod.mk.inj (Option.some.inj hlocation)
      rw [exportedPath?, if_pos rfl]
      exact hcache
    next => cases hlocation

/-- In the environment that is exported, the check of the credentials passes: the variable of their source
holds the very path that they name, and the variables of the library are all that is set. -/
theorem checkLocation_exported (configuration : Configuration) (environment : Environment) :
    configuration.credentials.checkLocation (configuration.exported environment) = .ok () ∧
      (∀ name expected, configuration.credentials.location? = some (name, expected) →
        (configuration.exported environment).get? name = some expected) ∧
      ∀ name, configuration.exportedPath? name = none →
        (configuration.exported environment).get? name = environment.get? name := by
  have hfound (name : String) (expected : Bytes)
      (hlocation : configuration.credentials.location? = some (name, expected)) :
      (configuration.exported environment).get? name = some expected := by
    rw [get?_exported, exportedPath?_of_location hlocation, Option.some_or]
  refine ⟨?_, hfound, fun name hnone => ?_⟩
  · cases hlocation : configuration.credentials.location? with
    | none => exact asksNothing_of_location hlocation _
    | some location =>
        obtain ⟨name, expected⟩ := location
        exact (checkLocation_eq_ok_iff hlocation _).mpr ⟨expected, hfound name expected hlocation, rfl⟩
  · rw [get?_exported, hnone, Option.none_or]

end Configuration

end ProxyHandshake
