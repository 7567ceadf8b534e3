import TracerConfig.Resolution

/-!
# Handles

A handle keeps a configuration, and the overrides it was made with, so that the configuration
can be resolved anew when the surroundings have changed.

Main statements:
* `current_reload`: a reload gives what a new handle would have.
* `overrides_reload`: the overrides stay.
-/

namespace TracerConfig

/-- A configuration that can be resolved anew. -/
structure Handle where
  overrides : List Override
  current : Config

namespace Handle

/-- Resolves a first configuration. -/
def create (s : Surroundings) (os : List Override) : Handle := ⟨os, resolve s os⟩

/-- Resolves the configuration anew. -/
def reload (h : Handle) (s : Surroundings) : Handle :=
  { h with current := resolve s h.overrides }

/-- What a reload logs. -/
def reloadLog (h : Handle) (s : Surroundings) : List Log.Record := resolveLog s h.overrides

theorem overrides_reload (h : Handle) (s : Surroundings) :
    (h.reload s).overrides = h.overrides := by
  rw [reload]

theorem current_reload (h : Handle) (s : Surroundings) :
    (h.reload s).current = (create s h.overrides).current := by
  rw [reload, create]

end Handle

end TracerConfig
