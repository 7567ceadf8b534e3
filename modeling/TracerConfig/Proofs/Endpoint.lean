import TracerConfig.Proofs.Guarantees

/-!
# Where events are sent to

Every published configuration has an endpoint. The address of the collector is checked by
validation, and a udp reporter without an address falls back to that of the host. But an address
for udp that is not empty is taken as it is, even if it has nothing but blanks.

Main definitions:
* `Text.HasInk`: a text that can be seen. `Config.HasBlankUdp`: the exception.

Main statements:
* `reporterEndpoint_ink_iff`: every endpoint has ink but in the exception, which has the address
  that was given.
* `blank_endpoint_published`: the exception is met.
-/

namespace TracerConfig

/-- There is a character that is not blank. -/
def Text.HasInk (text : String) : Prop := ∃ x ∈ text.toList, isBlank x = false

theorem Text.ne_empty_of_hasInk {text : String} (h : HasInk text) : text ≠ "" := by
  rintro rfl
  obtain ⟨x, hx, -⟩ := h
  cases hx

theorem Text.not_hasInk_iff {text : String} :
    ¬ HasInk text ↔ ∀ x ∈ text.toList, isBlank x = true := by
  simp [HasInk]

namespace Config

open Text (HasInk)

/-- Events go by udp to an address that is not empty and has nothing but blanks. -/
def HasBlankUdp (c : Config) : Prop :=
  c.reporterType = .udp ∧ c.collectorUdp ≠ "" ∧ ∀ x ∈ c.collectorUdp.toList, Text.isBlank x = true

theorem reporterEndpoint_of_ssl {c : Config} (h : c.reporterType = .ssl) :
    c.reporterEndpoint = c.collector := by
  rw [reporterEndpoint, h]

theorem reporterEndpoint_of_udp {c : Config} (h : c.reporterType = .udp) :
    c.reporterEndpoint = if c.collectorUdp = "" then defaultUdpEndpoint else c.collectorUdp := by
  rw [reporterEndpoint, h]
  simp only [String.isEmpty_iff]

theorem hasInk_defaultUdpEndpoint : HasInk defaultUdpEndpoint := ⟨'1', by decide +kernel⟩

/-- The endpoint of a published configuration is never empty, and it has a character that is not
blank, whichever the reporter is, unless the udp reporter was given an address of blanks only; that
address is then used as it is. -/
theorem Published.reporterEndpoint_ink_iff {c : Config} (h : c.Published) :
    c.reporterEndpoint ≠ "" ∧
    (HasInk c.reporterEndpoint ↔ ¬ c.HasBlankUdp) ∧
    (c.HasBlankUdp → c.reporterEndpoint = c.collectorUdp) := by
  cases hr : c.reporterType with
  | ssl =>
    have hcollector : HasInk c.collector := h.sound.collector
    have hudp : ¬ c.HasBlankUdp := by
      rintro ⟨htype, -⟩
      rw [hr] at htype
      cases htype
    rw [reporterEndpoint_of_ssl hr]
    exact ⟨Text.ne_empty_of_hasInk hcollector, iff_of_true hcollector hudp,
      fun hb => absurd hb hudp⟩
  | udp =>
    rw [reporterEndpoint_of_udp hr]
    by_cases hempty : c.collectorUdp = ""
    · have hudp : ¬ c.HasBlankUdp := fun hb => hb.2.1 hempty
      rw [if_pos hempty]
      exact ⟨Text.ne_empty_of_hasInk hasInk_defaultUdpEndpoint,
        iff_of_true hasInk_defaultUdpEndpoint hudp, fun hb => absurd hb hudp⟩
    · have hudp : c.HasBlankUdp ↔ ¬ HasInk c.collectorUdp := by
        rw [Text.not_hasInk_iff]
        exact ⟨fun hb => hb.2.2, fun hb => ⟨hr, hempty, hb⟩⟩
      rw [if_neg hempty, hudp, not_not]
      exact ⟨hempty, Iff.rfl, fun _ => rfl⟩

/-- An environment that asks for udp, with blanks for both addresses. -/
def blankAddressed : Surroundings where
  source := .ofEnvironment .environment fun name =>
    if name = "APPOPTICS_REPORTER" then some "UDP"
    else if name = "APPOPTICS_COLLECTOR" then some " \u2003"
    else if name = "APPOPTICS_COLLECTOR_UDP" then some "\u3000"
    else none
  files := File.Tree.empty

theorem reporterEndpoint_ink_iff_unset :
    ((Builder.start blankAddressed).set ⟨.collectorUdp, ""⟩).build.Published ∧
    HasInk ((Builder.start blankAddressed).set ⟨.collectorUdp, ""⟩).build.reporterEndpoint ∧
    ((Builder.start blankAddressed).set ⟨.collectorUdp, ""⟩).build.reporterEndpoint =
      "127.0.0.1:7831" ∧
    ((Builder.start blankAddressed).set ⟨.reporterType, .ssl⟩).build.reporterEndpoint =
      "collector.appoptics.com:443" := by
  have hpublished : ((Builder.start blankAddressed).set ⟨.collectorUdp, ""⟩).build.Published :=
    .build (.set _ (.start _))
  have haddress :
      ((Builder.start blankAddressed).set ⟨.collectorUdp, ""⟩).build.collectorUdp = "" := by
    decide +kernel
  obtain ⟨-, hink, -⟩ := hpublished.reporterEndpoint_ink_iff
  exact ⟨hpublished, hink.mpr fun hb => hb.2.1 haddress, by decide +kernel, by decide +kernel⟩

/-- It is not so that every endpoint has a character that is not blank. -/
theorem blank_endpoint_published :
    ¬ ∀ c : Config, c.Published → HasInk c.reporterEndpoint := by
  intro halways
  have hendpoint : (Handle.create blankAddressed []).current.reporterEndpoint = "\u3000" := by
    decide +kernel
  obtain ⟨x, hx, hink⟩ := halways _ (.current (.create blankAddressed []))
  rw [hendpoint] at hx
  cases List.mem_singleton.mp hx
  cases hink

end Config

end TracerConfig
