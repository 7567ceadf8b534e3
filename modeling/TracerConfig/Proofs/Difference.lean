import TracerConfig.Proofs.Published
import TracerConfig.Proofs.Spec

/-!
# What a difference shows

A difference is told by the texts of the values. Valid values that differ have different texts,
so nothing is missing from it.

Main statements:
* `Field.render_inj`: the text of a valid value tells it apart.
* `Delta.between_published`: a difference has an entry for each field whose values differ, and
  for no other; seen from the other side both texts change places.
-/

namespace TracerConfig

/-- Valid values with the same text are the same. -/
theorem Field.render_inj {f : Field} {v w : f.Value} (hv : f.IsValid v) (hvn : f.IsNormal v)
    (hw : f.IsValid w) (hwn : f.IsNormal w) : f.render v = f.render w ↔ v = w := by
  refine ⟨fun h => ?_, fun h => congrArg f.render h⟩
  by_cases hf : f = transactionSettings
  · subst hf
    exact Filter.Spec.renderAll_injective h
  · -- the text is read back as either value
    have hread := read_render hf hv hvn
    rw [h, read_render hf hw hwn] at hread
    exact (Except.ok.inj hread).symm

theorem Config.Published.rendered_inj {a b : Config} (ha : a.Published) (hb : b.Published)
    (f : Field) : a.rendered f = b.rendered f ↔ a.settings.value f = b.settings.value f :=
  Field.render_inj (ha.isValid f) (ha.isNormal f) (hb.isValid f) (hb.isNormal f)

namespace Delta

/-- An entry seen from the other side. -/
def Entry.swap (e : Entry) : Entry := ⟨e.field, e.default, e.value⟩

theorem between_comm (a b : Config) : between b a = (between a b).map Entry.swap := by
  have hsymm : ∀ f : Field, decide (b.rendered f ≠ a.rendered f) =
      decide (a.rendered f ≠ b.rendered f) := fun f => decide_eq_decide.mpr ne_comm
  rw [between, between, List.map_map, funext hsymm]
  rfl

/-- The difference of two published configurations has one entry for each field whose values
differ, in report order, and no other; the difference the other way round has the same entries
with both texts exchanged. -/
theorem between_published {a b : Config} (ha : a.Published) (hb : b.Published) :
    between a b =
      (Field.all.filter fun f => a.settings.value f ≠ b.settings.value f).map
        (fun f => ⟨f, b.rendered f, a.rendered f⟩) ∧
    (∀ f, ((between a b).filter fun e => e.field = f) =
      if a.settings.value f = b.settings.value f then []
      else [⟨f, b.rendered f, a.rendered f⟩]) ∧
    between b a = (between a b).map Entry.swap := by
  refine ⟨?_, fun f => ?_, between_comm a b⟩
  · have hdiffer : ∀ f : Field, decide (a.rendered f ≠ b.rendered f) =
        decide (a.settings.value f ≠ b.settings.value f) :=
      fun f => decide_eq_decide.mpr (not_congr (ha.rendered_inj hb f))
    rw [between, funext hdiffer]
  · rw [filter_between]
    exact if_congr (ha.rendered_inj hb f) rfl rfl

/-- A filter without a pattern and one with an empty pattern, both for no extensions. -/
def patternless : Config :=
  resolve Surroundings.bare
    [⟨.transactionSettings, [{ kind := "url", tracing := "enabled" }]⟩, ⟨.sampleRate, (0 : Int)⟩]
def emptyPattern : Config :=
  resolve Surroundings.bare
    [⟨.transactionSettings, [{ kind := "url", regex := some "", tracing := "enabled" }]⟩,
      ⟨.hostAlias, "\"\n"⟩]

theorem between_published_patterns :
    patternless.Published ∧ emptyPattern.Published ∧
    between patternless emptyPattern =
      (Field.all.filter fun f => patternless.settings.value f ≠ emptyPattern.settings.value f).map
        (fun f => ⟨f, emptyPattern.rendered f, patternless.rendered f⟩) ∧
    (between patternless emptyPattern).map (fun e => (e.field, e.value, e.default)) =
      [(.sampleRate, "1000000", "0"), (.hostAlias, "\"\n", ""),
        (.transactionSettings,
          "[\x7b\"Type\":\"url\",\"RegEx\":\"\",\"Tracing\":\"enabled\"\x7d]",
          "[\x7b\"Type\":\"url\",\"Tracing\":\"enabled\"\x7d]")] := by
  have ha : patternless.Published := .current (.create _ _)
  have hb : emptyPattern.Published := .current (.create _ _)
  exact ⟨ha, hb, (between_published ha hb).1, by decide +kernel⟩

end Delta

end TracerConfig
