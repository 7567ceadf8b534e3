import Mathlib.Data.List.Forall2
import TracerConfig.Proofs.Sanitize

/-!
# What the startup report tells about the key

The startup report is the difference from the defaults. The defaults have no key, and a key is
longer than any of their texts, so the only key to mask is the one in force, and it is masked in
the values alone. What is left of it in the report is its mask.

Main definition:
* `MasksOnly`: a difference has been masked, and nothing else was done to it.

Main statements:
* `changes_eq`: the report, field by field.
* `masksOnly_changes`: masking changes the values that have the key in them, and no others.
* `changes_determined`: the mask of the key and the other values determine the report.
-/

namespace TracerConfig

namespace Delta

/-- A difference has been masked: nothing but the values that have the key in them is different,
and the key itself has become its mask. -/
structure MasksOnly (key : String) (raw masked : Delta) : Prop where
  entries : List.Forall₂ (fun e e' => e'.field = e.field ∧ e'.default = e.default ∧
    (¬ key.toList <:+: e.value.toList → e' = e)) raw masked
  serviceKey : (masked.filter fun e => e.field = .serviceKey) =
    [⟨.serviceKey, ServiceKey.mask key, ""⟩]

/-! ## Masking one key -/

/-- A text without the key stays as it is. -/
theorem hide_of_not_infix {key text : String} (h : ¬ key.toList <:+: text.toList) :
    hide [key] text = text := by
  unfold hide
  rw [List.foldl_cons, List.foldl_nil, Text.replaceAll, Text.replaceFrom_of_no_copy h,
    String.ofList_toList]

/-- The key itself becomes its mask. -/
theorem hide_self {key : String} (h : key ≠ "") : hide [key] key = ServiceKey.mask key := by
  have hne : key.toList ≠ [] := by simpa using h
  unfold hide
  rw [List.foldl_cons, List.foldl_nil, Text.replaceAll, Text.replaceFrom_self hne,
    String.ofList_toList]

/-- Masking keeps the fields. -/
theorem filter_sanitize (d : Delta) (f : Field) :
    (d.sanitize.filter fun e => e.field = f) =
      (d.filter fun e => e.field = f).map fun e =>
        { e with value := hide d.secrets e.value, default := hide d.secrets e.default } := by
  unfold sanitize
  rw [List.filter_map]
  rfl

end Delta

namespace Config

/-- The texts of the defaults are short. -/
theorem length_rendered_default (f : Field) :
    (Config.default.rendered f).toList.length ≤ ServiceKey.tokenLength := by
  have hshort : ∀ g ∈ Field.all,
      (Config.default.rendered g).toList.length ≤ ServiceKey.tokenLength := by
    decide +kernel
  exact hshort f (Field.mem_all f)

namespace Published

variable {c : Config} (h : c.Published) (hne : c.serviceKey ≠ "")
include h hne

/-- So none of them has a key in it. -/
theorem not_infix_default (f : Field) :
    ¬ c.serviceKey.toList <:+: (Config.default.rendered f).toList := by
  intro hin
  have hlong := (h.maskable hne).tokenLength_lt
  have hshort := length_rendered_default f
  have hle := hin.length_le
  omega

omit h in
/-- The key to mask is the one in force. -/
theorem secrets_changes : (Delta.between .default c).secrets = [c.serviceKey] := by
  have hdefault : Config.default.serviceKey = "" := rfl
  rw [Delta.secrets_between, hdefault, if_neg (Ne.symm hne), Delta.serviceKeys_default hne]

/-- The startup report, field by field. -/
theorem changes_eq :
    c.changes = (Field.all.filter fun f => Config.default.rendered f ≠ c.rendered f).map fun f =>
      ⟨f, Delta.hide [c.serviceKey] (c.rendered f), Config.default.rendered f⟩ := by
  unfold Config.changes Delta.sanitize
  rw [secrets_changes hne, Delta.between, List.map_map]
  refine List.map_congr_left ?_
  intro f _
  exact congrArg (Delta.Entry.mk f _) (Delta.hide_of_not_infix (h.not_infix_default hne f))

/-- The report keeps all fields and defaults, and every value without the key. -/
theorem masksOnly_changes : Delta.MasksOnly c.serviceKey (Delta.between .default c) c.changes where
  entries := by
    rw [h.changes_eq hne, Delta.between, List.forall₂_map_left_iff, List.forall₂_map_right_iff,
      List.forall₂_same]
    intro f _
    refine ⟨rfl, rfl, ?_⟩
    intro hvalue
    exact congrArg (Delta.Entry.mk f · _) (Delta.hide_of_not_infix hvalue)
  serviceKey := by
    have hdefault : Config.default.rendered .serviceKey = "" := rfl
    have hkey : c.rendered .serviceKey = c.serviceKey := rfl
    unfold Config.changes
    rw [Delta.filter_sanitize, Delta.filter_between, secrets_changes hne, hdefault, hkey,
      if_neg (Ne.symm hne), List.map_singleton, Delta.hide_self hne]
    rfl

end Published

/-- Two published configurations with keys of the same mask, that have the same other values and
no key in them, have the same startup report. -/
theorem changes_determined {c c' : Config} (h : c.Published) (h' : c'.Published)
    (hne : c.serviceKey ≠ "") (hne' : c'.serviceKey ≠ "")
    (hmask : ServiceKey.mask c'.serviceKey = ServiceKey.mask c.serviceKey)
    (hothers : ∀ f : Field, f ≠ .serviceKey → c'.rendered f = c.rendered f ∧
      ¬ c.serviceKey.toList <:+: (c.rendered f).toList ∧
      ¬ c'.serviceKey.toList <:+: (c.rendered f).toList) :
    c'.changes = c.changes := by
  have hdiffer : ∀ f : Field, Config.default.rendered f ≠ c'.rendered f ↔
      Config.default.rendered f ≠ c.rendered f := by
    intro f
    by_cases hf : f = .serviceKey
    · subst hf
      exact iff_of_true (Ne.symm hne') (Ne.symm hne)
    · rw [(hothers f hf).1]
  have hhide : ∀ f : Field, Delta.hide [c'.serviceKey] (c'.rendered f) =
      Delta.hide [c.serviceKey] (c.rendered f) := by
    intro f
    by_cases hf : f = .serviceKey
    · subst hf
      calc
        Delta.hide [c'.serviceKey] c'.serviceKey = ServiceKey.mask c'.serviceKey :=
          Delta.hide_self hne'
        _ = ServiceKey.mask c.serviceKey := hmask
        _ = Delta.hide [c.serviceKey] c.serviceKey := (Delta.hide_self hne).symm
    · obtain ⟨heq, hkey, hkey'⟩ := hothers f hf
      rw [heq, Delta.hide_of_not_infix hkey, Delta.hide_of_not_infix hkey']
  rw [h'.changes_eq hne', h.changes_eq hne]
  simp only [hdiffer, hhide]

/-- The startup report masks the key and changes nothing else, and it tells about the key no more
than its mask: other keys with this mask, in configurations that are the same but for the key and
have neither key in another value, are reported and logged alike. -/
theorem Published.report_tells_mask {c : Config} (h : c.Published) (hne : c.serviceKey ≠ "") :
    Delta.MasksOnly c.serviceKey (Delta.between .default c) c.changes ∧
    ∀ c' : Config, c'.Published → c'.serviceKey ≠ "" →
      ServiceKey.mask c'.serviceKey = ServiceKey.mask c.serviceKey →
      (∀ f : Field, f ≠ .serviceKey → c'.rendered f = c.rendered f ∧
        ¬ c.serviceKey.toList <:+: (c.rendered f).toList ∧
        ¬ c'.serviceKey.toList <:+: (c.rendered f).toList) →
      c'.changes.render = c.changes.render ∧ c'.changeLog = c.changeLog := by
  refine ⟨h.masksOnly_changes hne, ?_⟩
  intro c' h' hne' hmask hothers
  have hchanges : c'.changes = c.changes := changes_determined h h' hne hne' hmask hothers
  unfold Config.changeLog
  rw [hchanges]
  exact ⟨rfl, rfl⟩

/-- Another key with the mask of `Delta.webKey`. -/
def hiddenKey : String :=
  "aaaa" ++ String.ofList (List.replicate 56 'b') ++ "aaaa:web"

theorem wellFormed_hiddenKey : ServiceKey.WellFormed hiddenKey :=
  ServiceKey.isValid_iff.mp (by decide +kernel)

theorem report_tells_mask_hiddenKey :
    (Delta.named Delta.webKey "web-1").Published ∧
    (Delta.named Delta.webKey "web-1").serviceKey = Delta.webKey ∧ Delta.webKey ≠ "" ∧
    Delta.MasksOnly (Delta.named Delta.webKey "web-1").serviceKey
      (Delta.between .default (Delta.named Delta.webKey "web-1"))
      (Delta.named Delta.webKey "web-1").changes ∧
    (Delta.named hiddenKey "web-1").changes.render =
      (Delta.named Delta.webKey "web-1").changes.render ∧
    (Delta.named hiddenKey "web-1").serviceKey = hiddenKey ∧ hiddenKey ≠ Delta.webKey := by
  have h : (Delta.named Delta.webKey "web-1").Published := Delta.published_named _ _
  have h' : (Delta.named hiddenKey "web-1").Published := Delta.published_named _ _
  have hkey : (Delta.named Delta.webKey "web-1").serviceKey = Delta.webKey :=
    Delta.serviceKey_named Delta.wellFormed_webKey Delta.normalize_webKey _
  have hkey' : (Delta.named hiddenKey "web-1").serviceKey = hiddenKey :=
    Delta.serviceKey_named wellFormed_hiddenKey (by decide +kernel) _
  have hne := hkey.trans_ne Delta.wellFormed_webKey.ne_empty
  have hne' := hkey'.trans_ne wellFormed_hiddenKey.ne_empty
  have hmask : ServiceKey.mask hiddenKey = ServiceKey.mask Delta.webKey := by decide +kernel
  have hothers : ∀ f ∈ Field.all, f ≠ .serviceKey →
      (Delta.named hiddenKey "web-1").rendered f = (Delta.named Delta.webKey "web-1").rendered f ∧
      ¬ Delta.webKey.toList <:+: ((Delta.named Delta.webKey "web-1").rendered f).toList ∧
      ¬ hiddenKey.toList <:+: ((Delta.named Delta.webKey "web-1").rendered f).toList := by
    decide +kernel
  obtain ⟨hmasks, halike⟩ := h.report_tells_mask hne
  refine ⟨h, hkey, Delta.wellFormed_webKey.ne_empty, hmasks, ?_, hkey', by decide +kernel⟩
  refine (halike _ h' hne' ?_ ?_).1
  · rw [hkey, hkey', hmask]
  · intro f hf
    rw [hkey, hkey']
    exact hothers f (Field.mem_all f) hf

end Config

end TracerConfig
