import TracerConfig.Proofs.Masking
import TracerConfig.Proofs.Published

/-!
# Service keys in a sanitized difference

A difference collects the keys to mask from itself. Keys that are equal on both sides make no
difference, so that none is masked; and of two copies of a key that overlap only the first one
is masked.

Main statements:
* `secrets_between`: the keys that are masked.
* `hides_sanitize_iff`: when a sanitized difference is without the keys of both sides.
* `shared_key_shown`, `overlapping_key_shown`: there are differences that are not.
-/

namespace TracerConfig

theorem Config.Published.maskable {c : Config} (h : c.Published) (hne : c.serviceKey ≠ "") :
    ServiceKey.Maskable c.serviceKey.toList := by
  have hvalid : c.serviceKey = "" ∨ ServiceKey.WellFormed c.serviceKey := h.isValid .serviceKey
  have hnormal : ServiceKey.normalize c.serviceKey = c.serviceKey := h.isNormal .serviceKey
  exact (hvalid.resolve_left hne).maskable hnormal

namespace Delta

/-! ## Definitions -/

/-- The texts in a difference. -/
def texts (d : Delta) : List String := d.flatMap fun e => [e.value, e.default]

/-- No text in the difference has one of the keys in it. -/
def Hides (d : Delta) (keys : List String) : Prop :=
  ∀ key ∈ keys, ∀ text ∈ d.texts, ¬ key.toList <:+: text.toList

instance (d : Delta) (keys : List String) : Decidable (d.Hides keys) :=
  inferInstanceAs (Decidable (∀ key ∈ keys, ∀ text ∈ d.texts, _))

/-- The service keys of two configurations, as far as they have one. -/
def serviceKeys (a b : Config) : List String := [b.serviceKey, a.serviceKey].filter (· ≠ "")

/-- The key can be read in a text of the difference when the given keys are masked. -/
def Shows (d : Delta) (masked : List String) (key : String) : Prop :=
  ∃ text ∈ d.texts, ∃ r, ServiceKey.Readable (masked.map String.toList) text.toList r ∧
    key.toList <:+: r

/-! ## The keys that are masked -/

/-- Only a key that makes a difference is masked. -/
theorem secrets_between (a b : Config) :
    (between a b).secrets = if a.serviceKey = b.serviceKey then [] else serviceKeys a b := by
  have hkey : ∀ c : Config, c.rendered .serviceKey = c.serviceKey := fun _ => rfl
  rw [secrets, filter_between, hkey, hkey]
  split
  · rfl
  · rfl

/-- The defaults have no key. -/
theorem serviceKeys_default {c : Config} (hne : c.serviceKey ≠ "") :
    serviceKeys .default c = [c.serviceKey] := by
  have hdefault : Config.default.serviceKey = "" := rfl
  rw [serviceKeys, hdefault, List.filter_cons_of_pos (by simpa using hne)]
  rfl

theorem texts_sanitize (d : Delta) : d.sanitize.texts = d.texts.map (hide d.secrets) := by
  rw [sanitize, texts, texts, List.flatMap_map, List.map_flatMap]
  rfl

theorem toList_hide (keys : List String) (text : String) :
    (hide keys text).toList = ServiceKey.hideList (keys.map String.toList) text.toList := by
  induction keys generalizing text with
  | nil => rfl
  | cons key keys ih =>
    have hmask : (Text.replaceAll key (ServiceKey.mask key) text).toList =
        ServiceKey.maskIn key.toList text.toList := by
      simp only [Text.replaceAll, ServiceKey.mask, ServiceKey.maskIn, String.toList_ofList]
    show (hide keys (Text.replaceAll key (ServiceKey.mask key) text)).toList = _
    rw [ih, hmask]
    rfl

/-! ## What a sanitized difference shows -/

theorem hides_sanitize_of_shared {a b : Config} (h : a.serviceKey = b.serviceKey)
    (keys : List String) : (between a b).sanitize.Hides keys ↔ (between a b).Hides keys := by
  have hid : (between a b).sanitize.texts = (between a b).texts := by
    rw [texts_sanitize, secrets_between, if_pos h]
    exact List.map_id _
  rw [Hides, Hides, hid]

theorem maskable_of_mem {a b : Config} (ha : a.Published) (hb : b.Published) :
    ∀ key ∈ (serviceKeys a b).map String.toList, ServiceKey.Maskable key := by
  intro key hkey
  obtain ⟨k, hk, rfl⟩ := List.mem_map.mp hkey
  obtain ⟨hmem, hne⟩ := List.mem_filter.mp hk
  have hne' : k ≠ "" := by simpa using hne
  rcases List.mem_cons.mp hmem with rfl | hmem
  · exact hb.maskable hne'
  · cases List.mem_singleton.mp hmem
    exact ha.maskable hne'

theorem hides_sanitize_of_ne {a b : Config} (ha : a.Published) (hb : b.Published)
    (h : a.serviceKey ≠ b.serviceKey) :
    (between a b).sanitize.Hides (serviceKeys a b) ↔
      ∀ key ∈ serviceKeys a b, ¬ (between a b).Shows (serviceKeys a b) key := by
  have hmaskable := maskable_of_mem ha hb
  rw [Hides, texts_sanitize, secrets_between, if_neg h]
  have hread : ∀ key ∈ serviceKeys a b, ∀ text : String,
      key.toList <:+: (hide (serviceKeys a b) text).toList ↔
        ∃ r, ServiceKey.Readable ((serviceKeys a b).map String.toList) text.toList r ∧
          key.toList <:+: r := by
    intro key hkey text
    have hk := hmaskable key.toList (List.mem_map_of_mem hkey)
    rw [toList_hide]
    exact ServiceKey.infix_hideList_iff hk.ne_nil hk.star_notMem hmaskable
  constructor
  · rintro hhides key hkey ⟨text, htext, hshown⟩
    exact hhides key hkey _ (List.mem_map_of_mem htext) ((hread key hkey text).mpr hshown)
  · intro hshows key hkey masked hmasked hin
    obtain ⟨text, htext, rfl⟩ := List.mem_map.mp hmasked
    exact hshows key hkey ⟨text, htext, (hread key hkey text).mp hin⟩

/-! ## Differences that are not without keys -/

/-- A configuration with a service key and another name for the host. -/
def named (key host : String) : Config :=
  resolve Surroundings.bare [⟨.serviceKey, key⟩, ⟨.hostAlias, host⟩]

theorem published_named (key host : String) : (named key host).Published :=
  .current (.create _ _)

theorem rendered_named_hostAlias (key host : String) :
    (named key host).rendered .hostAlias = host :=
  value_resolve_of_supplied (f := .hostAlias) (v := host) (o := .code) rfl rfl trivial

/-- The name for the host is in the difference. -/
theorem mem_texts_between_named {a : Config} (ha : a.rendered .hostAlias = "") {key host : String}
    (hne : host ≠ "") : host ∈ (between a (named key host)).texts := by
  have hr : a.rendered .hostAlias ≠ (named key host).rendered .hostAlias := by
    rw [rendered_named_hostAlias, ha]
    exact Ne.symm hne
  refine List.mem_flatMap.mpr ⟨⟨.hostAlias, host, ""⟩, ?_, by simp⟩
  refine List.mem_map.mpr ⟨.hostAlias, ?_, by rw [rendered_named_hostAlias, ha]⟩
  exact List.mem_filter.mpr ⟨Field.mem_all _, by simpa using hr⟩

section

variable {key : String} (hkey : ServiceKey.WellFormed key) (hn : ServiceKey.normalize key = key)
include hkey hn

theorem serviceKey_named (host : String) : (named key host).serviceKey = key := by
  have hsupplied : supplied? Surroundings.bare [⟨.serviceKey, key⟩, ⟨.hostAlias, host⟩]
      .serviceKey = some (ServiceKey.normalize key, .code) := rfl
  rw [hn] at hsupplied
  exact value_resolve_of_supplied rfl hsupplied (.inr hkey)

theorem serviceKeys_default_named (host : String) :
    serviceKeys .default (named key host) = [key] := by
  have hnamed := serviceKey_named hkey hn host
  rw [serviceKeys_default (hnamed.trans_ne hkey.ne_empty), hnamed]

/-- A key that both sides have is shown, when one of them has it in another field too. -/
theorem shared_key_shown : ¬ (between (named key "") (named key key)).sanitize.Hides [key] := by
  have hshared : (named key "").serviceKey = (named key key).serviceKey := by
    rw [serviceKey_named hkey hn, serviceKey_named hkey hn]
  rw [hides_sanitize_of_shared hshared]
  intro hhides
  have htext : key ∈ (between (named key "") (named key key)).texts :=
    mem_texts_between_named (rendered_named_hostAlias key "") hkey.ne_empty
  exact hhides key (List.mem_singleton_self key) key htext (List.infix_refl _)

/-- Of two overlapping copies of a key the second one is shown. -/
theorem overlapping_key_shown {n : Nat} (hpos : 0 < n) (hlt : n < key.toList.length)
    (hpre : key.toList.drop n <+: key.toList) :
    ¬ (between .default
      (named key (String.ofList (key.toList.take n ++ key.toList)))).sanitize.Hides [key] := by
  have hne : String.ofList (key.toList.take n ++ key.toList) ≠ "" := by
    intro hempty
    have hlen := congrArg (String.toList · |>.length) hempty
    simp only [String.toList_ofList, List.length_append] at hlen
    have hzero : ("" : String).toList.length = 0 := rfl
    omega
  have hdiffer : Config.default.serviceKey ≠
      (named key (String.ofList (key.toList.take n ++ key.toList))).serviceKey := by
    rw [serviceKey_named hkey hn]
    exact Ne.symm hkey.ne_empty
  intro hhides
  rw [Hides, texts_sanitize, secrets_between, if_neg hdiffer,
    serviceKeys_default_named hkey hn] at hhides
  refine hhides key (List.mem_singleton_self key) _
    (List.mem_map_of_mem (mem_texts_between_named rfl hne)) ?_
  rw [toList_hide, String.toList_ofList]
  exact hkey.infix_hideList_of_overlap hn hpos hlt hpre

end

/-- A service key, and one whose copies can overlap. -/
def webKey : String := String.ofList (List.replicate 64 'a') ++ ":web"
def nestingKey : String := String.ofList (List.replicate 64 'a') ++ ":a"

theorem wellFormed_webKey : ServiceKey.WellFormed webKey :=
  ServiceKey.isValid_iff.mp (by decide +kernel)

theorem normalize_webKey : ServiceKey.normalize webKey = webKey := by decide +kernel

example : ServiceKey.isValid nestingKey = true ∧ ServiceKey.normalize nestingKey = nestingKey ∧
    nestingKey.toList.drop 65 <+: nestingKey.toList := by
  decide +kernel

/-! ## Differences without keys -/

/-- A sanitized difference is without the service keys of both sides, of whatever published
configurations, in exactly these cases: if the keys are equal, when there was none in it in the
first place; if they are not, when masking them from left to right leaves none that can be
read. The latter is so unless a text has overlapping copies of a key. -/
theorem hides_sanitize_iff {a b : Config} (ha : a.Published) (hb : b.Published) :
    (a.serviceKey = b.serviceKey →
      ((between a b).sanitize.Hides (serviceKeys a b) ↔
        (between a b).Hides (serviceKeys a b))) ∧
    (a.serviceKey ≠ b.serviceKey →
      ((between a b).sanitize.Hides (serviceKeys a b) ↔
        ∀ key ∈ serviceKeys a b, ¬ (between a b).Shows (serviceKeys a b) key)) ∧
    (a.serviceKey ≠ b.serviceKey →
      (∀ key ∈ serviceKeys a b, ∀ text ∈ (between a b).texts,
        ¬ ServiceKey.Overlaps key.toList text.toList) →
      (between a b).sanitize.Hides (serviceKeys a b)) := by
  refine ⟨fun h => hides_sanitize_of_shared h _, hides_sanitize_of_ne ha hb, fun h hno => ?_⟩
  refine (hides_sanitize_of_ne ha hb h).mpr ?_
  rintro key hkey ⟨text, htext, r, hr, hin⟩
  exact hno key hkey text htext
    (hr.overlaps (maskable_of_mem ha hb) (List.mem_map_of_mem hkey) hin)

/-- The host is named after the key, and the name is masked. -/
theorem hides_sanitize_webKey :
    Config.default.Published ∧ (named webKey ("for " ++ webKey)).Published ∧
    ¬ (between .default (named webKey ("for " ++ webKey))).Hides [webKey] ∧
    (between .default (named webKey ("for " ++ webKey))).sanitize.Hides
      (serviceKeys .default (named webKey ("for " ++ webKey))) ∧
    serviceKeys .default (named webKey ("for " ++ webKey)) = [webKey] := by
  have ha : Config.default.Published := .default
  have hb := published_named webKey ("for " ++ webKey)
  have hkeys := serviceKeys_default_named wellFormed_webKey normalize_webKey ("for " ++ webKey)
  have hdiffer : Config.default.serviceKey ≠ (named webKey ("for " ++ webKey)).serviceKey := by
    rw [serviceKey_named wellFormed_webKey normalize_webKey]
    exact wellFormed_webKey.ne_empty.symm
  have hapart : ∀ n, n < webKey.toList.length → 0 < n →
      ¬ webKey.toList.drop n <+: webKey.toList := by
    decide +kernel
  refine ⟨ha, hb, ?_, (hides_sanitize_iff ha hb).2.2 hdiffer ?_, hkeys⟩
  · intro hhides
    have htext : "for " ++ webKey ∈ (between .default (named webKey ("for " ++ webKey))).texts :=
      mem_texts_between_named rfl (by decide +kernel)
    refine hhides webKey (List.mem_singleton_self _) _ htext ?_
    rw [String.toList_append]
    exact (List.suffix_append _ _).isInfix
  · rw [hkeys]
    rintro key hkey text - ⟨n, hlt, hpos, hpre, _⟩
    cases List.mem_singleton.mp hkey
    exact hapart n hlt hpos hpre

end Delta

end TracerConfig
