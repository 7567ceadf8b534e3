import Mathlib.Data.List.Nodup
import Mathlib.Data.List.Perm.Basic
import TracerConfig.Proofs.FreeText
import TracerConfig.Proofs.Leaves
import TracerConfig.Proofs.UnusableFile

/-!
# The order of keys

The order of the pairs in the mappings of a configuration file is not without meaning: of several
leaves at one path the last one counts, and two different nestings can lead to one path. A
sequence moreover is handed on as a text, in which the pairs of the mappings in it are in the order
of the file. These are the only ways in which order can show.

Main definitions:
* `Yaml.Value.Rearranged`: a value with the pairs of its mappings in another order.
* `File.OneText`: all leaves at a path have the same text, in whatever order.

Main statements:
* `File.exists_leaf_of_rearranged`: rearranging adds no leaves.
* `File.exists_rearranged_last`: every leaf can be made the last one.
* `lookup_rearranged_iff`: the answer for a key is free of the order if, and only if, all leaves at
  its path have the same text; if all answers are, so is the resolution.
-/

namespace TracerConfig

/-! ## Rearranging values -/

namespace Yaml.Value

/-- One value is another with the pairs of some of its mappings in another order. What sequences
hold is only touched by a `deep` rearrangement. -/
inductive Rearranged (deep : Bool) : Value → Value → Prop
  | refl (v : Value) : Rearranged deep v v
  | perm {ps qs : List (Value × Value)} : ps.Perm qs → Rearranged deep (.mapping ps) (.mapping qs)
  | key (front rest : List (Value × Value)) {k k' : Value} (v : Value) : Rearranged deep k k' →
      Rearranged deep (.mapping (front ++ (k, v) :: rest)) (.mapping (front ++ (k', v) :: rest))
  | value (front rest : List (Value × Value)) (k : Value) {v v' : Value} : Rearranged deep v v' →
      Rearranged deep (.mapping (front ++ (k, v) :: rest)) (.mapping (front ++ (k, v') :: rest))
  | item (front rest : List Value) {v v' : Value} : deep = true → Rearranged deep v v' →
      Rearranged deep (.sequence (front ++ v :: rest)) (.sequence (front ++ v' :: rest))
  | tagged (tag : String) {v v' : Value} : Rearranged deep v v' →
      Rearranged deep (.tagged tag v) (.tagged tag v')
  | trans {u v w : Value} : Rearranged deep u v → Rearranged deep v w → Rearranged deep u w

/-- Whether a value has a tag. -/
def isTagged : Value → Bool
  | .tagged .. => true
  | _ => false

theorem isWritable_tagged (tag : String) (v : Value) :
    isWritable (.tagged tag v) = (!isTagged v && isWritable v) := by
  cases v <;> rfl

theorem itemsWritable_eq (items : List Value) : itemsWritable items = items.all isWritable := by
  induction items with
  | nil => rfl
  | cons v rest ih => rw [itemsWritable, ih, List.all_cons]

theorem pairsWritable_eq (pairs : List (Value × Value)) :
    pairsWritable pairs = pairs.all fun p => isWritable p.1 && isWritable p.2 := by
  induction pairs with
  | nil => rfl
  | cons p rest ih => rw [pairsWritable, ih, List.all_cons]

namespace Rearranged

variable {deep : Bool} {v w : Value}

theorem symm (h : Rearranged deep v w) : Rearranged deep w v := by
  induction h with
  | refl v => exact .refl v
  | perm h => exact .perm h.symm
  | key front rest v _ ih => exact .key front rest v ih
  | value front rest k _ ih => exact .value front rest k ih
  | item front rest hdeep _ ih => exact .item front rest hdeep ih
  | tagged tag _ ih => exact .tagged tag ih
  | trans _ _ ihu ihv => exact .trans ihv ihu

theorem keyText?_eq (h : Rearranged deep v w) : File.keyText? v = File.keyText? w := by
  induction h with
  | tagged tag _ ih => exact ih
  | trans _ _ ihu ihv => exact ihu.trans ihv
  | _ => rfl

theorem isTagged_eq (h : Rearranged deep v w) : isTagged v = isTagged w := by
  induction h with
  | trans _ _ ihu ihv => exact ihu.trans ihv
  | _ => rfl

theorem isWritable_eq (h : Rearranged deep v w) : isWritable v = isWritable w := by
  induction h with
  | refl v => rfl
  | perm h => rw [isWritable, isWritable, pairsWritable_eq, pairsWritable_eq, h.all_eq]
  | key front rest v _ ih | value front rest k _ ih =>
    rw [isWritable, isWritable, pairsWritable_eq, pairsWritable_eq, List.all_append,
      List.all_append, List.all_cons, List.all_cons, ih]
  | item front rest _ _ ih =>
    rw [isWritable, isWritable, itemsWritable_eq, itemsWritable_eq, List.all_append,
      List.all_append, List.all_cons, List.all_cons, ih]
  | tagged tag h ih => rw [isWritable_tagged, isWritable_tagged, h.isTagged_eq, ih]
  | trans _ _ ihu ihv => exact ihu.trans ihv

theorem isRoot (h : Rearranged deep v w) (hv : File.IsRoot v) : File.IsRoot w := by
  induction h with
  | refl v => exact hv
  | trans _ _ ihu ihv => exact ihv (ihu hv)
  | perm | key | value => exact .inl ⟨_, rfl⟩
  | item | tagged => rcases hv with ⟨_, hv⟩ | hv <;> cases hv

/-- Scalars have no order. -/
theorem eq_of_scalar (h : Rearranged deep v w) {s : Scalar} (hv : v = .scalar s) : w = v := by
  induction h with
  | refl v => rfl
  | trans _ _ ihu ihv =>
    have hu := ihu hv
    exact (ihv (hu.trans hv)).trans hu
  | _ => cases hv

/-- What a sequence holds is left alone, unless the rearrangement is deep. -/
theorem eq_of_sequence (h : Rearranged false v w) {items : List Value}
    (hv : v = .sequence items) : w = v := by
  induction h with
  | refl v => rfl
  | item _ _ hdeep => exact absurd hdeep Bool.false_ne_true
  | trans _ _ ihu ihv =>
    have hu := ihu hv
    exact (ihv (hu.trans hv)).trans hu
  | _ => cases hv

end Rearranged

end Yaml.Value

/-! ## Rearranging leaves -/

namespace File

open Yaml (Value)

theorem Leaf.exists_text_iff (leaf : Leaf) :
    (∃ text, leaf.text = .ok text) ↔ leaf.value.isWritable = true := by
  cases leaf with
  | scalar s => exact ⟨fun _ => rfl, fun _ => ⟨_, rfl⟩⟩
  | sequence items =>
    rw [Leaf.text, Leaf.value, Value.isWritable]
    simp only [Value.renderSequence]
    cases Value.itemsWritable items with
    | false => simp
    | true => cases items <;> simp

variable {deep : Bool} {v w : Value} {path : String}

/-- Rearranging adds no leaves, it only rearranges what is there. -/
theorem exists_leaf_of_rearranged (h : v.Rearranged deep w) {n : String × Leaf}
    (hn : n ∈ leafNodes path w) :
    ∃ m ∈ leafNodes path v, m.1 = n.1 ∧ m.2.value.Rearranged deep n.2.value := by
  induction h generalizing path n with
  | refl v => exact ⟨n, hn, rfl, .refl _⟩
  | perm h =>
    rw [leafNodes, pairLeafNodes_eq] at hn
    rw [leafNodes, pairLeafNodes_eq]
    exact ⟨n, ((h.flatMap_right _).mem_iff).mpr hn, rfl, .refl _⟩
  | @key front rest k k' v h ih =>
    have hunder : underKey path (k', v) = underKey path (k, v) := by
      rw [underKey, underKey, h.keyText?_eq]
    rw [leafNodes, pairLeafNodes_eq, List.flatMap_append, List.flatMap_cons, hunder] at hn
    rw [leafNodes, pairLeafNodes_eq, List.flatMap_append, List.flatMap_cons]
    exact ⟨n, hn, rfl, .refl _⟩
  | @value front rest k v v' h ih =>
    rw [leafNodes, pairLeafNodes_eq, List.flatMap_append, List.flatMap_cons] at hn
    simp only [leafNodes, pairLeafNodes_eq, List.flatMap_append, List.flatMap_cons,
      List.mem_append]
    rcases List.mem_append.mp hn with hn | hn
    · exact ⟨n, .inl hn, rfl, .refl _⟩
    rcases List.mem_append.mp hn with hn | hn
    · cases hkey : keyText? k with
      | none =>
        rw [underKey, hkey] at hn
        cases hn
      | some key =>
        rw [underKey, hkey] at hn
        obtain ⟨m, hm, hmn⟩ := ih hn
        rw [underKey, hkey]
        exact ⟨m, .inr (.inl hm), hmn⟩
    · exact ⟨n, .inr (.inr hn), rfl, .refl _⟩
  | item front rest hdeep h ih =>
    rw [leafNodes, List.mem_singleton] at hn
    subst hn
    exact ⟨_, List.mem_singleton_self _, rfl, .item front rest hdeep h⟩
  | tagged tag h ih => exact ih hn
  | trans _ _ ihu ihv =>
    obtain ⟨m, hm, hpath, hleaf⟩ := ihv hn
    obtain ⟨l, hl, hpath', hleaf'⟩ := ihu hm
    exact ⟨l, hl, hpath'.trans hpath, hleaf'.trans hleaf⟩

/-- Every leaf can be made the last one, in any order of its own: the pair that leads to it is put
behind the others of its mapping, from the root down. -/
theorem exists_rearranged_last {v : Value} {path : String} {n : String × Leaf}
    (hn : n ∈ leafNodes path v) {leaf : Leaf} (hleaf : n.2.value.Rearranged deep leaf.value) :
    ∃ w, v.Rearranged deep w ∧ ∃ front, leafNodes path w = front ++ [(n.1, leaf)] := by
  match v with
  | .scalar s =>
    have hs : s ≠ .null := by
      rintro rfl
      cases hn
    rw [leafNodes_scalar path hs, List.mem_singleton] at hn
    subst hn
    have hsame : leaf = .scalar s := Leaf.value_injective (hleaf.eq_of_scalar rfl)
    exact ⟨.scalar s, .refl _, [], by rw [leafNodes_scalar path hs, hsame]; rfl⟩
  | .sequence items =>
    rw [leafNodes, List.mem_singleton] at hn
    subst hn
    refine ⟨leaf.value, hleaf, [], ?_⟩
    cases leaf with
    | scalar s => cases hleaf.symm.eq_of_scalar rfl
    | sequence items' => rfl
  | .tagged tag v =>
    obtain ⟨w, hw, front, hlast⟩ := exists_rearranged_last (v := v) hn hleaf
    exact ⟨.tagged tag w, .tagged tag hw, front, hlast⟩
  | .mapping pairs =>
    rw [leafNodes, pairLeafNodes_eq, List.mem_flatMap] at hn
    obtain ⟨⟨k, x⟩, hp, hn⟩ := hn
    have hsize : sizeOf x < 1 + sizeOf pairs := by
      have := List.sizeOf_lt_of_mem hp
      rw [Prod.mk.sizeOf_spec] at this
      omega
    cases hkey : keyText? k with
    | none =>
      rw [underKey, hkey] at hn
      cases hn
    | some key =>
      rw [underKey, hkey] at hn
      obtain ⟨w, hw, front, hlast⟩ := exists_rearranged_last (v := x) hn hleaf
      obtain ⟨before, after, hpairs⟩ := List.append_of_mem hp
      refine ⟨.mapping (before ++ after ++ [(k, w)]), ?_,
        (before ++ after).flatMap (underKey path) ++ front, ?_⟩
      · rw [hpairs]
        refine .trans (.value before after k hw) (.perm ?_)
        rw [List.append_assoc]
        exact (List.perm_append_singleton _ _).symm.append_left _
      · have hunder : underKey path (k, w) = front ++ [(n.1, leaf)] := by
          rw [underKey, hkey]
          exact hlast
        rw [leafNodes, pairLeafNodes_eq, List.flatMap_append, List.flatMap_singleton, hunder,
          List.append_assoc]
termination_by sizeOf v

/-! ## Answers -/

/-- All leaves at a path have the same text, whichever way they are rearranged. -/
def OneText (deep : Bool) (v : Value) (path : String) : Prop :=
  ∀ a b, (path, a) ∈ leafNodes "" v → (path, b) ∈ leafNodes "" v →
    ∀ b' : Leaf, b.value.Rearranged deep b'.value → a.text = b'.text

theorem lastLeaf?_isSome_of_mem {leaf : Leaf} (h : (path, leaf) ∈ leafNodes "" v) :
    ∃ last, lastLeaf? v path = some last := by
  cases hlast : lastLeaf? v path with
  | some last => exact ⟨last, rfl⟩
  | none =>
    have hne := List.lookup_eq_none_iff.mp hlast _ (List.mem_reverse.mpr h)
    simp at hne

theorem lastLeaf?_of_append {front : List (String × Leaf)} {leaf : Leaf}
    (h : leafNodes "" v = front ++ [(path, leaf)]) : lastLeaf? v path = some leaf := by
  rw [lastLeaf?, h, List.reverse_append, List.reverse_singleton, List.singleton_append,
    List.lookup_cons_self]

/-- Where no two leaves share a path and nothing in sequences is touched, there is nothing to
choose from. -/
theorem oneText_of_nodup (hpaths : ((leafNodes "" v).map Prod.fst).Nodup) (path : String) :
    OneText false v path := by
  intro a b ha hb b' hb'
  have hsame : a = b := congrArg Prod.snd (List.inj_on_of_nodup_map hpaths ha hb rfl)
  have hb : b'.value = b.value := by
    cases b with
    | scalar s => exact hb'.eq_of_scalar rfl
    | sequence items => exact hb'.eq_of_sequence rfl
  rw [hsame, Leaf.value_injective hb]

namespace Layer

/-- What is accepted as a configuration is accepted in any order. -/
theorem exists_ofValue_of_rearranged (h : v.Rearranged deep w)
    (hv : ∃ layer, ofValue v = .ok layer) : ∃ layer, ofValue w = .ok layer := by
  rw [exists_ofValue_eq_ok_iff] at hv ⊢
  refine ⟨h.isRoot hv.1, fun n hn => ?_⟩
  obtain ⟨m, hm, _, hleaf⟩ := exists_leaf_of_rearranged h hn
  rw [Leaf.exists_text_iff, ← hleaf.isWritable_eq, ← Leaf.exists_text_iff]
  exact hv.2 m hm

variable {layer : Layer} (hv : ofValue v = .ok layer) {k : Key}
include hv

/-- Where all leaves have the same text, it does not matter which one is the last. -/
theorem lookup_of_oneText (hone : k.inFile = true → OneText deep v k.path)
    (h : v.Rearranged deep w) {layer' : Layer} (hw : ofValue w = .ok layer') :
    layer'.lookup k = layer.lookup k := by
  cases hk : k.inFile with
  | false =>
    rw [lookup, lookup, hk]
    rfl
  | true =>
    rw [lookup_ofValue hw hk, lookup_ofValue hv hk]
    cases hlast : lastLeaf? w k.path with
    | none =>
      cases hlast' : lastLeaf? v k.path with
      | none => rfl
      | some a =>
        obtain ⟨⟨_, b⟩, hb, rfl, _⟩ := exists_leaf_of_rearranged h.symm (mem_of_lastLeaf? hlast')
        obtain ⟨last, hsome⟩ := lastLeaf?_isSome_of_mem hb
        rw [hlast] at hsome
        cases hsome
    | some b' =>
      obtain ⟨⟨_, b⟩, hb, rfl, hleaf⟩ := exists_leaf_of_rearranged h (mem_of_lastLeaf? hlast)
      obtain ⟨a, ha⟩ := lastLeaf?_isSome_of_mem hb
      rw [ha, Option.bind_some, Option.bind_some,
        hone hk a b (mem_of_lastLeaf? ha) hb b' hleaf]

/-- A leaf in some order is what some order of the file answers with. -/
theorem exists_lookup_eq_text (hk : k.inFile = true) {leaf leaf' : Leaf}
    (hleaf : (k.path, leaf) ∈ leafNodes "" v) (h : leaf.value.Rearranged deep leaf'.value) :
    ∃ w layer', v.Rearranged deep w ∧ ofValue w = .ok layer' ∧
      ∃ text, leaf'.text = .ok text ∧ layer'.lookup k = some text := by
  obtain ⟨w, hw, front, hnodes⟩ := exists_rearranged_last hleaf h
  obtain ⟨layer', hlayer'⟩ := exists_ofValue_of_rearranged hw ⟨layer, hv⟩
  obtain ⟨text, htext⟩ := (exists_ofValue_eq_ok_iff.mp ⟨layer', hlayer'⟩).2 (k.path, leaf')
    (hnodes ▸ List.mem_append_right _ (List.mem_singleton_self _))
  refine ⟨w, layer', hw, hlayer', text, htext, ?_⟩
  rw [lookup_ofValue hlayer' hk, lastLeaf?_of_append hnodes, Option.bind_some, htext]
  rfl

/-- Leaves with different texts are told apart by some order of the file. -/
theorem oneText_of_lookup (hk : k.inFile = true)
    (h : ∀ w layer', v.Rearranged deep w → ofValue w = .ok layer' →
      layer'.lookup k = layer.lookup k) : OneText deep v k.path := by
  intro a b ha hb b' hb'
  obtain ⟨wa, la, hwa, hla, texta, hta, hlookupa⟩ := exists_lookup_eq_text hv hk ha (.refl a.value)
  obtain ⟨wb, lb, hwb, hlb, textb, htb, hlookupb⟩ := exists_lookup_eq_text hv hk hb hb'
  have hsame : some texta = some textb := by
    rw [← hlookupa, ← hlookupb, h wa la hwa hla, h wb lb hwb hlb]
  rw [hta, htb, Option.some.inj hsame]

end Layer

end File

/-! ## Resolutions -/

/-- Resolutions from two files come to the same if the files give the same answers. -/
theorem resolve_eq_of_lookup {s s' : Surroundings} (hsource : s.source = s'.source)
    (hlayers : ∀ k, s.layer?.bind (·.lookup k) = s'.layer?.bind (·.lookup k))
    (os : List Override) : resolve s os = resolve s' os := by
  have hread (f : Field) : Settings.reading s.sources f = Settings.reading s'.sources f := by
    refine Reading.first_congr f.read ?_
    rw [Surroundings.texts_sources, Surroundings.texts_sources, hsource, hlayers]
  rw [resolve, resolve, resolving_congr hread]

/-- Whatever its order, a configuration file is accepted, and there are two ways in which the
order can show in its answer for a key: leaves at the key's path with different texts, and
a rearranged sequence there with a different text. Without these all orders give one answer, and
if that is so for all keys, all orders give one resolution. -/
theorem lookup_rearranged_iff {text : String} {v : Yaml.Value} {layer : File.Layer}
    (hvalue : Yaml.Value.parse text = .ok v) (hlayer : File.Layer.parse text = .ok layer)
    (deep : Bool) :
    (∀ w, v.Rearranged deep w → ∃ layer', File.Layer.ofValue w = .ok layer') ∧
    (∀ k : Key,
      (∀ w layer', v.Rearranged deep w → File.Layer.ofValue w = .ok layer' →
        layer'.lookup k = layer.lookup k) ↔
      (k.inFile = true → File.OneText deep v k.path)) ∧
    ((∀ k : Key, k.inFile = true → File.OneText deep v k.path) →
      ∀ text' w, Yaml.Value.parse text' = .ok w → v.Rearranged deep w →
        ∀ s s' : Surroundings, s.source = s'.source →
          (∀ path, s.source.lookup .configFile = some path →
            s.files.read path = .ok text ∧ s'.files.read path = .ok text') →
          ∀ os, resolve s os = resolve s' os) := by
  have hv : File.Layer.ofValue v = .ok layer := by
    rw [File.Layer.parse, hvalue] at hlayer
    exact hlayer
  refine ⟨fun w hw => File.Layer.exists_ofValue_of_rearranged hw ⟨layer, hv⟩,
    fun k => ⟨fun h hk => File.Layer.oneText_of_lookup hv hk h,
      fun hone w layer' hw hlayer' => File.Layer.lookup_of_oneText hv hone hw hlayer'⟩, ?_⟩
  intro hone text' w hvalue' hw s s' hsource hfiles os
  obtain ⟨layer', hw'⟩ := File.Layer.exists_ofValue_of_rearranged hw ⟨layer, hv⟩
  have hlayer' : File.Layer.parse text' = .ok layer' := by
    rw [File.Layer.parse, hvalue']
    exact hw'
  refine resolve_eq_of_lookup hsource (fun k => ?_) os
  cases hnamed : s.source.lookup .configFile with
  | none =>
    have hnamed' : s'.source.lookup .configFile = none := hsource ▸ hnamed
    rw [Surroundings.layer?, Surroundings.layer?, Surroundings.file?, Surroundings.file?, hnamed,
      hnamed', Option.map_none, Option.map_none]
  | some path =>
    obtain ⟨hread, hread'⟩ := hfiles path hnamed
    rw [Surroundings.layer?_of_read hnamed hread,
      Surroundings.layer?_of_read (hsource ▸ hnamed) hread', hlayer, hlayer']
    cases File.Path.isSupported path with
    | false => rfl
    | true => exact (File.Layer.lookup_of_oneText hv (hone k) hw hw').symm

/-! ## Two places for one setting -/

namespace Yaml.Value

/-- The pairs of a file with a setting at its root and a section with the sample rate. -/
def sectionPairs (key : String) (s : Scalar) : List (Value × Value) :=
  [(.scalar (.string key), .scalar s),
    (.scalar (.string "Sampling"), .mapping [(.scalar (.string "SampleRate"), .scalar (.int 6))])]

/-- The nodes of these pairs. -/
def sectionNodes (key text : String) : List (Node × Node) :=
  [(.scalar none none .plain key, .scalar none none .plain text),
    (.scalar none none .plain "Sampling",
      .mapping none none [(.scalar none none .plain "SampleRate", .scalar none none .plain "6")])]

section

variable {d key text : String} {s : Scalar} (hkey : Scalar.ofPlain key = .ok (.string key))
  (hne : key ≠ "Sampling") (hs : Scalar.ofPlain text = .ok s)
include hkey hs

theorem means_sectionNodes (aliases : Aliases) (depth : Nat) :
    List.Forall₂ (fun p q => Means aliases (depth + 1) p.1 q.1 ∧ Means aliases (depth + 1) p.2 q.2)
      (sectionNodes key text) (sectionPairs key s) := by
  have htitle : Scalar.ofPlain "Sampling" = .ok (.string "Sampling") := by decide +kernel
  have hname : Scalar.ofPlain "SampleRate" = .ok (.string "SampleRate") := by decide +kernel
  have hrate : Scalar.ofPlain "6" = .ok (.int 6) := by decide +kernel
  exact .cons ⟨.plain hkey, .plain hs⟩ (.cons ⟨.plain htitle, .single hname hrate⟩ .nil)

include hne

/-- The section stands behind the setting. -/
theorem parse_sectionPairs
    (htokens : Token.streamOf d = .ok [.blockMappingStart, .key, .scalar key .plain, .value,
      .scalar text .plain, .key, .scalar "Sampling" .plain, .value, .blockMappingStart, .key,
      .scalar "SampleRate" .plain, .value, .scalar "6" .plain, .blockEnd, .blockEnd,
      .streamEnd]) :
    parse d = .ok (.mapping (sectionPairs key s)) := by
  have hread : Document.read d = .ok ⟨some (.mapping none none (sectionNodes key text))⟩ := by
    rw [Document.read, htokens]
    rfl
  refine Means.parse hread (.mapping (means_sectionNodes hkey hs _ _) ?_)
  simp [sectionPairs, same, Scalar.same, hne]

/-- The section stands in front of the setting. -/
theorem parse_sectionPairs_reverse
    (htokens : Token.streamOf d = .ok [.blockMappingStart, .key, .scalar "Sampling" .plain,
      .value, .blockMappingStart, .key, .scalar "SampleRate" .plain, .value, .scalar "6" .plain,
      .blockEnd, .key, .scalar key .plain, .value, .scalar text .plain, .blockEnd,
      .streamEnd]) :
    parse d = .ok (.mapping (sectionPairs key s).reverse) := by
  have hread : Document.read d =
      .ok ⟨some (.mapping none none (sectionNodes key text).reverse)⟩ := by
    rw [Document.read, htokens]
    rfl
  refine Means.parse hread
    (.mapping (List.rel_reverse (means_sectionNodes hkey hs _ _)) ?_)
  simp [sectionPairs, same, Scalar.same, hne.symm]

end

theorem rearranged_sectionPairs (key : String) (s : Scalar) :
    Rearranged false (.mapping (sectionPairs key s)) (.mapping (sectionPairs key s).reverse) :=
  .perm (List.reverse_perm _).symm

end Yaml.Value

open Yaml.Value in
theorem lookup_rearranged_iff_precision :
    Yaml.Value.parse "Precision: 3\nSampling:\n  SampleRate: 6\n" =
      .ok (.mapping (sectionPairs "Precision" (.int 3))) ∧
    File.Layer.parse "Precision: 3\nSampling:\n  SampleRate: 6\n" =
      .ok ⟨[("Precision", "3"), ("Sampling.SampleRate", "6")]⟩ ∧
    (∀ k : Key, k.inFile = true →
      File.OneText false (.mapping (sectionPairs "Precision" (.int 3))) k.path) ∧
    resolve (.ofFile "Precision: 3\nSampling:\n  SampleRate: 6\n") [] =
      resolve (.ofFile "Sampling:\n  SampleRate: 6\nPrecision: 3\n") [] := by
  have hkey : Yaml.Scalar.ofPlain "Precision" = .ok (.string "Precision") := by decide +kernel
  have hs : Yaml.Scalar.ofPlain "3" = .ok (.int 3) := by decide +kernel
  have hvalue := parse_sectionPairs hkey (by decide) hs
    (d := "Precision: 3\nSampling:\n  SampleRate: 6\n") (by decide +kernel)
  have hvalue' := parse_sectionPairs_reverse hkey (by decide) hs
    (d := "Sampling:\n  SampleRate: 6\nPrecision: 3\n") (by decide +kernel)
  have hlayer : File.Layer.parse "Precision: 3\nSampling:\n  SampleRate: 6\n" =
      .ok ⟨[("Precision", "3"), ("Sampling.SampleRate", "6")]⟩ := by
    rw [File.Layer.parse, hvalue]
    decide +kernel
  have hone (k : Key) (_ : k.inFile = true) :
      File.OneText false (.mapping (sectionPairs "Precision" (.int 3))) k.path :=
    File.oneText_of_nodup (by decide +kernel) _
  have hresolve := (lookup_rearranged_iff hvalue hlayer false).2.2 hone _ _ hvalue'
    (rearranged_sectionPairs _ _)
    (.ofFile "Precision: 3\nSampling:\n  SampleRate: 6\n")
    (.ofFile "Sampling:\n  SampleRate: 6\nPrecision: 3\n") rfl
  refine ⟨hvalue, hlayer, hone, hresolve (fun path hnamed => ?_) []⟩
  have hpath : path = "agent.yaml" :=
    Option.some.inj (hnamed.symm.trans (by decide +kernel))
  subst hpath
  exact ⟨by decide +kernel, by decide +kernel⟩

open Yaml.Value in
/-- It is not so that all orders of a file give one answer. -/
theorem rearranged_differs :
    ¬ ∀ (text text' : String) (v w : Yaml.Value) (layer layer' : File.Layer),
        Yaml.Value.parse text = .ok v → Yaml.Value.parse text' = .ok w →
        v.Rearranged false w → File.Layer.parse text = .ok layer →
        File.Layer.parse text' = .ok layer' → ∀ k, layer'.lookup k = layer.lookup k := by
  intro halways
  have hkey : Yaml.Scalar.ofPlain "Sampling.SampleRate" = .ok (.string "Sampling.SampleRate") := by
    decide +kernel
  have hs : Yaml.Scalar.ofPlain "5" = .ok (.int 5) := by decide +kernel
  have hvalue := parse_sectionPairs hkey (by decide) hs
    (d := "Sampling.SampleRate: 5\nSampling:\n  SampleRate: 6\n") (by decide +kernel)
  have hvalue' := parse_sectionPairs_reverse hkey (by decide) hs
    (d := "Sampling:\n  SampleRate: 6\nSampling.SampleRate: 5\n") (by decide +kernel)
  have hsame := halways _ _ _ _
    ⟨[("Sampling.SampleRate", "5"), ("Sampling.SampleRate", "6")]⟩
    ⟨[("Sampling.SampleRate", "6"), ("Sampling.SampleRate", "5")]⟩ hvalue hvalue'
    (rearranged_sectionPairs _ _) (by rw [File.Layer.parse, hvalue]; decide +kernel)
    (by rw [File.Layer.parse, hvalue']; decide +kernel) (.setting .sampleRate)
  exact absurd hsame (by decide +kernel)

end TracerConfig
