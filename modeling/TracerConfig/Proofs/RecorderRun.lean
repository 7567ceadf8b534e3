import Mathlib.Data.List.DropRight
import Mathlib.Data.List.Induction
import TracerConfig.Log.Recorder
import TracerConfig.Log.Thread

/-!
# Runs of recorders

The place of a thread and its guards make up a stack of recorders: each keeps what was logged
while it was on top, and nothing that is done above it reaches it.

Main definitions:
* `Thread.Action`, `Thread.run`: what is done with the recorders of a thread, and what they
  become.
* `Thread.own`: the steps that were done while a recorder was on top, told from the steps alone.
  `Thread.due`: what it keeps of them.
* `Thread.Holds`: the place and the guards hold recorders, each activated after the next.

Main statements:
* `stack_update`, `stack_push`, `stack_pop`: what each step does to the stack.
* `recorder?_step`: as far as records go, the stack is a `Recorder`.
* `stack_run`: after any run each recorder keeps what it is due.
* `take_run`: what is taken after any run, and that steps between a push and its pop change
  nothing outside.
-/

namespace TracerConfig.Log.Thread

/-- What is done with the recorders of a thread. -/
inductive Action where
  | log (record : Record) (site : Site)
  | take
  | takeSites
  | push
  | pop
deriving DecidableEq, Repr

/-- The thread after a step. -/
def step (t : Thread) : Action → Thread
  | .log r s => t.log r s
  | .take => t.take.2
  | .takeSites => t.takeSites.2
  | .push => t.push
  | .pop => t.pop

/-- A new thread after steps. -/
def run (steps : List Action) : Thread := steps.foldl step {}

theorem run_concat (steps : List Action) (a : Action) : run (steps ++ [a]) = (run steps).step a :=
  List.foldl_append

/-! ## What a recorder is due -/

namespace Action

/-- The record that is logged. -/
def record? : Action → Option Record
  | log r _ => some r
  | _ => none

/-- The site where it is logged. -/
def site? : Action → Option Site
  | log _ s => some s
  | _ => none

/-- How many recorders there are after a step, given how many there were before. -/
def deepen (depth : Nat) : Action → Nat
  | push => depth + 1
  | pop => depth - 1
  | log _ _ | take | takeSites => depth

/-- What a step changes in the recorder that is on top. -/
def effect : Action → Kept → Kept
  | log r s => (·.log r s)
  | take => Kept.withoutRecords
  | takeSites => Kept.withoutSites
  | push | pop => id

end Action

/-- How many recorders there are after steps, the active one and the suspended ones. -/
def depth (steps : List Action) : Nat := steps.foldl Action.deepen 0

/-- The recorder that is now on a level, counted from the outermost one, was on top when a step was
done: there were as many recorders as its level says, and since then there were never fewer. -/
def OnTop (level : Nat) (steps : List Action) (i : Nat) : Prop :=
  depth (steps.take i) = level ∧ ∀ j ≤ steps.length, i ≤ j → level ≤ depth (steps.take j)

instance (level : Nat) (steps : List Action) (i : Nat) : Decidable (OnTop level steps i) :=
  inferInstanceAs (Decidable (_ ∧ _))

/-- The steps that were done while the recorder on a level was on top. -/
def own (level : Nat) (steps : List Action) : List Action :=
  (List.range steps.length).filterMap fun i => if OnTop level steps i then steps[i]? else none

/-- What a recorder is due of the steps that were done while it was on top: the records that were
logged since the last take, and the sites since they were taken last. -/
def due (own : List Action) : Kept where
  records := (own.rtakeWhile (· ≠ .take)).filterMap Action.record?
  sites := (own.rtakeWhile (· ≠ .takeSites)).filterMap Action.site?

/-- What the active recorder is due after steps, if there is one. -/
def due? (steps : List Action) : Option Kept :=
  if depth steps = 0 then none else some (due (own (depth steps) steps))

/-- What the recorders up to a level are due, that on the level first. -/
def dues (steps : List Action) : Nat → List Kept
  | 0 => []
  | level + 1 => due (own (level + 1) steps) :: dues steps level

/-- The steps that come after a push, and in front of the pop that drops its guard: there are more
recorders than before the push, and in the end there is one more. -/
def Within (before inside : List Action) : Prop :=
  (∀ k ≤ inside.length, depth before < depth (before ++ .push :: inside.take k)) ∧
    depth (before ++ .push :: inside) = depth before + 1

instance (before inside : List Action) : Decidable (Within before inside) :=
  inferInstanceAs (Decidable (_ ∧ _))

theorem depth_concat (steps : List Action) (a : Action) :
    depth (steps ++ [a]) = a.deepen (depth steps) :=
  List.foldl_append

/-- A step takes away the recorders that are dropped by it, and no other one. -/
theorem onTop_concat_iff {level : Nat} {steps : List Action} {a : Action} {i : Nat}
    (hi : i ≤ steps.length) :
    OnTop level (steps ++ [a]) i ↔ OnTop level steps i ∧ level ≤ depth (steps ++ [a]) := by
  have hpast : ∀ j ≤ steps.length, (steps ++ [a]).take j = steps.take j := fun j hj =>
    List.take_append_of_le_length hj
  have hnow : ∀ j > steps.length, (steps ++ [a]).take j = steps ++ [a] := fun j hj =>
    List.take_of_length_le (by simpa using Nat.succ_le_of_lt hj)
  have hlength : (steps ++ [a]).length = steps.length + 1 := by simp
  rw [OnTop, OnTop, hpast i hi, hlength]
  constructor
  · rintro ⟨hthen, hsince⟩
    refine ⟨⟨hthen, fun j hj hij => ?_⟩, ?_⟩
    · rw [← hpast j hj]
      exact hsince j (Nat.le_succ_of_le hj) hij
    · rw [← hnow _ (Nat.lt_succ_self _)]
      exact hsince _ (Nat.le_refl _) (Nat.le_succ_of_le hi)
  · rintro ⟨⟨hthen, hsince⟩, hlast⟩
    refine ⟨hthen, fun j _ hij => ?_⟩
    rcases Nat.lt_or_ge steps.length j with hlt | hle
    · rw [hnow j hlt]
      exact hlast
    · rw [hpast j hle]
      exact hsince j hle hij

theorem onTop_length_iff {level : Nat} {steps : List Action} :
    OnTop level steps steps.length ↔ depth steps = level := by
  rw [OnTop, List.take_length]
  refine and_iff_left_of_imp fun h j hj hle => ?_
  rw [Nat.le_antisymm hj hle, List.take_length, h]

/-- A step belongs to the recorder that is on top. -/
theorem own_concat (level : Nat) (steps : List Action) (a : Action) :
    own level (steps ++ [a]) =
      if level ≤ depth (steps ++ [a]) then
        own level steps ++ if depth steps = level then [a] else []
      else [] := by
  have hlength : (steps ++ [a]).length = steps.length + 1 := by simp
  rw [own, hlength]
  by_cases hlevel : level ≤ depth (steps ++ [a])
  · have hpast : ∀ i ∈ List.range steps.length,
        (if OnTop level (steps ++ [a]) i then (steps ++ [a])[i]? else none) =
          if OnTop level steps i then steps[i]? else none := by
      -- the steps in front of the last one belong to whom they belonged before
      intro i hi
      have hlt := List.mem_range.mp hi
      rw [List.getElem?_append_left hlt]
      simp only [onTop_concat_iff (Nat.le_of_lt hlt), hlevel, and_true]
    have hlast : OnTop level (steps ++ [a]) steps.length ↔ depth steps = level := by
      rw [onTop_concat_iff (Nat.le_refl _), onTop_length_iff, and_iff_left hlevel]
    rw [if_pos hlevel, List.range_succ, List.filterMap_append, List.filterMap_congr hpast, ← own,
      List.filterMap_cons, List.filterMap_nil, List.getElem?_concat_length]
    simp only [hlast]
    by_cases htop : depth steps = level
    · rw [if_pos htop, if_pos htop]
    · rw [if_neg htop, if_neg htop]
  · rw [if_neg hlevel, List.filterMap_eq_nil_iff]
    intro i hi
    have hle : i ≤ steps.length := Nat.lt_succ_iff.mp (List.mem_range.mp hi)
    exact if_neg fun htop => hlevel ((onTop_concat_iff hle).mp htop).2

/-- A recorder is due what each step that is done while it is on top changes. -/
theorem due_concat (own : List Action) (a : Action) : due (own ++ [a]) = a.effect (due own) := by
  rw [due, List.rtakeWhile_concat, List.rtakeWhile_concat, due]
  cases a <;> simp [Action.effect, Kept.log, Kept.withoutRecords, Kept.withoutSites,
    Action.record?, Action.site?]

/-! ## The stack -/

/-- What the recorders keep that the place and the guards hold, the active one first. -/
def stack (t : Thread) : List Kept :=
  (t.active :: t.guards).filterMap fun held => held.bind (t.recorders[·]?)

/-- The place and the guards of a thread hold these recorders, the active one first, and each was
activated after the next. -/
structure Holds (t : Thread) (held : List Nat) : Prop where
  chain : t.active :: t.guards = held.map some ++ [none]
  descending : held.Pairwise (· > ·)
  activated : ∀ i ∈ held, i < t.recorders.length

namespace Holds

variable {t : Thread} {held rest : List Nat} {i : Nat}

theorem active_eq_none (h : t.Holds []) : t.active = none := (List.cons.inj h.chain).1

theorem active_eq_some (h : t.Holds (i :: rest)) : t.active = some i := (List.cons.inj h.chain).1

theorem stack_eq (h : t.Holds held) : t.stack = held.filterMap (t.recorders[·]?) := by
  rw [stack, h.chain, List.filterMap_append, List.filterMap_map]
  exact List.append_nil _

/-- The recorder that is held first is on top of the others. -/
theorem exists_stack_eq (h : t.Holds (i :: rest)) :
    ∃ k, t.recorders[i]? = some k ∧ t.stack = k :: rest.filterMap (t.recorders[·]?) := by
  have hkept := List.getElem?_eq_getElem (h.activated i List.mem_cons_self)
  exact ⟨_, hkept, by rw [h.stack_eq, List.filterMap_cons_some hkept]⟩

variable (h : t.Holds held)
include h

/-- The active recorder is on top of the stack. -/
theorem kept?_eq : t.kept? = t.stack.head? := by
  cases held with
  | nil =>
    rw [h.stack_eq, kept?, h.active_eq_none]
    rfl
  | cons i rest =>
    obtain ⟨k, hkept, hstack⟩ := h.exists_stack_eq
    rw [hstack, kept?, h.active_eq_some, Option.bind_some, hkept, List.head?_cons]

theorem update (f : Kept → Kept) : (t.update f).Holds held where
  chain := h.chain
  descending := h.descending
  activated := by
    have hlength : (t.update f).recorders.length = t.recorders.length := by
      rw [Thread.update]
      cases t.active <;> simp
    rw [hlength]
    exact h.activated

/-- Only the recorder on top is changed, for all others were activated before it. -/
theorem stack_update (f : Kept → Kept) : (t.update f).stack = t.stack.modifyHead f := by
  rw [(h.update f).stack_eq]
  cases held with
  | nil =>
    rw [h.stack_eq]
    rfl
  | cons i rest =>
    obtain ⟨k, hkept, hstack⟩ := h.exists_stack_eq
    have hrecorders : (t.update f).recorders = t.recorders.modify i f := by
      rw [Thread.update, h.active_eq_some]
    have htop : (t.recorders.modify i f)[i]? = some (f k) := by
      rw [List.getElem?_modify_eq, hkept]
      rfl
    have hbelow : ∀ j ∈ rest, (t.recorders.modify i f)[j]? = t.recorders[j]? := fun j hj =>
      List.getElem?_modify_ne f _ (Nat.ne_of_gt ((List.pairwise_cons.mp h.descending).1 j hj))
    rw [hrecorders, hstack, List.filterMap_cons_some htop, List.filterMap_congr hbelow,
      List.modifyHead_cons]

theorem push : t.push.Holds (t.recorders.length :: held) where
  chain := congrArg (some t.recorders.length :: ·) h.chain
  descending := List.pairwise_cons.mpr ⟨h.activated, h.descending⟩
  activated := by
    have hlength : t.push.recorders.length = t.recorders.length + 1 := List.length_append
    rw [hlength, List.forall_mem_cons]
    exact ⟨Nat.lt_succ_self _, fun i hi => Nat.lt_succ_of_lt (h.activated i hi)⟩

/-- A new recorder is put on the stack. -/
theorem stack_push : t.push.stack = {} :: t.stack := by
  have hnew : t.push.recorders[t.recorders.length]? = some {} := List.getElem?_concat_length
  have hbelow : ∀ i ∈ held, t.push.recorders[i]? = t.recorders[i]? := fun i hi =>
    List.getElem?_append_left (h.activated i hi)
  rw [h.push.stack_eq, h.stack_eq, List.filterMap_cons_some hnew, List.filterMap_congr hbelow]

theorem pop : t.pop.Holds held.tail := by
  cases held with
  | nil =>
    -- without a recorder there is no guard
    have hguards : t.guards = [] := (List.cons.inj h.chain).2
    rw [Thread.pop, hguards]
    exact h
  | cons i rest =>
    have hguards : t.guards = rest.map some ++ [none] := (List.cons.inj h.chain).2
    obtain ⟨before, more, hcons⟩ := List.exists_cons_of_ne_nil
      (List.append_ne_nil_of_right_ne_nil (rest.map some) (List.cons_ne_nil none []))
    have hpop : t.pop = { t with active := before, guards := more } := by
      rw [Thread.pop, hguards.trans hcons]
    rw [hpop]
    exact
      { chain := hcons.symm
        descending := (List.pairwise_cons.mp h.descending).2
        activated := fun j hj => h.activated j (List.mem_cons_of_mem i hj) }

/-- The recorder on top is taken off the stack. -/
theorem stack_pop : t.pop.stack = t.stack.tail := by
  have hrecorders : t.pop.recorders = t.recorders := by
    rw [Thread.pop]
    cases t.guards <;> rfl
  rw [h.pop.stack_eq, hrecorders]
  cases held with
  | nil =>
    rw [h.stack_eq]
    rfl
  | cons i rest =>
    obtain ⟨k, -, hstack⟩ := h.exists_stack_eq
    rw [hstack]
    rfl

end Holds

/-! ## A step -/

/-- What a step does to a stack of recorders. -/
def Action.onStack : Action → List Kept → List Kept
  | .push, ks => {} :: ks
  | .pop, ks => ks.tail
  | a, ks => ks.modifyHead a.effect

/-- What a step does to the records of a stack of recorders, if it is not empty. -/
def Action.onRecorder : Action → Option Recorder → Option Recorder
  | .log r _, x => x.map (·.log r)
  | .take, x => x.map (·.take.2)
  | .takeSites, x => x
  | .push, x => some ((x.map Recorder.push).getD {})
  | .pop, x => x.bind fun r => if r.suspended = [] then none else some r.pop

/-- The records of the active recorder and of the suspended ones, if there is one. -/
def recorder? (t : Thread) : Option Recorder :=
  match t.stack with
  | [] => none
  | k :: ks => some ⟨k.records, ks.map Kept.records⟩

theorem Holds.step {t : Thread} {held : List Nat} (h : t.Holds held) (a : Action) :
    ∃ held', (t.step a).Holds held' := by
  cases a with
  | log | take | takeSites => exact ⟨held, h.update _⟩
  | push => exact ⟨_, h.push⟩
  | pop => exact ⟨_, h.pop⟩

theorem Holds.stack_step {t : Thread} {held : List Nat} (h : t.Holds held) (a : Action) :
    (t.step a).stack = a.onStack t.stack := by
  cases a with
  | log | take | takeSites => exact h.stack_update _
  | push => exact h.stack_push
  | pop => exact h.stack_pop

/-- As far as records go, the stack is a recorder that nests. -/
theorem Holds.recorder?_step {t : Thread} {held : List Nat} (h : t.Holds held) (a : Action) :
    (t.step a).recorder? = a.onRecorder t.recorder? := by
  rw [recorder?, recorder?, h.stack_step]
  cases a with
  | log | take | takeSites | push => cases t.stack <;> rfl
  | pop =>
    rcases t.stack with _ | ⟨k, _ | ⟨k', ks⟩⟩ <;> rfl

/-- A take from the thread is one from that recorder. -/
theorem Holds.take_eq {t : Thread} {held : List Nat} (h : t.Holds held) :
    t.take.1 = t.recorder?.map fun r => r.take.1 := by
  rw [take, h.kept?_eq, recorder?]
  cases t.stack <;> rfl

/-! ## A run -/

theorem exists_holds_run (steps : List Action) : ∃ held, (run steps).Holds held := by
  induction steps using List.reverseRecOn with
  | nil => exact ⟨[], rfl, List.Pairwise.nil, nofun⟩
  | append_singleton steps a ih =>
    obtain ⟨held, h⟩ := ih
    rw [run_concat]
    exact h.step a

/-- A recorder that is not on top is due what it was due before. -/
theorem due_own_concat {level : Nat} {steps : List Action} {a : Action}
    (hlevel : level ≤ depth (steps ++ [a])) :
    due (own level (steps ++ [a])) =
      if depth steps = level then a.effect (due (own level steps)) else due (own level steps) := by
  rw [own_concat, if_pos hlevel]
  split
  · exact due_concat _ a
  · rw [List.append_nil]

theorem dues_concat {level : Nat} {steps : List Action} {a : Action}
    (hlevel : level ≤ depth (steps ++ [a])) (h : level < depth steps ∨ a.effect = id) :
    dues (steps ++ [a]) level = dues steps level := by
  induction level with
  | zero => rfl
  | succ level ih =>
    have hbelow : level ≤ depth (steps ++ [a]) := Nat.le_of_succ_le hlevel
    rw [dues, dues, ih hbelow (h.imp_left Nat.lt_of_succ_lt), due_own_concat hlevel]
    split
    · next htop =>
      rw [h.resolve_left (Nat.not_lt.mpr (Nat.le_of_eq htop)), id]
    · rfl

/-- A recorder is due nothing before it is activated. -/
theorem own_of_depth_lt {level : Nat} {steps : List Action} (h : depth steps < level) :
    own level steps = [] := by
  rw [own, List.filterMap_eq_nil_iff]
  intro i hi
  refine if_neg fun htop => ?_
  have hnow := htop.2 steps.length (Nat.le_refl _) (Nat.le_of_lt (List.mem_range.mp hi))
  rw [List.take_length] at hnow
  exact Nat.not_le_of_lt h hnow

/-- After any run each recorder keeps what it is due. -/
theorem stack_run (steps : List Action) : (run steps).stack = dues steps (depth steps) := by
  -- on the last step: what it does to the stack is what it does to what is due
  induction steps using List.reverseRecOn with
  | nil => rfl
  | append_singleton steps a ih =>
    obtain ⟨held, h⟩ := exists_holds_run steps
    have hdepth : depth (steps ++ [a]) = a.deepen (depth steps) := depth_concat steps a
    rw [run_concat, h.stack_step, ih]
    cases a with
    | push =>
      -- nothing is due to the new recorder, and a push changes nothing in those below
      have hle : depth steps ≤ depth (steps ++ [.push]) := hdepth ▸ Nat.le_succ _
      have hnew : own (depth steps + 1) (steps ++ [.push]) = [] := by
        rw [own_concat, own_of_depth_lt (Nat.lt_succ_self _)]
        simp
      rw [hdepth, Action.deepen, dues, hnew, dues_concat hle (.inr rfl)]
      rfl
    | pop =>
      rw [hdepth, Action.deepen]
      cases hd : depth steps with
      | zero => rfl
      | succ d =>
        have hle : d ≤ depth (steps ++ [.pop]) := by rw [hdepth, Action.deepen, hd]; rfl
        exact (dues_concat hle (.inr rfl)).symm
    | log | take | takeSites =>
      rw [hdepth, Action.deepen]
      cases hd : depth steps with
      | zero => rfl
      | succ d =>
        -- the recorder on top is due what the step changes, and those below are left alone
        rw [Action.deepen, hd] at hdepth
        rw [dues, dues, due_own_concat (Nat.le_of_eq hdepth.symm), if_pos hd,
          dues_concat (hdepth ▸ Nat.le_succ d) (.inl (hd ▸ Nat.lt_succ_self d))]
        rfl

theorem kept?_run (steps : List Action) : (run steps).kept? = due? steps := by
  obtain ⟨held, h⟩ := exists_holds_run steps
  rw [h.kept?_eq, stack_run, due?]
  cases depth steps <;> rfl

/-! ## Steps between a push and its pop -/

/-- Nothing that is done above a recorder reaches it. -/
theorem dues_append {level : Nat} {before inside : List Action}
    (h : ∀ k ≤ inside.length, level < depth (before ++ inside.take k)) :
    dues (before ++ inside) level = dues before level := by
  induction inside using List.reverseRecOn with
  | nil => rw [List.append_nil]
  | append_singleton inside a ih =>
    have hpast : ∀ k ≤ inside.length, level < depth (before ++ inside.take k) := by
      intro k hk
      rw [← List.take_append_of_le_length hk]
      exact h k (Nat.le_trans hk (List.length_append ▸ Nat.le_add_right _ _))
    have hlast := hpast inside.length (Nat.le_refl _)
    have hnow := h _ (Nat.le_refl _)
    rw [List.take_length] at hlast hnow
    rw [← List.append_assoc] at hnow ⊢
    rw [dues_concat (Nat.le_of_lt hnow) (.inl hlast), ih hpast]

/-- The stack is the same behind a push, what is done within, and the pop. -/
theorem stack_run_within {before inside : List Action} (h : Within before inside) :
    (run (before ++ .push :: (inside ++ [.pop]))).stack = (run before).stack := by
  obtain ⟨habove, hend⟩ := h
  rw [List.append_cons] at hend
  have hpushed : depth before ≤ depth (before ++ [.push]) := by
    rw [depth_concat]
    exact Nat.le_succ _
  have hafter : depth (before ++ [.push] ++ inside ++ [.pop]) = depth before := by
    rw [depth_concat, hend]
    rfl
  have hinside : dues (before ++ [.push] ++ inside) (depth before) =
      dues (before ++ [.push]) (depth before) := by
    refine dues_append fun k hk => ?_
    rw [← List.append_cons]
    exact habove k hk
  rw [List.append_cons, ← List.append_assoc, stack_run, stack_run, hafter,
    dues_concat (Nat.le_of_eq hafter.symm) (.inr rfl), hinside, dues_concat hpushed (.inr rfl)]

/-- Whatever was done, a take gives the records that were logged while the recorder that is active
now was on top, since it was activated or since the last take from it, in order and each once; the
sites are taken in the same way. Steps between a push and its pop leave what all recorders outside
keep as it was, so that a take behind the pop gives what a take in front of the push would have
given. -/
theorem take_run (steps : List Action) :
    (run steps).take.1 = (due? steps).map Kept.records ∧
    (run steps).takeSites.1 = (due? steps).map Kept.sites ∧
    ∀ inside, Within steps inside →
      (run (steps ++ .push :: (inside ++ [.pop]))).stack = (run steps).stack ∧
      (run (steps ++ .push :: (inside ++ [.pop]))).take.1 = (run steps).take.1 := by
  have htake : ∀ steps, (run steps).take.1 = (due? steps).map Kept.records := fun steps =>
    congrArg (Option.map Kept.records) (kept?_run steps)
  refine ⟨htake steps, congrArg (Option.map Kept.sites) (kept?_run steps), fun inside h => ?_⟩
  have hstack := stack_run_within h
  obtain ⟨_, hbehind⟩ := exists_holds_run (steps ++ .push :: (inside ++ [.pop]))
  obtain ⟨_, hbefore⟩ := exists_holds_run steps
  exact ⟨hstack, by rw [hbehind.take_eq, hbefore.take_eq, recorder?, recorder?, hstack]⟩

/-- A record that is logged before any recorder is active, one that is taken, and one that is
pending. -/
def pendingSteps : List Action :=
  [.log ⟨.error, "unheard"⟩ ⟨"startup", 1, 5⟩, .push, .log ⟨.warn, "taken"⟩ ⟨"startup", 2, 5⟩,
    .take, .log ⟨.debug, "pending"⟩ ⟨"startup", 3, 5⟩]

/-- Two recorders above one another, of which the lower one is taken from and then logs again. -/
def nestedSteps : List Action :=
  [.log ⟨.info, "inner"⟩ ⟨"worker", 1, 9⟩, .push, .log ⟨.info, "innermost"⟩ ⟨"worker", 2, 9⟩,
    .take, .pop, .take, .log ⟨.warn, "last"⟩ ⟨"worker", 3, 9⟩]

theorem take_run_nested :
    Within pendingSteps nestedSteps ∧
    (run pendingSteps).take.1 = (due? pendingSteps).map Kept.records ∧
    (run (pendingSteps ++ .push :: (nestedSteps ++ [.pop]))).take.1 =
      (run pendingSteps).take.1 ∧
    due? pendingSteps = some ⟨[⟨.debug, "pending"⟩], [⟨"startup", 2, 5⟩, ⟨"startup", 3, 5⟩]⟩ ∧
    (due? (pendingSteps ++ .push :: nestedSteps)).map Kept.records =
      some [⟨.warn, "last"⟩] ∧
    due? (pendingSteps ++ [.pop]) = none := by
  have hwithin : Within pendingSteps nestedSteps := by decide +kernel
  obtain ⟨htake, -, hinside⟩ := take_run pendingSteps
  exact ⟨hwithin, htake, (hinside nestedSteps hwithin).2, by decide +kernel, by decide +kernel,
    by decide +kernel⟩

end TracerConfig.Log.Thread
