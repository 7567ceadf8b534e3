import TracerConfig.Source

/-!
# Layered values

A setting has a default and, for each kind of source, the value that was found there. The value
in force is that of the highest layer that has one.

Main statements:
* `value_put`: what was put into a layer that no higher one covers is in force.
* `value_reset`: without any layer the default is in force.
-/

namespace TracerConfig

/-- A default and the values of the layers above it. -/
structure Layered (α : Type) where
  default : α
  file : Option α := none
  environment : Option α := none
  code : Option α := none
deriving DecidableEq, Repr

namespace Layered

variable {α : Type}

/-- The value in force. -/
def value (l : Layered α) : α :=
  ((l.code.or l.environment).or l.file).getD l.default

/-- The layer of the value in force. -/
def origin (l : Layered α) : Origin :=
  if l.code.isSome then .code
  else if l.environment.isSome then .environment
  else if l.file.isSome then .file
  else .default

/-- Whether any layer has a value. -/
def isExplicit (l : Layered α) : Bool := l.origin ≠ .default

/-- Puts a value into the layer of its origin. A default is fixed and cannot be put. -/
def put (l : Layered α) (o : Origin) (a : α) : Layered α :=
  match o with
  | .code => { l with code := some a }
  | .environment => { l with environment := some a }
  | .file => { l with file := some a }
  | .default => l

/-- Clears every layer. -/
def reset (l : Layered α) : Layered α := { default := l.default }

theorem default_put (l : Layered α) (o : Origin) (a : α) : (l.put o a).default = l.default := by
  cases o <;> rfl

theorem value_put_code (l : Layered α) (a : α) : (l.put .code a).value = a := rfl

theorem origin_put_code (l : Layered α) (a : α) : (l.put .code a).origin = .code := rfl

theorem value_reset (l : Layered α) : l.reset.value = l.default := rfl

theorem origin_reset (l : Layered α) : l.reset.origin = .default := rfl

/-- Without an explicit value the default is in force. -/
theorem value_of_not_explicit {l : Layered α} (h : ¬ l.isExplicit = true) :
    l.value = l.default := by
  obtain ⟨a, file, environment, code⟩ := l
  cases code <;> cases environment <;> cases file <;> simp_all [isExplicit, origin, value]

/-- On a bare default, what is put into a layer is in force. -/
theorem value_put (a b : α) (o : Origin) :
    (put { default := a } o b).value = if o = .default then a else b := by
  cases o <;> rfl

/-- On a bare default, the origin in force is that of what is put. -/
theorem origin_put (a b : α) (o : Origin) : (put { default := a } o b).origin = o := by
  cases o <;> rfl

end Layered

end TracerConfig
