import TracerConfig.Log.Record

/-!
# The recorders of a thread

A thread has one place for the recorder that is active. Activating a recorder puts a new one there
and hands out a guard, which keeps the one that was there before; dropping the guard puts that one
back. So nothing but guards knows the recorders that are suspended. While no recorder is active,
nothing is recorded.

Main definitions:
* `Kept`: what a recorder keeps.
* `Thread`, with `Thread.log`, `Thread.take`, `Thread.takeSites`, `Thread.push`, `Thread.pop`.
-/

namespace TracerConfig.Log

/-- A place in the text of a program. -/
structure Site where
  file : String
  line : Nat
  column : Nat
deriving DecidableEq, Repr

/-- What a recorder keeps: records, and where they were logged. Either is kept until it is taken. -/
structure Kept where
  records : List Record := []
  sites : List Site := []
deriving DecidableEq, Repr

namespace Kept

/-- Adds a record that was logged at a site. -/
def log (k : Kept) (r : Record) (s : Site) : Kept := ⟨k.records ++ [r], k.sites ++ [s]⟩

/-- Nothing but the sites. -/
def withoutRecords (k : Kept) : Kept := { k with records := [] }

/-- Nothing but the records. -/
def withoutSites (k : Kept) : Kept := { k with sites := [] }

end Kept

/-- The recorders of a thread. A recorder is known by its number in the order of activation. -/
structure Thread where
  /-- What each recorder keeps that was ever activated. -/
  recorders : List Kept := []
  active : Option Nat := none
  /-- What was active before each guard was handed out, the latest guard first. -/
  guards : List (Option Nat) := []
deriving DecidableEq, Repr

namespace Thread

/-- What the active recorder keeps. -/
def kept? (t : Thread) : Option Kept := t.active.bind (t.recorders[·]?)

/-- Changes what the active recorder keeps, if one is active. -/
def update (t : Thread) (f : Kept → Kept) : Thread :=
  { t with
    recorders := match t.active with
      | some i => t.recorders.modify i f
      | none => t.recorders }

/-- Logs a record, whatever its level. -/
def log (t : Thread) (r : Record) (s : Site) : Thread := t.update (·.log r s)

/-- Takes the records of the active recorder. -/
def take (t : Thread) : Option (List Record) × Thread :=
  (t.kept?.map Kept.records, t.update Kept.withoutRecords)

/-- Takes the sites of the active recorder. -/
def takeSites (t : Thread) : Option (List Site) × Thread :=
  (t.kept?.map Kept.sites, t.update Kept.withoutSites)

/-- Activates a new recorder, which hands out a guard. -/
def push (t : Thread) : Thread where
  recorders := t.recorders ++ [{}]
  active := some t.recorders.length
  guards := t.active :: t.guards

/-- Drops the latest guard, if there is one. -/
def pop (t : Thread) : Thread :=
  match t.guards with
  | [] => t
  | before :: rest => { t with active := before, guards := rest }

end Thread

end TracerConfig.Log
