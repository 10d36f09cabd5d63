import GateRunner.Check.Behaviour
import GateRunner.Config.Document

/-!
# The registry of checks

Which checks there are, and which names stand for groups of them. What is registered is a maker, which gives the check
for given settings; the id it is filed under is the one of the check made for no settings at all. The entries stand in
the order in which their ids were first registered, an id taken out and put in again going to the end.

`Registry.select` turns names into bound checks: a name that stands for a group gives its members, any other name is
read as an id, and what is neither registered nor readable is passed over.
-/

namespace GateRunner

/-- Makes a check for the settings of its gate. -/
abbrev CheckMaker := Settings → Check

/-- A registered check. -/
structure Registration where
  maker : CheckMaker
  profile : CheckProfile

/-- The id a registration is filed under. -/
def Registration.id (r : Registration) : CheckId := r.profile.id

/-- The registered checks and the named groups of them. -/
structure Registry where
  entries : List Registration
  groups : List (String × List CheckId)

namespace Registry

/-- A registry with nothing in it. -/
def empty : Registry := ⟨[], []⟩

/-- The registration of an id. -/
def find? (g : Registry) (id : CheckId) : Option Registration := g.entries.find? (fun r => r.id = id)

/-- Whether an id is registered. -/
def contains (g : Registry) (id : CheckId) : Bool := g.entries.any (fun r => r.id = id)

/-- The entries with one more, in the place of the one with the same id if there is one. -/
def insertInto (new : Registration) : List Registration → List Registration
  | [] => [new]
  | r :: rest => if r.id = new.id then new :: rest else r :: insertInto new rest

/-- The registry with one more registration. -/
def insert (g : Registry) (new : Registration) : Registry := { g with entries := insertInto new g.entries }

/-- Registers a maker with the profile that its check has for no settings; gives the id. -/
def add (g : Registry) (maker : CheckMaker) : CheckId × Registry :=
  let profile := (BoundCheck.ofCheck (maker .empty)).profile
  (profile.id, g.insert ⟨maker, profile⟩)

/-- Registers a maker with a given profile; gives the id, which is the one of the maker's check whatever the profile
says. -/
def addAs (g : Registry) (maker : CheckMaker) (profile : CheckProfile) : CheckId × Registry :=
  let id := (maker .empty).id
  (id, g.insert ⟨maker, { profile with id }⟩)

/-- Takes an id out; gives the profile it had. -/
def remove (g : Registry) (id : CheckId) : Option CheckProfile × Registry :=
  ((g.find? id).map (·.profile), { g with entries := g.entries.filter (fun r => r.id ≠ id) })

/-- A name bound in a list of groups, in the place of the group that had it. -/
def bindGroup (name : String) (members : List CheckId) : List (String × List CheckId) → List (String × List CheckId)
  | [] => [(name, members)]
  | (other, held) :: rest =>
    if other = name then (name, members) :: rest else (other, held) :: bindGroup name members rest

/-- Lets a name stand for a group of checks. -/
def nameGroup (g : Registry) (name : String) (members : List CheckId) : Registry :=
  { g with groups := bindGroup name members g.groups }

/-- The members of the group a name stands for. -/
def group? (g : Registry) (name : String) : Option (List CheckId) := g.groups.lookup name

/-- Whether a name stands for a group. -/
def isGroup (g : Registry) (name : String) : Bool := (g.group? name).isSome

/-- The profile of a registered id. -/
def profile? (g : Registry) (id : CheckId) : Option CheckProfile := (g.find? id).map (·.profile)

/-- The check of an id, bound to its settings in a configuration. -/
def bind? (g : Registry) (config : Configuration) (id : CheckId) : Option BoundCheck :=
  (g.find? id).map (fun r => .ofCheck (r.maker (config.settingsOf id)))

/-- The ids a name stands for: the members of its group, without looking at their names again, or the id it is. -/
def idsOf (g : Registry) (name : String) : List CheckId :=
  match g.group? name with
  | some members => members
  | none => (CheckId.parse? name).toList

/-- The ids some names stand for, one after the other. -/
def idsOfAll (g : Registry) (names : List String) : List CheckId := names.flatMap g.idsOf

/-- The bound checks some names stand for, each id once, where it first stands. -/
def select (g : Registry) (config : Configuration) (names : List String) : List BoundCheck :=
  (CheckId.firstOccurrences (g.idsOfAll names)).filterMap (g.bind? config)

/-- Every registered id, in order. -/
def sortedIds (g : Registry) : List CheckId := CheckId.sort (g.entries.map (·.id))

/-- The profiles registered under a category, in order of registration. -/
def inCategory (g : Registry) (category : String) : List CheckProfile :=
  (g.entries.map (·.profile)).filter (fun p => p.id.category = category)

/-- Every registered check that applies to a project, bound, in order of the ids. -/
def applying (g : Registry) (project : Project) (config : Configuration) : List BoundCheck :=
  (g.sortedIds.filterMap (g.bind? config)).filter (fun i => i.check.applies project)

/-- The number of registered checks. -/
def size (g : Registry) : Nat := g.entries.length

/-- Whether nothing is registered. -/
def isEmpty (g : Registry) : Bool := g.entries.isEmpty

end Registry

end GateRunner
