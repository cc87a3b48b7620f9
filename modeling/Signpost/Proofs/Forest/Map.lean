import Signpost.Proofs.Forest.Place

/-!
# Forests with other routes

A forest keeps its shape when every route of it is replaced by another one (`Forest.map`).  The node at a place
is the one that was there, with its routes replaced (`Forest.at?_map`), and adding a route commutes with
replacing (`Forest.map_put`).

*What shows.*  Matching, lookups and the printed form depend on what the routes capture, on their qualified
names, and on these and their templates.  So if the new routes agree with the old ones there, they give the
same nodes, with their routes replaced.
-/

namespace Signpost

namespace Forest

/-- The forest with every route replaced. -/
def map (g : Route → Route) : Forest → Forest
  | nil => nil
  | cons r cs rest => cons (g r) (map g cs) (map g rest)

end Forest

/-- The node with its route and all routes under it replaced. -/
def Node.map (g : Route → Route) (n : Node) : Node := ⟨g n.route, n.children.map g⟩

namespace Forest

variable {g : Route → Route}

theorem tops_map (g : Route → Route) (f : Forest) : (f.map g).tops = f.tops.map (Node.map g) := by
  induction f with
  | nil => rfl
  | cons r cs rest _ ih => rw [map, tops, ih, tops, List.map_cons, Node.map]

/-! ## Places -/

theorem map_append (g : Route → Route) (f : Forest) (new : Route) :
    (f.append new).map g = (f.map g).append (g new) := by
  induction f with
  | nil => rfl
  | cons r cs rest _ ih => rw [append, map, ih, map, append]

theorem at?_map (g : Route → Route) : ∀ (place : Place) (f : Forest),
    (f.map g).at? place = (f.at? place).map (Node.map g)
  | _, nil => by rw [map, at?_nil, Option.map_none]
  | [], cons r cs rest => rfl
  | [0], cons r cs rest => rfl
  | 0 :: i :: place, cons r cs rest => at?_map g (i :: place) cs
  | (i + 1) :: place, cons r cs rest => at?_map g (i :: place) rest

theorem spot?_map (g : Route → Route) (above : Option Route) (place : Place) (f : Forest) :
    (f.map g).spot? (above.map g) place = (f.spot? above place).map fun s => (s.1.map g, s.2.map g) := by
  cases place with
  | nil => rfl
  | cons i place =>
      rw [spot?, spot?, at?_map, Option.map_map, Option.map_map]
      rfl

theorem map_put (g : Route → Route) (new : Route) : ∀ (place : Place) (f : Forest),
    (f.put new place).map g = (f.map g).put (g new) place
  | [], f => by rw [put_root, map_append, put_root]
  | _ :: _, nil => by rw [put, map, put]
  | 0 :: place, cons r cs rest => by rw [put_under, map, map_put g new place cs, map, put_under]
  | (i + 1) :: place, cons r cs rest => by
      rw [put_beside, map, map_put g new (i :: place) rest, map, put_beside]

/-! ## What shows -/

/-- Routes that capture the same give the same match. -/
theorem match?_map {path : Text} (hg : ∀ r : Route, (g r).captures? path = r.captures? path) (f : Forest) :
    (f.map g).match? path = (f.match? path).map fun b => (b.1.map g, b.2) := by
  induction f with
  | nil => rfl
  | cons r cs rest ihcs ihrest =>
      rw [map, match?, hg, ihcs, ihrest, match?]
      cases r.captures? path with
      | some vars => rfl
      | none =>
          dsimp only
          cases cs.match? path <;> rfl

theorem here?_map (hg : ∀ r, (g r).qualifiedName = r.qualifiedName) (name : Text) (f : Forest) :
    (f.map g).here? name = (f.here? name).map (Node.map g) := by
  induction f with
  | nil => rfl
  | cons r cs rest _ ih =>
      rw [map, here?, hg, ih, here?]
      split <;> rfl

theorem below?_map (hg : ∀ r, (g r).qualifiedName = r.qualifiedName) (name : Text) (f : Forest) :
    (f.map g).below? name = (f.below? name).map (Node.map g) := by
  induction f with
  | nil => rfl
  | cons r cs rest ihcs ihrest =>
      rw [map, below?, here?_map hg, ihcs, ihrest, below?]
      cases cs.here? name with
      | some n => rfl
      | none =>
          dsimp only [Option.map_none]
          cases cs.below? name <;> rfl

/-- Routes of the same names are found under them. -/
theorem find?_map (hg : ∀ r, (g r).qualifiedName = r.qualifiedName) (name : Text) (f : Forest) :
    (f.map g).find? name = (f.find? name).map (Node.map g) := by
  rw [find?, here?_map hg, below?_map hg, find?]
  cases f.here? name <;> rfl

theorem display_map (hname : ∀ r, (g r).qualifiedName = r.qualifiedName) (hpath : ∀ r, (g r).path = r.path)
    (depth : Nat) (f : Forest) : (f.map g).display depth = f.display depth := by
  induction f generalizing depth with
  | nil => rfl
  | cons r cs rest ihcs ihrest => rw [map, display, hname, hpath, ihcs, ihrest, display]

end Forest

end Signpost
